import PeersTouch.Client.Clear

/-!
# Redacting a message

The redaction of a message that was retracted by its author or hidden for the local actor:
`prepare_message_redaction` of `messaging-core/src/storage_governance/redaction.rs`, which makes the
plan, and `prepare_message_redaction_cleanup` and `apply_message_redaction` of `messaging/store.rs`.

The row of the message stays without its texts, a tombstone records the authority's event, and
whatever else belongs to the message is deleted. Files to which nothing refers any more are put on
the list of files to delete. The file system is an argument.
-/

namespace PeersTouch.Client

open Lib Chat

/-! ### The plan -/

namespace MessageRedactionKind

def cleanupScopeKind : MessageRedactionKind → String
  | hiddenForActor => "actor_hide"
  | retracted => "retract"

def cleanupScope : MessageRedactionKind → CleanupScope
  | hiddenForActor => .actorHide
  | retracted => .retract

end MessageRedactionKind

structure MessageRedactionInput where
  eventID : EventID
  conversationID : ConversationID
  messageID : MessageID
  kind : MessageRedactionKind
  authoritySequence : ℤ
  authorityEventHash : Bytes
  appliedAtUnixMs : ℤ

structure MessageRedactionPlan where
  (operationID scopeRevision : String)
  conversationID : ConversationID
  messageID : MessageID
  kind : MessageRedactionKind
  authoritySequence : ℤ
  authorityEventHash : Bytes
  appliedAtUnixMs : ℤ

/-- The plan of a valid input. The identifiers are trimmed. -/
def MessageRedactionInput.plan (input : MessageRedactionInput) : MessageRedactionPlan :=
  { input with
    operationID := input.kind.cleanupScopeKind ++ ":" ++ trimSpace input.eventID
    scopeRevision := "authority:" ++ toString input.authoritySequence ++ ":" ++ hexEncode input.authorityEventHash
    conversationID := trimSpace input.conversationID, messageID := trimSpace input.messageID }

/-- `prepare_message_redaction`, with its errors as texts. -/
def prepareMessageRedaction (input : MessageRedactionInput) :
    Except Error MessageRedactionPlan := do
  failWhen (blank input.eventID ∨ blank input.conversationID ∨ blank input.messageID)
    "message redaction identity is incomplete"
  failWhen (input.authoritySequence ≤ 0) "message redaction authority sequence is invalid"
  failWhen (InvalidHash input.authorityEventHash) "message redaction authority hash is invalid"
  failWhen (input.appliedAtUnixMs ≤ 0) "message redaction timestamp is invalid"
  return input.plan

/-! ### The files of a message -/

structure CacheCleanupItem where
  (itemID targetRef : String)
  expectedSizeBytes : ℕ
  state : CleanupItemState
  lastErrorCode : Option String

def failedFileCleanupItem [Digest] (targetRef errorCode : String) : CacheCleanupItem where
  itemID := hexEncode (hashBytes (bytesOf "peers-touch:failed-cache-cleanup-target:v1" ++ bytesOf targetRef)).bytes
  targetRef := targetRef
  expectedSizeBytes := 0
  state := .failedTerminal
  lastErrorCode := some errorCode

/-- What the file system says about a path, and how large the files of the profile are. An error is
given by its code. -/
structure FileSystem where
  /-- `immutable_file_cleanup_item`. -/
  cleanupItem : String → Except String (Option CacheCleanupItem)
  /-- `cleanup_file_physical_identity`. -/
  physicalIdentity : String → Except String (Option String)
  /-- `storage_redaction_physical_bytes`. -/
  physicalBytes : Except Error ℕ

structure PreparedMessageRedactionPath where
  targetRef : String
  cleanupItem : Option CacheCleanupItem
  physicalIdentity : Option String

structure PreparedMessageRedactionCleanup where
  candidates : List PreparedMessageRedactionPath
  physicalBytesBefore : ℕ
  measurementFailed : Bool
  logicalReclaimableBytes : ℕ

namespace Messages

/-- `message_redaction_candidate_paths`. -/
def redactionCandidatePaths (plan : MessageRedactionPlan) (m : Messages) : List String :=
  let transfers := m.transfers.rows.filter fun t => t.conversationID = plan.conversationID ∧ t.messageID = plan.messageID
  orderBy id ((m.cachePaths plan.messageID ++ transfers.map AttachmentTransfer.sourceLocalRef ++
    transfers.map AttachmentTransfer.partialLocalRef).filter fun path => path ≠ "").dedup

def logicalReclaimableBytes (plan : MessageRedactionPlan) (m : Messages) : ℕ :=
  match m.projectionOf plan.conversationID plan.messageID with
  | some row => row.plaintext.utf8ByteSize + (row.editedText.getD "").utf8ByteSize
  | none => 0

end Messages

section

variable [Digest] (files : FileSystem)

/-- A file of the message, as it is found before the transaction. -/
def prepareRedactionPath (targetRef : String) : PreparedMessageRedactionPath :=
  match files.cleanupItem targetRef, files.physicalIdentity targetRef with
  | .ok cleanupItem, .ok physicalIdentity => { targetRef, cleanupItem, physicalIdentity }
  | .ok _, .error code | .error code, _ =>
    { targetRef, cleanupItem := some (failedFileCleanupItem targetRef code), physicalIdentity := none }

def prepareMessageRedactionCleanup (plan : MessageRedactionPlan) (m : Messages) :
    PreparedMessageRedactionCleanup where
  candidates := (m.redactionCandidatePaths plan).map (prepareRedactionPath files)
  physicalBytesBefore := files.physicalBytes.toOption.getD 0
  measurementFailed := files.physicalBytes.toOption.isNone
  logicalReclaimableBytes := m.logicalReclaimableBytes plan

end

/-! ### The redaction -/

def ProjectionRow.redacted (kind : MessageRedactionKind) (r : ProjectionRow) : ProjectionRow :=
  { r with
    plaintext := "", editedText := none, editedAtUnixMs := none, retracted := r.retracted || kind = .retracted
    hiddenForActor := r.hiddenForActor || kind = .hiddenForActor }

def MessageRedactionPlan.tombstone (plan : MessageRedactionPlan) : RedactionTombstone where
  conversationID := plan.conversationID
  messageID := plan.messageID
  kind := plan.kind
  authoritySequence := plan.authoritySequence
  authorityEventHash := plan.authorityEventHash
  appliedAtUnixMs := plan.appliedAtUnixMs

/-- The tombstone written, unless there is one of the same or a later event. -/
def raiseTombstone (tombstones : KeyedTable RedactionTombstone RedactionTombstone.key)
    (t : RedactionTombstone) : KeyedTable RedactionTombstone RedactionTombstone.key :=
  if ∃ old ∈ tombstones.find t.key, t.authoritySequence ≤ old.authoritySequence then tombstones
  else tombstones.upsert t

def Messages.redact (plan : MessageRedactionPlan) (m : Messages) : Messages := { m with
  projections := m.projections.updateWhere
    (fun r => r.conversationID = plan.conversationID ∧ r.messageID = plan.messageID)
    (ProjectionRow.redacted plan.kind) fun _ => rfl
  tombstones := raiseTombstone m.tombstones plan.tombstone
  search := m.search.filter fun r => ¬(r.conversationID = plan.conversationID ∧ r.messageID = plan.messageID)
  reactions := m.reactions.deleteWhere fun r => r.messageID = plan.messageID
  pins := m.pins.deleteWhere fun r => r.conversationID = plan.conversationID ∧ r.messageID = plan.messageID
  attachments := m.attachments.deleteWhere fun r => r.messageID = plan.messageID
  drafts := m.drafts.deleteWhere fun r => r.messageID = plan.messageID
  transfers := m.transfers.deleteWhere fun r => r.conversationID = plan.conversationID ∧ r.messageID = plan.messageID }

def Messages.Refers (m : Messages) (path : String) : Prop :=
  (∃ a ∈ m.attachments.rows, a.localCachePath = some path) ∨
    ∃ t ∈ m.transfers.rows, t.sourceLocalRef = path ∨ t.partialLocalRef = path
deriving Decidable

structure RedactionCleanup where
  items : List CacheCleanupItem
  fileBytes : ℕ
  physicalIdentities : List String

/-- One round: the file is put on the list if nothing refers to it, and its size is counted once for
each physical file. -/
def redactionCleanupStep (m : Messages) (loop : RedactionCleanup)
    (candidate : PreparedMessageRedactionPath) : RedactionCleanup :=
  if m.Refers candidate.targetRef then loop
  else
    match candidate.cleanupItem with
    | none => loop
    | some item =>
      match candidate.physicalIdentity with
      | some identity =>
        if item.state = .pending ∧ identity ∉ loop.physicalIdentities then
          { items := loop.items ++ [item], fileBytes := saturatingAdd loop.fileBytes item.expectedSizeBytes
            physicalIdentities := identity :: loop.physicalIdentities }
        else { loop with items := loop.items ++ [item] }
      | none => { loop with items := loop.items ++ [item] }

def insertCleanupItem (operationID : String) (items : KeyedTable CleanupItem CleanupItem.key)
    (item : CacheCleanupItem) : Except Error (KeyedTable CleanupItem CleanupItem.key) := do
  discard <| i64TryFrom item.expectedSizeBytes "redaction file bytes exceeds SQLCipher range"
  items.insert
    { operationID, itemID := item.itemID, targetRef := item.targetRef, expectedSizeBytes := item.expectedSizeBytes
      state := item.state, lastErrorCode := item.lastErrorCode }
    "UNIQUE constraint failed: chat_cleanup_items.operation_id, chat_cleanup_items.item_id"

section

variable [Digest]

def MessageRedactionPlan.operation (plan : MessageRedactionPlan)
    (prepared : PreparedMessageRedactionCleanup) (items : List CacheCleanupItem) (estimated : ℕ) : CleanupOperation where
  operationID := plan.operationID
  scopeKind := plan.kind.cleanupScope
  conversationID := plan.conversationID
  scopeRevision := plan.scopeRevision
  state := if ∃ item ∈ items, item.state = .pending then .deletingFiles else .compacting
  estimatedReclaimableBytes := estimated
  physicalBytesBefore := prepared.physicalBytesBefore
  physicalBytesAfter := none
  lastErrorCode :=
    if prepared.measurementFailed = true ∨ ∃ item ∈ items, item.state = .failedTerminal then
      some "CHAT_STORAGE_ERROR_CODE_IO_FAILED"
    else none
  createdAtUnixMs := plan.appliedAtUnixMs
  updatedAtUnixMs := plan.appliedAtUnixMs

def PreparedMessageRedactionCleanup.items (prepared : PreparedMessageRedactionCleanup)
    (loop : RedactionCleanup) : List CacheCleanupItem :=
  if prepared.measurementFailed = true then
    loop.items ++ [failedFileCleanupItem "chat-storage-physical-measurement" "CHAT_STORAGE_ERROR_CODE_IO_FAILED"]
  else loop.items

def applyMessageRedaction (plan : MessageRedactionPlan)
    (prepared : PreparedMessageRedactionCleanup) (b : Body) : Except Error Body := do
  failWhen (b.messages.redactionCandidatePaths plan ≠
    prepared.candidates.map PreparedMessageRedactionPath.targetRef)
    "messaging redaction attachment references changed"
  let messages := b.messages.redact plan
  let loop := prepared.candidates.foldl (redactionCleanupStep messages)
    { items := [], fileBytes := 0, physicalIdentities := [] }
  let items := prepared.items loop
  let estimated := saturatingAdd prepared.logicalReclaimableBytes loop.fileBytes
  discard <| i64TryFrom estimated "redaction bytes exceeds SQLCipher range"
  discard <| i64TryFrom prepared.physicalBytesBefore "redaction physical bytes before exceeds SQLCipher range"
  let journal ← b.storage.journal.insert (plan.operation prepared items estimated)
    "UNIQUE constraint failed: chat_cleanup_journal.operation_id"
  let cleanupItems ← items.foldlM (insertCleanupItem plan.operationID) b.storage.cleanupItems
  return { b with messages, storage := { b.storage with journal, cleanupItems } }

end

end PeersTouch.Client
