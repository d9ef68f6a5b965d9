import PeersTouch.Client.Receive
import PeersTouch.Lib.OrderBy

/-!
# The recovery archive

`MessagingRecoveryArchive`, how `build_recovery_archive` takes it from a store and what
`validate_archive` of `messaging-core/src/recovery/codec.rs` accepts.

An archive is a list of rows for each kind of data. Texts that name a kind of row (`reason` of a
retention floor, `kind` of a redaction) are strings in the archive and are checked; in the tables they
are restricted by a constraint and are of an enumeration type.
-/

namespace PeersTouch.Client

open Lib Chat

/-! ### The archive -/

structure RecoveryConversationProjection where
  conversationID : ConversationID
  authorityStationID : StationID
  federationID : String
  (scopeKind kind : ℤ)
  (name description avatarObjectID : String)
  ownerPTID : PTID
  memberPTIDs : List PTID
  memberRoles : KeyedTable (PTID × ℤ) Prod.fst
  (membershipEpoch mlsEpoch : ℤ)
  active : Bool
  updatedAtUnixMs : ℤ

structure RecoveryMessageProjection where
  conversationID : ConversationID
  eventID : EventID
  eventSequence : ℤ
  authorityEventHash : Bytes
  messageID : MessageID
  senderPTID : PTID
  senderDeviceID : DeviceID
  plaintext : String
  retracted : Bool
  committedAtUnixMs : ℤ

structure RecoveryRetentionFloor where
  stationPeerID : StationID
  conversationID : ConversationID
  prunedThroughSequence : ℤ
  authorityEventHash : Bytes
  policyCutoffUnixMs : Option ℤ
  reason : String
  updatedAtUnixMs : ℤ

structure RecoveryAuthorityHead where
  conversationID : ConversationID
  eventSequence : ℤ
  eventHash : Bytes
  updatedAtUnixMs : ℤ

structure RecoveryMessageRedactionTombstone where
  conversationID : ConversationID
  messageID : MessageID
  kind : String
  authoritySequence : ℤ
  authorityEventHash : Bytes
  appliedAtUnixMs : ℤ

structure RecoveryAttachmentMetadata where
  messageID : MessageID
  attachmentID : String
  metadata : Bytes

structure RecoveryTrustRecord where
  peerPTID : PTID
  fingerprint : String
  verifiedAtUnixMs : ℤ

structure MessagingRecoveryArchive where
  ptid : PTID
  actorIdentitySeed : Bytes
  actorProfileVersion : ℕ
  conversations : List RecoveryConversationProjection
  messages : List RecoveryMessageProjection
  retentionFloors : List RecoveryRetentionFloor
  authorityHeads : List RecoveryAuthorityHead
  redactionTombstones : List RecoveryMessageRedactionTombstone
  attachments : List RecoveryAttachmentMetadata
  trust : List RecoveryTrustRecord

def FloorReason.text : FloorReason → String
  | policy => "policy"
  | manualClear => "manual_clear"

def FloorReason.ofText (text : String) : Option FloorReason := [policy, manualClear].find? fun r => r.text = text

def MessageRedactionKind.text : MessageRedactionKind → String
  | hiddenForActor => "hidden_for_actor"
  | retracted => "retracted"

def MessageRedactionKind.ofText (text : String) : Option MessageRedactionKind :=
  [hiddenForActor, retracted].find? fun k => k.text = text

/-! ### Export -/

namespace Store

def Hosted (s : Store) (conversationID : ConversationID) : Prop :=
  ∃ row ∈ s.body.background.conversations.find conversationID, row.authorityStationID ≠ ""
deriving Decidable

/-- `COALESCE(MAX(pruned_through_sequence), 0)` over the floors of a conversation. -/
def prunedThrough (s : Store) (conversationID : ConversationID) : ℤ :=
  (((s.body.storage.floors.rows.filter fun f => f.conversationID = conversationID).map
    RetentionFloorRow.prunedThroughSequence).max?).getD 0

def exportConversation (s : Store) (row : ConversationRow) : RecoveryConversationProjection :=
  let members := orderBy MemberRow.ptid (s.body.background.members.rows.filter fun m =>
      m.conversationID = row.conversationID ∧ m.active = true)
  { row with
    federationID := row.federationID
    -- `CONVERSATION_KIND_DIRECT` is 1, `CONVERSATION_SCOPE_KIND_LOCAL` 1 and `…_FEDERATION` 2
    scopeKind := if row.kind = 1 ∧ blank row.federationID then 1 else 2, memberPTIDs := members.map MemberRow.ptid
    memberRoles := (members.map fun m => (m.ptid, m.role)).foldl KeyedTable.upsert .empty }

/-- The condition under which a row is exported, the join with the event apart. -/
def Exportable (s : Store) (row : ProjectionRow) : Prop :=
  s.Hosted row.conversationID ∧ s.prunedThrough row.conversationID < row.eventSequence ∧ row.hiddenForActor = false
deriving Decidable

/-- The event of a message, under the join of the exporting and the clearing queries. -/
def eventOf (s : Store) (row : ProjectionRow) : Option AuthorityEvent :=
  (s.chain.events.find (row.conversationID, row.eventSequence)).filter fun e => e.eventID = row.eventID

def exportMessage (s : Store) (row : ProjectionRow) : Option RecoveryMessageProjection :=
  if s.Exportable row then
    (s.eventOf row).map fun e => { row with authorityEventHash := e.eventHash }
  else none

def exportFloors (s : Store) : List RecoveryRetentionFloor :=
  let own := s.body.storage.floors.rows.filter fun f =>
    ∃ identity ∈ s.body.storage.identity, identity.ptid = f.actorPTID ∧ identity.deviceID = f.deviceID
  let latest := own.filter fun f => ∀ f' ∈ own, f'.stationPeerID = f.stationPeerID →
    f'.conversationID = f.conversationID → f'.prunedThroughSequence ≤ f.prunedThroughSequence
  (orderBy (fun f => toLex (f.stationPeerID, f.conversationID)) latest).map fun f => { f with reason := f.reason.text }

def exportTombstones (s : Store) : List RecoveryMessageRedactionTombstone :=
  (orderBy (fun t => toLex (t.conversationID, toLex (t.authoritySequence, toLex (t.messageID, t.kind.text))))
    (s.body.messages.tombstones.rows.filter fun t => s.Hosted t.conversationID)).map fun t =>
    { t with kind := t.kind.text }

def exportAttachments [Content] (s : Store) : List RecoveryAttachmentMetadata :=
  (orderBy (fun a => toLex (a.messageID, a.metadata.attachmentID))
    (s.body.messages.attachments.rows.filter fun a =>
      ∃ m ∈ s.body.messages.projections.rows, m.messageID = a.messageID ∧
        s.Hosted m.conversationID)).map fun a =>
    { messageID := a.messageID, attachmentID := a.metadata.attachmentID
      metadata := Content.encodeAttachmentPlaintextMetadata a.metadata }

def buildRecoveryArchive [Content] (ptid : PTID) (actorIdentitySeed : Bytes)
    (actorProfileVersion : ℕ) (s : Store) : Except Error MessagingRecoveryArchive := do
  failWhen (blank ptid ∨ actorProfileVersion = 0) "messaging recovery export requires PTID and profile version"
  return {
    ptid, actorIdentitySeed, actorProfileVersion
    conversations := (orderBy ConversationRow.conversationID
      (s.body.background.conversations.rows.filter fun row =>
        row.authorityStationID ≠ "" ∧ s.chain.heads.hasKey row.conversationID)).map
          s.exportConversation
    messages := orderBy (fun m => toLex (m.conversationID, toLex (m.eventSequence, m.eventID)))
      (s.body.messages.projections.rows.filterMap s.exportMessage)
    retentionFloors := s.exportFloors
    authorityHeads := (orderBy AuthorityHead.conversationID
      (s.chain.heads.rows.filter fun head => s.Hosted head.conversationID)).map fun head =>
        { conversationID := head.conversationID, eventSequence := head.eventSequence
          eventHash := head.eventHash, updatedAtUnixMs := head.updatedAtUnixMs }
    redactionTombstones := s.exportTombstones
    attachments := s.exportAttachments
    trust := (orderBy TrustRecord.peerPTID s.body.background.trust.rows).map fun t =>
      { peerPTID := t.peerPTID, fingerprint := t.fingerprint, verifiedAtUnixMs := t.verifiedAtUnixMs } }

end Store

/-! ### Validation -/

/-- The hash is not one of an event: 32 bytes, not all of them zero. -/
def InvalidHash (hash : Bytes) : Prop := hash.length ≠ 32 ∨ ∀ b ∈ hash, b = 0
deriving Decidable

def RecoveryConversationProjection.ScopeLocal (c : RecoveryConversationProjection) : Prop :=
  c.scopeKind = 1 ∨ c.scopeKind ≠ 2 ∧ c.kind = 1 ∧ blank c.federationID
deriving Decidable

/-- `recovery_conversation_scope_valid`. -/
def RecoveryConversationProjection.ScopeValid (c : RecoveryConversationProjection) : Prop :=
  c.ScopeLocal ∧ c.kind = 1 ∧ blank c.federationID ∨ ¬c.ScopeLocal ∧ ¬blank c.federationID
deriving Decidable

namespace MessagingRecoveryArchive

/-- `authority_head_by_conversation.get`. -/
def headOf (archive : MessagingRecoveryArchive) (conversationID : ConversationID) :
    Option RecoveryAuthorityHead :=
  archive.authorityHeads.find? fun head => head.conversationID = conversationID

/-- `retention_floor_by_conversation.get`. -/
def floorOf (archive : MessagingRecoveryArchive) (conversationID : ConversationID) :
    Option RecoveryRetentionFloor :=
  archive.retentionFloors.find? fun floor => floor.conversationID = conversationID

/-- `conversation_station_by_id.get`: the last conversation of the name counts. -/
def stationOf (archive : MessagingRecoveryArchive) (conversationID : ConversationID) :
    Option StationID :=
  ((archive.conversations.filter fun c => c.conversationID = conversationID).getLast?).map
    RecoveryConversationProjection.authorityStationID

def Beyond (archive : MessagingRecoveryArchive) (conversationID : ConversationID) (sequence : ℤ)
    (hash : Bytes) : Prop :=
  ∀ head ∈ archive.headOf conversationID,
    head.eventSequence < sequence ∨ sequence = head.eventSequence ∧ hash ≠ head.eventHash
deriving Decidable

def InvalidConversation (archive : MessagingRecoveryArchive) (c : RecoveryConversationProjection) :
    Prop :=
  blank c.conversationID ∨ blank c.authorityStationID ∨ ¬c.ScopeValid ∨ c.kind = 0 ∨
    blank c.ownerPTID ∨ c.memberPTIDs.length < 2 ∨ c.memberRoles.rows.length ≠ c.memberPTIDs.length ∨
    (∃ ptid ∈ c.memberPTIDs, c.memberRoles.hasKey ptid = false) ∨
    -- the roles are member, admin and owner
    (∃ entry ∈ c.memberRoles.rows, blank entry.1 ∨ entry.2 ∉ [1, 2, 3]) ∨
    archive.headOf c.conversationID = none ∨ c.membershipEpoch < 0 ∨ c.mlsEpoch < 0 ∨
    c.updatedAtUnixMs ≤ 0
deriving Decidable

def InvalidMessage (archive : MessagingRecoveryArchive) (m : RecoveryMessageProjection) : Prop :=
  blank m.conversationID ∨ blank m.eventID ∨ m.eventSequence ≤ 0 ∨ InvalidHash m.authorityEventHash ∨
    (∃ floor ∈ archive.floorOf m.conversationID, m.eventSequence ≤ floor.prunedThroughSequence) ∨
    blank m.messageID ∨ blank m.senderPTID ∨ blank m.senderDeviceID ∨
    archive.Beyond m.conversationID m.eventSequence m.authorityEventHash ∨ (m.retracted = true ∧ (m.plaintext ≠ "" ∨
      ¬∃ t ∈ archive.redactionTombstones, t.conversationID = m.conversationID ∧
        t.messageID = m.messageID ∧ t.kind = "retracted"))
deriving Decidable

def InvalidFloor (archive : MessagingRecoveryArchive) (f : RecoveryRetentionFloor) : Prop :=
  blank f.stationPeerID ∨ blank f.conversationID ∨
    archive.stationOf f.conversationID ≠ some f.stationPeerID ∨ f.prunedThroughSequence ≤ 0 ∨
    InvalidHash f.authorityEventHash ∨ FloorReason.ofText f.reason = none ∨ f.updatedAtUnixMs ≤ 0 ∨
    archive.Beyond f.conversationID f.prunedThroughSequence f.authorityEventHash
deriving Decidable

def InvalidHead (archive : MessagingRecoveryArchive) (head : RecoveryAuthorityHead) : Prop :=
  blank head.conversationID ∨ archive.stationOf head.conversationID = none ∨
    head.eventSequence ≤ 0 ∨ InvalidHash head.eventHash ∨ head.updatedAtUnixMs ≤ 0
deriving Decidable

def InvalidTombstone (archive : MessagingRecoveryArchive) (t : RecoveryMessageRedactionTombstone) :
    Prop :=
  blank t.conversationID ∨ blank t.messageID ∨ MessageRedactionKind.ofText t.kind = none ∨
    archive.stationOf t.conversationID = none ∨ t.authoritySequence ≤ 0 ∨
    InvalidHash t.authorityEventHash ∨ t.appliedAtUnixMs ≤ 0 ∨
    archive.Beyond t.conversationID t.authoritySequence t.authorityEventHash ∨
    (t.kind = "hidden_for_actor" ∧ ∃ m ∈ archive.messages,
      m.conversationID = t.conversationID ∧ m.messageID = t.messageID) ∨ (t.kind = "retracted" ∧ ∃ m ∈ archive.messages,
      m.conversationID = t.conversationID ∧ m.messageID = t.messageID ∧ (m.retracted = false ∨ m.plaintext ≠ ""))
deriving Decidable

section

variable [Content]

def InvalidAttachment (archive : MessagingRecoveryArchive) (a : RecoveryAttachmentMetadata) : Prop :=
  blank a.messageID ∨ blank a.attachmentID ∨ (∀ m ∈ archive.messages, m.messageID ≠ a.messageID) ∨
    ¬∃ metadata ∈ Content.decodeAttachmentPlaintextMetadata a.metadata, metadata.attachmentID = a.attachmentID ∧
        (Content.validateAttachmentPlaintextMetadata metadata).isOk = true
deriving Decidable

end

end MessagingRecoveryArchive

def validateArchive [Content] (archive : MessagingRecoveryArchive) : Except Error Unit := do
  failWhen (¬(archive.authorityHeads.map RecoveryAuthorityHead.conversationID).Nodup)
    "messaging recovery archive has duplicate authority heads"
  failWhen (¬(archive.retentionFloors.map RecoveryRetentionFloor.conversationID).Nodup)
    "messaging recovery archive has duplicate retention floors"
  failWhen (¬(archive.redactionTombstones.map fun t => (t.conversationID, t.messageID, t.kind)).Nodup)
    "messaging recovery archive has duplicate redaction tombstones"
  failWhen (blank archive.ptid ∨ archive.actorProfileVersion = 0 ∨
    (∃ c ∈ archive.conversations, archive.InvalidConversation c) ∨ (∃ m ∈ archive.messages, archive.InvalidMessage m) ∨
    (∃ f ∈ archive.retentionFloors, archive.InvalidFloor f) ∨
    (∃ head ∈ archive.authorityHeads, archive.InvalidHead head) ∨
    (∃ t ∈ archive.redactionTombstones, archive.InvalidTombstone t) ∨
    (∃ a ∈ archive.attachments, archive.InvalidAttachment a) ∨
    ∃ t ∈ archive.trust, blank t.peerPTID ∨ blank t.fingerprint)
    "messaging recovery archive is invalid"

/-- What later modules use of an archive that was accepted. -/
structure MessagingRecoveryArchive.Valid (archive : MessagingRecoveryArchive) : Prop where
  floors_nodup : (archive.retentionFloors.map RecoveryRetentionFloor.conversationID).Nodup
  message : ∀ m ∈ archive.messages, ¬archive.InvalidMessage m
  floor : ∀ f ∈ archive.retentionFloors, ¬archive.InvalidFloor f

lemma MessagingRecoveryArchive.valid_of_validateArchive [Content]
    {arch : MessagingRecoveryArchive} (h : validateArchive arch = .ok ()) : arch.Valid := by
  unfold validateArchive at h
  simp only [ok_iff, not_not, not_or, not_exists, not_and] at h
  obtain ⟨-, hfloors, -, -, -, -, hmsg, hfloor, -⟩ := h
  exact ⟨hfloors, hmsg, hfloor⟩

end PeersTouch.Client
