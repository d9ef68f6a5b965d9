import PeersTouch.Client.Restore

/-!
# Clearing a conversation

`clear_conversation` of `messaging-core/src/storage_governance/conversation_clear.rs`, over the
repository functions of `messaging/store.rs`. It takes a snapshot of the messages between the floor of
the device and the head of the conversation, plans their removal and commits the plan in one
transaction.

A message may be removed only if the item that delivered it has a consumption marker, and the plan may
be committed only if the event at the head is recorded.
-/

namespace PeersTouch.Client

open Lib Chat KeyedTable List Messages Body Prod

/-! ### Types -/

structure ChatStorageScope where
  stationPeerID : StationID
  actorPTID : PTID
  deviceID : DeviceID

inductive ConversationClearError where
  | scopeIncomplete | revisionEmpty | conversationIDEmpty | invalidTimestamp
  | invalidAuthorityBoundary
  | protectedCandidate (messageID : MessageID)
  | repository (message : Error)
deriving DecidableEq

/-- The input, and the identifier that `Ulid::new` draws for the operation. -/
structure ConversationClearInput where
  scope : ChatStorageScope
  scopeRevision : String
  conversationID : ConversationID
  physicalBytesBefore : ℕ
  nowUnixMs : ℤ
  operationID : String

structure RetentionFloor where
  conversationID : ConversationID
  prunedThroughSequence : ℤ
  authorityEventHash : Bytes
  policyCutoffUnixMs : Option ℤ
  updatedAtUnixMs : ℤ

def RetentionFloorRow.floor (row : RetentionFloorRow) : RetentionFloor where
  conversationID := row.conversationID
  prunedThroughSequence := row.prunedThroughSequence
  authorityEventHash := row.authorityEventHash
  policyCutoffUnixMs := row.policyCutoffUnixMs
  updatedAtUnixMs := row.updatedAtUnixMs

structure RetentionCandidate where
  conversationID : ConversationID
  eventID : EventID
  eventSequence : ℤ
  authorityEventHash : Bytes
  messageID : MessageID
  committedAtUnixMs : ℤ
  estimatedReclaimableBytes : ℕ
  (durableConsumed reliabilityProtected activeTransfer : Bool)

structure ConversationClearSnapshot where
  conversationID : ConversationID
  authoritySequence : ℤ
  authorityEventHash : Bytes
  existingFloor : Option RetentionFloor
  candidates : List RetentionCandidate

structure ConversationClearPlan where
  conversationID : ConversationID
  prunedThroughSequence : ℤ
  authorityEventHash : Bytes
  messageIDs : List MessageID
  eventIDs : List EventID
  estimatedReclaimableBytes : ℕ

structure ConversationClearCommit where
  operation : CleanupOperation
  prunedProjectionCount : ℕ
  zeroReferenceMediaPaths : List String

/-- A file that can be deleted, as `immutable_file_cleanup_item` describes it. -/
structure FileCleanupItem where
  (itemID targetRef : String)
  expectedSizeBytes : ℕ

def CleanupState.Resumable (state : CleanupState) : Prop :=
  state ∈ [CleanupState.deletingRows, .deletingFiles, .compacting, .compactionPending,
    .pausedScopeInactive, .failedRetryable]
deriving Decidable

/-! ### The snapshot -/

namespace Store

def validateRetentionScopeIdentity (scope : ChatStorageScope) (s : Store) : Except Error Unit := do
  failWhen (blank scope.stationPeerID ∨ blank scope.actorPTID ∨ blank scope.deviceID) "chat retention scope is incomplete"
  failWhen (¬∃ identity ∈ s.body.storage.identity, identity.ptid = scope.actorPTID ∧ identity.deviceID = scope.deviceID)
    "chat retention scope does not match the active device"

def loadResumableConversationClear (scope : ChatStorageScope) (scopeRevision : String)
    (conversationID : ConversationID) (s : Store) : Except Error (Option CleanupOperation) := do
  failWhen (blank scopeRevision ∨ blank conversationID) "chat conversation clear identity is incomplete"
  s.validateRetentionScopeIdentity scope
  return (orderBy (fun o => toLex (o.updatedAtUnixMs, o.operationID))
    (s.body.storage.journal.rows.filter fun o =>
      o.scopeKind = .conversation ∧ o.scopeRevision = scopeRevision ∧
        o.conversationID = conversationID ∧ o.state.Resumable)).getLast?

def floorRow (scope : ChatStorageScope) (conversationID : ConversationID) (s : Store) :
    Option RetentionFloorRow :=
  s.body.storage.floors.find (scope.stationPeerID, scope.actorPTID, scope.deviceID, conversationID)

/-- The sequence up to which the conversation was cleared before. -/
def floorSequence (scope : ChatStorageScope) (conversationID : ConversationID) (s : Store) : ℤ :=
  ((s.floorRow scope conversationID).map RetentionFloorRow.prunedThroughSequence).getD 0

/-- The floor as the snapshot reads it, which converts the hash to an array of 32 bytes. -/
def existingFloor (scope : ChatStorageScope) (conversationID : ConversationID) (s : Store) :
    Except Error (Option RetentionFloor) :=
  match s.floorRow scope conversationID with
  | none => return none
  | some row => do
    failWhen (row.authorityEventHash.length ≠ 32) "Query is not read-only"
    return some row.floor

def clearRows (conversationID : ConversationID) (floor head : ℤ) (s : Store) :
    List (ProjectionRow × AuthorityEvent) :=
  orderBy (fun p => toLex (p.1.eventSequence, p.1.eventID))
    (s.body.messages.projections.rows.filterMap fun row =>
      if row.conversationID = conversationID ∧ floor < row.eventSequence ∧ row.eventSequence ≤ head then
        (s.eventOf row).map fun e => (row, e)
      else none)

def estimatedBytes (s : Store) (row : ProjectionRow) : ℕ :=
  row.messageID.utf8ByteSize + row.senderPTID.utf8ByteSize + row.senderDeviceID.utf8ByteSize +
    row.plaintext.utf8ByteSize + (row.editedText.getD "").utf8ByteSize +
    ((s.body.messages.attachments.rows.filter fun a => a.messageID = row.messageID).map fun a =>
      a.metadata.plaintextSize).sum

def DurableConsumed (s : Store) (row : ProjectionRow) : Prop :=
  ∃ m ∈ s.lane.markers.rows, m.conversationID = row.conversationID ∧ m.eventID = row.eventID
deriving Decidable

/-- A pending message, an attempt, a receipt or a draft still needs it. -/
def ReliabilityProtected (s : Store) (row : ProjectionRow) : Prop :=
  (∃ m ∈ s.body.background.pendingMessages.rows, m.conversationID = row.conversationID ∧
    m.messageID = row.messageID ∧ m.state ≠ .accepted) ∨
    (∃ a ∈ s.body.background.attempts.rows, a.conversationID = row.conversationID ∧
      a.messageID = row.messageID ∧ a.state ∉ [CommandState.committed, .failed, .superseded]) ∨
    (∃ r ∈ s.lane.receipts.rows, r.eventID = row.eventID ∧ r.state = .pending) ∨
    ∃ d ∈ s.body.messages.drafts.rows, d.conversationID = row.conversationID ∧ d.messageID = row.messageID
deriving Decidable

def ActiveTransfer (s : Store) (row : ProjectionRow) : Prop :=
  ∃ t ∈ s.body.messages.transfers.rows, t.conversationID = row.conversationID ∧
    t.messageID = row.messageID ∧ ¬t.state.Finished
deriving Decidable

def candidateOf (s : Store) (p : ProjectionRow × AuthorityEvent) : RetentionCandidate where
  conversationID := p.1.conversationID
  eventID := p.1.eventID
  eventSequence := p.1.eventSequence
  authorityEventHash := p.2.eventHash
  messageID := p.1.messageID
  committedAtUnixMs := p.1.committedAtUnixMs
  estimatedReclaimableBytes := s.estimatedBytes p.1
  durableConsumed := decide (s.DurableConsumed p.1)
  reliabilityProtected := decide (s.ReliabilityProtected p.1)
  activeTransfer := decide (s.ActiveTransfer p.1)

/-- The row as it is read; the sum of the sizes is an integer column. -/
def candidate (s : Store) (p : ProjectionRow × AuthorityEvent) :
    Except Error RetentionCandidate := do
  discard <| i64TryFrom (s.estimatedBytes p.1) "integer overflow"
  return s.candidateOf p

def loadConversationClearSnapshot (scope : ChatStorageScope) (conversationID : ConversationID)
    (s : Store) : Except Error ConversationClearSnapshot := do
  s.validateRetentionScopeIdentity scope
  let head ← orFail (s.chain.heads.find conversationID) "Query returned no rows"
  let existingFloor ← s.existingFloor scope conversationID
  let candidates ← (s.clearRows conversationID
    ((existingFloor.map RetentionFloor.prunedThroughSequence).getD 0) head.eventSequence).mapM
      s.candidate
  return {
    conversationID, authoritySequence := head.eventSequence, authorityEventHash := head.eventHash
    existingFloor, candidates }

end Store

/-! ### The plan -/

/-- `u64::saturating_add`. -/
def saturatingAdd (a b : ℕ) : ℕ := min (a + b) (2 ^ 64 - 1)

structure ClearLoop where
  previousSequence : ℤ
  messageIDs : List MessageID
  eventIDs : List EventID
  estimatedReclaimableBytes : ℕ

def RetentionCandidate.OutOfBoundary (c : RetentionCandidate) (snapshot : ConversationClearSnapshot) :
    Prop :=
  c.conversationID ≠ snapshot.conversationID ∨ blank c.eventID ∨ blank c.messageID ∨
    snapshot.authoritySequence < c.eventSequence ∨ InvalidHash c.authorityEventHash
deriving Decidable

def RetentionCandidate.Protected (c : RetentionCandidate) : Prop :=
  c.durableConsumed = false ∨ c.reliabilityProtected = true ∨ c.activeTransfer = true
deriving Decidable

def clearStep (snapshot : ConversationClearSnapshot) (loop : ClearLoop) (c : RetentionCandidate) :
    Except ConversationClearError ClearLoop := do
  failWhen (c.OutOfBoundary snapshot ∨ c.eventSequence ≤ loop.previousSequence)
    .invalidAuthorityBoundary
  failWhen c.Protected (.protectedCandidate c.messageID)
  return {
    previousSequence := c.eventSequence, messageIDs := loop.messageIDs ++ [c.messageID]
    eventIDs := loop.eventIDs ++ [c.eventID]
    estimatedReclaimableBytes := saturatingAdd loop.estimatedReclaimableBytes c.estimatedReclaimableBytes }

def buildConversationClearPlan (snapshot : ConversationClearSnapshot) :
    Except ConversationClearError ConversationClearPlan := do
  failWhen (blank snapshot.conversationID ∨ snapshot.authoritySequence ≤ 0 ∨
    InvalidHash snapshot.authorityEventHash) .invalidAuthorityBoundary
  failWhen (∃ floor ∈ snapshot.existingFloor, floor.conversationID ≠ snapshot.conversationID ∨
    floor.prunedThroughSequence ≤ 0 ∨ snapshot.authoritySequence < floor.prunedThroughSequence ∨
    ∀ b ∈ floor.authorityEventHash, b = 0) .invalidAuthorityBoundary
  let loop ← (orderBy (fun c => toLex (c.eventSequence, c.eventID)) snapshot.candidates).foldlM (clearStep snapshot)
    { previousSequence := (snapshot.existingFloor.map RetentionFloor.prunedThroughSequence).getD 0
      messageIDs := [], eventIDs := [], estimatedReclaimableBytes := 0 }
  return { loop with
    conversationID := snapshot.conversationID, prunedThroughSequence := snapshot.authoritySequence
    authorityEventHash := snapshot.authorityEventHash }

/-! ### The commit -/

def Messages.cachePaths (m : Messages) (messageID : MessageID) : List String :=
  (m.attachments.rows.filter fun a => a.messageID = messageID).filterMap fun a =>
    a.localCachePath.filter fun path => path ≠ ""

def ProjectionRow.IsPlanned (c : ConversationID) (p : MessageID × EventID) (r : ProjectionRow) : Prop :=
  r.conversationID = c ∧ r.messageID = p.1 ∧ r.eventID = p.2
deriving Decidable

def Body.withoutMessage (c : ConversationID) (p : MessageID × EventID) (b : Body) : Body := { b with
  messages := { b.messages with
    search := b.messages.search.filter fun r => ¬(r.conversationID = c ∧ r.messageID = p.1)
    reactions := b.messages.reactions.deleteWhere fun r => r.messageID = p.1
    pins := b.messages.pins.deleteWhere fun r => r.conversationID = c ∧ r.messageID = p.1
    attachments := b.messages.attachments.deleteWhere fun r => r.messageID = p.1
    transfers := b.messages.transfers.deleteWhere fun r => r.conversationID = c ∧ r.messageID = p.1 ∧ r.state.Finished
    projections := b.messages.projections.deleteWhere fun r => r.IsPlanned c p
    deliveryDevices := b.messages.deliveryDevices.deleteWhere fun r => r.conversationID = c ∧ r.messageID = p.1 }
  background := { b.background with
    pendingMessages := b.background.pendingMessages.deleteWhere fun r =>
      r.conversationID = c ∧ r.messageID = p.1 ∧ r.state = .accepted } }

/-- One round of the deleting loop, with the files seen so far. -/
def clearMessage (c : ConversationID) (st : Body × List String) (p : MessageID × EventID) :
    Except Error (Body × List String) := do
  failWhen (st.1.messages.projections.count (fun r => r.IsPlanned c p) ≠ 1)
    ("chat conversation clear projection delete was not exact: " ++ p.1)
  return (st.1.withoutMessage c p, st.2 ++ st.1.messages.cachePaths p.1)

/-- A file that nothing refers to any more is put on the list of files to delete. -/
def clearFile (files : String → Except Error (Option FileCleanupItem)) (operationID : String)
    (st : Body × List String) (path : String) : Except Error (Body × List String) :=
  if (∃ a ∈ st.1.messages.attachments.rows, a.localCachePath = some path) ∨
      ∃ t ∈ st.1.messages.transfers.rows, t.sourceLocalRef = path ∨ t.partialLocalRef = path then
    return st
  else do
    match ← files path with
    | none => return st
    | some item => do
      discard <| i64TryFrom item.expectedSizeBytes "conversation clear media bytes exceeds SQLCipher range"
      let cleanupItems ← st.1.storage.cleanupItems.insert
        { operationID, itemID := item.itemID, targetRef := item.targetRef
          expectedSizeBytes := item.expectedSizeBytes, state := .pending, lastErrorCode := none }
        "UNIQUE constraint failed: chat_cleanup_items.operation_id, chat_cleanup_items.item_id"
      return ({ st.1 with storage := { st.1.storage with cleanupItems } },
        st.2 ++ [item.targetRef])

def Body.raiseFloor (scope : ChatStorageScope) (plan : ConversationClearPlan) (existing : ℤ)
    (updatedAtUnixMs : ℤ) (b : Body) : Body :=
  if existing < plan.prunedThroughSequence then
    { b with
      storage := { b.storage with
        floors := b.storage.floors.upsert { plan with
            stationPeerID := scope.stationPeerID, actorPTID := scope.actorPTID
            deviceID := scope.deviceID, policyCutoffUnixMs := none, reason := .manualClear
            updatedAtUnixMs } } }
  else b

def CleanupOperation.committed (operation : CleanupOperation) (pruned existing : ℤ)
    (media : List String) : CleanupOperation :=
  if pruned ≤ existing then
    { operation with
      state := .succeeded, physicalBytesAfter := some operation.physicalBytesBefore }
  else
    { operation with
      state := if media = [] then .compacting else .deletingFiles, physicalBytesAfter := none }

/-- The messages that are still to be removed but may not be. -/
def Store.protectedRows (s : Store) (rows : List ProjectionRow) : List ProjectionRow :=
  rows.filter fun row => ¬s.DurableConsumed row ∨ s.ReliabilityProtected row ∨ s.ActiveTransfer row

def Store.clearResult (s : Store) (operation : CleanupOperation) (plan : ConversationClearPlan)
    (existing : ℤ) (filed : Body × List String) : ConversationClearCommit × Store :=
  let committed := operation.committed plan.prunedThroughSequence existing filed.2
  ({ operation := committed, prunedProjectionCount := plan.messageIDs.length, zeroReferenceMediaPaths := filed.2 },
    { s with body := { filed.1 with
        storage := { filed.1.storage with
          journal := filed.1.storage.journal.upsert committed } } })

def Store.commitConversationClear (files : String → Except Error (Option FileCleanupItem))
    (scope : ChatStorageScope) (operation : CleanupOperation) (plan : ConversationClearPlan)
    (s : Store) : Except Error (ConversationClearCommit × Store) := do
  failWhen (blank operation.scopeRevision ∨ blank plan.conversationID ∨
    operation.state ≠ .deletingRows) "chat conversation clear commit binding mismatch"
  s.validateRetentionScopeIdentity scope
  let persisted ← orFail (s.chain.events.find (plan.conversationID, plan.prunedThroughSequence)) "Query returned no rows"
  failWhen (persisted.eventHash ≠ plan.authorityEventHash) "chat conversation clear authority hash changed"
  let head ← orFail (s.chain.heads.find plan.conversationID) "Query returned no rows"
  failWhen (head.eventSequence < plan.prunedThroughSequence) "chat conversation clear boundary exceeds authority head"
  let existing := s.floorSequence scope plan.conversationID
  failWhen (plan.prunedThroughSequence < existing) "chat conversation clear floor moved beyond the plan"
  let current := (s.clearRows plan.conversationID existing plan.prunedThroughSequence).map Prod.fst
  let planned := plan.messageIDs.zip plan.eventIDs
  failWhen (current.map (fun row => (row.messageID, row.eventID)) ≠ planned) "chat conversation clear candidate set changed"
  failWhen (s.protectedRows current ≠ []) ("chat conversation clear candidate became protected: " ++
    ((s.protectedRows current).head?.map ProjectionRow.messageID).getD "")
  discard <| i64TryFrom operation.estimatedReclaimableBytes "estimated conversation clear bytes exceeds SQLCipher range"
  discard <| i64TryFrom operation.physicalBytesBefore "conversation clear physical bytes before exceeds SQLCipher range"
  let journal ← s.body.storage.journal.insert operation "UNIQUE constraint failed: chat_cleanup_journal.operation_id"
  let cleared ← planned.foldlM (clearMessage plan.conversationID)
    ({ s.body with storage := { s.body.storage with journal } }, [])
  let filed ← cleared.2.dedup.foldlM (clearFile files operation.operationID)
    (cleared.1.raiseFloor scope plan existing operation.createdAtUnixMs, [])
  return s.clearResult operation plan existing filed

/-! ### The use case -/

def ofRepository {α : Type} (x : Except Error α) : Except ConversationClearError α := x.mapError .repository

@[simp] lemma ofRepository_eq_ok {α : Type} {x : Except Error α} {a : α} : ofRepository x = .ok a ↔ x = .ok a := by
  cases x <;> simp [ofRepository]

/-- `validate_input`. -/
def ConversationClearInput.validate (input : ConversationClearInput) :
    Except ConversationClearError Unit := do
  failWhen (blank input.scope.stationPeerID ∨ blank input.scope.actorPTID ∨ blank input.scope.deviceID) .scopeIncomplete
  failWhen (blank input.scopeRevision) .revisionEmpty
  failWhen (blank input.conversationID) .conversationIDEmpty
  failWhen (input.nowUnixMs ≤ 0) .invalidTimestamp

/-- The operation that a clear enters in the journal. -/
def ConversationClearInput.operation (input : ConversationClearInput) (estimatedBytes : ℕ) :
    CleanupOperation :=
  { input with
    scopeKind := .conversation, state := .deletingRows, estimatedReclaimableBytes := estimatedBytes
    physicalBytesAfter := none, lastErrorCode := none, createdAtUnixMs := input.nowUnixMs
    updatedAtUnixMs := input.nowUnixMs }

def Store.clearConversation (files : String → Except Error (Option FileCleanupItem))
    (input : ConversationClearInput) (s : Store) :
    Except ConversationClearError (ConversationClearCommit × Store) := do
  input.validate
  let resumable ← ofRepository (s.loadResumableConversationClear input.scope input.scopeRevision input.conversationID)
  failWhen (resumable.isSome = true) (.repository "chat conversation clear has an unfinished cleanup operation")
  let snapshot ← ofRepository (s.loadConversationClearSnapshot input.scope input.conversationID)
  let plan ← buildConversationClearPlan snapshot
  ofRepository (s.commitConversationClear files input.scope (input.operation plan.estimatedReclaimableBytes) plan)

/-! ### What a clear that succeeds requires -/

variable {snapshot : ConversationClearSnapshot} {b : Body}

/-- The loop goes through exactly if the candidates are in order above the start, belong to the
conversation and may be removed. -/
lemma foldlM_clearStep_eq_ok {cs : List RetentionCandidate} {loop loop' : ClearLoop} :
    cs.foldlM (clearStep snapshot) loop = .ok loop' ↔
      (∀ c ∈ cs, ¬c.OutOfBoundary snapshot ∧ ¬c.Protected ∧ loop.previousSequence < c.eventSequence) ∧
        cs.Pairwise (fun c c' => c.eventSequence < c'.eventSequence) ∧ loop' =
          { previousSequence := cs.foldl (fun _ c => c.eventSequence) loop.previousSequence
            messageIDs := loop.messageIDs ++ cs.map RetentionCandidate.messageID
            eventIDs := loop.eventIDs ++ cs.map RetentionCandidate.eventID, estimatedReclaimableBytes := cs.foldl
              (fun n c => saturatingAdd n c.estimatedReclaimableBytes) loop.estimatedReclaimableBytes } := by
  induction cs generalizing loop with
  | nil =>
    rw [foldlM_nil, pure_eq_ok]
    constructor
    · rintro rfl
      simp
    · rintro ⟨-, -, rfl⟩
      simp
  | cons c cs ih =>
    simp only [foldlM_cons, clearStep, ok_iff, not_or, not_le, ih, forall_mem_cons, pairwise_cons]
    constructor
    · rintro ⟨loop₁, ⟨⟨hboundary, habove⟩, hprot, rfl⟩, hcs, hpair, rfl⟩
      refine ⟨⟨⟨hboundary, hprot, habove⟩, ?_⟩, ⟨fun c' hc' => (hcs c' hc').2.2, hpair⟩, by simp⟩
      intro c' hc'
      obtain ⟨hboundary', hprot', habove'⟩ := hcs c' hc'
      exact ⟨hboundary', hprot', lt_trans habove habove'⟩
    · rintro ⟨⟨⟨hboundary, hprot, habove⟩, hcs⟩, ⟨hlt, hpair⟩, rfl⟩
      refine ⟨_, ⟨⟨hboundary, habove⟩, hprot, rfl⟩, ?_, hpair, by simp⟩
      intro c' hc'
      exact ⟨(hcs c' hc').1, (hcs c' hc').2.1, hlt c' hc'⟩

lemma foldl_saturatingAdd {α : Type} (bytes : α → ℕ) (xs : List α) {n : ℕ} (hn : n ≤ 2 ^ 64 - 1) :
    xs.foldl (fun n x => saturatingAdd n (bytes x)) n = min (n + (xs.map bytes).sum) (2 ^ 64 - 1) := by
  induction xs generalizing n with
  | nil => simpa using hn
  | cons x xs ih =>
    have hle : saturatingAdd n (bytes x) ≤ 2 ^ 64 - 1 := Nat.min_le_right _ _
    rw [foldl_cons, ih hle, map_cons, sum_cons]
    unfold saturatingAdd
    omega

/-- The order in which the snapshot reads its candidates. -/
def RetentionCandidate.InOrder (cs : List RetentionCandidate) : Prop :=
  cs.Pairwise fun c c' => toLex (c.eventSequence, c.eventID) ≤ toLex (c'.eventSequence, c'.eventID)

def ConversationClearSnapshot.plan (snapshot : ConversationClearSnapshot) : ConversationClearPlan :=
  { snapshot with
    prunedThroughSequence := snapshot.authoritySequence
    messageIDs := snapshot.candidates.map RetentionCandidate.messageID
    eventIDs := snapshot.candidates.map RetentionCandidate.eventID
    estimatedReclaimableBytes :=
      min (snapshot.candidates.map RetentionCandidate.estimatedReclaimableBytes).sum (2 ^ 64 - 1) }

variable {plan : ConversationClearPlan}

lemma buildClearPlan_eq_ok (hsorted : RetentionCandidate.InOrder snapshot.candidates) :
    buildConversationClearPlan snapshot = .ok plan ↔ (¬blank snapshot.conversationID ∧ 0 < snapshot.authoritySequence ∧
    ¬InvalidHash snapshot.authorityEventHash) ∧
    (∀ floor ∈ snapshot.existingFloor, floor.conversationID = snapshot.conversationID ∧
    0 < floor.prunedThroughSequence ∧ floor.prunedThroughSequence ≤ snapshot.authoritySequence ∧
    ¬∀ b ∈ floor.authorityEventHash, b = 0) ∧ (∀ c ∈ snapshot.candidates, ¬c.OutOfBoundary snapshot ∧ ¬c.Protected ∧
    (snapshot.existingFloor.map RetentionFloor.prunedThroughSequence).getD 0 < c.eventSequence) ∧
    snapshot.candidates.Pairwise (fun c c' => c.eventSequence < c'.eventSequence) ∧ plan = snapshot.plan := by
  unfold buildConversationClearPlan
  rw [orderBy, hsorted.insertionSort_eq]
  simp only [ok_iff, foldlM_clearStep_eq_ok, not_or, not_le, not_exists, not_and, not_not, not_lt]
  refine and_congr_right fun _ => and_congr_right fun _ => ?_
  constructor
  · rintro ⟨loop, ⟨hcs, hpair, rfl⟩, rfl⟩
    refine ⟨hcs, hpair, ?_⟩
    rw [foldl_saturatingAdd _ _ (Nat.zero_le _)]
    simp [ConversationClearSnapshot.plan]
  · rintro ⟨hcs, hpair, rfl⟩
    refine ⟨_, ⟨hcs, hpair, rfl⟩, ?_⟩
    rw [foldl_saturatingAdd _ _ (Nat.zero_le _)]
    simp [ConversationClearSnapshot.plan]

namespace Store

variable {c : ConversationID} {s : Store} {scope : ChatStorageScope}
  {p : ProjectionRow × AuthorityEvent}

lemma existingFloor_eq_ok {floor : Option RetentionFloor} : s.existingFloor scope c = .ok floor ↔
    (∀ row ∈ s.floorRow scope c, row.authorityEventHash.length = 32) ∧
    (s.floorRow scope c).map RetentionFloorRow.floor = floor := by
  unfold existingFloor
  cases s.floorRow scope c with
  | none => simp
  | some row => simp

lemma floorSequence_eq : (((s.floorRow scope c).map RetentionFloorRow.floor).map
    RetentionFloor.prunedThroughSequence).getD 0 = s.floorSequence scope c := by
  rw [Option.map_map]
  rfl

lemma candidate_eq_ok {c : RetentionCandidate} :
    s.candidate p = .ok c ↔ s.estimatedBytes p.1 ≤ maximumI64 ∧ s.candidateOf p = c := by
  simp [candidate]

def clearSnapshot (scope : ChatStorageScope) (c : ConversationID) (head : AuthorityHead) (s : Store) :
    ConversationClearSnapshot where
  conversationID := c
  authoritySequence := head.eventSequence
  authorityEventHash := head.eventHash
  existingFloor := (s.floorRow scope c).map RetentionFloorRow.floor
  candidates := (s.clearRows c (s.floorSequence scope c) head.eventSequence).map s.candidateOf

lemma loadSnapshot_eq_ok : s.loadConversationClearSnapshot scope c = .ok snapshot ↔
    s.validateRetentionScopeIdentity scope = .ok () ∧ ∃ head, s.chain.heads.find c = some head ∧
    (∀ row ∈ s.floorRow scope c, row.authorityEventHash.length = 32) ∧
    (∀ p ∈ s.clearRows c (s.floorSequence scope c) head.eventSequence, s.estimatedBytes p.1 ≤ maximumI64) ∧
    snapshot = s.clearSnapshot scope c head := by
  simp only [loadConversationClearSnapshot, ok_iff, existingFloor_eq_ok, mapM_eq_ok fun _ _ => candidate_eq_ok]
  refine and_congr_right fun _ => ?_
  constructor
  · rintro ⟨head, hhead, floor, ⟨hlen, rfl⟩, candidates, ⟨hb, rfl⟩, rfl⟩
    rw [floorSequence_eq] at hb ⊢
    exact ⟨head, hhead, hlen, hb, rfl⟩
  · rintro ⟨head, hhead, hlen, hb, rfl⟩
    refine ⟨head, hhead, _, ⟨hlen, rfl⟩, _, ⟨?_, rfl⟩, ?_⟩
    · rw [floorSequence_eq]
      exact hb
    · rw [floorSequence_eq]
      rfl

lemma mem_clearRows {floor head : ℤ} : p ∈ s.clearRows c floor head ↔ p.1 ∈ s.body.messages.projections.rows ∧
    p.1.conversationID = c ∧ floor < p.1.eventSequence ∧ p.1.eventSequence ≤ head ∧ s.eventOf p.1 = some p.2 := by
  unfold clearRows
  rw [mem_orderBy, mem_filterMap]
  constructor
  · rintro ⟨row, hrow, h⟩
    split_ifs at h with hrange
    obtain ⟨e, he, rfl⟩ := Option.map_eq_some_iff.1 h
    exact ⟨hrow, hrange.1, hrange.2.1, hrange.2.2, he⟩
  · rintro ⟨hrow, hc, hfloor, hhead, he⟩
    refine ⟨p.1, hrow, ?_⟩
    rw [if_pos ⟨hc, hfloor, hhead⟩, he]
    rfl

lemma inOrder_candidates {floor head : ℤ} : RetentionCandidate.InOrder ((s.clearRows c floor head).map s.candidateOf) :=
  pairwise_map.2 (pairwise_le_orderBy _ _)

end Store

/-! ### The deletions -/

variable {c : ConversationID}

/-- A message that is there is deleted, and nothing is cached of it. -/
lemma clearMessage_of_mem {p : MessageID × EventID} {r : ProjectionRow} (hr : r ∈ b.messages.projections.rows)
    (hp : r.IsPlanned c p) (hcach : ∀ a ∈ b.messages.attachments.rows, a.localCachePath = none) : clearMessage c (b,
    []) p = .ok (b.withoutMessage c p, []) := by
  have hone : b.messages.projections.count (fun r => r.IsPlanned c p) = 1 := by
    refine (count_eq_one_of_key (k := (c, p.2)) fun x hx => Prod.ext hx.1 hx.2.2).2 ⟨r, ?_, hp⟩
    exact find_eq_some.2 ⟨hr, Prod.ext hp.1 hp.2.2⟩
  have hpaths : b.messages.cachePaths p.1 = [] := by
    refine filterMap_eq_nil_iff.2 fun a ha => ?_
    rw [hcach a (mem_filter.1 ha).1]
    rfl
  unfold clearMessage
  rw [failWhen_of_not (not_not.2 hone), hpaths]
  rfl

lemma foldlM_clearMessage {ps : List (MessageID × EventID)} (hnodup : ps.Nodup)
    (hrows : ∀ p ∈ ps, ∃ r ∈ b.messages.projections.rows, r.IsPlanned c p)
    (hcach : ∀ a ∈ b.messages.attachments.rows, a.localCachePath = none) :
    ∃ st', ps.foldlM (clearMessage c) (b, []) = .ok st' ∧ st'.2 = [] ∧ ∀ x, x ∈ st'.1.messages.projections.rows ↔
    x ∈ b.messages.projections.rows ∧ ∀ p ∈ ps, ¬x.IsPlanned c p := by
  induction ps generalizing b with
  | nil => exact ⟨(b, []), rfl, rfl, by simp⟩
  | cons p ps ih =>
    obtain ⟨hnew, hnodup⟩ := nodup_cons.1 hnodup
    obtain ⟨r, hr, hp⟩ := hrows p mem_cons_self
    have hrows' : ∀ p' ∈ ps, ∃ r ∈ (b.withoutMessage c p).messages.projections.rows, r.IsPlanned c p' := by
      intro p' hp'
      obtain ⟨r', hr', hplan'⟩ := hrows p' (mem_cons_of_mem _ hp')
      refine ⟨r', mem_deleteWhere.2 ⟨hr', ?_⟩, hplan'⟩
      intro hplan
      -- the row would be that of both
      have heq : p' = p := Prod.ext (hplan'.2.1.symm.trans hplan.2.1) (hplan'.2.2.symm.trans hplan.2.2)
      exact hnew (heq ▸ hp')
    have hcach' : ∀ a ∈ (b.withoutMessage c p).messages.attachments.rows, a.localCachePath = none := by
      intro a ha
      exact hcach a (mem_deleteWhere.1 ha).1
    obtain ⟨st, hclr, hpaths, hmem⟩ := ih hnodup hrows' hcach'
    refine ⟨st, ?_, hpaths, ?_⟩
    · rw [foldlM_cons, clearMessage_of_mem hr hp hcach]
      exact hclr
    · intro x
      have hx : x ∈ (b.withoutMessage c p).messages.projections.rows ↔
          x ∈ b.messages.projections.rows ∧ ¬x.IsPlanned c p := mem_deleteWhere
      rw [hmem, hx, forall_mem_cons, and_assoc]

/-! ### The commit of an idle store -/

variable {s : Store}

lemma Store.Idle.not_reliabilityProtected (h : s.Idle) (row : ProjectionRow) : ¬s.ReliabilityProtected row := by
  unfold Store.ReliabilityProtected
  simp [h.pendingMessages, h.attempts, h.receipts, h.drafts]

lemma Store.Idle.not_activeTransfer (h : s.Idle) (row : ProjectionRow) : ¬s.ActiveTransfer row := by
  unfold Store.ActiveTransfer
  simp [h.transfers]

lemma Store.Idle.protectedRows_eq_nil (h : s.Idle) {rows : List ProjectionRow}
    (hcons : ∀ row ∈ rows, s.DurableConsumed row) : s.protectedRows rows = [] := by
  unfold Store.protectedRows
  rw [filter_eq_nil_iff]
  intro row hrow
  simp [hcons row hrow, h.not_reliabilityProtected row, h.not_activeTransfer row]

variable {scope : ChatStorageScope}

/-- A plan for the messages that are there is committed, and they are gone. -/
lemma Store.Idle.commitConversationClear (hs : s.Idle)
    {files : String → Except Error (Option FileCleanupItem)} {operation : CleanupOperation}
    {head : AuthorityHead} {e : AuthorityEvent}
    (hop : ¬blank operation.scopeRevision ∧ ¬blank plan.conversationID ∧
    operation.state = .deletingRows) (hsc : s.validateRetentionScopeIdentity scope = .ok ())
    (he : s.chain.events.find (plan.conversationID, plan.prunedThroughSequence) = some e)
    (hhash : e.eventHash = plan.authorityEventHash)
    (hhead : s.chain.heads.find plan.conversationID = some head)
    (hle : plan.prunedThroughSequence ≤ head.eventSequence)
    (hfloor : s.floorSequence scope plan.conversationID ≤ plan.prunedThroughSequence)
    (hplan : ((s.clearRows plan.conversationID (s.floorSequence scope plan.conversationID)
    plan.prunedThroughSequence).map fst).map (fun row => (row.messageID, row.eventID)) =
    plan.messageIDs.zip plan.eventIDs) (hnodup : (plan.messageIDs.zip plan.eventIDs).Nodup)
    (hcons : ∀ p ∈ s.clearRows plan.conversationID (s.floorSequence scope plan.conversationID)
    plan.prunedThroughSequence, s.DurableConsumed p.1)
    (hb : operation.estimatedReclaimableBytes ≤ maximumI64)
    (hbef : operation.physicalBytesBefore ≤ maximumI64) :
    ∃ r, s.commitConversationClear files scope operation plan = .ok r ∧
    ∀ x, x ∈ r.2.body.messages.projections.rows ↔ x ∈ s.body.messages.projections.rows ∧
    ∀ p ∈ plan.messageIDs.zip plan.eventIDs, ¬x.IsPlanned plan.conversationID p := by
  have hrows : ∀ p ∈ plan.messageIDs.zip plan.eventIDs,
      ∃ r ∈ s.body.messages.projections.rows, r.IsPlanned plan.conversationID p := by
    intro p hp
    rw [← hplan] at hp
    obtain ⟨row, hrow, rfl⟩ := mem_map.1 hp
    obtain ⟨q, hq, rfl⟩ := mem_map.1 hrow
    obtain ⟨hmem, hc, -⟩ := Store.mem_clearRows.1 hq
    exact ⟨q.1, hmem, hc, rfl, rfl⟩
  have hprot : s.protectedRows ((s.clearRows plan.conversationID
    (s.floorSequence scope plan.conversationID) plan.prunedThroughSequence).map fst) = [] := by
    refine hs.protectedRows_eq_nil ?_
    rintro row hrow
    obtain ⟨q, hq, rfl⟩ := mem_map.1 hrow
    exact hcons q hq
  have hjournal : s.body.storage.journal.hasKey operation.operationID = false := by simp [hasKey, hs.journal]
  let entered : Body := { s.body with storage := { s.body.storage with
    journal := s.body.storage.journal.insertOrIgnore operation } }
  obtain ⟨cleared, hclr, hpaths, hmem⟩ :=
    foldlM_clearMessage (c := plan.conversationID) (b := entered) hnodup hrows hs.cached
  refine ⟨s.clearResult operation plan (s.floorSequence scope plan.conversationID)
    (cleared.1.raiseFloor scope plan (s.floorSequence scope plan.conversationID) operation.createdAtUnixMs, []), ?_, ?_⟩
  · unfold Store.commitConversationClear
    simp only [ok_iff, i64TryFrom_eq_ok, insert_eq_ok, not_or, not_not, not_lt]
    refine ⟨hop, hsc, e, he, hhash, head, hhead, hle, hfloor, hplan, hprot,
      ⟨_, hb, rfl⟩, ⟨_, hbef, rfl⟩, _, ⟨hjournal, rfl⟩, cleared, hclr, _, ?_, rfl⟩
    rw [hpaths]
    rfl
  · intro x
    rw [← hmem]
    unfold raiseFloor
    split <;> rfl

end PeersTouch.Client
