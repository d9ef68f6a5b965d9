import PeersTouch.Client.Store

/-!
# Receiving an item of the lane

`persist_claimed_item`, which stores a claimed item, and `commit_receive_core`, through which every
event reaches the store. Each is one transaction: it returns the new state of the tables, or an error
and nothing is written.

A receive passes two gates. The fence of the lane (`Lane.fence`) refuses an item that is not the next
one of the lane or that was not claimed as it is, and recognises one that was committed before. The
gate of the chain (`Store.gate`) decides whether the event may become the head of its conversation.
An event at or below the head is settled without being applied; any other event is handed to the
closure of the caller, which writes the body of the database, and is then projected, recorded and
settled.

The closure is an argument, as in the source. It is a function on the body: no caller's closure writes
the lane or the chain.
-/

namespace PeersTouch.Client

open Lib Chat KeyedTable Store Chain Lane Option

/-! ### Inputs -/

structure LaneItem where
  itemID : String
  eventID : EventID
  conversationID : ConversationID
  laneSequence : ℤ
  consumerEpoch : ℕ
  payloadSHA256 : Bytes

structure MessageProjection where
  conversationID : ConversationID
  eventID : EventID
  eventSequence : ℤ
  messageID : MessageID
  senderPTID : PTID
  senderDeviceID : DeviceID
  plaintext : String
  attachments : List AttachmentPlaintextMetadata
  committedAtUnixMs : ℤ
  (replyToMessageID threadRootMessageID : Option MessageID)

structure ReceiveCommitCore extends LaneItem where
  (eventHash previousEventHash : Bytes)
  eventSequence : ℤ
  allowJoinCheckpoint : Bool
  projection : Option MessageProjection
  receiptID : String
  receiptBytes : Bytes
  consumedAtUnixMs : ℤ

inductive ReceiveCommitResult where
  | committed | alreadyCommitted
deriving DecidableEq

inductive ReceiveFailPoint where
  | none | afterCrypto | afterProjection | afterAttachments | afterSearch | beforeCommit
deriving DecidableEq

def LaneItem.marker (item : LaneItem) (consumedAtUnixMs : ℤ) : ConsumptionMarker := { item with consumedAtUnixMs }

def LaneItem.cursor (item : LaneItem) (consumedAtUnixMs : ℤ) : LaneCursor :=
  { item with updatedAtUnixMs := consumedAtUnixMs }

def ReceiveCommitCore.receipt (input : ReceiveCommitCore) : Receipt :=
  { input with state := .pending, createdAtUnixMs := input.consumedAtUnixMs }

def ReceiveCommitCore.event (input : ReceiveCommitCore) : AuthorityEvent :=
  { input with committedAtUnixMs := input.consumedAtUnixMs }

def ReceiveCommitCore.head (input : ReceiveCommitCore) : AuthorityHead :=
  { input with updatedAtUnixMs := input.consumedAtUnixMs }

/-- `projection_invalid` of `validate_receive_core`. -/
def MessageProjection.InvalidFor (p : MessageProjection) (input : ReceiveCommitCore) : Prop :=
  p.conversationID ≠ input.conversationID ∨ p.eventID ≠ input.eventID ∨
    p.eventSequence ≠ input.eventSequence ∨ blank p.messageID
deriving Decidable

def validateReceiveCore (input : ReceiveCommitCore) : Except Error Unit :=
  failWhen (blank input.itemID ∨ blank input.eventID ∨ blank input.conversationID ∨
    input.laneSequence ≤ 0 ∨ input.consumerEpoch = 0 ∨ input.payloadSHA256.length ≠ 32 ∨ input.eventHash.length ≠ 32 ∨
    (input.previousEventHash ≠ [] ∧ input.previousEventHash.length ≠ 32) ∨
    input.eventSequence ≤ 0 ∨ (∃ p ∈ input.projection, p.InvalidFor input) ∨
    blank input.receiptID ∨ input.receiptBytes = []) "messaging receive input is incomplete"

/-! ### The lane -/

namespace Lane

def persistClaimedItem (item : LaneItem) (payload : Bytes) (claimedAtUnixMs : ℤ) (lane : Lane) :
    Except Error Lane := do
  failWhen (blank item.itemID ∨ blank item.eventID ∨ blank item.conversationID ∨
    item.laneSequence ≤ 0 ∨ item.consumerEpoch = 0 ∨ item.payloadSHA256.length ≠ 32 ∨ payload = [])
    "messaging claimed item is incomplete"
  let epoch ← i64TryFrom item.consumerEpoch "consumer epoch exceeds i64"
  match lane.inboxItems.find item.itemID with
  | some row => do
    failWhen (row.eventID ≠ item.eventID ∨ row.conversationID ≠ item.conversationID ∨
      row.laneSequence ≠ item.laneSequence ∨ row.payloadSHA256 ≠ item.payloadSHA256)
      "messaging inbox replay payload hash mismatch"
    return { lane with
      inboxItems := lane.inboxItems.upsert { row with
        consumerEpoch := epoch, state := if row.state = .consumed then .consumed else .claimed
        claimedAtUnixMs } }
  | none => do
    failWhen (∃ row ∈ lane.inboxItems.rows, row.laneSequence = item.laneSequence)
      "UNIQUE constraint failed: messaging_inbox_items.lane_sequence"
    return { lane with
      inboxItems := lane.inboxItems.upsert { item with
          consumerEpoch := epoch, payload, state := .claimed, claimedAtUnixMs } }

/-- `SELECT … WHERE item_id = ?1 AND state = 'claimed'`. -/
def claimedItem (lane : Lane) (itemID : String) : Option InboxItem :=
  (lane.inboxItems.find itemID).filter fun row => row.state = .claimed

def expectedSequence (lane : Lane) : ℤ := (lane.cursor.map fun c => c.laneSequence + 1).getD 1

/-- The checks with which the four lane commits begin. They succeed with `true` on an item that was
committed before. -/
def fence (item : LaneItem) (lane : Lane) : Except Error Bool :=
  match lane.markers.find item.itemID with
  | some marker => do
    failWhen (marker.payloadSHA256 ≠ item.payloadSHA256) "messaging consumption marker payload hash mismatch"
    return true
  | none => do
    let claimed ← orFail (lane.claimedItem item.itemID) "messaging claimed inbox item is unavailable"
    failWhen (claimed.eventID ≠ item.eventID ∨ claimed.conversationID ≠ item.conversationID ∨
      claimed.laneSequence ≠ item.laneSequence) "messaging claimed inbox item binding mismatch"
    let epoch ← i64TryFrom item.consumerEpoch "consumer epoch exceeds i64"
    failWhen (claimed.consumerEpoch ≠ epoch ∨ claimed.payloadSHA256 ≠ item.payloadSHA256)
      "messaging claimed inbox item binding mismatch"
    failWhen (item.laneSequence ≠ lane.expectedSequence ∨ ∃ c ∈ lane.cursor, epoch < c.consumerEpoch)
      "messaging receive is not the next fenced lane item"
    return false

/-- The writes with which the four lane commits consume an item: the marker, the cursor and the state of
the claimed row. -/
def consume (item : LaneItem) (consumedAtUnixMs : ℤ) (lane : Lane) : Except Error Lane := do
  let markers ← lane.markers.insert (item.marker consumedAtUnixMs)
    "UNIQUE constraint failed: messaging_consumption_markers.item_id"
  discard <| i64TryFrom item.consumerEpoch "consumer epoch exceeds i64"
  return { lane with
    markers, cursor := some (item.cursor consumedAtUnixMs)
    inboxItems := lane.inboxItems.updateWhere (fun row => row.itemID = item.itemID)
      InboxItem.asConsumed fun _ => rfl }

def queueReceipt (input : ReceiveCommitCore) (lane : Lane) : Except Error Lane := do
  let receipts ← lane.receipts.insert input.receipt "UNIQUE constraint failed: messaging_receipt_outbox.receipt_id"
  return { lane with receipts }

end Lane

/-- `commit_subsumed_receive`, which makes the same writes to the lane as a receive that is applied. -/
def commitSubsumedReceive (input : ReceiveCommitCore) (lane : Lane) : Except Error Lane := do
  let lane ← lane.consume input.toLaneItem input.consumedAtUnixMs
  lane.queueReceipt input

/-! ### The chain -/

/-- The gate of an event whose conversation has a head. It succeeds with `true` on an event at or below
the head. -/
def Store.gateAfter (head : AuthorityHead) (input : ReceiveCommitCore) (s : Store) :
    Except Error Bool :=
  if input.eventSequence ≤ head.eventSequence then do
    failWhen (input.eventSequence = head.eventSequence ∧ input.eventHash ≠ head.eventHash)
      "messaging authority event replay hash mismatch"
    return true
  else if input.eventSequence = head.eventSequence + 1 ∧ input.previousEventHash = head.eventHash then
    return false
  else if input.allowJoinCheckpoint = true ∧ input.eventSequence > head.eventSequence ∧
      input.previousEventHash.length = 32 then do
    failWhen (s.body.background.retiredCheckpoints.count (fun r =>
        r.conversationID = input.conversationID ∧ r.retirementSequence = head.eventSequence ∧
          r.retirementHash = head.eventHash) ≠ 1)
      "messaging MLS rejoin checkpoint has no matching retirement"
    return false
  else .error "messaging authority event chain is not contiguous"

def Store.gateFirst (input : ReceiveCommitCore) (s : Store) : Except Error Bool :=
  if input.eventSequence = 1 ∧ input.previousEventHash = [] then
    return false
  else if input.allowJoinCheckpoint = true ∧ input.eventSequence > 1 ∧ input.previousEventHash.length = 32 then do
    failWhen (s.body.background.mlsGroups.count (fun g => g.conversationID = input.conversationID) +
        s.lane.markers.count (fun m => m.conversationID = input.conversationID) ≠ 0 ∨
      ∃ row ∈ s.body.background.conversations.find input.conversationID, row.recoveryReady = false)
      "messaging MLS join checkpoint requires empty or recovery-ready local state"
    return false
  else .error "messaging authority event chain is not contiguous"

/-- Whether the event is at or below the head of its conversation; an event that may not become the new
head is refused. -/
def Store.gate (input : ReceiveCommitCore) (s : Store) : Except Error Bool :=
  match s.chain.heads.find input.conversationID with
  | some head => s.gateAfter head input
  | none => s.gateFirst input

/-- A new event, under both unique indexes of the table. -/
def Chain.insertEvent (e : AuthorityEvent) (chain : Chain) :
    Except Error (KeyedTable AuthorityEvent AuthorityEvent.key) := do
  let events ← chain.events.insert e
    "UNIQUE constraint failed: messaging_authority_events.conversation_id, messaging_authority_events.event_sequence"
  failWhen (∃ e' ∈ chain.events.rows, e'.conversationID = e.conversationID ∧ e'.eventID = e.eventID)
    "UNIQUE constraint failed: messaging_authority_events.conversation_id, messaging_authority_events.event_id"
  return events

def Chain.record (input : ReceiveCommitCore) (chain : Chain) : Except Error Chain := do
  let events ← chain.insertEvent input.event
  return { heads := chain.heads.upsert input.head, events }

/-! ### The projected message -/

namespace Messages

/-- A new row, under both unique indexes of the table. -/
def insertProjection (row : ProjectionRow) (duplicate : Error) (m : Messages) :
    Except Error Messages := do
  let projections ← m.projections.insert row duplicate
  failWhen (∃ r ∈ m.projections.rows, r.conversationID = row.conversationID ∧ r.messageID = row.messageID)
    "UNIQUE constraint failed: messaging_message_projections.conversation_id, messaging_message_projections.message_id"
  return { m with projections }

variable [Content]

def insertAttachment (messageID : MessageID) (m : Messages)
    (attachment : AttachmentPlaintextMetadata) : Except Error Messages := do
  Content.validateAttachmentPlaintextMetadata attachment
  discard <| orFail attachment.object "messaging attachment descriptor is missing"
  discard <| i64TryFrom attachment.plaintextSize "attachment plaintext size exceeds i64"
  let attachments ← m.attachments.insert
    { messageID, metadata := attachment, availabilityState := .remote, localCachePath := none }
    "UNIQUE constraint failed: messaging_attachment_projections.message_id, messaging_attachment_projections.attachment_id"
  return { m with attachments }

/-- The names of a message's attachments as they are indexed. -/
def attachmentFilenames (attachments : List AttachmentPlaintextMetadata) : String :=
  "\n".intercalate (attachments.map AttachmentPlaintextMetadata.filename)

def index (conversationID : ConversationID) (messageID : MessageID) (text : String)
    (attachments : List AttachmentPlaintextMetadata) (m : Messages) : Messages :=
  { m with
    search := m.search ++
      [{ conversationID, messageID, plaintext := Content.buildIndexText text
         attachmentFilenames := Content.buildIndexText (attachmentFilenames attachments) }] }

end Messages

def ProjectionRow.ofReceived (p : MessageProjection) : ProjectionRow := { p with
  deliveryState := .consumed, editedText := none, editedAtUnixMs := none, retracted := false
  hiddenForActor := false, moderated := false, moderationReasonCode := none }

section

variable [Content]

def Messages.project (projection : Option MessageProjection) (failPoint : ReceiveFailPoint)
    (m : Messages) : Except Error Messages :=
  match projection with
  | none => do
    failWhen (failPoint = .afterAttachments) "injected receive failure after attachments"
    failWhen (failPoint = .afterSearch) "injected receive failure after search index"
    return m
  | some p => do
    let m ← m.insertProjection (.ofReceived p) "messaging projection identity already exists without marker"
    failWhen (failPoint = .afterProjection) "injected receive failure after projection"
    let m ← p.attachments.foldlM (insertAttachment p.messageID) m
    failWhen (failPoint = .afterAttachments) "injected receive failure after attachments"
    failWhen (failPoint = .afterSearch) "injected receive failure after search index"
    return m.index p.conversationID p.messageID p.plaintext p.attachments

def commitReceiveCore (input : ReceiveCommitCore) (failPoint : ReceiveFailPoint)
    (applyCrypto : Body → Except Error Body) (s : Store) :
    Except Error (ReceiveCommitResult × Store) := do
  validateReceiveCore input
  if ← s.lane.fence input.toLaneItem then
    return (.alreadyCommitted, s)
  if ← s.gate input then
    let lane ← commitSubsumedReceive input s.lane
    failWhen (failPoint = .beforeCommit) "injected receive failure before commit"
    return (.committed, { s with lane })
  let body ← applyCrypto s.body
  failWhen (failPoint = .afterCrypto) "injected receive failure after crypto"
  let messages ← body.messages.project input.projection failPoint
  let chain ← s.chain.record input
  let lane ← commitSubsumedReceive input s.lane
  failWhen (failPoint = .beforeCommit) "injected receive failure before commit"
  return (.committed, { lane, chain, body := { body with messages } })

end

/-! ### What a successful receive did -/

structure Lane.IsNext (item : LaneItem) (lane : Lane) : Prop where
  unmarked : lane.markers.find item.itemID = none
  claimed : ∃ row, lane.inboxItems.find item.itemID = some row ∧ row.state = .claimed ∧
    row.eventID = item.eventID ∧ row.conversationID = item.conversationID ∧
    row.laneSequence = item.laneSequence ∧ row.consumerEpoch = item.consumerEpoch ∧
    row.payloadSHA256 = item.payloadSHA256
  epoch_le : item.consumerEpoch ≤ maximumI64
  sequence : item.laneSequence = lane.expectedSequence
  unfenced : ∀ c ∈ lane.cursor, c.consumerEpoch ≤ item.consumerEpoch

variable {item : LaneItem}

lemma Lane.fence_eq_false {lane : Lane} : lane.fence item = .ok false ↔ lane.IsNext item := by
  unfold fence
  cases hmarker : lane.markers.find item.itemID with
  | some marker =>
    constructor
    · simp
    · intro h
      rw [h.unmarked] at hmarker
      cases hmarker
  | none =>
    simp only [ok_iff, i64TryFrom_eq_ok, claimedItem, filter_eq_some_iff,
      decide_eq_true_eq, not_or, not_not, not_exists, not_and, not_lt]
    constructor
    · rintro ⟨row, ⟨hrow, hst⟩, ⟨hev, hconv, hsequence⟩, epoch, ⟨hle, rfl⟩,
        ⟨hep, hpay⟩, ⟨hnext, hfen⟩, -⟩
      exact ⟨hmarker, ⟨row, hrow, hst, hev, hconv, hsequence, hep, hpay⟩, hle, hnext, hfen⟩
    · rintro ⟨-, ⟨row, hrow, hst, hev, hconv, hsequence, hep, hpay⟩, hle, hnext, hfen⟩
      exact ⟨row, ⟨hrow, hst⟩, ⟨hev, hconv, hsequence⟩, _, ⟨hle, rfl⟩,
        ⟨hep, hpay⟩, ⟨hnext, hfen⟩, trivial⟩

namespace Store

inductive Advances (input : ReceiveCommitCore) (s : Store) : Prop where
  | successor (head : AuthorityHead) (hhead : s.chain.heads.find input.conversationID = some head)
      (hsequence : input.eventSequence = head.eventSequence + 1)
      (hprevious : input.previousEventHash = head.eventHash)
  | rejoin (head : AuthorityHead) (retired : RetiredCheckpoint)
      (hhead : s.chain.heads.find input.conversationID = some head)
      (hallow : input.allowJoinCheckpoint = true)
      (hsequence : head.eventSequence < input.eventSequence)
      (hprevious : input.previousEventHash.length = 32)
      (hretired : s.body.background.retiredCheckpoints.find input.conversationID = some retired)
      (hretirement : retired.retirementSequence = head.eventSequence ∧
        retired.retirementHash = head.eventHash)
  | genesis (hhead : s.chain.heads.find input.conversationID = none)
      (hsequence : input.eventSequence = 1) (hprevious : input.previousEventHash = [])
  /-- A checkpoint to join a group of which nothing is stored, or whose state was restored and is ready
  to be replaced. -/
  | join (hhead : s.chain.heads.find input.conversationID = none)
      (hallow : input.allowJoinCheckpoint = true)
      (hsequence : 1 < input.eventSequence)
      (hprevious : input.previousEventHash.length = 32)
      (hgroup : ∀ g ∈ s.body.background.mlsGroups.rows, g.conversationID ≠ input.conversationID)
      (hmarkers : ∀ m ∈ s.lane.markers.rows, m.conversationID ≠ input.conversationID)
      (hready : ∀ row, s.body.background.conversations.find input.conversationID = some row →
        row.recoveryReady = true)

variable {input : ReceiveCommitCore} {s : Store} {head : AuthorityHead}

lemma gateAfter_eq_true : s.gateAfter head input = .ok true ↔ input.eventSequence ≤ head.eventSequence ∧
    (input.eventSequence = head.eventSequence → input.eventHash = head.eventHash) := by
  unfold gateAfter
  split_ifs with hle hnext hjoin <;> simp [hle]

lemma gateFirst_ne_true : s.gateFirst input ≠ .ok true := by
  unfold gateFirst
  split_ifs <;> simp

lemma gate_eq_true : s.gate input = .ok true ↔ ∃ head, s.chain.heads.find input.conversationID = some head ∧
    input.eventSequence ≤ head.eventSequence ∧
    (input.eventSequence = head.eventSequence → input.eventHash = head.eventHash) := by
  unfold gate
  cases s.chain.heads.find input.conversationID with
  | none => simp [gateFirst_ne_true]
  | some head => simp [gateAfter_eq_true]

lemma gateAfter_eq_false : s.gateAfter head input = .ok false ↔
    input.eventSequence = head.eventSequence + 1 ∧ input.previousEventHash = head.eventHash ∨
    input.allowJoinCheckpoint = true ∧ head.eventSequence < input.eventSequence ∧ input.previousEventHash.length = 32 ∧
    ∃ r, s.body.background.retiredCheckpoints.find input.conversationID = some r ∧
    r.retirementSequence = head.eventSequence ∧ r.retirementHash = head.eventHash := by
  have hretired := count_eq_one_of_key (t := s.body.background.retiredCheckpoints)
    (p := fun r => r.conversationID = input.conversationID ∧
      r.retirementSequence = head.eventSequence ∧ r.retirementHash = head.eventHash) fun r hr => hr.1
  unfold gateAfter
  split_ifs with hle hnext hjoin
  · simp only [ok_iff, Bool.true_eq_false, and_false, false_iff]
    rintro (⟨hsequence, -⟩ | ⟨-, hsequence, -⟩) <;> omega
  · simp [hnext]
  · obtain ⟨hallow, hsequence, hprevious⟩ := hjoin
    simp only [ok_iff, not_not, and_true, hretired, hnext, false_or, hallow, true_and, hprevious, gt_iff_lt.1 hsequence]
    refine exists_congr fun r => and_congr_right fun hr => ?_
    simp [key_of_find hr]
  · simp only [false_iff, not_or]
    refine ⟨hnext, ?_⟩
    rintro ⟨hallow, hsequence, hprevious, -⟩
    exact hjoin ⟨hallow, hsequence, hprevious⟩

lemma gateFirst_eq_false : s.gateFirst input = .ok false ↔ input.eventSequence = 1 ∧ input.previousEventHash = [] ∨
    input.allowJoinCheckpoint = true ∧ 1 < input.eventSequence ∧ input.previousEventHash.length = 32 ∧
    (∀ g ∈ s.body.background.mlsGroups.rows, g.conversationID ≠ input.conversationID) ∧
    (∀ m ∈ s.lane.markers.rows, m.conversationID ≠ input.conversationID) ∧
    ∀ row, s.body.background.conversations.find input.conversationID = some row → row.recoveryReady = true := by
  unfold gateFirst
  split_ifs with hgen hjoin
  · simp [hgen]
  · obtain ⟨hallow, hsequence, hprevious⟩ := hjoin
    simp only [ok_iff, not_or, not_not, Nat.add_eq_zero_iff, count_eq_zero,
      and_true, hgen, false_or, hallow, true_and, hprevious, gt_iff_lt.1 hsequence, and_assoc]
    simp only [not_exists, not_and, mem_def, Bool.not_eq_false]
  · simp only [false_iff, not_or]
    refine ⟨hgen, ?_⟩
    rintro ⟨hallow, hsequence, hprevious, -⟩
    exact hjoin ⟨hallow, hsequence, hprevious⟩

lemma gate_eq_false : s.gate input = .ok false ↔ s.Advances input := by
  unfold gate
  cases hhead : s.chain.heads.find input.conversationID with
  | some head =>
    rw [gateAfter_eq_false]
    constructor
    · rintro (⟨hsequence, hprevious⟩ | ⟨hallow, hsequence, hprevious, r, hr, hretirement⟩)
      · exact .successor head hhead hsequence hprevious
      · exact .rejoin head r hhead hallow hsequence hprevious hr hretirement
    · rintro (⟨head', hhead', hsequence, hprevious⟩ |
        ⟨head', r, hhead', hallow, hsequence, hprevious, hr, hretirement⟩ | ⟨hnone⟩ | ⟨hnone⟩)
      · obtain rfl : head = head' := some.inj (hhead.symm.trans hhead')
        exact .inl ⟨hsequence, hprevious⟩
      · obtain rfl : head = head' := some.inj (hhead.symm.trans hhead')
        exact .inr ⟨hallow, hsequence, hprevious, r, hr, hretirement⟩
      · exact absurd (hnone.symm.trans hhead) nofun
      · exact absurd (hnone.symm.trans hhead) nofun
  | none =>
    rw [gateFirst_eq_false]
    constructor
    · rintro (⟨hsequence, hprevious⟩ | ⟨hallow, hsequence, hprevious, hgroup, hmarkers, hready⟩)
      · exact .genesis hhead hsequence hprevious
      · exact .join hhead hallow hsequence hprevious hgroup hmarkers hready
    · rintro (⟨head, hsome⟩ | ⟨head, r, hsome⟩ | ⟨-, hsequence, hprevious⟩ |
        ⟨-, hallow, hsequence, hprevious, hgroup, hmarkers, hready⟩)
      · exact absurd (hsome.symm.trans hhead) nofun
      · exact absurd (hsome.symm.trans hhead) nofun
      · exact .inl ⟨hsequence, hprevious⟩
      · exact .inr ⟨hallow, hsequence, hprevious, hgroup, hmarkers, hready⟩

end Store

lemma Chain.insertEvent_eq_ok {e : AuthorityEvent} {chain : Chain}
    {events : KeyedTable AuthorityEvent AuthorityEvent.key} :
    chain.insertEvent e = .ok events ↔ chain.events.find e.key = none ∧
    (∀ e' ∈ chain.events.rows, e'.conversationID = e.conversationID → e'.eventID ≠ e.eventID) ∧
    events = chain.events.insertOrIgnore e := by
  simp only [insertEvent, ok_iff, insert_eq_ok, not_exists, not_and, ← find_eq_none]
  constructor
  · rintro ⟨events, ⟨hnew, rfl⟩, hid, rfl⟩
    exact ⟨hnew, hid, rfl⟩
  · rintro ⟨hnew, hid, rfl⟩
    exact ⟨_, ⟨hnew, rfl⟩, hid, rfl⟩

lemma Chain.record_eq_ok {chain chain' : Chain} : chain.record input = .ok chain' ↔
      chain.events.find (input.conversationID, input.eventSequence) = none ∧ (∀ e ∈ chain.events.rows,
        e.conversationID = input.conversationID → e.eventID ≠ input.eventID) ∧ chain' =
          { heads := chain.heads.upsert input.head, events := chain.events.insertOrIgnore input.event } := by
  simp only [record, ok_iff, insertEvent_eq_ok]
  constructor
  · rintro ⟨events, ⟨hnew, hid, rfl⟩, rfl⟩
    exact ⟨hnew, hid, rfl⟩
  · rintro ⟨hnew, hid, rfl⟩
    exact ⟨_, ⟨hnew, hid, rfl⟩, rfl⟩

lemma Messages.insertProjection_eq_ok {row : ProjectionRow} {duplicate : Error}
    {m m' : Messages} :
    m.insertProjection row duplicate = .ok m' ↔ m.projections.hasKey row.key = false ∧
        (∀ r ∈ m.projections.rows, r.messageKey ≠ row.messageKey) ∧
        m' = { m with projections := m.projections.insertOrIgnore row } := by
  simp only [Messages.insertProjection, ok_iff, insert_eq_ok, not_exists,
    ProjectionRow.messageKey, ne_eq, Prod.mk.injEq, not_and]
  constructor
  · rintro ⟨projections, ⟨hnew, rfl⟩, hid, rfl⟩
    exact ⟨hnew, hid, rfl⟩
  · rintro ⟨hnew, hid, rfl⟩
    exact ⟨_, ⟨hnew, rfl⟩, hid, rfl⟩

lemma Lane.consume_eq_ok {consumedAt : ℤ} {lane lane' : Lane} : lane.consume item consumedAt = .ok lane' ↔
      lane.markers.find item.itemID = none ∧ item.consumerEpoch ≤ maximumI64 ∧ lane' = { lane with
        markers := lane.markers.insertOrIgnore (item.marker consumedAt)
        cursor := some (item.cursor consumedAt)
        inboxItems := lane.inboxItems.updateWhere (fun row => row.itemID = item.itemID)
          InboxItem.asConsumed fun _ => rfl } := by
  simp only [consume, ok_iff, insert_eq_ok, i64TryFrom_eq_ok, ← find_eq_none]
  constructor
  · rintro ⟨markers, ⟨hnew, rfl⟩, ⟨epoch, hle, rfl⟩, rfl⟩
    exact ⟨hnew, hle, rfl⟩
  · rintro ⟨hnew, hle, rfl⟩
    exact ⟨_, ⟨hnew, rfl⟩, ⟨_, hle, rfl⟩, rfl⟩

section

variable [Content]

/-- What a successful receive did: nothing to an item committed before, writes to the lane alone for an
event at or below the head, and for any other event all parts of the transaction. -/
lemma commitReceiveCore_eq_ok {failPoint : ReceiveFailPoint}
    {applyCrypto : Body → Except Error Body} {s' : Store} {r : ReceiveCommitResult} :
    commitReceiveCore input failPoint applyCrypto s = .ok (r, s') ↔ validateReceiveCore input = .ok () ∧
        (s.lane.fence input.toLaneItem = .ok true ∧ r = .alreadyCommitted ∧ s' = s ∨
          s.lane.IsNext input.toLaneItem ∧ s.gate input = .ok true ∧ failPoint ≠ .beforeCommit ∧ r = .committed ∧
            (∃ lane, commitSubsumedReceive input s.lane = .ok lane ∧ s' = { s with lane }) ∨
          s.lane.IsNext input.toLaneItem ∧ s.Advances input ∧ failPoint ≠ .afterCrypto ∧
            failPoint ≠ .beforeCommit ∧ r = .committed ∧ ∃ body messages chain lane, applyCrypto s.body = .ok body ∧
              body.messages.project input.projection failPoint = .ok messages ∧
              s.chain.record input = .ok chain ∧ commitSubsumedReceive input s.lane = .ok lane ∧
              s' = { lane, chain, body := { body with messages } }) := by
  rw [← fence_eq_false, ← gate_eq_false]
  unfold commitReceiveCore
  simp only [ok_iff]
  refine and_congr_right fun _ => ?_
  constructor
  · rintro ⟨marked, hmark, h⟩
    cases marked with
    | true =>
      simp only [if_true, pure_eq_ok, Prod.mk.injEq] at h
      exact .inl ⟨hmark, h.1.symm, h.2.symm⟩
    | false =>
      simp only [Bool.false_eq_true, if_false, bind_eq_ok] at h
      obtain ⟨subsumed, hsubs, h⟩ := h
      cases subsumed with
      | true =>
        simp only [if_true, ok_iff] at h
        obtain ⟨lane, hln, hpoint, rfl, rfl⟩ := h
        exact .inr (.inl ⟨hmark, hsubs, hpoint, rfl, lane, hln, rfl⟩)
      | false =>
        simp only [Bool.false_eq_true, if_false, ok_iff] at h
        obtain ⟨body, hbody, hcrypto, messages, hmsgs, chain, hch, lane, hln, hpoint,
          rfl, rfl⟩ := h
        exact .inr (.inr ⟨hmark, hsubs, hcrypto, hpoint, rfl, body, messages, chain,
          lane, hbody, hmsgs, hch, hln, rfl⟩)
  · rintro (⟨hmark, rfl, rfl⟩ | ⟨hmark, hsubs, hpoint, rfl, lane, hln, rfl⟩ |
      ⟨hmark, hsubs, hcrypto, hpoint, rfl, body, messages, chain, lane, hbody, hmsgs, hch, hln, rfl⟩)
    · exact ⟨true, hmark, by simp⟩
    · exact ⟨false, hmark, by simp [hsubs, hln, hpoint]⟩
    · exact ⟨false, hmark, by simp [hsubs, hbody, hcrypto, hmsgs, hch, hln, hpoint]⟩

def Store.deliver (input : ReceiveCommitCore) (applyCrypto : Body → Except Error Body) (s : Store) :
    Except Error Store := do
  let lane ← s.lane.persistClaimedItem input.toLaneItem [0] input.consumedAtUnixMs
  let outcome ← commitReceiveCore input .none applyCrypto { s with lane }
  return outcome.2

end

abbrev plainContent : Content where
  validateAttachmentPlaintextMetadata _ := .ok ()
  encodeMessagePrivateContent _ _ := .ok []
  decodeMessagePrivateContent _ := .ok ("", [])
  encodeAttachmentPlaintextMetadata _ := []
  decodeAttachmentPlaintextMetadata _ := none
  buildIndexText := id

/-- An event that carries no message: the `n`-th item of the lane, `sequence`-th event of a conversation
`"c"`, with the hash and the previous hash given by one byte each. -/
def plainEvent (n : ℕ) (eventID : EventID) (sequence : ℤ) (hash : UInt8) (previous : Option UInt8) :
    ReceiveCommitCore where
  itemID := "item-" ++ toString n
  eventID := eventID
  conversationID := "c"
  laneSequence := n
  consumerEpoch := 1
  payloadSHA256 := List.replicate 32 0
  eventHash := List.replicate 32 hash
  previousEventHash := (previous.map (List.replicate 32)).getD []
  eventSequence := sequence
  allowJoinCheckpoint := false
  projection := none
  receiptID := "device-consumed:" ++ toString n
  receiptBytes := [1]
  consumedAtUnixMs := 1

end PeersTouch.Client
