import PeersTouch.Client.Interaction

/-!
# Items about a message that is not projected

A message that was delivered to a device need not be projected there: its payload may have been
skipped, and the device may have cleared it or lost it in a restore. This module says what happens
to the later items of the lane that are about such a message, the delivery receipts, edits,
reactions, pins and moderations.

The commit looks for the message before it writes anything (`applyInteraction_ne_ok`). Only an event
at or below the head of its conversation is settled without being applied, so only such an event
passes; a delivery receipt never does. An item that is refused stays the next one of the lane.
-/

namespace PeersTouch.Client

open Lib Chat KeyedTable Option Lane

/-- The mutation changes a message that must be projected, and has all its fields. -/
def InteractionMutation.Complete : InteractionMutation → Prop
  | edit _ editedAtUnixMs => 0 < editedAtUnixMs
  | moderate moderatorPTID reasonCode moderatedAtUnixMs =>
    ¬blank moderatorPTID ∧ ¬blank reasonCode ∧ 0 < moderatedAtUnixMs
  | reaction actorPTID text _ createdAtUnixMs => ¬blank actorPTID ∧ ¬blank text ∧ 0 < createdAtUnixMs
  | pin actorPTID _ pinnedAtUnixMs => ¬blank actorPTID ∧ 0 < pinnedAtUnixMs
  | observeOnly | retract | hideForActor => False

structure Store.Covers (input : ReceiveCommitCore) (s : Store) : Prop where
  head : ∃ head, s.chain.heads.find input.conversationID = some head ∧
    input.eventSequence ≤ head.eventSequence ∧
    (input.eventSequence = head.eventSequence → input.eventHash = head.eventHash)
  receipt : s.lane.receipts.find input.receiptID = none

/-- An item of the lane about a message that was delivered before. -/
inductive FollowUp where
  | receipt (input : DeliveryReceiptReceiveCommit)
  | interaction (input : InteractionReceiveCommit)
  | directEdit (input : DirectEditCommit)

namespace FollowUp

def laneItem : FollowUp → LaneItem
  | receipt input => input.laneItem
  | interaction input => input.toLaneItem
  | directEdit input => input.toLaneItem

def messageID : FollowUp → MessageID
  | receipt input => input.messageID
  | interaction input => input.messageID
  | directEdit input => input.messageID

def consumedAtUnixMs : FollowUp → ℤ
  | receipt input => input.consumedAtUnixMs
  | interaction input => input.consumedAtUnixMs
  | directEdit input => input.consumedAtUnixMs

/-- The event that the item brings; a delivery receipt brings none. -/
def event : FollowUp → Option ReceiveCommitCore
  | receipt _ => none
  | interaction input => some (input.core input.eventSequence none)
  | directEdit input => some (input.core input.eventSequence none)

/-- The item passes every check that does not read the store. -/
def WellFormed : FollowUp → Prop
  | receipt input => (deliveryTarget input.deliveryState).isOk = true ∧ ¬input.Incomplete
  | interaction input =>
    validateReceiveCore (input.core input.eventSequence none) = .ok () ∧ ¬blank input.messageID ∧ input.mutation.Complete ∧
      ∀ state ∈ input.mlsSessionState, state ≠ [] ∧ 0 ≤ input.membershipEpoch ∧ 0 ≤ input.mlsEpoch
  | directEdit input =>
    validateReceiveCore (input.core input.eventSequence none) = .ok () ∧
      ¬blank input.messageID ∧ 0 < input.editedAtUnixMs ∧ input.session.key.validate = .ok ()

def Unprojected (item : FollowUp) (s : Store) : Prop :=
  s.body.messages.projectionOf item.laneItem.conversationID item.messageID = none

def Covered (item : FollowUp) (s : Store) : Prop := ∃ input ∈ item.event, s.Covers input

variable [Content] [Digest]

def commit (files : FileSystem) : FollowUp → Store → Except Error (ReceiveCommitResult × Store)
  | receipt input => commitDeliveryReceipt input
  | interaction input => commitInteractionEvent files input
  | directEdit input => commitDirectEdit input

def Advances (item : FollowUp) (files : FileSystem) (s : Store) : Prop :=
  ∃ s', item.commit files s = .ok (.committed, s') ∧ s'.lane.cursor = some (item.laneItem.cursor item.consumedAtUnixMs)

end FollowUp

section

variable [Content]

/-- A receive whose closure cannot be applied commits exactly the events that the store has passed. -/
lemma commitReceiveCore_advances_iff {input : ReceiveCommitCore}
    {applyCrypto : Body → Except Error Body} {s : Store}
    (hval : validateReceiveCore input = .ok ()) (hnext : s.lane.IsNext input.toLaneItem)
    (href : ∀ b, applyCrypto s.body ≠ .ok b) :
    (∃ s', commitReceiveCore input .none applyCrypto s = .ok (.committed, s') ∧
    s'.lane.cursor = some (input.cursor input.consumedAtUnixMs)) ↔ s.Covers input := by
  constructor
  · rintro ⟨s', h, -⟩
    rw [commitReceiveCore_eq_ok] at h
    rcases h.2 with ⟨-, ⟨⟩, -⟩ | ⟨-, hgate, -, -, lane, hln, -⟩ |
      ⟨-, -, -, -, -, body, messages, chain, lane, hbody, -⟩
    · refine ⟨Store.gate_eq_true.1 hgate, ?_⟩
      unfold commitSubsumedReceive queueReceipt at hln
      simp only [ok_iff, insert_eq_ok] at hln
      obtain ⟨consumed, hcons, receipts, ⟨hrcpt, -⟩, -⟩ := hln
      obtain ⟨-, -, rfl⟩ := consume_eq_ok.1 hcons
      exact find_eq_none.2 hrcpt
    · exact absurd hbody (href body)
  · rintro ⟨hhead, hrcpt⟩
    have hconsume : s.lane.consume input.toLaneItem input.consumedAtUnixMs = .ok _ :=
      consume_eq_ok.2 ⟨hnext.unmarked, hnext.epoch_le, rfl⟩
    have hln : ∃ lane, commitSubsumedReceive input s.lane = .ok lane ∧
        lane.cursor = some (input.cursor input.consumedAtUnixMs) := by
      unfold commitSubsumedReceive queueReceipt
      simp only [ok_iff, insert_eq_ok]
      exact ⟨_, ⟨_, hconsume, _, ⟨find_eq_none.1 hrcpt, rfl⟩, rfl⟩, rfl⟩
    obtain ⟨lane, hln, hcursor⟩ := hln
    refine ⟨{ s with lane }, ?_, hcursor⟩
    rw [commitReceiveCore_eq_ok]
    exact ⟨hval, .inr (.inl ⟨hnext, Store.gate_eq_true.2 hhead, by simp, rfl, lane, hln, rfl⟩)⟩

lemma applyDirectEdit_ne_ok {input : DirectEditCommit} {b b' : Body}
    (hmiss : b.messages.projectionOf input.conversationID input.messageID = none) :
    b.applyDirectEdit input ≠ .ok b' := by
  intro h
  unfold Body.applyDirectEdit at h
  simp only [ok_iff] at h
  obtain ⟨background, -, hfnd, -⟩ := h
  exact hfnd hmiss

variable [Digest]
  {input : InteractionReceiveCommit}

omit [Content] in
lemma InteractionReceiveCommit.prepare_of_complete (h : input.mutation.Complete)
    (files : FileSystem) (m : Messages) : input.prepare files m = .ok none := by
  unfold InteractionReceiveCommit.prepare
  cases hmut : input.mutation <;> rw [hmut] at h
  case observeOnly | retract | hideForActor => exact h.elim
  case edit | moderate | reaction | pin => rfl

lemma applyInteraction_ne_ok {b b' : Body} (h : input.mutation.Complete)
    (hmiss : b.messages.projectionOf input.conversationID input.messageID = none) :
    b.applyInteraction input none ≠ .ok b' := by
  intro hok
  have hmut : input.mutation ≠ .observeOnly := by
    intro hobserve
    rw [hobserve] at h
    exact h
  unfold Body.applyInteraction at hok
  simp only [ok_iff] at hok
  obtain ⟨background, -, hfnd, -⟩ := hok
  exact hfnd ⟨hmiss, trivial, hmut⟩

/-- In every store, a well-formed item about a message that is not projected is committed exactly if
it brings an event that the store has passed already. -/
theorem followUp_advances_iff (files : FileSystem) (item : FollowUp) (s : Store)
    (hformed : item.WellFormed) (hnext : s.lane.IsNext item.laneItem)
    (hmissing : item.Unprojected s) : item.Advances files s ↔ item.Covered s := by
  cases item with
  | receipt input =>
    -- the receipt is refused before the lane is written
    constructor
    · rintro ⟨s', h, -⟩
      have hfence := fence_eq_false.2 hnext
      simp only [FollowUp.commit, commitDeliveryReceipt, ok_iff] at h
      obtain ⟨target, -, -, marked, hmark, h⟩ := h
      obtain rfl : marked = false := Except.ok.inj (hmark.symm.trans hfence)
      simp only [Bool.false_eq_true, if_false, ok_iff] at h
      exact absurd hmissing h.1
    · rintro ⟨input, h, -⟩
      cases h
  | interaction input =>
    obtain ⟨hvalid, hmsg, hcompl, -⟩ := hformed
    have hcore := commitReceiveCore_advances_iff hvalid hnext fun b => applyInteraction_ne_ok hcompl hmissing
    simp only [FollowUp.Advances, FollowUp.commit, FollowUp.Covered, FollowUp.event, mem_some_iff, exists_eq_left']
    rw [← hcore, commitInteractionEvent, failWhen_of_not hmsg, input.prepare_of_complete hcompl]
    rfl
  | directEdit input =>
    obtain ⟨hvalid, hmsg, htime, -⟩ := hformed
    have hincomplete : ¬(blank input.messageID ∨ input.editedAtUnixMs ≤ 0) := by
      rintro (h | h)
      · exact hmsg h
      · omega
    have hcommit : commitDirectEdit input s = commitReceiveCore (input.core input.eventSequence none) .none
          (Body.applyDirectEdit input) s := by
      rw [commitDirectEdit, failWhen_of_not hincomplete]
      rfl
    have hcore := commitReceiveCore_advances_iff hvalid hnext fun b => applyDirectEdit_ne_ok hmissing
    simp only [FollowUp.Advances, FollowUp.commit, FollowUp.Covered, FollowUp.event, mem_some_iff, exists_eq_left']
    rw [← hcore, ← hcommit]
    rfl

end

section

attribute [local instance] plainContent Chat.checksum

def sampleReaction (event : ReceiveCommitCore) : InteractionReceiveCommit where
  toLaneItem := event.toLaneItem
  eventHash := event.eventHash
  previousEventHash := event.previousEventHash
  receiptID := event.receiptID
  receiptBytes := event.receiptBytes
  consumedAtUnixMs := event.consumedAtUnixMs
  commandID := "k"
  eventSequence := event.eventSequence
  messageID := "m"
  mutation := .reaction "alice" "+1" false 1
  mlsSessionState := none
  membershipEpoch := 0
  mlsEpoch := 0

def reactionAfterSkips (event : ReceiveCommitCore) : Except Error Store := do
  let first := plainEvent 1 "e1" 1 1 none
  let s ← Store.empty.claim first.toLaneItem
  let (_, s) ← commitSkippedEndpointPayload (skippedPayload first) s
  let second := plainEvent 2 "e2" 2 2 (some 1)
  let s ← s.claim second.toLaneItem
  let (_, s) ← commitSkippedEndpointPayload (skippedPayload second) s
  s.claim event.toLaneItem

/-- What the theorem asks of a store, in a form that can be evaluated. -/
def FollowUp.isNext (item : FollowUp) (s : Store) : Bool := match s.lane.fence item.laneItem with
  | .ok false => (s.body.messages.projectionOf item.laneItem.conversationID item.messageID).isNone
  | _ => false

lemma FollowUp.isNext_eq_true {item : FollowUp} {s : Store} (h : item.isNext s = true) :
    s.lane.IsNext item.laneItem ∧ item.Unprojected s := by
  unfold FollowUp.isNext at h
  split at h
  · rename_i hfence
    exact ⟨fence_eq_false.1 hfence, isNone_iff_eq_none.1 h⟩
  · cases h

def thirdEvent : ReceiveCommitCore := plainEvent 3 "e3" 3 3 (some 2)

def firstEventAgain : ReceiveCommitCore := plainEvent 3 "e1" 1 1 none

variable {event : ReceiveCommitCore}

lemma wellFormed_sampleReaction (h : event = thirdEvent ∨ event = firstEventAgain) :
    (FollowUp.interaction (sampleReaction event)).WellFormed := by
  have hmsg : ¬blank (sampleReaction event).messageID := by
    show ¬blank "m"
    decide
  have hmut : (sampleReaction event).mutation.Complete := by refine ⟨?_, ?_, ?_⟩ <;> decide
  refine ⟨?_, hmsg, hmut, nofun⟩
  rcases h with rfl | rfl <;> decide

def reactionOutcome (event : ReceiveCommitCore) :
    Except Error (Bool × Option ℤ × Option Receipt × Option Error) := do
  let s ← reactionAfterSkips event
  let item := FollowUp.interaction (sampleReaction event)
  let refusal := match item.commit emptyFiles s with
    | .ok _ => none
    | .error e => some e
  return (item.isNext s, (s.chain.heads.find event.conversationID).map AuthorityHead.eventSequence,
    s.lane.receipts.find event.receiptID, refusal)

lemma reactionOutcome_eq_ok {next : Bool} {head : Option ℤ} {receipt : Option Receipt}
    {refusal : Option Error} (h : reactionOutcome event = .ok (next, head, receipt, refusal)) :
    ∃ s, reactionAfterSkips event = .ok s ∧ (FollowUp.interaction (sampleReaction event)).isNext s = next ∧
    (s.chain.heads.find event.conversationID).map AuthorityHead.eventSequence = head ∧
    s.lane.receipts.find event.receiptID = receipt ∧ ∀ e, refusal = some e →
    (FollowUp.interaction (sampleReaction event)).commit emptyFiles s = .error e := by
  unfold reactionOutcome at h
  simp only [ok_iff] at h
  obtain ⟨s, hs, rfl, rfl, rfl, rfl⟩ := h
  refine ⟨s, hs, rfl, rfl, rfl, ?_⟩
  intro e he
  split at he
  · cases he
  · rename_i hcom
    rw [hcom, some.inj he]

/-- A reaction that is delivered once more passes, although its message is not projected. -/
theorem followUp_advances_firstEventAgain : ∃ s, reactionAfterSkips firstEventAgain = .ok s ∧
      (FollowUp.interaction (sampleReaction firstEventAgain)).Advances emptyFiles s := by
  have h : reactionOutcome firstEventAgain = .ok (true, some 2, none, none) := by set_option maxRecDepth 10000 in decide
  obtain ⟨s, hs, hnext, hhead, hrcpt, -⟩ := reactionOutcome_eq_ok h
  obtain ⟨hnext, hmiss⟩ := FollowUp.isNext_eq_true hnext
  obtain ⟨head, hfind, hseq⟩ := map_eq_some_iff.1 hhead
  refine ⟨s, hs, (followUp_advances_iff emptyFiles _ s (wellFormed_sampleReaction (.inr rfl)) hnext
    hmiss).2 ⟨_, rfl, ⟨head, hfind, ?_, ?_⟩, hrcpt⟩⟩
  · rw [hseq]
    decide
  · rw [hseq]
    intro hlate
    exact absurd hlate (by decide)

/-- A reaction to a message whose payload was skipped stops the lane. -/
theorem reaction_to_skipped_refused : ∃ s, reactionAfterSkips thirdEvent = .ok s ∧
      (FollowUp.interaction (sampleReaction thirdEvent)).WellFormed ∧ s.lane.IsNext thirdEvent.toLaneItem ∧
      (FollowUp.interaction (sampleReaction thirdEvent)).Unprojected s ∧
      commitInteractionEvent emptyFiles (sampleReaction thirdEvent) s =
        .error "messaging interaction target message not found" ∧
      ¬(FollowUp.interaction (sampleReaction thirdEvent)).Advances emptyFiles s := by
  have h : reactionOutcome thirdEvent = .ok (true, some 2, none,
      some "messaging interaction target message not found") := by
    set_option maxRecDepth 10000 in decide
  obtain ⟨s, hs, hnext, -, -, hrefusal⟩ := reactionOutcome_eq_ok h
  obtain ⟨hnext, hmiss⟩ := FollowUp.isNext_eq_true hnext
  have hrefused := hrefusal _ rfl
  refine ⟨s, hs, wellFormed_sampleReaction (.inl rfl), hnext, hmiss, hrefused, ?_⟩
  rintro ⟨s', hcommit, -⟩
  rw [hrefused] at hcommit
  cases hcommit

end

end PeersTouch.Client
