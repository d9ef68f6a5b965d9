import PeersTouch.Client.Receive

/-!
# The authority chain as a client accepts it

What the receive commits of a client do to the chains it has stored. The head of a conversation moves
in the four ways of `Store.Advances` and in no other, an event at or below the head is settled without
touching anything but the lane, and the events that were recorded agree with the head
(`Chain.Consistent`, an invariant of every run).

The gate compares the hash of a late event with the head alone. A late event below the head is
therefore settled even if another event was recorded under its sequence (`Store.Overlooks`); the main
lemma says that this is the only way in which a receive can disagree with the recorded chain.
-/

namespace PeersTouch.Client

open Lib Chat KeyedTable Option Chain

/-! ### Runs -/

section

variable [Content]

/-- One call on the store: a receive, or any other function, none of which writes the chain. -/
inductive Store.Step : Store → Store → Prop where
  | receive {input : ReceiveCommitCore} {failPoint : ReceiveFailPoint}
      {applyCrypto : Body → Except Error Body} {r : ReceiveCommitResult} {s s' : Store}
      (h : commitReceiveCore input failPoint applyCrypto s = .ok (r, s')) : Step s s'
  | elsewhere {s s' : Store} (h : s'.chain = s.chain) : Step s s'

abbrev Store.Run : Store → Store → Prop := Relation.ReflTransGen Store.Step

def Chain.Consistent (chain : Chain) : Prop :=
  ∀ e ∈ chain.events.rows, ∃ head, chain.heads.find e.conversationID = some head ∧ e.eventSequence ≤ head.eventSequence ∧
    (e.eventSequence = head.eventSequence → e.eventHash = head.eventHash)

omit [Content] in
lemma Chain.consistent_empty : empty.Consistent := nofun

variable {input : ReceiveCommitCore} {s : Store}

omit [Content] in
lemma Store.Advances.above (h : s.Advances input) {head : AuthorityHead}
    (hhead : s.chain.heads.find input.conversationID = some head) : head.eventSequence < input.eventSequence := by
  rcases h with ⟨head', hhead', hseq, -⟩ | ⟨head', -, hhead', -, hseq, -⟩ | ⟨hnone⟩ |
    ⟨hnone⟩
  · obtain rfl : head = head' := some.inj (hhead.symm.trans hhead')
    omega
  · obtain rfl : head = head' := some.inj (hhead.symm.trans hhead')
    exact hseq
  · exact absurd (hnone.symm.trans hhead) nofun
  · exact absurd (hnone.symm.trans hhead) nofun

omit [Content] in
lemma Chain.Consistent.record {chain : Chain} (hs : s.chain.Consistent)
    (hadv : s.Advances input) (h : s.chain.record input = .ok chain) : chain.Consistent := by
  obtain ⟨hnew, -, rfl⟩ := record_eq_ok.1 h
  intro e he
  simp only [find_upsert]
  split_ifs with hconv
  · refine ⟨_, rfl, ?_⟩
    rcases mem_of_mem_insertOrIgnore he with he | ⟨rfl, -⟩
    · -- an older event of the conversation is at or below the old head
      obtain ⟨head, hhead, hle, -⟩ := hs e he
      rw [← hconv] at hhead
      have hlt : head.eventSequence < input.head.eventSequence := hadv.above hhead
      exact ⟨by omega, by omega⟩
    · exact ⟨le_refl _, fun _ => rfl⟩
  · rcases mem_of_mem_insertOrIgnore he with he | ⟨rfl, -⟩
    · exact hs e he
    · exact absurd rfl hconv

lemma Store.Step.consistent {s' : Store} (h : Store.Step s s') (hs : s.chain.Consistent) : s'.chain.Consistent := by
  cases h with
  | elsewhere h => exact h ▸ hs
  | receive h =>
    rw [commitReceiveCore_eq_ok] at h
    rcases h.2 with ⟨-, -, rfl⟩ | ⟨-, -, -, -, lane, -, rfl⟩ |
      ⟨-, hadv, -, -, -, body, messages, chain, lane, -, -, hch, -, rfl⟩
    · exact hs
    · exact hs
    · exact hs.record hadv hch

lemma Store.Run.consistent {s₀ : Store} (h : Store.Run s₀ s) (hs₀ : s₀.chain.Consistent) : s.chain.Consistent := by
  induction h with
  | refl => exact hs₀
  | tail _ hstep ih => exact hstep.consistent ih

end

/-! ### What a commit does to the chain -/

structure Lane.Settles (input : ReceiveCommitCore) (lane lane' : Lane) : Prop where
  markers : ∀ id, lane'.markers.find id =
    if input.itemID = id then some (input.marker input.consumedAtUnixMs)
    else lane.markers.find id
  cursor : lane'.cursor = some (input.cursor input.consumedAtUnixMs)
  inboxItems : ∀ id, lane'.inboxItems.find id = (lane.inboxItems.find id).map fun row =>
      if row.itemID = input.itemID then row.asConsumed else row
  receipts : ∀ id, lane'.receipts.find id =
    if input.receiptID = id then some input.receipt else lane.receipts.find id

lemma Lane.settles_of_commitSubsumedReceive {input : ReceiveCommitCore} {lane lane' : Lane}
    (h : commitSubsumedReceive input lane = .ok lane') : lane.Settles input lane' := by
  unfold commitSubsumedReceive Lane.queueReceipt at h
  simp only [ok_iff, insert_eq_ok] at h
  obtain ⟨consumed, hcons, receipts, ⟨hrcpt, rfl⟩, rfl⟩ := h
  obtain ⟨hmarker, -, rfl⟩ := Lane.consume_eq_ok.1 hcons
  exact
    { markers := find_insertOrIgnore (find_eq_none.1 hmarker), cursor := rfl
      inboxItems := find_updateWhere (f := InboxItem.asConsumed) fun _ => rfl
      receipts := find_insertOrIgnore hrcpt }

/-- A commit respects the chain: the head moves in one of the four ways, and an event at or below the
head changes the lane alone and is the one recorded under its sequence, if one is. -/
structure Store.ChainStep (input : ReceiveCommitCore) (s s' : Store) : Prop where
  moved : ∀ c, s'.chain.heads.find c ≠ s.chain.heads.find c →
    c = input.conversationID ∧ s.Advances input ∧ s'.chain.heads.find c = some input.head
  subsumed : ∀ head, s.chain.heads.find input.conversationID = some head →
    input.eventSequence ≤ head.eventSequence →
    s'.chain = s.chain ∧ s'.body = s.body ∧ s.lane.Settles input s'.lane
  recorded : ∀ head, s.chain.heads.find input.conversationID = some head →
    input.eventSequence ≤ head.eventSequence →
    ∀ e, s.chain.events.find (input.conversationID, input.eventSequence) = some e →
      e.eventHash = input.eventHash

/-- Below the head, another event is recorded under the sequence of the item. -/
def Store.Overlooks (input : ReceiveCommitCore) (s : Store) : Prop :=
  ∃ head e, s.chain.heads.find input.conversationID = some head ∧ input.eventSequence < head.eventSequence ∧
    s.chain.events.find (input.conversationID, input.eventSequence) = some e ∧ e.eventHash ≠ input.eventHash

section

variable [Content]

/-- In every run, a commit respects the chain exactly if it does not overlook a recorded event. -/
theorem chainStep_iff {s₀ s s' : Store} {input : ReceiveCommitCore} {failPoint : ReceiveFailPoint}
    {applyCrypto : Body → Except Error Body} (hs₀ : s₀.chain.Consistent) (hrun : Store.Run s₀ s)
    (h : commitReceiveCore input failPoint applyCrypto s = .ok (.committed, s')) :
    Store.ChainStep input s s' ↔ ¬s.Overlooks input := by
  have hconsistent := hrun.consistent hs₀
  constructor
  · rintro hstep ⟨head, e, hhead, hlt, he, hne⟩
    exact hne (hstep.recorded head hhead (le_of_lt hlt) e he)
  intro hlooks
  rw [commitReceiveCore_eq_ok] at h
  rcases h.2 with ⟨-, ⟨⟩, -⟩ | ⟨-, hgate, -, -, lane, hlane, rfl⟩ |
    ⟨-, hadv, -, -, -, body, messages, chain, lane, -, -, hchain, -, rfl⟩
  · -- the event is at or below the head
    obtain ⟨head, hhead, hle, hhash⟩ := Store.gate_eq_true.1 hgate
    refine ⟨fun c hc => absurd rfl hc, ?_, ?_⟩
    · intro _ _ _
      exact ⟨rfl, rfl, Lane.settles_of_commitSubsumedReceive hlane⟩
    · intro head' hhead' _ e he
      by_cases heq : input.eventSequence = head.eventSequence
      · rw [hhash heq]
        obtain ⟨hmem, hkey⟩ := find_eq_some.1 he
        obtain ⟨hconv, hseq⟩ := Prod.mk.inj hkey
        obtain ⟨head₁, hhead₁, -, hhash₁⟩ := hconsistent e hmem
        obtain rfl : head₁ = head := some.inj (hhead₁.symm.trans (hconv ▸ hhead))
        exact hhash₁ (hseq.trans heq)
      · by_contra hne
        exact hlooks ⟨head, e, hhead, lt_of_le_of_ne hle heq, he, hne⟩
  · -- the event becomes the head
    have habove : ∀ head, s.chain.heads.find input.conversationID = some head →
        head.eventSequence < input.eventSequence := fun _ hhead => hadv.above hhead
    refine ⟨?_, ?_, ?_⟩
    · intro c hc
      obtain ⟨-, -, rfl⟩ := record_eq_ok.1 hchain
      simp only [find_upsert] at hc ⊢
      split_ifs at hc ⊢ with hconv
      · exact ⟨hconv.symm, hadv, rfl⟩
      · exact absurd rfl hc
    · intro head hhead hle
      exact absurd (habove head hhead) (not_lt.2 hle)
    · intro head hhead hle
      exact absurd (habove head hhead) (not_lt.2 hle)

lemma Store.Run.deliver {input : ReceiveCommitCore} {applyCrypto : Body → Except Error Body}
    {s s' : Store} (h : s.deliver input applyCrypto = .ok s') : Store.Run s s' := by
  unfold Store.deliver at h
  simp only [ok_iff] at h
  obtain ⟨lane, -, ⟨r, s''⟩, hcom, rfl⟩ := h
  have hclaim : Store.Step s { s with lane } := .elsewhere rfl
  exact (Relation.ReflTransGen.single hclaim).tail (.receive hcom)

end

section

attribute [local instance] plainContent

def offered (item : ReceiveCommitCore) : Except Error Store := do
  let s₁ ← Store.empty.deliver (plainEvent 1 "e1" 1 1 none) .ok
  let s₂ ← s₁.deliver (plainEvent 2 "e2" 2 2 (some 1)) .ok
  let lane ← s₂.lane.persistClaimedItem item.toLaneItem [0] 1
  return { s₂ with lane }

variable {item : ReceiveCommitCore}

lemma Store.Run.offered {s : Store} (h : Client.offered item = .ok s) : Store.Run .empty s := by
  unfold Client.offered at h
  simp only [ok_iff] at h
  obtain ⟨s₁, h₁, s₂, h₂, lane, -, rfl⟩ := h
  exact ((Store.Run.deliver h₁).trans (Store.Run.deliver h₂)).tail (.elsewhere rfl)

def offeredOutcome (item : ReceiveCommitCore) :
    Except Error (ReceiveCommitResult × Option ℤ × Option Bytes) := do
  let s ← offered item
  let outcome ← commitReceiveCore item .none .ok s
  return (outcome.1, (s.chain.heads.find item.conversationID).map AuthorityHead.eventSequence,
    (s.chain.events.find (item.conversationID, item.eventSequence)).map AuthorityEvent.eventHash)

lemma offeredOutcome_eq_ok {r : ReceiveCommitResult} {head : Option ℤ} {hash : Option Bytes}
    (h : offeredOutcome item = .ok (r, head, hash)) :
    ∃ s s', offered item = .ok s ∧ commitReceiveCore item .none .ok s = .ok (r, s') ∧
    (s.chain.heads.find item.conversationID).map AuthorityHead.eventSequence = head ∧
    (s.chain.events.find (item.conversationID, item.eventSequence)).map AuthorityEvent.eventHash = hash := by
  unfold offeredOutcome at h
  simp only [ok_iff, Prod.mk.injEq] at h
  obtain ⟨s, hs, ⟨r', s'⟩, hcom, rfl, hhead, hhash⟩ := h
  exact ⟨s, s', hs, hcom, hhead, hhash⟩

/-- The first event delivered again, as the third item of the lane. -/
def replayedEvent : ReceiveCommitCore := plainEvent 3 "e1" 1 1 none

/-- Another first event of the conversation, as the third item of the lane. -/
def forkedEvent : ReceiveCommitCore := plainEvent 3 "f1" 1 7 none

theorem chainStep_replayedEvent : ∃ s s', Store.Run .empty s ∧
      commitReceiveCore replayedEvent .none .ok s = .ok (.committed, s') ∧ Store.ChainStep replayedEvent s s' := by
  have h : offeredOutcome replayedEvent = .ok (.committed, some 2, some (List.replicate 32 1)) := by
    set_option maxRecDepth 10000 in decide
  obtain ⟨s, s', hs, hcommit, -, hhash⟩ := offeredOutcome_eq_ok h
  refine ⟨s, s', Store.Run.offered hs, hcommit, (chainStep_iff consistent_empty (Store.Run.offered hs) hcommit).2 ?_⟩
  rintro ⟨head, e, -, -, he, hne⟩
  rw [he] at hhash
  exact hne (some.inj hhash)

/-- A fork below the head is settled like a replay. -/
theorem forkedEvent_settled : ∃ s s', Store.Run .empty s ∧
      commitReceiveCore forkedEvent .none .ok s = .ok (.committed, s') ∧ ¬Store.ChainStep forkedEvent s s' := by
  have h : offeredOutcome forkedEvent = .ok (.committed, some 2, some (List.replicate 32 1)) := by
    set_option maxRecDepth 10000 in decide
  obtain ⟨s, s', hs, hcommit, hhead, hhash⟩ := offeredOutcome_eq_ok h
  refine ⟨s, s', Store.Run.offered hs, hcommit, ?_⟩
  intro hstep
  obtain ⟨head, hfind, hseq⟩ := map_eq_some_iff.1 hhead
  obtain ⟨e, he, hhash⟩ := map_eq_some_iff.1 hhash
  have hle : forkedEvent.eventSequence ≤ head.eventSequence := by
    rw [hseq]
    decide
  have heq := hstep.recorded head hfind hle e he
  rw [hhash] at heq
  exact absurd heq (by decide)

end

end PeersTouch.Client
