import PeersTouch.Chat.Follower
import PeersTouch.Chat.Invariant

/-!
# Followers do not fork

Whatever events are presented to a follower, the ones it has applied form a single hash chain, and
none of them is ever exchanged for another. A follower that found a contradiction is read-only, and
then it does not change any more.

All that a call of `applyFollowerEvent` can write is a sequence of a few kinds of steps
(`FollowerStep`), and none of them is possible for a follower that is read-only. The rest is shown
for one step at a time.
-/

namespace PeersTouch.Chat

open Lib Method List Record Registry

lemma Record.verify_returns [Digest] {sealer : Sealer} {r r' : Record} (h : r.verify sealer = .ok r') :
    (∃ scheme, r' = { r with
      hashScheme := scheme, deliveryCommitments := sortedHashes r.deliveryCommitments }) ∧
      r'.input.Sealable := by
  simp only [verify, rehydrate, ok_iff] at h
  obtain ⟨_, ⟨-, -, -, -, -, rfl⟩, sealed, hseal, -, rfl⟩ := h
  obtain ⟨_, _, _, hsealed, -⟩ := sealer.sealed hseal
  exact ⟨⟨_, rfl⟩, (sealRecord_eq_ok.1 hsealed).1⟩

/-! ### The steps of a follower -/

namespace Station

def applied (s : Station) (id : ConversationID) : List Record := s.events.filter fun event => event.conversationID = id

/-- The tables of the follower with the state `projection` after the event. -/
def withFollower (s : Station) (projection : FollowerProjection) (event : Record) : Station :=
  { s with
    followerHeads := s.followerHeads.insert (headRow projection event), followerStates := s.followerStates.insert
      { conversationID := event.conversationID, status := .active }
    followerMembers :=
      (s.followerMembers.filter fun row => row.conversationID ≠ event.conversationID) ++ memberRows projection event }

def withApplied (s : Station) (projection : FollowerProjection) (event : Record) : Station :=
  { s.withFollower projection event with
    events := s.events ++ [event], pendingEvents := s.pendingEvents.filter fun row =>
      ¬(row.conversationID = event.conversationID ∧ row.sequence = event.sequence) }

/-- The event comes next after the head of the follower. -/
structure Awaits (s : Station) (event : Record) : Prop where
  first : s.followerHeads.find event.conversationID = none → event.sequence = 1
  later : ∀ row ∈ s.followerHeads.find event.conversationID,
    event.sequence = row.sequence + 1 ∧ event.authorityStation = row.authorityStation ∧
      event.previousHash = row.eventHash

@[simp] lemma statusOf_withStatus (s : Station) (id : ConversationID) (status : FollowerStatus) :
    (s.withStatus id status).statusOf id = some status := by
  rw [statusOf, withStatus, find_insert_self
    (v := { conversationID := id, status : FollowerState })]
  rfl

lemma statusOf_withStatus_of_ne (s : Station) {id id' : ConversationID} (h : id' ≠ id)
    (status : FollowerStatus) : (s.withStatus id' status).statusOf id = s.statusOf id := by
  rw [statusOf, withStatus, find_insert_of_ne _ h]
  rfl

@[simp] lemma statusOf_withApplied (s : Station) (projection : FollowerProjection) (event : Record) :
    (s.withApplied projection event).statusOf event.conversationID = some .active :=
  statusOf_withStatus s event.conversationID .active

end Station

open Station

/-- One thing that a follower of the conversation `id` can do. -/
inductive FollowerStep (id : ConversationID) (s : Station) : Station → Prop
  | marked (status : FollowerStatus) : s.statusOf id ≠ some .readOnly →
      FollowerStep id s (s.withStatus id status)
  | buffered (event : Record) : s.statusOf id ≠ some .readOnly →
      FollowerStep id s { s with pendingEvents := s.pendingEvents ++ [event] }
  | applied (projection : FollowerProjection) (event : Record) :
      s.statusOf id ≠ some .readOnly → event.conversationID = id → event.input.Sealable →
      s.Awaits event → FollowerStep id s (s.withApplied projection event)
  /-- Not possible as long as the head is an event of the table. -/
  | repeated (event : Record) : s.statusOf id ≠ some .readOnly → event.conversationID = id →
      (∃ row ∈ s.followerHeads.find id, row.sequence = event.sequence) →
      (∀ row ∈ s.events, ¬row.Clashes event) →
      FollowerStep id s { s with
        events := s.events ++ [event]
        pendingEvents := s.pendingEvents.filter fun row =>
          ¬(row.conversationID = event.conversationID ∧ row.sequence = event.sequence) }

abbrev FollowerSteps (id : ConversationID) : Station → Station → Prop := Relation.ReflTransGen (FollowerStep id)

variable {s' : Station}

/-! ### What a call does -/

section

variable {id : ConversationID} {s : Station}
  {status : FollowerStatus} {event : Record} {projection : FollowerProjection}
  {r : Option Error} {id' : ConversationID}

lemma setStatus_of_ne (h : s.statusOf id ≠ some .readOnly) :
    (setStatus id status).call s = (.ok (), s.withStatus id status) := by
  have hok : ¬(s.statusOf id = some .readOnly ∧ status ≠ .readOnly) := fun hs => h hs.1
  simp only [setStatus, receiver_bind_call]
  rw [failWhen_of_not hok]
  rfl

lemma writeFollower_of_ne (h : s.statusOf event.conversationID ≠ some .readOnly) :
    (writeFollower projection event).call s = (.ok (), s.withFollower projection event) := by
  simp only [writeFollower, receiver_bind_call, assign_bind_call]
  simp only [bind]
  rw [setStatus_of_ne]
  · rfl
  · exact h

inductive Applies (s : Station) (projection : FollowerProjection) (event : Record) :
    Except Error Unit × Station → Prop
  | refused (e : Error) : Applies s projection event (.error e, s)
  | marked (e : Error) (status : FollowerStatus) :
      Applies s projection event (.error e, s.withStatus event.conversationID status)
  | repeated : projection.conversation.id = event.conversationID →
      (∃ row ∈ s.followerHeads.find event.conversationID, row.sequence = event.sequence) →
      Applies s projection event (.ok (), s)
  | written : projection.conversation.id = event.conversationID → s.Awaits event →
      Applies s projection event (.ok (), s.withFollower projection event)

/-- What comparing an event with the stored head can end in. -/
inductive Compares (s : Station) (event : Record) : Except Error Bool × Station → Prop
  | refused (e : Error) : Compares s event (.error e, s)
  | marked (e : Error) (status : FollowerStatus) :
      Compares s event (.error e, s.withStatus event.conversationID status)
  | repeated : (∃ row ∈ s.followerHeads.find event.conversationID,
    row.sequence = event.sequence) → Compares s event (.ok false, s)
  | awaited : s.Awaits event → Compares s event (.ok true, s)

lemma compares_checkExisting {row : FollowerHead} (hrow : s.followerHeads.find event.conversationID = some row)
    (hne : s.statusOf event.conversationID ≠ some .readOnly) : Compares s event ((checkExisting row event).call s) := by
  have hmark : ∀ (status : FollowerStatus) (e : Error), Compares s event
      ((setStatus event.conversationID status >>= fun _ => fail e : Method _ _ Bool).call s) := by
    intro status e
    simp only [bind, setStatus_of_ne hne]
    exact .marked e status
  dsimp only [checkExisting]
  split_ifs with hseq hsame hold hgap hstn hprev
  · exact .repeated ⟨row, hrow, hseq⟩
  · exact hmark _ _
  · exact .refused _
  · exact hmark _ _
  · exact hmark _ _
  · exact hmark _ _
  · refine .awaited ⟨fun h => ?_, fun row' h => ?_⟩
    · rw [hrow] at h
      cases h
    · obtain rfl : row = row' := Option.some.inj (hrow.symm.trans h)
      have hle : next row.sequence ≤ row.sequence + 1 := Nat.mod_le _ _
      exact ⟨by omega, (not_not.1 hstn).symm, (not_not.1 hprev).symm⟩

lemma compares_checkMissing (hrow : s.followerHeads.find event.conversationID = none) :
    Compares s event ((checkMissing event).call s) := by
  unfold checkMissing
  split_ifs with hseq
  · exact .refused _
  · refine .awaited ⟨fun _ => not_not.1 hseq, fun row h => ?_⟩
    rw [hrow] at h
    cases h

/-! ### A call takes steps -/

/-- All that a call did, if it succeeded, is a number of steps. -/
def TakesSteps (id : ConversationID) (s : Station)
    (outcome : Except Error (Option Error) × Station) : Prop :=
  ∀ r, outcome.1 = .ok r → FollowerSteps id s outcome.2

lemma takesSteps_error (e : Error) (s' : Station) : TakesSteps id s (.error e, s') := fun _ h => nomatch h

lemma takesSteps_ok (h : FollowerSteps id s s') : TakesSteps id s (.ok r, s') := fun _ _ => h

lemma TakesSteps.after {s₁ : Station} {outcome : Except Error (Option Error) × Station}
    (hstep : FollowerStep id s s₁) (h : TakesSteps id s₁ outcome) : TakesSteps id s outcome :=
  fun r hr => (h r hr).head hstep

section

variable (hne : s.statusOf id ≠ some .readOnly)
include hne

lemma takesSteps_setStatus : TakesSteps id s
    ((setStatus id status >>= fun _ => pure r : Method Station Error _).call s) := by
  simp only [bind, setStatus_of_ne hne]
  exact takesSteps_ok (.single (.marked status hne))

lemma takesSteps_rejectReadOnly {reason : Error} : TakesSteps id s ((rejectReadOnly id reason).call s) :=
  takesSteps_setStatus hne

lemma takesSteps_unlessBroken {α : Type} {x : Except Error α} {k : α → Method Station Error (Option Error)} (hk : ∀ a,
    x = .ok a → TakesSteps id s ((k a).call s)) : TakesSteps id s ((unlessBroken id x k).call s) := by
  refine handle_outcome (fun a s' h => ?_) (fun e s' h _ => ?_) fun e s' _ _ => takesSteps_error e s'
  · obtain ⟨hx, rfl⟩ := lift_returns.1 h
    exact hk a hx
  · obtain ⟨-, rfl⟩ := Prod.mk.inj h
    exact takesSteps_rejectReadOnly hne

end

variable [Digest] {sealer : Sealer}
  {event' : Record}

lemma applies_applyFollower (hver : event.verify sealer = .ok event') :
    Applies s projection event' ((applyFollower sealer projection event).call s) := by
  rw [applyFollower, hver]
  refine lift_bind_outcome (fun e _ => .refused e) fun event'' h => ?_
  obtain rfl := Except.ok.inj h
  refine lift_bind_outcome (fun e _ => .refused e) fun _ hproj => ?_
  obtain ⟨-, -, hid, -⟩ : _ ∧ _ ∧ projection.conversation.id = event'.conversationID ∧ _ := by
    simpa only [failWhen_eq_ok, not_or, not_not] using hproj
  refine lift_bind_outcome (fun e _ => .refused e) fun _ hro => ?_
  have hne := failWhen_eq_ok.1 hro
  refine lift_bind_outcome (fun e _ => .refused e) fun _ _ => ?_
  refine lift_bind_outcome (fun e _ => .refused e) fun _ _ => ?_
  have hcompares : Compares s event' (((s.followerHeads.find event'.conversationID).elim
    (checkMissing event') (checkExisting · event')).call s) := by
    cases hrow : s.followerHeads.find event'.conversationID with
    | none => exact compares_checkMissing hrow
    | some row => exact compares_checkExisting hrow hne
  refine bind_outcome (fun e s' hcall => ?_) fun proceed s' hcall => ?_ <;>
    rw [hcall] at hcompares <;> cases hcompares
  case refused => exact .refused e
  case marked status => exact .marked e status
  case repeated h => exact .repeated hid h
  case awaited h =>
    rw [if_pos rfl, writeFollower_of_ne hne]
    exact .written hid h

lemma takesSteps_recordApplied
    {k : Method Station Error (Option Error)} (hne : s.statusOf id ≠ some .readOnly)
    (hid : event.conversationID = id)
    (hk : projection.conversation.id = id → ∀ s', s'.statusOf id ≠ some .readOnly → TakesSteps id s' (k.call s')) :
    TakesSteps id s ((recordApplied sealer projection event k).call s) := by
  cases hver : event.verify sealer with
  | error e =>
    -- Nothing has been written, and the error may reject the event.
    have hcall : (applyFollower sealer projection event).call s = (.error e, s) := by
      rw [applyFollower, hver]
      rfl
    refine handle_outcome (fun _ _ h => ?_) (fun e' s' h _ => ?_) fun e' s' _ _ => takesSteps_error e' s'
    · cases hcall.symm.trans h
    · obtain ⟨-, rfl⟩ := Prod.mk.inj (hcall.symm.trans h)
      exact takesSteps_ok .refl
  | ok event' =>
    obtain ⟨⟨scheme, heq⟩, hseal⟩ := verify_returns hver
    have hid' : event'.conversationID = id := by rw [heq]; exact hid
    have hseq : event'.sequence = event.sequence := by rw [heq]
    have happlies : Applies s projection event' ((applyFollower sealer projection event).call s) :=
      applies_applyFollower hver
    refine handle_outcome (fun _ s' h => ?_) (fun e s' h _ => ?_) fun e s' _ _ => takesSteps_error e s'
    · rw [h] at happlies
      refine bind_outcome (fun e s'' _ => takesSteps_error e s'') fun _ s'' happend => ?_
      simp only [append, appendEvent, hver, receiver_bind_call, lift_bind_returns, assign_returns, ok_iff, not_exists,
        not_and] at happend
      obtain ⟨_, ⟨_, ⟨⟩, hclash, rfl⟩, rfl⟩ := happend
      cases happlies with
      | repeated hproj hrow =>
        refine .after ?_ (hk (hproj.trans hid') _ hne)
        rw [hid'] at hrow
        have := FollowerStep.repeated event' hne hid' hrow hclash
        rw [hid', hseq] at this
        rwa [hid]
      | written hproj hawaits =>
        have hstep := FollowerStep.applied projection event' hne hid' hseal hawaits
        have hact := s.statusOf_withApplied projection event'
        simp only [withApplied, hid', hseq] at hstep hact
        simp only [hid]
        refine .after hstep (hk (hproj.trans hid') _ ?_)
        rw [hact]
        simp
    · rw [h] at happlies
      cases happlies with
      | refused => exact takesSteps_ok .refl
      | marked _ status =>
        rw [hid']
        exact takesSteps_ok (.single (.marked status hne))

lemma nextBuffered_returns {after : ℕ} (h : s.nextBuffered sealer id after = .ok event) : event.conversationID = id ∧
    ∃ row ∈ s.pendingEvents, row.conversationID = event.conversationID ∧ row.sequence = event.sequence := by
  simp only [nextBuffered, ok_iff] at h
  obtain ⟨row, hrow, hver⟩ := h
  obtain ⟨hmem, hkey⟩ := mem_filter.1 (argmin_mem hrow)
  obtain ⟨⟨scheme, rfl⟩, -⟩ := verify_returns hver
  exact ⟨(of_decide_eq_true hkey).1, row, hmem, rfl, rfl⟩

lemma takesSteps_drainBuffer {rounds : ℕ} {current : FollowerProjection}
    (hid : current.conversation.id = id) (hne : s.statusOf id ≠ some .readOnly) :
    TakesSteps id s ((drainFollowerBuffer sealer rounds current).call s) := by
  induction rounds generalizing s current with
  | zero => exact takesSteps_error _ _
  | succ rounds ih =>
    rw [drainFollowerBuffer, hid]
    refine takesSteps_unlessBroken hne fun found hfnd => ?_
    cases found with
    | none => exact takesSteps_setStatus hne
    | some event =>
      have hev := (nextBuffered_returns (ifFound_eq_some.1 hfnd)).1
      simp only [Option.elim]
      split_ifs with hgap
      · exact takesSteps_setStatus hne
      · refine takesSteps_unlessBroken hne fun projection _ => ?_
        exact takesSteps_recordApplied hne hev fun hproj s' hne' => ih hproj hne'

/-- The outcomes of a call that puts an event into the buffer. -/
inductive Buffers (s : Station) (event : Record) : Except Error Unit × Station → Prop
  | refused (e : Error) : Buffers s event (.error e, s)
  | marked (e : Error) (status : FollowerStatus) :
      Buffers s event (.error e, s.withStatus event.conversationID status)
  | present : Buffers s event (.ok (), s)
  | inserted (event' : Record) :
      Buffers s event (.ok (), { s with pendingEvents := s.pendingEvents ++ [event'] })

lemma buffers_buffer (hne : s.statusOf event.conversationID ≠ some .readOnly) :
    Buffers s event ((buffer sealer event).call s) := by
  refine lift_bind_outcome (fun e _ => .refused e) fun event' hver => ?_
  obtain ⟨⟨scheme, heq⟩, -⟩ := verify_returns hver
  have hid : event'.conversationID = event.conversationID := by rw [heq]
  have hmark : ∀ e : Error, Buffers s event ((setStatus event'.conversationID .readOnly >>= fun _ => fail e :
    Method _ _ Unit).call s) := by
    intro e
    simp only [bind, hid, setStatus_of_ne hne]
    exact .marked e .readOnly
  rw [receiver_bind_call]
  cases s.findBufferedEvent event' with
  | none =>
    simp only [Option.elim, insertBuffered, receiver_bind_call]
    split_ifs
    · exact hmark _
    · exact .inserted event'
  | some existing =>
    simp only [Option.elim, resolveBufferedEvent]
    split_ifs
    · exact .present
    · exact hmark _

lemma takesSteps_bufferGap (hid : event.conversationID = id) (hne : s.statusOf id ≠ some .readOnly) :
    TakesSteps id s ((bufferGap sealer event).call s) := by
  have hbuffers : Buffers s event ((buffer sealer event).call s) := buffers_buffer (by rwa [hid])
  refine handle_outcome (fun _ s' h => ?_) (fun e s' h _ => ?_) fun e s' _ _ => takesSteps_error e s'
  · rw [h] at hbuffers
    rw [hid]
    cases hbuffers with
    | present => exact takesSteps_setStatus hne
    | inserted event' => exact .after (.buffered event' hne) (takesSteps_setStatus hne)
  · rw [h] at hbuffers
    cases hbuffers with
    | refused => exact takesSteps_ok .refl
    | marked _ status =>
      rw [hid]
      exact takesSteps_ok (.single (.marked status hne))

lemma takesSteps_applyVerified (hid : event.conversationID = id) :
    TakesSteps id s ((applyVerifiedEvent sealer event).call s) := by
  refine lift_bind_outcome (fun e _ => takesSteps_error e s) fun _ _ => ?_
  refine lift_bind_outcome (fun e _ => takesSteps_error e s) fun current _ => ?_
  rw [hid]
  split_ifs with hro hstn hold hgap
  · exact takesSteps_ok .refl
  · exact takesSteps_rejectReadOnly hro
  · refine lift_bind_outcome (fun e _ => takesSteps_error e s) fun applied _ => ?_
    rw [hid]
    split_ifs
    · exact takesSteps_ok .refl
    · exact takesSteps_rejectReadOnly hro
  · exact takesSteps_bufferGap hid hro
  · rw [applyNext, hid]
    refine takesSteps_unlessBroken hro fun buffered _ => ?_
    split_ifs
    · exact takesSteps_rejectReadOnly hro
    · refine takesSteps_unlessBroken hro fun projection _ => ?_
      refine takesSteps_recordApplied hro hid fun hproj s' hne => ?_
      rw [receiver_bind_call]
      exact takesSteps_drainBuffer hproj hne

lemma followerSteps_of_apply (event : Record) :
    FollowerSteps event.conversationID s ((applyFollowerEvent sealer event).call s).2 := by
  refine lift_bind_outcome (P := fun outcome => FollowerSteps _ s outcome.2) (fun e _ => .refl) fun event' hver => ?_
  refine lift_bind_outcome (P := fun outcome => FollowerSteps _ s outcome.2) (fun e _ => .refl) fun _ _ => ?_
  obtain ⟨⟨scheme, heq⟩, -⟩ := verify_returns hver
  have hsteps : TakesSteps event.conversationID s ((applyVerifiedEvent sealer event').call s) :=
    takesSteps_applyVerified (by rw [heq])
  rcases transaction_call (applyVerifiedEvent sealer event') s with
    ⟨e, s', -, hcall⟩ | ⟨rejection, s', hbody, hcall⟩
  · rw [hcall]
  · rw [hcall]
    rw [hbody] at hsteps
    exact hsteps rejection rfl

/-! ### What the steps keep -/

omit [Digest]

/-- `next` comes right after `previous` in the chain of one authority. -/
structure Extends (previous next : Record) : Prop where
  sequence : next.sequence = previous.sequence + 1
  previousHash : next.previousHash = previous.hash
  authorityStation : next.authorityStation = previous.authorityStation

structure Chained (id : ConversationID) (s : Station) : Prop where
  chain : (s.applied id).IsChain Extends
  first : ∀ e ∈ (s.applied id).head?, e.sequence = 1 ∧ e.previousHash = 0
  head : (s.followerHeads.find id).map (fun row => (row.sequence, row.eventHash, row.authorityStation)) =
    (s.applied id).getLast?.map fun e => (e.sequence, e.hash, e.authorityStation)

lemma applied_append_of_ne (h : event.conversationID ≠ id) :
    ({ s with events := s.events ++ [event] } : Station).applied id = s.applied id := by
  simp [applied, h]

lemma Chained.step (h : Chained id s) (hstep : FollowerStep id s s') : Chained id s' ∧ s.applied id <+: s'.applied id := by
  cases hstep with
  | marked status _ => exact ⟨{ h with }, prefix_rfl⟩
  | buffered event _ => exact ⟨{ h with }, prefix_rfl⟩
  | repeated event _ hid hrow hclash =>
    -- The head is an applied event, with which this one would clash.
    obtain ⟨row, hrow, hseq⟩ := hrow
    have hhead := h.head
    rw [hrow] at hhead
    obtain ⟨last, hlast, heq⟩ := Option.map_eq_some_iff.1 hhead.symm
    obtain ⟨hmem, hconv⟩ := mem_filter.1 (mem_of_getLast? hlast)
    have hsequence : last.sequence = event.sequence := (Prod.mk.inj heq).1.trans hseq
    have hconv : last.conversationID = event.conversationID := (of_decide_eq_true hconv).trans hid.symm
    exact absurd (.inr ⟨hconv, .inl hsequence⟩) (hclash last hmem)
  | applied projection event _ hid hseal hawaits =>
    have happlied : (s.withApplied projection event).applied id = s.applied id ++ [event] := by
      simp [withApplied, applied, hid]
    have hfd : (s.withApplied projection event).followerHeads.find id = some (headRow projection event) := by
      rw [← hid]
      exact find_insert_self _ (headRow projection event)
    rw [happlied]
    refine ⟨⟨?_, ?_, ?_⟩, prefix_append _ _⟩
    all_goals rw [happlied]
    · refine isChain_append.2 ⟨h.chain, isChain_singleton _, ?_⟩
      intro last hlast e he
      obtain rfl : event = e := Option.some.inj he
      have hhead := h.head
      rw [Option.mem_def.1 hlast] at hhead
      obtain ⟨row, hrow, heq⟩ := Option.map_eq_some_iff.1 hhead
      obtain ⟨hseq, hhash, hstn⟩ : row.sequence = last.sequence ∧
          row.eventHash = last.hash ∧ row.authorityStation = last.authorityStation := by
        simpa using heq
      obtain ⟨h₁, h₂, h₃⟩ := hawaits.later row (by rw [hid]; exact hrow)
      exact ⟨by rw [h₁, hseq], by rw [h₃, hhash], by rw [h₂, hstn]⟩
    · intro e he
      cases hevs : s.applied id with
      | cons first rest =>
        rw [hevs] at he
        exact h.first e (by rw [hevs]; exact he)
      | nil =>
        rw [hevs] at he
        obtain rfl : event = e := Option.some.inj he
        have hnone : s.followerHeads.find event.conversationID = none := by
          have hhead := h.head
          rw [hevs] at hhead
          rw [hid]
          exact Option.map_eq_none_iff.1 hhead
        have hseq := hawaits.first hnone
        exact ⟨hseq, hseal.genesis hseq⟩
    · rw [hfd, getLast?_concat]
      rfl

structure SameFollower (id : ConversationID) (s s' : Station) : Prop where
  head : s'.followerHeads.find id = s.followerHeads.find id
  status : s'.statusOf id = s.statusOf id
  members : (s'.followerMembers.filter fun row => row.conversationID = id) =
    s.followerMembers.filter fun row => row.conversationID = id
  events : s'.applied id = s.applied id

lemma SameFollower.refl (id : ConversationID) (s : Station) : SameFollower id s s := ⟨rfl, rfl, rfl, rfl⟩

lemma SameFollower.trans {s₁ s₂ s₃ : Station} (h : SameFollower id s₁ s₂)
    (h' : SameFollower id s₂ s₃) : SameFollower id s₁ s₃ :=
  ⟨h'.head.trans h.head, h'.status.trans h.status, h'.members.trans h.members, h'.events.trans h.events⟩

lemma SameFollower.of_step (hne : id' ≠ id) (h : FollowerStep id' s s') : SameFollower id s s' := by
  cases h with
  | marked status _ => exact { SameFollower.refl id s with status := statusOf_withStatus_of_ne s hne status }
  | buffered event _ => exact { SameFollower.refl id s with }
  | repeated event _ hid _ _ =>
    exact { SameFollower.refl id s with
      events := applied_append_of_ne (by rw [hid]; exact hne) }
  | applied projection event _ hid _ _ =>
    have hne' : event.conversationID ≠ id := by rw [hid]; exact hne
    constructor
    case head => exact find_insert_of_ne _ hne'
    case status => exact statusOf_withStatus_of_ne s hne' .active
    case members =>
      have hrows : (memberRows projection event).filter (fun row => row.conversationID = id) = [] := by
        simp [memberRows, hne']
      simp only [withApplied, withFollower, filter_append, hrows, append_nil, filter_filter]
      refine filter_congr fun row _ => ?_
      by_cases hrow : row.conversationID = id
      · simp [hrow, Ne.symm hne']
      · simp [hrow]
    case events => exact applied_append_of_ne hne'

lemma SameFollower.of_steps (hne : id' ≠ id) (h : FollowerSteps id' s s') : SameFollower id s s' := by
  induction h with
  | refl => exact .refl id s
  | tail _ hstep ih => exact ih.trans (.of_step hne hstep)

lemma Chained.steps (h : Chained id s)
    (hsteps : FollowerSteps id' s s') : Chained id s' ∧ s.applied id <+: s'.applied id := by
  by_cases hid : id' = id
  · subst hid
    induction hsteps with
    | refl => exact ⟨h, prefix_rfl⟩
    | tail _ hstep ih =>
      obtain ⟨hc, hp⟩ := ih.1.step hstep
      exact ⟨hc, ih.2.trans hp⟩
  · have hsame := SameFollower.of_steps hid hsteps
    refine ⟨⟨?_, ?_, ?_⟩, ?_⟩
    · rw [hsame.events]; exact h.chain
    · rw [hsame.events]; exact h.first
    · rw [hsame.events, hsame.head]; exact h.head
    · exact hsame.events.symm ▸ prefix_rfl

end

/-! ### Runs -/

section

variable [Digest] (sealer : Sealer)

def presentAll (events : List Record) (s : Station) : Station :=
  events.foldl (fun s event => ((applyFollowerEvent sealer event).call s).2) s

omit [Digest] in
lemma lt_length_of_succ_lt {events : List Record} {k : ℕ} (hk : k + 1 < events.length) : k < events.length := by omega

/-- The events are numbered from one and linked by their hashes, and have one authority. -/
structure OneChain (events : List Record) : Prop where
  sequence : ∀ k (hk : k < events.length), events[k].sequence = k + 1
  first : ∀ e ∈ events.head?, e.previousHash = 0
  previousHash : ∀ k (hk : k + 1 < events.length),
    events[k + 1].previousHash = (getElem events k (lt_length_of_succ_lt hk)).hash
  authorityStation : ∀ e ∈ events, ∀ e' ∈ events, e.authorityStation = e'.authorityStation

/-- Nothing is known of the conversation. -/
structure Station.Unfollowed (s : Station) (id : ConversationID) : Prop where
  head : s.followerHeads.find id = none
  events : s.applied id = []

variable {sealer} {id : ConversationID} {s : Station}

omit [Digest] in
lemma Chained.oneChain (h : Chained id s) : OneChain (s.applied id) := by
  have hch := isChain_iff_getElem.1 h.chain
  have hhead : ∀ hk : 0 < (s.applied id).length, (s.applied id)[0] ∈ (s.applied id).head? := by
    intro hk
    rw [head?_eq_getElem?]
    exact getElem?_eq_getElem hk
  have hstn : ∀ k (hk : k < (s.applied id).length), ∀ e ∈ (s.applied id).head?,
      (s.applied id)[k].authorityStation = e.authorityStation := by
    intro k hk e he
    induction k with
    | zero => rw [Option.some.inj ((hhead hk).symm.trans he)]
    | succ k ih => rw [(hch k hk).authorityStation, ih (by omega)]
  constructor
  case sequence =>
    intro k hk
    induction k with
    | zero => exact (h.first _ (hhead hk)).1
    | succ k ih => rw [(hch k hk).sequence, ih (by omega)]
  case first => exact fun e he => (h.first e he).2
  case previousHash => exact fun k hk => (hch k hk).previousHash
  case authorityStation =>
    intro e he e' he'
    obtain ⟨k, hk, rfl⟩ := mem_iff_getElem.1 he
    obtain ⟨k', hk', rfl⟩ := mem_iff_getElem.1 he'
    have hpos : 0 < (s.applied id).length := by omega
    rw [hstn k hk _ (hhead hpos), hstn k' hk' _ (hhead hpos)]

omit [Digest] in
lemma Station.Unfollowed.chained (h : s.Unfollowed id) : Chained id s := by
  constructor
  case chain => rw [h.events]; exact isChain_nil
  case first =>
    intro e he
    rw [h.events] at he
    cases he
  case head => rw [h.events, h.head]; rfl

lemma Chained.presentAll (h : Chained id s) (events : List Record) : Chained id (presentAll sealer events s) ∧
    s.applied id <+: (Chat.presentAll sealer events s).applied id := by
  induction events generalizing s with
  | nil => exact ⟨h, prefix_rfl⟩
  | cons event events ih =>
    have hsteps : FollowerSteps event.conversationID s ((applyFollowerEvent sealer event).call s).2 :=
      followerSteps_of_apply event
    obtain ⟨hc, hp⟩ := h.steps hsteps
    obtain ⟨hc', hp'⟩ := ih hc
    exact ⟨hc', hp.trans hp'⟩

lemma SameFollower.presentAll (hro : s.statusOf id = some .readOnly)
    (events : List Record) : SameFollower id s (presentAll sealer events s) := by
  induction events generalizing s with
  | nil => exact .refl id s
  | cons event events ih =>
    have hsteps : FollowerSteps event.conversationID s ((applyFollowerEvent sealer event).call s).2 :=
      followerSteps_of_apply event
    have hsame : SameFollower id s ((applyFollowerEvent sealer event).call s).2 := by
      by_cases hid : event.conversationID = id
      · rw [hid] at hsteps
        rcases hsteps.cases_head with heq | ⟨_, hstep, -⟩
        · rw [← heq]
          exact .refl id s
        · cases hstep <;> contradiction
      · exact .of_steps hid hsteps
    exact hsame.trans (ih (hsame.status.trans hro))

/-- **Followers do not fork.**  Whatever is presented to a Station, the events it has applied for a
conversation are one chain that ends in the head of the follower. Later events only extend it, and
when the follower is read-only they leave it as it is. -/
theorem followers_never_fork (hfresh : s.Unfollowed id) (presented later : List Record) :
    let s₁ := presentAll sealer presented s
    let s₂ := presentAll sealer later s₁
    OneChain (s₁.applied id) ∧ ((s₁.followerHeads.find id).map fun row => (row.sequence, row.eventHash)) =
        ((s₁.applied id).getLast?.map fun e => (e.sequence, e.hash)) ∧ s₁.applied id <+: s₂.applied id ∧
      (s₁.statusOf id = some .readOnly → SameFollower id s₁ s₂) := by
  intro s₁ s₂
  have hc : Chained id s₁ := (hfresh.chained.presentAll presented).1
  refine ⟨hc.oneChain, ?_, (hc.presentAll later).2, fun h => .presentAll h later⟩
  have hhead := congrArg (Option.map fun p : ℕ × Hash × StationID => (p.1, p.2.1)) hc.head
  simpa only [Option.map_map, Function.comp_def] using hhead

/-- The first event of the notes group and two events that both claim to be the second. -/
def forkedNotes : Except Error (List Record) := do
  let (c, t) ← notesGroup.run
  let renamed ← ((rename c 6000000).run.call c).1
  let renamedLater ← ((rename c 7000000).run.call c).1
  return [t.event, renamed.event, renamedLater.event]

end

section

attribute [local instance] checksum

set_option maxRecDepth 10000 in
theorem followers_never_fork_notes : ∃ events, forkedNotes = .ok events ∧
      let s := presentAll systemSealer events .empty
      (s.applied "solo").length = 2 ∧ s.statusOf "solo" = some .readOnly ∧ OneChain (s.applied "solo") ∧
        SameFollower "solo" s (presentAll systemSealer events s) := by
  have hrun : (forkedNotes.map fun events =>
      let s := presentAll systemSealer events .empty
      ((s.applied "solo").length, s.statusOf "solo")) = .ok (2, some .readOnly) := by
    decide +kernel
  obtain ⟨events, hevents, heq⟩ := map_eq_ok.1 hrun
  obtain ⟨hlen, hstatus⟩ := Prod.mk.inj heq
  have hfresh : Station.empty.Unfollowed "solo" := ⟨by decide +kernel, rfl⟩
  have h := @followers_never_fork _ systemSealer _ _ hfresh events events
  exact ⟨events, hevents, hlen, hstatus, h.1, h.2.2.2 hstatus⟩

end

end PeersTouch.Chat
