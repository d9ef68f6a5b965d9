import PeersTouch.Federation.Inbox
import PeersTouch.Federation.SigningBytes
import PeersTouch.Lib.Trace

/-!
# Frames are handled once

The runs of the inbox: frames arrive in any order and any number of times, the registered receivers do what they
want, and the Station may stop at any point of a call. A run leaves a trace of what was committed, of the callbacks
and of the answers. The invariant (`Receipts`) says that every receiver that ran in a committed transaction has left
its receipt, and `frames_handled_once` follows.
-/

namespace PeersTouch.Federation

open Lib Chat KeyedTable List Committed

variable {δ κ : Type}

inductive InboxEvent (κ : Type) where
  /-- A receiver ran in a transaction that was committed. -/
  | dispatched (frame : Frame) (outcome : Result) (afterCommit : List κ)
  | called (frame : Frame) (callback : κ)
  | replied (frame : Frame) (response : Except Error Result)

namespace InboxEvent

def isDispatchOf (key : String × String) : InboxEvent κ → Bool
  | dispatched frame _ _ => (frame.sourceStationPeerID, frame.idempotencyKey) = key
  | called _ _ | replied _ _ => false

end InboxEvent

def Committed.events (commit : Committed δ κ) (frame : Frame) : List (InboxEvent κ) :=
  if commit.dispatched then [.dispatched frame commit.outcome commit.afterCommit] else []

inductive Receives [Digest] (config : ReceiverConfig) : Store δ → List (InboxEvent κ) → Store δ → Prop
  | lost (s : Store δ) : Receives config s [] s
  /-- Nothing is committed. -/
  | refused (s : Store δ) (reception : Reception δ κ)
      (h : (receive config reception s).committed = none) :
      Receives config s [.replied reception.frame (receive config reception s).response] s
  /-- The Station stops after `n` of the callbacks. -/
  | cut (s : Store δ) (reception : Reception δ κ) (commit : Committed δ κ) (n : ℕ)
      (h : (receive config reception s).committed = some commit) :
      Receives config s (commit.events reception.frame ++
        (commit.afterCommit.take n).map (.called reception.frame)) commit.store
  | completed (s : Store δ) (reception : Reception δ κ) (commit : Committed δ κ)
      (h : (receive config reception s).committed = some commit) :
      Receives config s
        (commit.events reception.frame ++ commit.afterCommit.map (.called reception.frame) ++
          [.replied reception.frame (receive config reception s).response]) commit.store

/-! ### What a call does -/

section

variable {s : Store δ} {frame : Frame} {identity : FrameIdentity} {receivedAt : Time}
  {dispatch : Dispatch δ κ} {commit : Committed δ κ}

def InboxRecord.completed (frame : Frame) (identity : FrameIdentity) (receivedAt : Time) (outcome : Result) :
    InboxRecord :=
  { InboxRecord.ofFrame frame identity receivedAt with
    disposition := outcome.disposition, errorCode := outcome.errorCode }

variable {outcome : Result}

lemma completeReceipt_eq_ok {inbox inbox' : Inbox}
    (hkey : inbox.hasKey (identity.sourceStationPeerID, identity.idempotencyKey) = false)
    (h : completeReceipt (inbox.insertOrIgnore (.ofFrame frame identity receivedAt)) identity outcome
    receivedAt = .ok inbox') : inbox'.rows = inbox.rows ++ [.completed frame identity receivedAt outcome] := by
  obtain ⟨-, rfl⟩ := KeyedTable.updateOne_eq_ok.1 h
  have hrows : (inbox.insertOrIgnore (.ofFrame frame identity receivedAt)).rows =
      inbox.rows ++ [.ofFrame frame identity receivedAt] := KeyedTable.rows_insertOrIgnore hkey
  simp only [KeyedTable.updateWhere, hrows, map_append, map_singleton]
  congr 1
  · -- the rows that were there have other keys
    rw [map_congr_left, map_id]
    intro r hr
    refine if_neg fun hid => ?_
    rw [KeyedTable.hasKey, any_eq_false] at hkey
    exact hkey r hr (decide_eq_true hid)
  · rw [if_pos (by rfl)]
    rfl

lemma receive_eq_ok (h : receiveTransaction s frame identity receivedAt dispatch = .ok commit) :
    (∃ r ∈ s.inbox.rows, r.Conflicts identity) ∧ commit.dispatched = false ∧ commit.store = s ∧
    commit.afterCommit = [] ∧ classifyInboxConflict s.inbox identity = .ok commit.outcome ∨
    (∀ r ∈ s.inbox.rows, ¬r.Conflicts identity) ∧ commit.dispatched = true ∧
    dispatch frame s.outbox s.domain = .ok ⟨commit.outcome, commit.store.outbox, commit.store.domain,
    commit.afterCommit⟩ ∧ validateResult commit.outcome = .ok () ∧ commit.outcome.disposition ≠ .retryable ∧
    commit.store.inbox.rows = s.inbox.rows ++ [.completed frame identity receivedAt commit.outcome] := by
  unfold receiveTransaction at h
  split_ifs at h with hconf
  · simp only [ok_iff] at h
    obtain ⟨outcome, hclass, rfl⟩ := h
    exact .inl ⟨hconf, rfl, rfl, rfl, hclass⟩
  · simp only [dispatchFrame, ok_iff] at h
    obtain ⟨handled, hdisp, hval, hrtr, inbox, hcompl, rfl⟩ := h
    push Not at hconf
    have hkey : s.inbox.hasKey (identity.sourceStationPeerID, identity.idempotencyKey) = false := by
      rw [← Bool.not_eq_true, hasKey_iff]
      rintro ⟨r, hr, hid⟩
      exact hconf r hr (.inl hid)
    exact .inr ⟨hconf, rfl, hdisp, hval, hrtr, completeReceipt_eq_ok hkey hcompl⟩

variable [Digest] {config : ReceiverConfig} {reception : Reception δ κ}

section

variable (h : (receive config reception s).committed = some commit)
include h

lemma receive_eq_some : verifyFrame reception.frame config.policy reception.now config.verifier = .ok () ∧
    ∃ identity, newFrameIdentity reception.frame = .ok identity ∧
    receiveTransaction s reception.frame identity reception.now reception.dispatch = .ok commit := by
  unfold receive at h
  split at h
  · cases h
  · rename_i hver
    refine ⟨hver, ?_⟩
    split at h
    · cases h
    · simp only [unitOfWorkReceive] at h
      split_ifs at h
      split at h
      · cases h
      · rename_i identity hident
        refine ⟨identity, hident, ?_⟩
        split at h
        · cases h
        · cases h
        · rename_i commit' hcom
          rw [hcom]
          exact congrArg Except.ok (Option.some.inj h)

lemma store_eq_of_conflicts (hident : newFrameIdentity reception.frame = .ok identity)
    (hconf : ∃ r ∈ s.inbox.rows, r.Conflicts identity) : commit.store = s := by
  obtain ⟨-, identity', hident', htx⟩ := receive_eq_some h
  obtain rfl : identity = identity' := Except.ok.inj (hident.symm.trans hident')
  rcases receive_eq_ok htx with ⟨-, -, hstore, -⟩ | ⟨hnone, -⟩
  · exact hstore
  · obtain ⟨r, hr, hconflict⟩ := hconf
    exact absurd hconflict (hnone r hr)

lemma store_eq_of_not_dispatched (hdisp : commit.dispatched = false) : commit.store = s := by
  obtain ⟨-, identity, -, htx⟩ := receive_eq_some h
  rcases receive_eq_ok htx with ⟨-, -, hstore, -⟩ | ⟨-, htrue, -⟩
  · exact hstore
  · rw [htrue] at hdisp
    cases hdisp

lemma store_eq_of_fails (hfails : ∀ handled, reception.dispatch reception.frame s.outbox s.domain = .ok handled →
    validateResult handled.result = .ok () → handled.result.disposition = .retryable) : commit.store = s := by
  obtain ⟨-, identity, -, htx⟩ := receive_eq_some h
  rcases receive_eq_ok htx with
    ⟨-, -, hstore, -⟩ | ⟨-, -, hdisp, hval, hfinal, -⟩
  · exact hstore
  · exact absurd (hfails _ hdisp hval) hfinal

end

lemma receive_of_classify (hver : verifyFrame reception.frame config.policy reception.now
    config.verifier = .ok ()) (hnow : reception.now ≠ 0)
    (hkind : ∀ receiver, reception.registry reception.frame.payloadKind ≠ some (.ephemeral receiver))
    (hident : newFrameIdentity reception.frame = .ok identity)
    (hconf : ∃ r ∈ s.inbox.rows, r.Conflicts identity)
    (hclass : classifyInboxConflict s.inbox identity = .ok outcome)
    (hval : validateResult outcome = .ok ()) :
    (receive config reception s).response = .ok outcome := by
  unfold receive
  rw [hver]
  have hcom : receiveTransaction s reception.frame identity reception.now reception.dispatch =
      .ok { outcome, store := s, afterCommit := [], dispatched := false } := by
    rw [receiveTransaction, if_pos hconf, hclass]
    rfl
  -- the kind of the frame is not ephemeral, so the unit of work is called
  simp only [unitOfWorkReceive, if_neg hnow, hident, hcom]
  simp [checkedResult, response, hval, bind, Except.bind, pure, Except.pure]

end

/-! ### Receipts -/

/-- The answer to a frame whose receiver ran with this outcome. -/
def Result.replay (outcome : Result) : Result := match outcome.disposition with
  | .accepted | .duplicate => .duplicate
  | .terminal => .terminal outcome.errorCode
  | .payloadHashConflict | .unspecified | .retryable => .payloadHashConflict

structure Receipt [Digest] (inbox : Inbox) (frame : Frame) (outcome : Result) (identity : FrameIdentity)
    (r : InboxRecord) : Prop where
  mem : r ∈ inbox.rows
  identified : newFrameIdentity frame = .ok identity
  matches_identity : r.Matches identity
  disposition : r.disposition = outcome.disposition
  errorCode : r.errorCode = outcome.errorCode
  valid : validateResult outcome = .ok ()
  final : outcome.disposition ≠ .retryable

open InboxEvent

structure Receipts [Digest] (events : List (InboxEvent κ)) (s : Store δ) : Prop where
  stored : ∀ frame outcome afterCommit, .dispatched frame outcome afterCommit ∈ events →
    ∃ identity r, Receipt s.inbox frame outcome identity r
  once : ∀ key, events.countP (isDispatchOf key) ≤ if s.inbox.hasKey key then 1 else 0
  frameID_unique : ∀ r ∈ s.inbox.rows, ∀ r' ∈ s.inbox.rows, r.frameID = r'.frameID → r = r'

section

variable [Digest] {s t : Store δ} {events events' : List (InboxEvent κ)} {config : ReceiverConfig}
  {frame : Frame} {outcome : Result} {identity : FrameIdentity} {r : InboxRecord}

lemma Receipts.append (h : Receipts events s)
    (hevs : ∀ e ∈ events', ∀ key, isDispatchOf key e = false) : Receipts (events ++ events') s where
  stored frame outcome afterCommit hmem := by
    rcases mem_append.1 hmem with hmem | hmem
    · exact h.stored frame outcome afterCommit hmem
    · have hdisp := hevs _ hmem (frame.sourceStationPeerID, frame.idempotencyKey)
      simp [isDispatchOf] at hdisp
  once key := by
    have hnone : events'.countP (isDispatchOf key) = 0 := countP_eq_zero.2 fun e he => by simp [hevs e he key]
    rw [countP_append, hnone]
    exact h.once key
  frameID_unique := h.frameID_unique

lemma Receipts.dispatched {commit : Committed δ κ} {receivedAt : Time} (h : Receipts events s)
    (hident : newFrameIdentity frame = .ok identity) (hconf : ∀ r ∈ s.inbox.rows, ¬r.Conflicts identity)
    (hval : validateResult commit.outcome = .ok ()) (hfinal : commit.outcome.disposition ≠ .retryable)
    (hrows : commit.store.inbox.rows = s.inbox.rows ++ [.completed frame identity receivedAt commit.outcome]) :
    Receipts (events ++ [.dispatched frame commit.outcome commit.afterCommit]) commit.store := by
  have hold : ∀ r ∈ s.inbox.rows, r ∈ commit.store.inbox.rows := fun r hr => by
    rw [hrows]
    exact mem_append_left _ hr
  have hnew : InboxRecord.completed frame identity receivedAt commit.outcome ∈ commit.store.inbox.rows := by
    rw [hrows]
    exact mem_append_right _ mem_cons_self
  obtain ⟨hsrc, hkey, -⟩ := newFrameIdentity_eq_ok hident
  have hhasKey : ∀ key, s.inbox.hasKey key = true → commit.store.inbox.hasKey key = true := by
    intro key hkey
    obtain ⟨r, hr, hid⟩ := hasKey_iff.1 hkey
    exact hasKey_iff.2 ⟨r, hold r hr, hid⟩
  constructor
  · intro f outcome afterCommit hmem
    rcases mem_append.1 hmem with hmem | hmem
    · obtain ⟨identity', r, hrcpt⟩ := h.stored f outcome afterCommit hmem
      exact ⟨identity', r, { hrcpt with mem := hold r hrcpt.mem }⟩
    · obtain ⟨rfl, rfl, rfl⟩ : f = frame ∧ outcome = commit.outcome ∧ afterCommit = commit.afterCommit := by
        simpa using hmem
      exact ⟨identity, _, hnew, hident, ⟨rfl, rfl, rfl, rfl, rfl⟩, rfl, rfl, hval, hfinal⟩
  · intro key
    rw [countP_append, countP_singleton]
    have honce := h.once key
    by_cases hfr : (frame.sourceStationPeerID, frame.idempotencyKey) = key
    · -- there was no receipt under the key, and now there is one
      have hnone : s.inbox.hasKey key = false := by
        rw [← Bool.not_eq_true, hasKey_iff]
        rintro ⟨r, hr, hid⟩
        refine hconf r hr (.inl ?_)
        rw [hid, ← hfr, hsrc, hkey]
      have hsome : commit.store.inbox.hasKey key = true := by
        refine hasKey_iff.2 ⟨_, hnew, ?_⟩
        rw [← hfr, ← hsrc, ← hkey]
        rfl
      rw [hnone] at honce
      simp only [hsome, isDispatchOf, hfr, decide_true, if_true]
      simp only [Bool.false_eq_true, if_false] at honce
      omega
    · simp only [isDispatchOf, hfr, decide_false, Bool.false_eq_true]
      refine honce.trans ?_
      by_cases hs : s.inbox.hasKey key = true
      · simp [hs, hhasKey key hs]
      · simp [hs]
  · intro r hr r' hr' hid
    rw [hrows, mem_append, mem_singleton] at hr hr'
    rcases hr with hr | rfl <;> rcases hr' with hr' | rfl
    · exact h.frameID_unique r hr r' hr' hid
    · exact absurd (.inr hid) (hconf r hr)
    · exact absurd (.inr hid.symm) (hconf r' hr')
    · rfl

omit [Digest] in
lemma isDispatchOf_called (frame : Frame) (callbacks : List κ) :
    ∀ e ∈ callbacks.map (called frame), ∀ key, isDispatchOf key e = false := by
  intro e he key
  obtain ⟨c, -, rfl⟩ := mem_map.1 he
  rfl

omit [Digest] in
lemma isDispatchOf_replied (frame : Frame) (response : Except Error Result) :
    ∀ e ∈ [(replied frame response : InboxEvent κ)], ∀ key, isDispatchOf key e = false := by
  simp [isDispatchOf]

lemma Receipts.commit {reception : Reception δ κ} {commit : Committed δ κ} (h : Receipts events s)
    (hcom : (receive config reception s).committed = some commit) :
    Receipts (events ++ commit.events reception.frame) commit.store := by
  obtain ⟨-, identity, hident, htx⟩ := receive_eq_some hcom
  unfold Committed.events
  rcases receive_eq_ok htx with
    ⟨-, hdisp, hstore, -⟩ | ⟨hconf, hdisp, -, hval, hfinal, hrows⟩
  · rw [hdisp, hstore, if_neg (by decide), append_nil]
    exact h
  · rw [hdisp]
    exact h.dispatched hident hconf hval hfinal hrows

lemma Receipts.receives (h : Receipts events s) (hstep : Receives config s events' t) : Receipts (events ++ events') t := by
  cases hstep with
  | lost => rwa [append_nil]
  | refused reception hnone => exact h.append (isDispatchOf_replied _ _)
  | cut reception commit n hcom =>
    rw [← append_assoc]
    exact (h.commit hcom).append (isDispatchOf_called _ _)
  | completed reception commit hcom =>
    rw [← append_assoc, ← append_assoc]
    exact ((h.commit hcom).append (isDispatchOf_called _ _)).append (isDispatchOf_replied _ _)

variable {identity' : FrameIdentity}

lemma Receipt.conflicts (h : Receipt s.inbox frame outcome identity r) (hsame : identity'.frameID = identity.frameID ∨
    identity'.sourceStationPeerID = identity.sourceStationPeerID ∧
    identity'.idempotencyKey = identity.idempotencyKey) : r.Conflicts identity' := by
  obtain ⟨hsrc, hkey, hfr, -⟩ := h.matches_identity
  rcases hsame with hid | ⟨hid, hid'⟩
  · exact .inr (hfr.trans hid.symm)
  · exact .inl (Prod.ext (hsrc.trans hid.symm) (hkey.trans hid'.symm))

lemma classifyInboxConflict_of_receipt (h : Receipt s.inbox frame outcome identity r) :
    classifyInboxConflict s.inbox identity = .ok outcome.replay ∧ validateResult outcome.replay = .ok () := by
  have hkey : r.key = (identity.sourceStationPeerID, identity.idempotencyKey) :=
    Prod.ext h.matches_identity.1 h.matches_identity.2.1
  have hfd := find_eq_some.2 ⟨h.mem, hkey⟩
  have hval := h.valid
  have hfinal := h.final
  rw [classifyInboxConflict, hfd]
  simp only [replayResult, if_neg (not_not.2 h.matches_identity), h.disposition, h.errorCode, Result.replay]
  cases hdispo : outcome.disposition with
  | accepted | duplicate | payloadHashConflict => exact ⟨rfl, rfl⟩
  | terminal =>
    have hcode : outcome.errorCode ≠ .unspecified := by simpa [validateResult, hdispo] using hval
    exact ⟨rfl, failWhen_of_not hcode⟩
  | retryable => exact absurd hdispo hfinal
  | unspecified => simp [validateResult, hdispo] at hval

lemma classifyInboxConflict_of_ne (hrcpts : Receipts events s)
    (h : Receipt s.inbox frame outcome identity r) (hsame : identity'.frameID = identity.frameID ∨
    identity'.sourceStationPeerID = identity.sourceStationPeerID ∧ identity'.idempotencyKey = identity.idempotencyKey)
    (hne : identity'.canonicalSHA256 ≠ identity.canonicalSHA256) :
    classifyInboxConflict s.inbox identity' = .ok .payloadHashConflict := by
  have hmat : ¬r.Matches identity' := fun hmat => hne (hmat.2.2.2.2.symm.trans h.matches_identity.2.2.2.2)
  have hconf := h.conflicts hsame
  unfold classifyInboxConflict
  split
  · -- the row under the key: it is `r`, or it has another frame id
    rename_i r' hfd
    obtain ⟨hr', hid'⟩ := find_eq_some.1 hfd
    have hmat' : ¬r'.Matches identity' := by
      intro hmat'
      rcases hconf with hid | hid
      · exact hmat (KeyedTable.eq_of_key_eq hr' h.mem (hid'.trans hid.symm) ▸ hmat')
      · exact hmat (hrcpts.frameID_unique r' hr' r h.mem (hmat'.2.2.1.trans hid.symm) ▸ hmat')
    rw [replayResult, if_pos hmat']
  · rename_i hnone
    rcases hconf with hid | hid
    · rw [find_eq_some.2 ⟨h.mem, hid⟩] at hnone
      cases hnone
    · split
      · rename_i r' hfd
        have hid' : r'.frameID = identity'.frameID := by simpa using find?_some hfd
        rw [hrcpts.frameID_unique r' (mem_of_find?_eq_some hfd) r h.mem (hid'.trans hid.symm),
          replayResult, if_pos hmat]
      · rename_i hnone'
        rw [find?_eq_none] at hnone'
        exact absurd (decide_eq_true hid) (hnone' r h.mem)

end

/-! ### Callbacks -/

/-- Every callback comes after the commit of the transaction in which it was registered. -/
def CallbacksFollow (events : List (InboxEvent κ)) : Prop :=
  ∀ before frame c after, events = before ++ .called frame c :: after →
    ∃ outcome callbacks, .dispatched frame outcome callbacks ∈ before ∧ c ∈ callbacks

section

variable {events events' : List (InboxEvent κ)} {frame : Frame}

lemma CallbacksFollow.append (h : CallbacksFollow events) (h' : CallbacksFollow events') :
    CallbacksFollow (events ++ events') := by
  intro before frame c after heq
  rcases append_eq_append_iff.1 heq with ⟨rest, rfl, hrest⟩ | ⟨rest, hrest, hrest'⟩
  · obtain ⟨outcome, callbacks, hmem, hc⟩ := h' rest frame c after hrest
    exact ⟨outcome, callbacks, mem_append_right _ hmem, hc⟩
  · cases rest with
    | nil =>
      obtain ⟨outcome, callbacks, hmem, hc⟩ := h' [] frame c after hrest'.symm
      simp at hmem
    | cons e rest =>
      obtain ⟨rfl, -⟩ := cons.inj hrest'
      exact h before frame c rest hrest

lemma callbacksFollow_replied (response : Except Error Result) :
    CallbacksFollow [(.replied frame response : InboxEvent κ)] := by
  intro before frame' c after heq
  cases before with
  | nil => cases heq
  | cons e before =>
    have hnil := (cons.inj heq).2
    simp at hnil

lemma callbacksFollow_commit {commit : Committed δ κ} {callbacks : List κ} (hsub : ∀ c ∈ callbacks, c ∈ commit.afterCommit)
    (hdisp : commit.dispatched = false → commit.afterCommit = []) :
    CallbacksFollow (commit.events frame ++ callbacks.map (.called frame)) := by
  intro before frame' c after heq
  have hmem : called frame' c ∈ commit.events frame ++ callbacks.map (.called frame) := by
    rw [heq]
    simp
  unfold events at heq hmem
  cases hcase : commit.dispatched with
  | false =>
    have hcallbacks : callbacks = [] := by
      refine eq_nil_iff_forall_not_mem.2 fun c hc => ?_
      have hc := hsub c hc
      rw [hdisp hcase] at hc
      cases hc
    rw [hcallbacks] at hmem
    simp at hmem
  | true =>
    rw [hcase] at heq hmem
    obtain ⟨rfl, hc⟩ : frame' = frame ∧ c ∈ callbacks := by
      rcases mem_append.1 hmem with hmem | hmem
      · simp at hmem
      · obtain ⟨c', hc', he⟩ := mem_map.1 hmem
        cases he
        exact ⟨rfl, hc'⟩
    refine ⟨commit.outcome, commit.afterCommit, ?_, hsub c hc⟩
    -- the first event is the commit, so it stands before the callback
    cases before with
    | nil => cases heq
    | cons e before =>
      rw [← (cons.inj heq).1]
      exact mem_cons_self

lemma callbacksFollow_receives [Digest] {config : ReceiverConfig} {s t : Store δ}
    (h : Receives config s events t) : CallbacksFollow events := by
  have hnone : ∀ {reception : Reception δ κ} {commit : Committed δ κ},
      (receive config reception s).committed = some commit → commit.dispatched = false → commit.afterCommit = [] := by
    intro reception commit hcom hdisp
    obtain ⟨-, identity, -, htx⟩ := receive_eq_some hcom
    rcases receive_eq_ok htx with ⟨-, -, -, hnil, -⟩ | ⟨-, htrue, -⟩
    · exact hnil
    · rw [htrue] at hdisp
      cases hdisp
  cases h with
  | lost =>
    intro before frame c after heq
    simp at heq
  | refused reception hcmt => exact callbacksFollow_replied _
  | cut reception commit n hcom => exact callbacksFollow_commit (fun c => mem_of_mem_take) (hnone hcom)
  | completed reception commit hcom =>
    exact (callbacksFollow_commit (fun c => id) (hnone hcom)).append (callbacksFollow_replied _)

end

/-- In every run of the inbox from an empty one: a receiver runs in a committed transaction at most once for a source
and an idempotency key; a step in which no receiver does leaves the tables as they are, and so does a receiver that
fails or asks for a retry; a frame with the frame id or the key of a frame whose receiver ran changes nothing; if it is
verified, the same frame is answered with the outcome of that time, accepted as duplicate, and a frame with another hash
is a conflict; and callbacks run after the commit of the transaction in which they were registered. -/
theorem frames_handled_once [Digest] {config : ReceiverConfig} {s₀ s : Store δ}
    {events : List (InboxEvent κ)} (hinbox : s₀.inbox = .empty)
    (h : Trace (Receives config) s₀ events s) :
    (∀ key, events.countP (isDispatchOf key) ≤ 1) ∧ (∀ events' t, Receives config s events' t →
        (∀ key, events'.countP (isDispatchOf (κ := κ) key) = 0) → t = s) ∧
      (∀ reception : Reception δ κ, (∀ handled, reception.dispatch reception.frame s.outbox s.domain = .ok handled →
          validateResult handled.result = .ok () → handled.result.disposition = .retryable) →
        ∀ commit, (receive config reception s).committed = some commit → commit.store = s) ∧
      (∀ frame outcome callbacks, .dispatched frame outcome callbacks ∈ events →
        ∀ reception : Reception δ κ, reception.frame.frameID = frame.frameID ∨
            reception.frame.sourceStationPeerID = frame.sourceStationPeerID ∧
              reception.frame.idempotencyKey = frame.idempotencyKey →
          (∀ commit, (receive config reception s).committed = some commit → commit.store = s) ∧ (reception.now ≠ 0 →
              (∀ receiver, reception.registry reception.frame.payloadKind ≠ some (.ephemeral receiver)) →
              verifyFrame reception.frame config.policy reception.now config.verifier = .ok () →
              (reception.frame = frame → (receive config reception s).response = .ok outcome.replay) ∧
                (reception.frame.canonicalSHA256 ≠ frame.canonicalSHA256 →
                  (receive config reception s).response = .ok .payloadHashConflict))) ∧
      CallbacksFollow events := by
  have hrcpts : Receipts events s := by
    have hstart : Receipts ([] : List (InboxEvent κ)) s₀ := ⟨by simp, by simp, by simp [hinbox]⟩
    have hinv := Trace.invariant (fun seen s events t hseen hstep => hseen.receives hstep) h hstart
    exact hinv
  refine ⟨fun key => ?_, fun events' t hstep hnone => ?_, fun reception hfails commit hcommit => ?_,
    fun frame outcome callbacks hmem reception hsame => ?_, ?_⟩
  · refine (hrcpts.once key).trans ?_
    split <;> decide
  · have hquiet : ∀ {reception : Reception δ κ} {commit : Committed δ κ} {rest : List (InboxEvent κ)},
        (receive config reception s).committed = some commit →
        (∀ key, (commit.events reception.frame ++ rest).countP (isDispatchOf key) = 0) → commit.store = s := by
      intro reception commit rest hcommit hnone
      refine store_eq_of_not_dispatched hcommit (Bool.eq_false_iff.2 fun htrue => ?_)
      have hnone := hnone (reception.frame.sourceStationPeerID, reception.frame.idempotencyKey)
      rw [Committed.events, htrue] at hnone
      simp [isDispatchOf] at hnone
    cases hstep with
    | lost | refused => rfl
    | cut reception commit n hcommit => exact hquiet hcommit hnone
    | completed reception commit hcommit =>
      simp only [append_assoc] at hnone
      exact hquiet hcommit hnone
  · exact store_eq_of_fails hcommit hfails
  · obtain ⟨identity, r, hrcpt⟩ := hrcpts.stored frame outcome callbacks hmem
    obtain ⟨hsrc, hkey, hframe, -, hcanon⟩ := newFrameIdentity_eq_ok hrcpt.identified
    refine ⟨fun commit hcommit => ?_, fun hnow hkind hver => ⟨?_, fun hne => ?_⟩⟩
    · obtain ⟨-, identity', hident', -⟩ := receive_eq_some hcommit
      obtain ⟨hsrc', hkey', hframe', -⟩ := newFrameIdentity_eq_ok hident'
      rw [← hsrc, ← hkey, ← hframe, ← hsrc', ← hkey', ← hframe'] at hsame
      exact store_eq_of_conflicts hcommit hident' ⟨r, hrcpt.mem, hrcpt.conflicts hsame⟩
    · rintro rfl
      obtain ⟨hclass, hvalid⟩ := classifyInboxConflict_of_receipt hrcpt
      exact receive_of_classify hver hnow hkind hrcpt.identified
        ⟨r, hrcpt.mem, hrcpt.conflicts (.inl rfl)⟩ hclass hvalid
    · have hvalidate : validateFrame reception.frame config.policy reception.now true true = .ok () := by
        simp only [verifyFrame, ok_iff] at hver
        exact hver.1
      obtain ⟨identity', hident'⟩ := exists_newFrameIdentity hvalidate
      obtain ⟨hsrc', hkey', hframe', -, hcanon'⟩ := newFrameIdentity_eq_ok hident'
      rw [← hsrc, ← hkey, ← hframe, ← hsrc', ← hkey', ← hframe'] at hsame
      rw [hcanon, hcanon'] at hne
      exact receive_of_classify hver hnow hkind hident' ⟨r, hrcpt.mem, hrcpt.conflicts hsame⟩
        (classifyInboxConflict_of_ne hrcpts hrcpt hsame fun heq => hne (congrArg _ heq)) rfl
  · have hnil : CallbacksFollow ([] : List (InboxEvent κ)) := by
      intro before frame c after heq
      simp at heq
    have hfollow := Trace.invariant (P := fun events _ => CallbacksFollow events)
      (fun seen s events t hseen hstep => hseen.append (callbacksFollow_receives hstep)) h hnil
    exact hfollow

attribute [local instance] Chat.checksum

def signedFrame (source frameID idempotencyKey : String) : Frame where
  formatVersion := 1
  frameID := frameID
  sourceStationPeerID := source
  targetStationPeerID := "station-b"
  idempotencyKey := idempotencyKey
  payloadKind := .socialRelationshipEvent
  payloadID := "event"
  orderingKey := "lane"
  orderingSequence := 1
  opaquePayload := [1]
  payloadSHA256 := payloadSHA256 [1]
  issuedAt := some { seconds := -62135596799, nanos := 0 }
  expiresAt := some { seconds := -62135596700, nanos := 0 }
  signingKeyID := "key"
  stationSignature := [1]
  traceID := ""

/-- The Station `station-b`, which trusts every signature. -/
def openStation : ReceiverConfig where
  policy := defaultFramePolicy "station-b"
  verifier := fun _ _ _ _ => true

/-- A frame that comes to a Station whose receivers accept everything and count it. -/
def acceptedAt (frame : Frame) (now : Time) : Reception ℕ Unit where
  frame := frame
  now := now
  registry := fun _ => some (.durable fun _ outbox domain =>
    .ok { result := .accepted, outbox, domain := domain + 1, afterCommit := [] })
  overloaded := false
  fails := fun _ => false

def emptyStore : Store ℕ := { inbox := .empty, outbox := .empty, domain := 0 }

lemma exists_first_run : ∃ events s, Trace (Receives openStation) emptyStore events s ∧
    (.dispatched (signedFrame "station-a" "frame-1" "key-1") .accepted [] : InboxEvent Unit) ∈ events := by
  have hcmt : (receive openStation (acceptedAt (signedFrame "station-a" "frame-1" "key-1") 2000000000)
    emptyStore).committed.map (fun c => (c.dispatched, c.outcome, c.afterCommit)) =
        some (true, .accepted, []) := by decide
  obtain ⟨commit, hcom, heq⟩ := Option.map_eq_some_iff.1 hcmt
  simp only [Prod.mk.injEq] at heq
  obtain ⟨hdisp, hout, haft⟩ := heq
  refine ⟨_, commit.store, .single (.completed emptyStore _ commit hcom), ?_⟩
  rw [events, hdisp, hout, haft]
  exact mem_cons_self

/-- The frame arrives again and is a duplicate. -/
theorem second_delivery_is_duplicate :
    ∃ (events : List (InboxEvent Unit)) (s : Store ℕ), Trace (Receives openStation) emptyStore events s ∧
      events.countP (isDispatchOf ("station-a", "key-1")) ≤ 1 ∧
      (receive openStation (acceptedAt (signedFrame "station-a" "frame-1" "key-1") 3000000000) s).response =
        .ok .duplicate := by
  obtain ⟨events, s, htrace, hmem⟩ := exists_first_run
  obtain ⟨honce, -, -, hreplay, -⟩ := frames_handled_once rfl htrace
  refine ⟨events, s, htrace, honce _, ?_⟩
  refine ((hreplay _ _ _ hmem (acceptedAt _ 3000000000) (.inl rfl)).2 (by decide) nofun ?_).1 rfl
  decide

/-- The frame arrives again after it has expired. Its receiver had accepted it, and the answer is a rejection. -/
theorem expired_delivery_is_rejected : ∃ events s, Trace (Receives openStation) emptyStore events s ∧
      (.dispatched (signedFrame "station-a" "frame-1" "key-1") .accepted [] : InboxEvent Unit) ∈ events ∧
      (receive openStation (acceptedAt (signedFrame "station-a" "frame-1" "key-1") 200000000000) s).response =
        .ok (.terminal .expired) := by
  obtain ⟨events, s, htrace, hmem⟩ := exists_first_run
  refine ⟨events, s, htrace, hmem, ?_⟩
  rfl

end PeersTouch.Federation
