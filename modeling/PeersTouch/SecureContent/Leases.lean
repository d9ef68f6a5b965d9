import PeersTouch.Lib.Machine
import PeersTouch.SecureContent.Operation

/-!
# Leases of operations

The runs of one operation: acquisitions, completions, recoveries after a crash and decisions of a readback,
in any order, by workers whose leases may be over. Every accepted step is one of a few moves between the
states (`OperationRecord.Moves`), and the theorem about runs (`operation_leases`) follows from them.
-/

namespace PeersTouch.SecureContent

open Lib Chat OperationRecord ReadbackDecision

inductive Step where
  | acquire (sessionGeneration : ℕ) (cause : DispatchCause) (nowUnixMs : ℤ)
  | complete (fence : OperationFence) (completion : OperationCompletion) (nowUnixMs : ℤ)
  | recoverInterrupted (nowUnixMs : ℤ)
  | applyReadback (fence : OperationFence) (decision : ReadbackDecision) (nowUnixMs : ℤ)

namespace Step

def run (step : Step) (record : OperationRecord) : Except OperationFailure OperationRecord :=
  match step with
  | acquire session cause now => OperationLease.record <$> acquireOperation record session cause now
  | complete fence completion now => completeOperation record fence completion now
  | recoverInterrupted now => recoverInterruptedOperation record now
  | applyReadback fence decision now => applyReadbackDecision record fence decision now

def fence : Step → Option OperationFence
  | complete fence _ _ | applyReadback fence _ _ => some fence
  | acquire _ _ _ | recoverInterrupted _ => none

def isAcquisition : Step → Bool
  | acquire _ _ _ => true
  | _ => false

/-- The retry of an operation whose outcome was unknown, as a readback allows it. -/
def isAuthorizedRetry : Step → Bool
  | acquire _ cause _ => cause = .readbackAuthorizedRetry
  | _ => false

end Step

/-! ### What a step does -/

def OperationState.isFinal : OperationState → Bool
  | .committed | .terminal | .cancelled => true
  | _ => false

inductive OperationRecord.Moves (step : Step) (r r' : OperationRecord) : Prop
  | acquired (acquisition : step.isAcquisition = true) (state : r'.state = .inFlight)
      (from_open : r.state.isFinal = false ∧ r.state ≠ .committedPendingReadback)
      (authorized : r.state = .unknownOutcome → step.isAuthorizedRetry = true)
      (leaseGeneration : r'.leaseGeneration = r.leaseGeneration + 1)
      (attemptCount : r'.attemptCount = r.attemptCount + 1)
  /-- The dispatch is over, or its outcome is looked up. -/
  | advanced (acquisition : step.isAcquisition = false) (from_open : r.state.isFinal = false)
      (next : r.state = .inFlight ∧ r'.state ≠ .inFlight ∨
        r.state = .unknownOutcome ∧ (r'.state = .unknownOutcome ∨ r'.state.isFinal = true) ∨
        r.state = .committedPendingReadback ∧
          (r'.state = .committedPendingReadback ∨ r'.state.isFinal = true))
      (leaseGeneration : r'.leaseGeneration = r.leaseGeneration)
      (attemptCount : r'.attemptCount = r.attemptCount)
  | kept (acquisition : step.isAcquisition = false) (same : r' = r)

variable {r : OperationRecord}
  {r' : OperationRecord}

lemma validated_eq_ok : r.validated = .ok r' ↔ r.validate = .ok () ∧ r = r' := by simp [validated]

lemma checkedSucc_eq_some {bits n m : ℕ} (h : checkedSucc bits n = some m) : m = n + 1 := by
  unfold checkedSucc at h
  split_ifs at h
  exact (Option.some.inj h).symm

variable {now : ℤ} {cause : DispatchCause} {completion : OperationCompletion}
  {fence : OperationFence} {decision : ReadbackDecision}

lemma allows_eq_true (h : r.allows cause now = true) : (r.state.isFinal = false ∧ r.state ≠ .committedPendingReadback) ∧
    (r.state = .unknownOutcome → cause = .readbackAuthorizedRetry) := by
  unfold allows at h
  cases hst : r.state <;> simp_all [OperationState.isFinal]

lemma acquireOperation_eq_ok {session : ℕ} {lease : OperationLease} (h : acquireOperation r session cause now = .ok lease) :
    lease.record.validate = .ok () ∧ r.Moves (.acquire session cause now) lease.record := by
  unfold acquireOperation at h
  simp only [ok_iff, validated_eq_ok, Bool.not_eq_false] at h
  obtain ⟨-, -, hall, generation, hgen, attempts, htries, _, ⟨hval, rfl⟩, rfl⟩ := h
  obtain ⟨hopen, hauth⟩ := allows_eq_true hall
  refine ⟨hval, .acquired rfl rfl hopen (fun hunk => ?_) (checkedSucc_eq_some hgen)
    (checkedSucc_eq_some htries)⟩
  exact decide_eq_true (hauth hunk)

lemma outcome_eq_ok {deadline : ℤ} {state : OperationState}
    (h : completion.outcome now = .ok (state, deadline)) : state ≠ .inFlight := by
  rintro rfl
  cases completion with
  | retryAt deadline' =>
    simp only [OperationCompletion.outcome] at h
    split_ifs at h
    cases h
  | unknownOutcome | committedPendingReadback | committed | terminal | cancelled => cases h

lemma completeOperation_eq_ok (h : completeOperation r fence completion now = .ok r') :
    validateFence r fence = .ok () ∧ r'.validate = .ok () ∧ r.Moves (.complete fence completion now) r' := by
  unfold completeOperation at h
  simp only [ok_iff, validated_eq_ok, not_or, not_not, Prod.exists] at h
  obtain ⟨-, hfence, ⟨hst, -⟩, state, deadline, hout, hval, rfl⟩ := h
  refine ⟨hfence, hval, .advanced rfl ?_ (.inl ⟨hst, outcome_eq_ok hout⟩) rfl rfl⟩
  rw [hst]
  rfl

lemma recoverOperation_eq_ok (h : recoverInterruptedOperation r now = .ok r') :
    r'.validate = .ok () ∧ r.Moves (.recoverInterrupted now) r' := by
  unfold recoverInterruptedOperation at h
  simp only [ok_iff] at h
  obtain ⟨hval, h⟩ := h
  split_ifs at h with hst
  · obtain rfl := pure_eq_ok.1 h
    exact ⟨hval, .kept rfl rfl⟩
  · rw [not_not] at hst
    obtain ⟨hval, rfl⟩ := validated_eq_ok.1 h
    refine ⟨hval, .advanced rfl ?_ (.inl ⟨hst, by simp⟩) rfl rfl⟩
    rw [hst]
    rfl

lemma advance_eq_ok (h : decision.advance r now = .ok r') : (r'.state = r.state ∨ r'.state.isFinal = true) ∧
    r'.leaseGeneration = r.leaseGeneration ∧ r'.attemptCount = r.attemptCount := by
  cases decision with
  | commitFromReadback receipt =>
    cases h
    exact ⟨.inr rfl, rfl, rfl⟩
  | retryExactCommand =>
    simp only [advance, ok_iff] at h
    obtain ⟨-, rfl⟩ := h
    exact ⟨.inl rfl, rfl, rfl⟩
  | keepUnknown retryAfter | keepCommittedPendingReadback retryAfter =>
    simp only [advance, keepUntil, ok_iff] at h
    obtain ⟨-, -, rfl⟩ := h
    exact ⟨.inl rfl, rfl, rfl⟩
  | terminalIntegrityFailure detail =>
    cases h
    exact ⟨.inr rfl, rfl, rfl⟩

lemma applyReadbackDecision_eq_ok (h : applyReadbackDecision r fence decision now = .ok r') :
    validateFence r fence = .ok () ∧ r'.validate = .ok () ∧ r.Moves (.applyReadback fence decision now) r' := by
  unfold applyReadbackDecision at h
  simp only [ok_iff, validated_eq_ok, not_or, not_and_or, not_not] at h
  obtain ⟨-, hfence, ⟨hst, -⟩, advanced, hadv, hval, rfl⟩ := h
  obtain ⟨hnext, hls, htry⟩ := advance_eq_ok hadv
  refine ⟨hfence, hval, .advanced rfl ?_ (.inr ?_) hls htry⟩
  · rcases hst with hst | hst <;> rw [hst] <;> rfl
  · rcases hst with hst | hst
    · exact .inl ⟨hst, hnext.imp_left fun h => h.trans hst⟩
    · exact .inr ⟨hst, hnext.imp_left fun h => h.trans hst⟩

lemma Step.run_eq_ok {step : Step} (h : step.run r = .ok r') : r'.validate = .ok () ∧ r.Moves step r' ∧
    ∀ fence, step.fence = some fence → validateFence r fence = .ok () := by
  cases step with
  | acquire session cause now =>
    obtain ⟨lease, hls, rfl⟩ := map_eq_ok.1 h
    obtain ⟨hval, hmv⟩ := acquireOperation_eq_ok hls
    exact ⟨hval, hmv, nofun⟩
  | complete fence completion now =>
    obtain ⟨hfence, hval, hmv⟩ := completeOperation_eq_ok h
    exact ⟨hval, hmv, fun _ hf => Option.some.inj hf ▸ hfence⟩
  | recoverInterrupted now =>
    obtain ⟨hval, hmv⟩ := recoverOperation_eq_ok h
    exact ⟨hval, hmv, nofun⟩
  | applyReadback fence decision now =>
    obtain ⟨hfence, hval, hmv⟩ := applyReadbackDecision_eq_ok h
    exact ⟨hval, hmv, fun _ hf => Option.some.inj hf ▸ hfence⟩

/-! ### Runs -/

section

variable {r r' : OperationRecord} {step : Step}

namespace OperationRecord.Moves

lemma final (h : r.Moves step r') (hfinal : r.state.isFinal = true) : r'.state = r.state := by
  cases h with
  | acquired _ _ hopen => rw [hopen.1] at hfinal; cases hfinal
  | advanced _ hopen => rw [hopen] at hfinal; cases hfinal
  | kept _ hsame => rw [hsame]

/-- An operation that was committed, if only according to its dispatch, is not dispatched again. -/
lemma dispatched (h : r.Moves step r') (hr : r.state = .committedPendingReadback ∨ r.state.isFinal = true) :
    r'.state = .committedPendingReadback ∨ r'.state.isFinal = true := by
  rcases hr with hr | hr
  · cases h with
    | acquired _ _ hopen => exact absurd hr hopen.2
    | advanced _ _ hnext =>
      rcases hnext with ⟨hst, -⟩ | ⟨hst, -⟩ | ⟨-, hnext⟩
      · exact absurd (hr.symm.trans hst) nofun
      · exact absurd (hr.symm.trans hst) nofun
      · exact hnext
    | kept _ hsame => exact .inl (hsame ▸ hr)
  · exact .inr (h.final hr ▸ hr)

/-- An operation whose outcome is unknown stays so, or ends, until a readback allows a retry. -/
lemma unknown (h : r.Moves step r') (hstep : step.isAuthorizedRetry = false)
    (hr : r.state = .unknownOutcome ∨ r.state.isFinal = true) : r'.state = .unknownOutcome ∨ r'.state.isFinal = true := by
  rcases hr with hr | hr
  · cases h with
    | acquired _ _ _ hauth =>
      rw [hauth hr] at hstep
      cases hstep
    | advanced _ _ hnext =>
      rcases hnext with ⟨hst, -⟩ | ⟨-, hnext⟩ | ⟨hst, -⟩
      · exact absurd (hr.symm.trans hst) nofun
      · exact hnext
      · exact absurd (hr.symm.trans hst) nofun
    | kept _ hsame => exact .inl (hsame ▸ hr)
  · exact .inr (h.final hr ▸ hr)

lemma counts (h : r.Moves step r') : r'.leaseGeneration = r.leaseGeneration + (if step.isAcquisition then 1 else 0) ∧
    r'.attemptCount = r.attemptCount + if step.isAcquisition then 1 else 0 := by
  cases h with
  | acquired hacq _ _ _ hls htry =>
    rw [if_pos hacq]
    exact ⟨hls, htry⟩
  | advanced hacq _ _ hls htry =>
    rw [if_neg (Bool.eq_false_iff.1 hacq)]
    exact ⟨hls, htry⟩
  | kept hacq hsame =>
    rw [if_neg (Bool.eq_false_iff.1 hacq), hsame]
    exact ⟨rfl, rfl⟩

end OperationRecord.Moves

lemma runAll_validate (hr : r.validate = .ok ()) (steps : List Step) : (runAll Step.run r steps).validate = .ok () :=
  runAll_invariant (f := Step.run) (P := fun y => y.validate = .ok ()) (fun _ _ _ _ h => (Step.run_eq_ok h).1) hr steps

lemma runAll_final (hr : r.state.isFinal = true) (steps : List Step) : (runAll Step.run r steps).state = r.state := by
  refine runAll_invariant (f := Step.run) (P := fun y => y.state = r.state) (fun y step z hy h => ?_) rfl steps
  exact ((Step.run_eq_ok h).2.1.final (hy ▸ hr)).trans hy

lemma runAll_dispatched (hr : r.state = .committedPendingReadback ∨ r.state.isFinal = true)
    (steps : List Step) : (runAll Step.run r steps).state ≠ .inFlight := by
  have h := runAll_invariant (f := Step.run) (fun _ _ _ hy h => (Step.run_eq_ok h).2.1.dispatched hy) hr steps
  intro hflight
  rw [hflight] at h
  rcases h with h | h <;> cases h

lemma runAll_unknown (hr : r.state = .unknownOutcome) {steps : List Step}
    (hsteps : ∀ step ∈ steps, step.isAuthorizedRetry = false) : (runAll Step.run r steps).state ≠ .inFlight := by
  have h := runAll_invariant_of_mem
    (fun step hstep _ _ hy h => (Step.run_eq_ok h).2.1.unknown (hsteps step hstep) hy) (.inl hr)
  intro hflight
  rw [hflight] at h
  rcases h with h | h <;> cases h

/-- A fence of an earlier lease does not pass. -/
lemma Step.refused (hfence : step.fence = some fence)
    (hlt : fence.leaseGeneration < r.leaseGeneration) : ∃ e, step.run r = .error e := by
  cases h : step.run r with
  | error e => exact ⟨e, rfl⟩
  | ok r' =>
    have hpasses := (Step.run_eq_ok h).2.2 fence hfence
    simp only [validateFence, ok_iff, not_not] at hpasses
    exact absurd hpasses.2.2 (Nat.ne_of_gt hlt)

end

/-- In every run of a new operation, for a record `x` of the run and a later one `y`: `y` is valid; an
accepted step raises the lease generation and the attempt count by one if it is an acquisition and leaves
them otherwise; if `x` is committed, terminal or cancelled, so is `y`; if `x` was committed pending its
readback, `y` is not in flight; if the outcome of `x` was unknown, `y` is in flight only if a readback has
allowed a retry in between; and once there was an acquisition after `x`, every step with the fence of `x` is
refused. -/
theorem operation_leases [Digest] {operationID commandID : String} {kind : OperationKind}
    {state : OperationState} {commandBytes : Bytes} {now : ℤ} {first : OperationRecord}
    (h : new operationID commandID kind state commandBytes now = .ok first)
    (before after : List Step) {x y : OperationRecord}
    (hx : x = runAll Step.run first before) (hy : y = runAll Step.run x after) :
    y.validate = .ok () ∧ (∀ (step : Step) y', step.run y = .ok y' →
        y'.leaseGeneration = y.leaseGeneration + (if step.isAcquisition then 1 else 0) ∧
          y'.attemptCount = y.attemptCount + if step.isAcquisition then 1 else 0) ∧
      (x.state.isFinal = true → y.state = x.state) ∧
      (x.state = .committedPendingReadback → y.state ≠ .inFlight) ∧
      (x.state = .unknownOutcome → (∀ step ∈ after, step.isAuthorizedRetry = false) → y.state ≠ .inFlight) ∧
      (x.leaseGeneration < y.leaseGeneration → ∀ step : Step, step.fence = some x.fence →
        (∃ e, step.run y = .error e) ∧ settle Step.run y step = y) := by
  have hfirst : first.validate = .ok () := by
    simp only [new, validateCommandBytes, ok_iff] at h
    obtain ⟨-, ⟨hvalid, -⟩, rfl⟩ := h
    exact hvalid
  have hxvalid := runAll_validate hfirst before
  rw [← hx] at hxvalid
  subst hy
  refine ⟨runAll_validate hxvalid after, fun step y' hstep => (Step.run_eq_ok hstep).2.1.counts,
    fun hfinal => runAll_final hfinal after, fun hpending => runAll_dispatched (.inl hpending) after,
    fun hunknown hsteps => runAll_unknown hunknown hsteps, fun hlt step hfence => ?_⟩
  obtain ⟨e, he⟩ := Step.refused hfence hlt
  exact ⟨⟨e, he⟩, settle_of_error he⟩

attribute [local instance] Chat.checksum

/-- A submission as the user has asked for it. -/
def submission : OperationRecord where
  operationID := "submit-1"
  commandID := "command-1"
  kind := .ownerSubmission
  state := .pending
  commandSHA256 := hashBytes [1]
  sessionGeneration := 0
  leaseGeneration := 0
  attemptCount := 0
  nextAttemptAtUnixMs := 0
  updatedAtUnixMs := 1

/-- The worker that dispatches the submission is lost. -/
def lostDispatch : List Step := [.acquire 1 .explicitUserAction 2, .recoverInterrupted 3]

/-- A readback finds nothing, and a second worker dispatches the submission. -/
def retriedDispatch : List Step := [.acquire 1 .readbackAuthorizedRetry 4]

set_option maxRecDepth 10000 in
/-- The lost worker comes back after the retry, and its completion is refused. -/
theorem lost_worker_is_refused : (runAll Step.run submission lostDispatch).state = .unknownOutcome ∧
      (runAll Step.run submission (lostDispatch ++ retriedDispatch)).state = .inFlight ∧
      ∃ e, (Step.complete (runAll Step.run submission lostDispatch).fence .committed 5).run
        (runAll Step.run submission (lostDispatch ++ retriedDispatch)) = .error e := by
  refine ⟨by decide, by decide, ?_⟩
  have h : new "submit-1" "command-1" .ownerSubmission .pending [1] 1 = .ok submission := by decide
  refine ((operation_leases h lostDispatch retriedDispatch rfl rfl).2.2.2.2.2 ?_ _ rfl).1
  decide

end PeersTouch.SecureContent
