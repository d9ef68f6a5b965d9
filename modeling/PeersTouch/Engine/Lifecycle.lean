import PeersTouch.Chat.ValueObject
import PeersTouch.Lib.Machine

/-!
# The lifecycle of the messaging engine

`messaging-core/src/engine/lifecycle.rs`. A record says which worker owns the engine of an endpoint.
An activation takes the next lifecycle generation and the next worker generation, and the pair is the
fence that the worker must show with every operation until the engine has stopped.

The operations are functions from a record to the next one, or to an error; the caller keeps the old
record when it gets an error. A recovery after a crash is one of the operations: it needs no fence
and leaves a record that only a new activation or a stop can use.
-/

namespace PeersTouch.Engine

open Lib Chat

inductive EnginePhase where
  | inactive | starting | active | suspended | stopping | failed
deriving DecidableEq

inductive EngineLifecycleErrorCode where
  | invalidRecord | invalidTransition | staleLifecycleGeneration | lostWorkerLease | cancelled
deriving DecidableEq

structure EngineLifecycleError where
  code : EngineLifecycleErrorCode
  detail : String
deriving DecidableEq

def invalidRecord (detail : String) : EngineLifecycleError := { code := .invalidRecord, detail }

def invalidTransition (detail : String) : EngineLifecycleError := { code := .invalidTransition, detail }

structure CryptoEndpoint where
  (ptid deviceID : String)
deriving DecidableEq

def CryptoEndpoint.validate (endpoint : CryptoEndpoint) : Except String Unit :=
  failWhen (trimSpace endpoint.ptid = "" ∨ trimSpace endpoint.deviceID = "") "crypto endpoint requires PTID and device ID"

structure EngineLifecycleRecord where
  endpoint : CryptoEndpoint
  stationPeerID : String
  phase : EnginePhase
  (lifecycleGeneration workerGeneration consumerEpoch : ℕ)
  updatedAtUnixMs : ℤ
deriving DecidableEq

structure EngineFence where
  (lifecycleGeneration workerGeneration : ℕ)

def validIdentifier (value : String) : Prop := value ≠ "" ∧ trimSpace value = value
deriving Decidable

namespace EngineLifecycleRecord

def fence (r : EngineLifecycleRecord) : EngineFence where
  lifecycleGeneration := r.lifecycleGeneration
  workerGeneration := r.workerGeneration

def validatePhase (r : EngineLifecycleRecord) : Except EngineLifecycleError Unit :=
  match r.phase with
  | .inactive =>
    failWhen (r.workerGeneration ≠ 0 ∨ r.consumerEpoch ≠ 0)
      (invalidRecord "inactive messaging engine cannot retain worker ownership")
  | .starting | .active | .suspended | .stopping | .failed =>
    failWhen (r.lifecycleGeneration = 0 ∨ r.workerGeneration = 0)
      (invalidRecord "owned messaging engine lifecycle requires generation fences")

def validate (r : EngineLifecycleRecord) : Except EngineLifecycleError Unit := do
  r.endpoint.validate.mapError invalidRecord
  failWhen (¬validIdentifier r.stationPeerID ∨ r.updatedAtUnixMs ≤ 0)
    (invalidRecord "messaging engine lifecycle record is incomplete")
  r.validatePhase

def inactive (endpoint : CryptoEndpoint) (stationPeerID : String) (nowUnixMs : ℤ) :
    Except EngineLifecycleError EngineLifecycleRecord := do
  let record : EngineLifecycleRecord :=
    { endpoint, stationPeerID, phase := .inactive, lifecycleGeneration := 0, workerGeneration := 0
      consumerEpoch := 0, updatedAtUnixMs := nowUnixMs }
  record.validate
  return record

end EngineLifecycleRecord

/-- `u64::checked_add` of one. -/
def checkedSucc (n : ℕ) : Option ℕ := if n + 1 < 2 ^ 64 then some (n + 1) else none

lemma checkedSucc_eq_some {n m : ℕ} (h : checkedSucc n = some m) : m = n + 1 := by
  unfold checkedSucc at h
  split_ifs at h
  exact (Option.some.inj h).symm

def ensureNotCancelled (cancelled : Bool) : Except EngineLifecycleError Unit :=
  failWhen (cancelled = true)
    { code := .cancelled, detail := "messaging lifecycle cancelled engine activation" }

def validateEngineFence (current : EngineLifecycleRecord) (fence : EngineFence) :
    Except EngineLifecycleError Unit := do
  failWhen (fence.lifecycleGeneration ≠ current.lifecycleGeneration)
    { code := .staleLifecycleGeneration, detail := "messaging lifecycle generation no longer owns the engine" }
  failWhen (fence.workerGeneration ≠ current.workerGeneration)
    { code := .lostWorkerLease, detail := "messaging worker generation no longer owns the engine" }

/-! ### The operations -/

def validated (r : EngineLifecycleRecord) : Except EngineLifecycleError EngineLifecycleRecord := do
  r.validate
  return r

def activateEngine (current : EngineLifecycleRecord) (cancelled : Bool) (nowUnixMs : ℤ) :
    Except EngineLifecycleError EngineLifecycleRecord := do
  current.validate
  ensureNotCancelled cancelled
  failWhen ((current.phase ≠ .inactive ∧ current.phase ≠ .failed) ∨ nowUnixMs ≤ current.updatedAtUnixMs)
    (invalidTransition "messaging engine cannot acquire a worker from its current phase")
  let lifecycleGeneration ← orFail (checkedSucc current.lifecycleGeneration)
    (invalidRecord "messaging lifecycle generation is exhausted")
  let workerGeneration ← orFail (checkedSucc current.workerGeneration)
    (invalidRecord "messaging worker generation is exhausted")
  validated { current with
    phase := .starting, lifecycleGeneration, workerGeneration, consumerEpoch := 0
    updatedAtUnixMs := nowUnixMs }

def completeEngineStart (current : EngineLifecycleRecord) (fence : EngineFence) (initialConsumerEpoch : ℕ) (nowUnixMs : ℤ) :
    Except EngineLifecycleError EngineLifecycleRecord := do
  current.validate
  validateEngineFence current fence
  failWhen (current.phase ≠ .starting ∨ nowUnixMs ≤ current.updatedAtUnixMs)
    (invalidTransition "messaging engine start cannot complete from its current state")
  validated { current with
    phase := .active, consumerEpoch := initialConsumerEpoch, updatedAtUnixMs := nowUnixMs }

def resumeEngine (current : EngineLifecycleRecord) (fence : EngineFence) (cancelled : Bool)
    (nowUnixMs : ℤ) : Except EngineLifecycleError EngineLifecycleRecord := do
  current.validate
  validateEngineFence current fence
  ensureNotCancelled cancelled
  failWhen (current.phase ≠ .suspended ∨ nowUnixMs ≤ current.updatedAtUnixMs)
    (invalidTransition "messaging engine cannot resume from its current state")
  validated { current with
    phase := .active, updatedAtUnixMs := nowUnixMs }

def suspendEngine (current : EngineLifecycleRecord) (fence : EngineFence) (consumerEpoch : ℕ)
    (nowUnixMs : ℤ) : Except EngineLifecycleError EngineLifecycleRecord := do
  current.validate
  validateEngineFence current fence
  failWhen ((current.phase ≠ .starting ∧ current.phase ≠ .active) ∨
    consumerEpoch < current.consumerEpoch ∨ nowUnixMs ≤ current.updatedAtUnixMs)
    (invalidTransition "messaging engine cannot suspend from its current state")
  validated { current with
    phase := .suspended, consumerEpoch, updatedAtUnixMs := nowUnixMs }

def beginEngineStop (current : EngineLifecycleRecord) (fence : EngineFence) (nowUnixMs : ℤ) :
    Except EngineLifecycleError EngineLifecycleRecord := do
  current.validate
  validateEngineFence current fence
  failWhen ((current.phase = .inactive ∨ current.phase = .stopping) ∨ nowUnixMs ≤ current.updatedAtUnixMs)
    (invalidTransition "messaging engine cannot begin stopping from its current state")
  validated { current with
    phase := .stopping, updatedAtUnixMs := nowUnixMs }

def completeEngineStop (current : EngineLifecycleRecord) (fence : EngineFence) (nowUnixMs : ℤ) :
    Except EngineLifecycleError EngineLifecycleRecord := do
  current.validate
  validateEngineFence current fence
  failWhen (current.phase = .inactive ∨ nowUnixMs ≤ current.updatedAtUnixMs)
    (invalidTransition "messaging engine stop cannot complete from its current state")
  validated { current with
    phase := .inactive, workerGeneration := 0, consumerEpoch := 0, updatedAtUnixMs := nowUnixMs }

def validateActiveEngine (current : EngineLifecycleRecord) (fence : EngineFence)
    (cancelled : Bool) : Except EngineLifecycleError Unit := do
  current.validate
  validateEngineFence current fence
  ensureNotCancelled cancelled
  failWhen (current.phase ≠ .active) (invalidTransition "messaging engine does not own active work in its current phase")

def advanceEngineConsumerEpoch (current : EngineLifecycleRecord) (fence : EngineFence)
    (consumerEpoch : ℕ) : Except EngineLifecycleError EngineLifecycleRecord := do
  current.validate
  validateEngineFence current fence
  failWhen (current.phase ≠ .active ∨ consumerEpoch < current.consumerEpoch)
    (invalidTransition "messaging engine consumer epoch cannot advance from its current state")
  validated { current with consumerEpoch }

def recoverInterruptedEngine (current : EngineLifecycleRecord) (nowUnixMs : ℤ) :
    Except EngineLifecycleError EngineLifecycleRecord := do
  current.validate
  failWhen (nowUnixMs ≤ current.updatedAtUnixMs) (invalidTransition "messaging engine recovery clock did not advance")
  if current.phase = .inactive ∨ current.phase = .failed then
    return current
  else
    validated { current with
      phase := .failed, updatedAtUnixMs := nowUnixMs }

inductive Operation where
  | activate (cancelled : Bool) (nowUnixMs : ℤ)
  | completeStart (fence : EngineFence) (initialConsumerEpoch : ℕ) (nowUnixMs : ℤ)
  | resume (fence : EngineFence) (cancelled : Bool) (nowUnixMs : ℤ)
  | suspend (fence : EngineFence) (consumerEpoch : ℕ) (nowUnixMs : ℤ)
  | beginStop (fence : EngineFence) (nowUnixMs : ℤ)
  | completeStop (fence : EngineFence) (nowUnixMs : ℤ)
  | validateActive (fence : EngineFence) (cancelled : Bool)
  | advanceConsumerEpoch (fence : EngineFence) (consumerEpoch : ℕ)
  | recoverInterrupted (nowUnixMs : ℤ)

namespace Operation

def fence : Operation → Option EngineFence
  | completeStart fence _ _ | resume fence _ _ | suspend fence _ _ | beginStop fence _
  | completeStop fence _ | validateActive fence _ | advanceConsumerEpoch fence _ => some fence
  | activate _ _ | recoverInterrupted _ => none

def IsActivation : Operation → Prop
  | activate _ _ => True
  | _ => False

instance : DecidablePred IsActivation
  | activate _ _ => .isTrue trivial
  | completeStart _ _ _ | resume _ _ _ | suspend _ _ _ | beginStop _ _ | completeStop _ _
  | validateActive _ _ | advanceConsumerEpoch _ _ | recoverInterrupted _ => .isFalse id

def run (op : Operation) (current : EngineLifecycleRecord) :
    Except EngineLifecycleError EngineLifecycleRecord :=
  match op with
  | activate cancelled now => activateEngine current cancelled now
  | completeStart fence epoch now => completeEngineStart current fence epoch now
  | resume fence cancelled now => resumeEngine current fence cancelled now
  | suspend fence epoch now => suspendEngine current fence epoch now
  | beginStop fence now => beginEngineStop current fence now
  | completeStop fence now => completeEngineStop current fence now
  | validateActive fence cancelled => do
    validateActiveEngine current fence cancelled
    return current
  | advanceConsumerEpoch fence epoch => advanceEngineConsumerEpoch current fence epoch
  | recoverInterrupted now => recoverInterruptedEngine current now

end Operation

/-! ### What an operation does -/

inductive EngineLifecycleRecord.Moves (r r' : EngineLifecycleRecord) : Prop
  | activated (phase : r'.phase = .starting)
      (lifecycleGeneration : r'.lifecycleGeneration = r.lifecycleGeneration + 1)
      (consumerEpoch : r'.consumerEpoch = 0)
  /-- The owner goes on, or is found to have been interrupted. -/
  | owned (before : r.phase ≠ .inactive) (after : r'.phase ≠ .inactive ∧ r'.phase ≠ .starting)
      (lifecycleGeneration : r'.lifecycleGeneration = r.lifecycleGeneration)
      (consumerEpoch : r.consumerEpoch ≤ r'.consumerEpoch)
  /-- The engine has stopped. -/
  | stopped (phase : r'.phase = .inactive)
      (lifecycleGeneration : r'.lifecycleGeneration = r.lifecycleGeneration)
  | kept (h : r' = r)

structure EngineLifecycleRecord.Sound (r : EngineLifecycleRecord) : Prop where
  valid : r.validate = .ok ()
  starting : r.phase = .starting → r.consumerEpoch = 0

variable {r : EngineLifecycleRecord} {op : Operation}
  {r' : EngineLifecycleRecord}

lemma validated_eq_ok : validated r = .ok r' ↔ r.validate = .ok () ∧ r = r' := by simp [validated]

lemma Operation.run_eq_ok (hr : r.Sound) (h : op.run r = .ok r') : r'.validate = .ok () ∧ r.Moves r' ∧
    r'.lifecycleGeneration = r.lifecycleGeneration + if op.IsActivation then 1 else 0 := by
  cases op with
  | activate cancelled now =>
    simp only [run, activateEngine, ok_iff, validated_eq_ok] at h
    obtain ⟨-, -, -, lifecycle, hlife, worker, -, hval, rfl⟩ := h
    have hnext := checkedSucc_eq_some hlife
    exact ⟨hval, .activated rfl hnext rfl, hnext⟩
  | completeStart fence epoch now =>
    simp only [run, completeEngineStart, ok_iff, validated_eq_ok, not_or, not_not] at h
    obtain ⟨-, -, ⟨hphase, -⟩, hval, rfl⟩ := h
    have hep := hr.starting hphase
    refine ⟨hval, .owned (by rw [hphase]; decide) ⟨by simp, by simp⟩ rfl ?_, rfl⟩
    rw [hep]
    exact Nat.zero_le epoch
  | resume fence cancelled now =>
    simp only [run, resumeEngine, ok_iff, validated_eq_ok, not_or, not_not] at h
    obtain ⟨-, -, -, ⟨hphase, -⟩, hval, rfl⟩ := h
    exact ⟨hval, .owned (by rw [hphase]; decide) ⟨by simp, by simp⟩ rfl le_rfl, rfl⟩
  | suspend fence epoch now =>
    simp only [run, suspendEngine, ok_iff, validated_eq_ok, not_or, not_and_or, not_not, not_lt] at h
    obtain ⟨-, -, ⟨hphase, hep, -⟩, hval, rfl⟩ := h
    have howned : r.phase ≠ .inactive := by rcases hphase with hphase | hphase <;> rw [hphase] <;> decide
    exact ⟨hval, .owned howned ⟨by simp, by simp⟩ rfl hep, rfl⟩
  | beginStop fence now =>
    simp only [run, beginEngineStop, ok_iff, validated_eq_ok, not_or] at h
    obtain ⟨-, -, ⟨⟨hphase, -⟩, -⟩, hval, rfl⟩ := h
    exact ⟨hval, .owned hphase ⟨by simp, by simp⟩ rfl le_rfl, rfl⟩
  | completeStop fence now =>
    simp only [run, completeEngineStop, ok_iff, validated_eq_ok] at h
    obtain ⟨-, -, -, hval, rfl⟩ := h
    exact ⟨hval, .stopped rfl rfl, rfl⟩
  | validateActive fence cancelled =>
    simp only [run, ok_iff] at h
    obtain ⟨-, rfl⟩ := h
    exact ⟨hr.valid, .kept rfl, rfl⟩
  | advanceConsumerEpoch fence epoch =>
    simp only [run, advanceEngineConsumerEpoch, ok_iff, validated_eq_ok, not_or, not_not, not_lt] at h
    obtain ⟨-, -, ⟨hphase, hep⟩, hval, rfl⟩ := h
    have hact : r.phase ≠ .inactive ∧ r.phase ≠ .starting := by
      rw [hphase]
      decide
    exact ⟨hval, .owned hact.1 hact rfl hep, rfl⟩
  | recoverInterrupted now =>
    simp only [run, recoverInterruptedEngine, ok_iff] at h
    obtain ⟨-, -, h⟩ := h
    split_ifs at h with hphase
    · obtain rfl := pure_eq_ok.1 h
      exact ⟨hr.valid, .kept rfl, rfl⟩
    · obtain ⟨hval, rfl⟩ := validated_eq_ok.1 h
      exact ⟨hval, .owned (not_or.1 hphase).1 ⟨by simp, by simp⟩ rfl le_rfl, rfl⟩

namespace EngineLifecycleRecord

lemma Sound.run {r' : EngineLifecycleRecord} (hr : r.Sound) (h : op.run r = .ok r') : r'.Sound := by
  obtain ⟨hval, hmv, -⟩ := op.run_eq_ok hr h
  refine ⟨hval, fun hstarting => ?_⟩
  cases hmv with
  | activated _ _ hep => exact hep
  | owned _ haft => exact absurd hstarting haft.2
  | stopped hphase => exact absurd (hphase.symm.trans hstarting) nofun
  | kept h =>
    subst h
    exact hr.starting hstarting

/-- The activation in which `x` was stored is over at `y`. -/
def Over (x y : EngineLifecycleRecord) : Prop :=
  x.lifecycleGeneration < y.lifecycleGeneration ∨ x.phase ≠ .inactive ∧ y.phase = .inactive

/-- How a record of a run compares with a later one. -/
def Before (x y : EngineLifecycleRecord) : Prop := x.lifecycleGeneration < y.lifecycleGeneration ∨
    x.lifecycleGeneration = y.lifecycleGeneration ∧ (y.phase = .inactive ∨ x.consumerEpoch ≤ y.consumerEpoch)

lemma Before.refl (x : EngineLifecycleRecord) : x.Before x := .inr ⟨rfl, .inr le_rfl⟩

lemma Before.moves {x y z : EngineLifecycleRecord} (h : x.Before y) (hmv : y.Moves z) : x.Before z := by
  unfold Before at h ⊢
  cases hmv with
  | activated _ hlife _ => omega
  | owned hbef _ hlife hep =>
    rw [hlife]
    rcases h with h | ⟨h, hphase | hle⟩
    · exact .inl h
    · exact absurd hphase hbef
    · exact .inr ⟨h, .inr (hle.trans hep)⟩
  | stopped hphase hlife =>
    rw [hlife]
    rcases h with h | ⟨h, -⟩
    · exact .inl h
    · exact .inr ⟨h, .inl hphase⟩
  | kept h' =>
    subst h'
    exact h

lemma Sound.runAll (hr : r.Sound) (ops : List Operation) :
    (runAll Operation.run r ops).Sound ∧ r.Before (runAll Operation.run r ops) :=
  runAll_relates (fun _ _ _ hs h => hs.run h)
    (fun _ _ op _ hs hbef h => hbef.moves (op.run_eq_ok hs h).2.1) hr (.refl r) ops

/-! ### Fences -/

lemma validate_eq_ok_of_inactive (h : r.validate = .ok ())
    (hphase : r.phase = .inactive) : r.workerGeneration = 0 ∧ r.consumerEpoch = 0 := by
  simp only [validate, ok_iff] at h
  have hgens := h.2.2
  simp only [validatePhase, hphase, failWhen_eq_ok, not_or, not_not] at hgens
  exact hgens

lemma validate_eq_ok_of_owned (h : r.validate = .ok ()) (hphase : r.phase ≠ .inactive) : r.workerGeneration ≠ 0 := by
  simp only [validate, ok_iff] at h
  have hgens := h.2.2
  unfold validatePhase at hgens
  cases hp : r.phase <;> simp only [hp, failWhen_eq_ok, not_or] at hgens
  · exact absurd hp hphase
  all_goals exact hgens.2

lemma Sound.fence_refused {x y : EngineLifecycleRecord} (hx : x.Sound) (hy : y.Sound)
    (hover : x.Over y) : ∃ e, validateEngineFence y x.fence = .error e := by
  have hne : validateEngineFence y x.fence ≠ .ok () := by
    intro h
    simp only [validateEngineFence, ok_iff, not_not] at h
    obtain ⟨hlife, hworker⟩ := h
    rcases hover with hlt | ⟨howned, hinact⟩
    · exact absurd hlife (Nat.ne_of_lt hlt)
    · have hy' := (validate_eq_ok_of_inactive hy.valid hinact).1
      exact validate_eq_ok_of_owned hx.valid howned (hworker.trans hy')
  cases h : validateEngineFence y x.fence with
  | ok u => exact absurd h hne
  | error e => exact ⟨e, rfl⟩

end EngineLifecycleRecord

lemma Operation.run_of_fence {f : EngineFence} (hop : op.fence = some f) (hr : r.validate = .ok ())
    {e : EngineLifecycleError} (h : validateEngineFence r f = .error e) : op.run r = .error e := by
  cases op with
  | activate => cases hop
  | recoverInterrupted => cases hop
  | completeStart | resume | suspend | beginStop | completeStop | validateActive
    | advanceConsumerEpoch =>
      obtain rfl := Option.some.inj hop
      simp [run, completeEngineStart, resumeEngine, suspendEngine, beginEngineStop,
        completeEngineStop, validateActiveEngine, advanceEngineConsumerEpoch, hr, h, bind, Except.bind]

open EngineLifecycleRecord

/-- In every run from an inactive engine, for a record `x` of the run and a later one `y`: the records
are valid; an accepted operation raises the lifecycle generation by one if it is an activation and
leaves it otherwise, a refused one changes nothing; the consumer epoch of `y` is not below that of `x`
unless the activation of `x` is over; and if it is over, every operation with the fence of `x` is
refused. -/
theorem engine_fencing {endpoint : CryptoEndpoint} {stationPeerID : String} {now : ℤ}
    {first : EngineLifecycleRecord}
    (h : inactive endpoint stationPeerID now = .ok first)
    (before after : List Operation) {x y : EngineLifecycleRecord}
    (hx : x = runAll Operation.run first before) (hy : y = runAll Operation.run x after) :
    y.validate = .ok () ∧ (∀ (op : Operation) y', op.run y = .ok y' →
        y'.lifecycleGeneration = y.lifecycleGeneration + if op.IsActivation then 1 else 0) ∧
      (¬x.Over y → x.lifecycleGeneration = y.lifecycleGeneration ∧ x.consumerEpoch ≤ y.consumerEpoch) ∧
      (x.Over y → ∀ op : Operation, op.fence = some x.fence →
        (∃ e, op.run y = .error e) ∧ settle Operation.run y op = y) := by
  simp only [inactive, ok_iff] at h
  have hstart : first.Sound := ⟨h.2 ▸ h.1, by simp [← h.2]⟩
  have hxs : x.Sound := hx ▸ (hstart.runAll before).1
  obtain ⟨hys, hbefore⟩ := hxs.runAll after
  rw [← hy] at hys hbefore
  refine ⟨hys.valid, fun op y' hop => (op.run_eq_ok hys hop).2.2, ?_, ?_⟩
  · intro hover
    obtain ⟨hgen, hphase⟩ := not_or.1 hover
    rcases hbefore with hlt | ⟨heq, hinact | hle⟩
    · exact absurd hlt hgen
    · -- both records are inactive, without an epoch
      have hx' : x.phase = .inactive := by
        by_contra howned
        exact hphase ⟨howned, hinact⟩
      rw [(validate_eq_ok_of_inactive hxs.valid hx').2]
      exact ⟨heq, Nat.zero_le _⟩
    · exact ⟨heq, hle⟩
  · intro hover op hop
    obtain ⟨e, he⟩ := hxs.fence_refused hys hover
    have hrefused := op.run_of_fence hop hys.valid he
    exact ⟨⟨e, hrefused⟩, settle_of_error hrefused⟩

def restingEngine : EngineLifecycleRecord where
  endpoint := { ptid := "ptid:alice", deviceID := "device-1" }
  stationPeerID := "station-1"
  phase := .inactive
  lifecycleGeneration := 0
  workerGeneration := 0
  consumerEpoch := 0
  updatedAtUnixMs := 10

/-- The engine crashes in its first activation and is activated again: the first worker can neither
advance its epoch nor stop the engine. -/
theorem engine_fencing_of_restart : ∃ x y, x = runAll Operation.run restingEngine
        [.activate false 11, .completeStart ⟨1, 1⟩ 5 12] ∧
      y = runAll Operation.run x [.recoverInterrupted 13, .activate false 14] ∧
      x.Over y ∧ ∀ op : Operation, op.fence = some x.fence →
        (∃ e, op.run y = .error e) ∧ settle Operation.run y op = y := by
  have hfirst : inactive restingEngine.endpoint restingEngine.stationPeerID 10 = .ok restingEngine := by decide
  have h := engine_fencing hfirst [.activate false 11, .completeStart ⟨1, 1⟩ 5 12]
    [.recoverInterrupted 13, .activate false 14] rfl rfl
  have hover : (runAll Operation.run restingEngine
      [.activate false 11, .completeStart ⟨1, 1⟩ 5 12]).Over (runAll Operation.run
        (runAll Operation.run restingEngine [.activate false 11, .completeStart ⟨1, 1⟩ 5 12])
        [.recoverInterrupted 13, .activate false 14]) := by
    refine .inl ?_
    decide
  exact ⟨_, _, rfl, rfl, hover, h.2.2.2 hover⟩

end PeersTouch.Engine
