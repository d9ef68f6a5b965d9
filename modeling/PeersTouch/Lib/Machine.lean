import Mathlib

/-!
# Machines whose operations can be refused

A machine is a function `f : ι → σ → Except ε σ`: an operation either succeeds with a new state or is
refused with an error, and a refused operation leaves the state as it was (`settle`). A run is a list
of operations (`runAll`).

What holds along a run is proved from what holds of one successful operation: an invariant of the
states (`runAll_invariant`), or a relation between the first and the last state
(`runAll_relates`), where the steps may use the invariant.
-/

namespace PeersTouch.Lib

variable {ι σ ε : Type}

/-- The state after an operation, which is the old one if the operation was refused. -/
def settle (f : ι → σ → Except ε σ) (s : σ) (i : ι) : σ := match f i s with
  | .ok s' => s'
  | .error _ => s

variable {f : ι → σ → Except ε σ} {s : σ} {P : σ → Prop}

lemma settle_of_ok {s' : σ} {i : ι} (h : f i s = .ok s') : settle f s i = s' := by simp [settle, h]

lemma settle_of_error {i : ι} {e : ε} (h : f i s = .error e) : settle f s i = s := by simp [settle, h]

/-- The state after a list of operations. -/
def runAll (f : ι → σ → Except ε σ) (s : σ) (ops : List ι) : σ := ops.foldl (settle f) s

lemma runAll_append (f : ι → σ → Except ε σ) (s : σ) (ops ops' : List ι) :
    runAll f s (ops ++ ops') = runAll f (runAll f s ops) ops' :=
  List.foldl_append

/-- A relation that each successful operation extends holds between the ends of a run. -/
lemma runAll_relates {R : σ → σ → Prop}
    (hP : ∀ s i s', P s → f i s = .ok s' → P s') (hR : ∀ s₀ s i s', P s → R s₀ s → f i s = .ok s' →
    R s₀ s') {s₀ : σ} (hs : P s) (hrefl : R s₀ s) (ops : List ι) : P (runAll f s ops) ∧ R s₀ (runAll f s ops) := by
  induction ops generalizing s with
  | nil => exact ⟨hs, hrefl⟩
  | cons i ops ih =>
    show P (runAll f (settle f s i) ops) ∧ R s₀ (runAll f (settle f s i) ops)
    cases hi : f i s with
    | ok s' =>
      rw [settle_of_ok hi]
      exact ih (hP s i s' hs hi) (hR s₀ s i s' hs hrefl hi)
    | error e =>
      rw [settle_of_error hi]
      exact ih hs hrefl

lemma runAll_invariant_of_mem {ops : List ι} (hP : ∀ i ∈ ops, ∀ s s', P s → f i s = .ok s' → P s') (hs : P s) :
    P (runAll f s ops) := by
  induction ops generalizing s with
  | nil => exact hs
  | cons i ops ih =>
    refine ih (fun j hj => hP j (List.mem_cons_of_mem i hj)) ?_
    cases hi : f i s with
    | ok s' =>
      rw [settle_of_ok hi]
      exact hP i List.mem_cons_self s s' hs hi
    | error e =>
      rw [settle_of_error hi]
      exact hs

lemma runAll_invariant (hP : ∀ s i s', P s → f i s = .ok s' → P s') (hs : P s) (ops : List ι) : P (runAll f s ops) :=
  runAll_invariant_of_mem (fun i _ s s' => hP s i s') hs

end PeersTouch.Lib
