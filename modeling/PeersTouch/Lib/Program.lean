import Mathlib

/-!
# Programs that perform one operation at a time

A program is done, or it performs an operation on the world and goes on with the answer. Its steps are
those of the operations, so a crash can come after any of them.

`wp step C p Q s` says what holds of a program that starts in `s`: `C op t` in the state `t` after every
operation `op` of it, and `Q a t` when it is done with `a`. The rules follow the ways programs are
composed: sequence (`wp_bind`), programs with errors (`wp_run_bind`) and loops (`wp_foldlM`).
-/

namespace PeersTouch.Lib

inductive Program (Op : Type) (Answer : Op → Type) (α : Type) : Type
  | done (a : α)
  | perform (op : Op) (next : Answer op → Program Op Answer α)

namespace Program

variable {Op : Type} {Answer : Op → Type} {α β ε σ : Type}

/-- The program of one operation. -/
def call (op : Op) : Program Op Answer (Answer op) := .perform op .done

protected def bind : Program Op Answer α → (α → Program Op Answer β) → Program Op Answer β
  | .done a, f => f a
  | .perform op next, f => .perform op fun r => (next r).bind f

instance : Monad (Program Op Answer) where
  pure := .done
  bind := Program.bind

/-! ### Runs -/

inductive Returns (step : (op : Op) → σ → Answer op → σ → Prop) :
    Program Op Answer α → σ → α → σ → Prop
  | done (a : α) (s : σ) : Returns step (.done a) s a s
  | perform {op : Op} {next : Answer op → Program Op Answer α} {s t u : σ} {r : Answer op} {a : α} :
      step op s r t → Returns step (next r) t a u → Returns step (.perform op next) s a u

/-- The program is cut short after an operation. -/
inductive Halts (step : (op : Op) → σ → Answer op → σ → Prop) :
    Program Op Answer α → σ → σ → Prop
  | here {op : Op} {next : Answer op → Program Op Answer α} {s t : σ} {r : Answer op} :
      step op s r t → Halts step (.perform op next) s t
  | later {op : Op} {next : Answer op → Program Op Answer α} {s t u : σ} {r : Answer op} :
      step op s r t → Halts step (next r) t u → Halts step (.perform op next) s u

/-- A run of operations that answer in one way only. -/
def run (handle : (op : Op) → σ → Answer op × σ) : Program Op Answer α → σ → α × σ
  | .done a, s => (a, s)
  | .perform op next, s => (next (handle op s).1).run handle (handle op s).2

/-- The state after so many operations, if there are as many. -/
def runFor (handle : (op : Op) → σ → Answer op × σ) : ℕ → Program Op Answer α → σ → Option σ
  | 0, _, s => some s
  | _ + 1, .done _, _ => none
  | n + 1, .perform op next, s => (next (handle op s).1).runFor handle n (handle op s).2

variable {step : (op : Op) → σ → Answer op → σ → Prop}
  {handle : (op : Op) → σ → Answer op × σ}

section

variable (h : ∀ op s, step op s (handle op s).1 (handle op s).2)
include h

lemma returns_run (p : Program Op Answer α) (s : σ) : p.Returns step s (p.run handle s).1 (p.run handle s).2 := by
  induction p generalizing s with
  | done a => exact .done a s
  | perform op next ih => exact .perform (h op s) (ih _ _)

lemma halts_runFor {p : Program Op Answer α} {n : ℕ} {s t : σ} (ht : p.runFor handle (n + 1) s = some t) :
    p.Halts step s t := by
  induction n generalizing p s with
  | zero =>
    cases p with
    | done a => cases ht
    | perform op next =>
      cases ht
      exact .here (h op s)
  | succ n ih =>
    cases p with
    | done a => cases ht
    | perform op next => exact .later (h op s) (ih ht)

/-- A run that is cut short, by what can be computed of the state it ends in. -/
lemma exists_halts_of_runFor {p : Program Op Answer α} {n : ℕ} {s : σ} {P : σ → Bool}
    (hP : (p.runFor handle (n + 1) s).any P = true) : ∃ t, p.Halts step s t ∧ P t = true := by
  obtain ⟨t, ht, hPt⟩ := (Option.any_eq_true _ _).1 hP
  exact ⟨t, halts_runFor h ht, hPt⟩

end

/-! ### What holds after every operation and at the end -/

def wp (step : (op : Op) → σ → Answer op → σ → Prop) (C : σ → Prop) :
    Program Op Answer α → (α → σ → Prop) → σ → Prop
  | .done a, Q, s => Q a s
  | .perform op next, Q, s => ∀ r t, step op s r t → C t ∧ (next r).wp step C Q t

variable {C : σ → Prop} {p : Program Op Answer α} {Q Q' : α → σ → Prop} {s t : σ}

lemma wp_of_returns (h : p.wp step C Q s) {a : α} (hp : p.Returns step s a t) : Q a t := by
  induction hp with
  | done a s => exact h
  | perform hstep _ ih => exact ih (h _ _ hstep).2

lemma wp_of_halts (h : p.wp step C Q s) (hp : p.Halts step s t) : C t := by
  induction hp with
  | here hstep => exact (h _ _ hstep).1
  | later hstep _ ih => exact ih (h _ _ hstep).2

lemma wp_mono (h : p.wp step C Q s) (hQ : ∀ a t, Q a t → Q' a t) : p.wp step C Q' s := by
  induction p generalizing s with
  | done a => exact hQ a s h
  | perform op next ih => exact fun r t hstep => ⟨(h r t hstep).1, ih r (h r t hstep).2⟩

lemma wp_call {op : Op} {Q : Answer op → σ → Prop} (h : ∀ r t, step op s r t → C t ∧ Q r t) : (call op).wp step C Q s :=
  h

lemma wp_bind {f : α → Program Op Answer β} {Q : β → σ → Prop} :
    (p >>= f).wp step C Q s ↔ p.wp step C (fun a t => (f a).wp step C Q t) s := by
  induction p generalizing s with
  | done a => exact Iff.rfl
  | perform op next ih =>
    constructor
    · exact fun h r t hstep => ⟨(h r t hstep).1, (ih r).1 (h r t hstep).2⟩
    · exact fun h r t hstep => ⟨(h r t hstep).1, (ih r).2 (h r t hstep).2⟩

/-! ### Programs with errors -/

/-- What comes after a step that may have failed. -/
def andThen (Q : Except ε β → σ → Prop) (P : α → σ → Prop) : Except ε α → σ → Prop
  | .ok a => P a
  | .error e => Q (.error e)

variable {f : α → ExceptT ε (Program Op Answer) β}
  {Q : Except ε β → σ → Prop}

lemma wp_run_bind {x : ExceptT ε (Program Op Answer) α} : (x >>= f).run.wp step C Q s ↔
    x.run.wp step C (andThen Q fun a t => (f a).run.wp step C Q t) s := by
  show (x.run >>= ExceptT.bindCont f).wp step C Q s ↔ _
  rw [wp_bind]
  have h : (fun a t => (ExceptT.bindCont f a).wp step C Q t) = andThen Q fun a t => (f a).run.wp step C Q t := by
    funext a t
    cases a <;> rfl
  rw [h]

lemma wp_run_lift_bind {x : Except ε α} (herr : ∀ e, x = .error e → Q (.error e) s) (hok : ∀ a, x = .ok a →
    (f a).run.wp step C Q s) : ((liftM x : ExceptT ε (Program Op Answer) α) >>= f).run.wp step C Q s := by
  cases x with
  | ok a => exact hok a rfl
  | error e => exact herr e rfl

/-- A loop, by what holds before each round. -/
lemma wp_foldlM {f : β → α → ExceptT ε (Program Op Answer) β} {I : List α → β → σ → Prop}
    {xs : List α}
    (hstep : ∀ x xs b t, I (x :: xs) b t → (f b x).run.wp step C (andThen Q (I xs)) t)
    (hdone : ∀ b t, I [] b t → Q (.ok b) t) {b : β} (h : I xs b s) :
    (xs.foldlM f b).run.wp step C Q s := by
  induction xs generalizing b s with
  | nil => exact hdone b s h
  | cons x xs ih =>
    rw [List.foldlM_cons, wp_run_bind]
    refine wp_mono (hstep x xs b s h) fun r t hr => ?_
    cases r with
    | ok b => exact ih hr
    | error e => exact hr

end Program

end PeersTouch.Lib
