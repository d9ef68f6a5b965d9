import Mathlib

/-!
# Runs that leave a trace of events

`Trace R s events t` is a run from `s` to `t` of a relation whose steps leave events. What holds of the
events seen so far and the state, and is kept by every step, holds after a run (`Trace.invariant`).

Two properties of the events are about marks and separators: every mark is followed by a separator
(`Settled`), and between any two marks there is a separator (`Separated`). A new mark keeps the second
when the first holds before it.
-/

namespace PeersTouch.Lib

open List

variable {σ ε : Type}

inductive Trace (R : σ → List ε → σ → Prop) : σ → List ε → σ → Prop
  | refl (s : σ) : Trace R s [] s
  | step {s t u : σ} {events events' : List ε} :
      R s events t → Trace R t events' u → Trace R s (events ++ events') u

namespace Trace

variable {R : σ → List ε → σ → Prop} {s t u : σ} {events events' : List ε}

lemma single (h : R s events t) : Trace R s events t := by
  have := Trace.step h (.refl t)
  rwa [append_nil] at this

lemma trans (h : Trace R s events t) (h' : Trace R t events' u) : Trace R s (events ++ events') u := by
  induction h with
  | refl s => exact h'
  | step hstep _ ih =>
    rw [append_assoc]
    exact .step hstep (ih h')

lemma mono {R' : σ → List ε → σ → Prop} (hR : ∀ s events t, R s events t → R' s events t)
    (h : Trace R s events t) : Trace R' s events t := by
  induction h with
  | refl s => exact .refl s
  | step hstep _ ih => exact .step (hR _ _ _ hstep) ih

lemma invariant {P : List ε → σ → Prop} (hstep : ∀ seen s events t, P seen s → R s events t → P (seen ++ events) t)
    (h : Trace R s events t) {seen : List ε} (hs : P seen s) : P (seen ++ events) t := by
  induction h generalizing seen with
  | refl s => rwa [append_nil]
  | step hR _ ih =>
    rw [← append_assoc]
    exact ih (hstep _ _ _ _ hs hR)

/-- An invariant of the states alone. -/
lemma keeps {P : σ → Prop} (hstep : ∀ s events t, P s → R s events t → P t) (h : Trace R s events t) (hs : P s) : P t := by
  induction h with
  | refl s => exact hs
  | step hR _ ih => exact ih (hstep _ _ _ hs hR)

end Trace

/-! ### Marks and separators -/

section

variable {p q : ε → Prop} {l : List ε} {x : ε}

/-- Every mark is followed by a separator. -/
def Settled (p q : ε → Prop) (l : List ε) : Prop := ∀ pre a post, l = pre ++ a :: post → p a → ∃ c ∈ post, q c

/-- Between two marks there is a separator. -/
def Separated (p q : ε → Prop) (l : List ε) : Prop :=
  ∀ pre a mid b post, l = pre ++ a :: (mid ++ b :: post) → p a → p b → ∃ c ∈ mid, q c

lemma settled_nil : Settled p q [] := by
  intro pre a post h
  simp at h

lemma separated_nil : Separated p q [] := by
  intro pre a mid b post h
  simp at h

lemma concat_eq_append_cons {pre post : List ε} {a : ε} (h : l ++ [x] = pre ++ a :: post) :
    (post = [] ∧ l = pre ∧ x = a) ∨ ∃ post', post = post' ++ [x] ∧ l = pre ++ a :: post' := by
  rcases post.eq_nil_or_concat with rfl | ⟨post', y, rfl⟩
  · obtain ⟨hl, hx⟩ := append_inj' h rfl
    exact .inl ⟨rfl, hl, by simpa using hx⟩
  · rw [concat_eq_append] at h ⊢
    rw [← cons_append, ← append_assoc] at h
    obtain ⟨hl, hx⟩ := append_inj' h rfl
    obtain rfl : x = y := by simpa using hx
    exact .inr ⟨post', rfl, hl⟩

lemma Settled.concat (h : Settled p q l) (hx : ¬p x) : Settled p q (l ++ [x]) := by
  intro pre a post heq ha
  rcases concat_eq_append_cons heq with ⟨-, -, rfl⟩ | ⟨post', rfl, hl⟩
  · exact absurd ha hx
  · obtain ⟨c, hc, hqc⟩ := h pre a post' hl ha
    exact ⟨c, mem_append_left _ hc, hqc⟩

lemma settled_concat (hp : ¬p x) (hq : q x) : Settled p q (l ++ [x]) := by
  intro pre a post heq ha
  rcases concat_eq_append_cons heq with ⟨-, -, rfl⟩ | ⟨post', rfl, -⟩
  · exact absurd ha hp
  · exact ⟨x, mem_append_right _ mem_cons_self, hq⟩

lemma Separated.concat (h : Separated p q l) (hx : p x → Settled p q l) : Separated p q (l ++ [x]) := by
  intro pre a mid b post heq ha hb
  rcases concat_eq_append_cons heq with ⟨hnil, -, -⟩ | ⟨post', hpost, hl⟩
  · simp at hnil
  · rcases concat_eq_append_cons hpost.symm with ⟨-, rfl, rfl⟩ | ⟨post'', rfl, rfl⟩
    · exact hx hb pre a post' hl ha
    · exact h pre a mid b post'' hl ha hb

end

end PeersTouch.Lib
