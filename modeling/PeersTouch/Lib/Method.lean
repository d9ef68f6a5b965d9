import Mathlib

/-!
# Guarded computations and methods on a mutable receiver

Two layers of fallible code. A check is a value of `Except ε α`: a sequence of guards
(`failWhen`), of other checks and of loops over lists. A method (`Method σ ε α`) also writes a
receiver of type `σ`. It returns the receiver in both outcomes, because a method that fails half
way leaves behind what it has written so far; only `onClone`, which works on a copy and assigns it
at the end, undoes the writes of a failed body.

A `transaction` is a method on the tables of a database. Its writes are undone when it fails, but
it can also keep them and report an error.

The rules come in two groups. `*_eq_ok`, `*_returns` and `*_call` read off what a successful run
did, one construct at a time. `Atomic` says that a failed run leaves the receiver as it was, with
one rule per construct.
-/

namespace PeersTouch.Lib

open List

variable {σ ε α β : Type}

/-! ### Checks -/

/-- The guard `if p { return e }`. -/
def failWhen (p : Prop) [Decidable p] (e : ε) : Except ε Unit := if p then .error e else .ok ()

variable {u : Unit} {e : ε} {x : Except ε α} {b : β} {a : α} {xs : List α} {γ : Type} {ys : List γ}

@[simp] lemma failWhen_eq_ok {p : Prop} [Decidable p] : failWhen p e = .ok u ↔ ¬p := by
  unfold failWhen
  split <;> simp [*]

lemma failWhen_of_not {p : Prop} [Decidable p] (h : ¬p) : failWhen p e = .ok () := if_neg h

@[simp] lemma bind_eq_ok {f : α → Except ε β} : (x >>= f) = .ok b ↔ ∃ a, x = .ok a ∧ f a = .ok b := by
  cases x with
  | error e => simp [bind, Except.bind]
  | ok a => simp [bind, Except.bind]

@[simp] lemma pure_eq_ok {b : α} : (pure a : Except ε α) = .ok b ↔ a = b := by simp [pure, Except.pure]

@[simp] lemma map_eq_ok {f : α → β} : f <$> x = .ok b ↔ ∃ a, x = .ok a ∧ f a = b := by
  cases x with
  | error e => simp [Functor.map, Except.map]
  | ok a => simp [Functor.map, Except.map]

@[simp] lemma discard_eq_ok {u : PUnit} : discard x = .ok u ↔ ∃ a, x = .ok a := by
  cases x with
  | error e => simp [discard, Functor.mapConst, Except.map]
  | ok a => simp [discard, Functor.mapConst, Except.map]

lemma map_eq_error {f : α → β} : x.map f = .error e ↔ x = .error e := by
  cases x with
  | error e' => exact ⟨fun h => congrArg _ (Except.error.inj h), fun h => congrArg _ (Except.error.inj h)⟩
  | ok a => exact ⟨nofun, nofun⟩

@[simp] lemma mapError_eq_ok {δ : Type} {f : ε → δ} : x.mapError f = .ok a ↔ x = .ok a := by
  cases x with
  | error e => simp [Except.mapError]
  | ok a => simp [Except.mapError]

@[simp] lemma toOption_eq_some : x.toOption = some a ↔ x = .ok a := by cases x <;> simp [Except.toOption]

@[simp] lemma exists_unit {p : Unit → Prop} : (∃ u, p u) ↔ p () := ⟨fun ⟨(), h⟩ => h, fun h => ⟨(), h⟩⟩

lemma isOk_iff : x.isOk = true ↔ ∃ a, x = .ok a := by
  cases x with
  | error e => simp [Except.toBool]
  | ok a => simp [Except.toBool]

/-- The value of an option that must be there. -/
def orFail (x : Option α) (e : ε) : Except ε α := x.elim (.error e) .ok

@[simp] lemma orFail_eq_ok {x : Option α} : orFail x e = .ok a ↔ x = some a := by cases x <;> simp [orFail]

/-- What it takes for a sequence of checks to succeed: the rules above as one set for `simp`. -/
lemma ok_iff : (∀ {ε α β : Type} {x : Except ε α} {f : α → Except ε β} {b : β},
    (x >>= f) = .ok b ↔ ∃ a, x = .ok a ∧ f a = .ok b) ∧
    (∀ {ε α : Type} {a b : α}, (pure a : Except ε α) = .ok b ↔ a = b) ∧
    (∀ {ε : Type} {p : Prop} [Decidable p] {e : ε} {u : Unit}, failWhen p e = .ok u ↔ ¬p) ∧
    (∀ {ε α : Type} {x : Option α} {e : ε} {a : α}, orFail x e = .ok a ↔ x = some a) ∧
    (∀ {ε δ α : Type} {f : ε → δ} {x : Except ε α} {a : α}, x.mapError f = .ok a ↔ x = .ok a) ∧
    (∀ {ε α : Type} {x : Except ε α} {u : PUnit}, discard x = .ok u ↔ ∃ a, x = .ok a) ∧
    ∀ {p : Unit → Prop}, (∃ u, p u) ↔ p () :=
  ⟨bind_eq_ok, pure_eq_ok, failWhen_eq_ok, orFail_eq_ok, mapError_eq_ok, discard_eq_ok, exists_unit⟩

@[simp] lemma forM_eq_ok {f : α → Except ε Unit} : forM xs f = .ok u ↔ ∀ x ∈ xs, f x = .ok () := by
  induction xs with
  | nil => simp
  | cons x xs ih => simp [ih]

variable {r : α → γ}

lemma mapM_map_of_forall {f : α → β} {g : β → Except ε γ} (h : ∀ x ∈ xs, g (f x) = .ok (r x)) :
    (xs.map f).mapM g = .ok (xs.map r) := by
  induction xs with
  | nil => rfl
  | cons x xs ih =>
    rw [map_cons, mapM_cons, h x mem_cons_self, ih fun y hy => h y (mem_cons_of_mem _ hy)]
    rfl

variable {f : α → Except ε γ}

lemma mapM_eq_ok {p : α → Prop} (hf : ∀ x y, f x = .ok y ↔ p x ∧ r x = y) :
    xs.mapM f = .ok ys ↔ (∀ x ∈ xs, p x) ∧ xs.map r = ys := by
  induction xs generalizing ys with
  | nil => simp
  | cons x xs ih =>
    simp only [mapM_cons, ok_iff, hf, ih, forall_mem_cons]
    constructor
    · rintro ⟨y, ⟨hx, rfl⟩, ys', ⟨hxs, rfl⟩, rfl⟩
      exact ⟨⟨hx, hxs⟩, rfl⟩
    · rintro ⟨⟨hx, hxs⟩, rfl⟩
      exact ⟨_, ⟨hx, rfl⟩, _, ⟨hxs, rfl⟩, rfl⟩

lemma map_of_mapM {δ : Type} {g : γ → δ} {r : α → δ} (hf : ∀ x y, f x = .ok y → g y = r x)
    (h : xs.mapM f = .ok ys) : ys.map g = xs.map r := by
  induction xs generalizing ys with
  | nil =>
    obtain rfl := pure_eq_ok.1 h
    rfl
  | cons x xs ih =>
    simp only [mapM_cons, ok_iff] at h
    obtain ⟨y, hy, ys', hys, rfl⟩ := h
    rw [map_cons, map_cons, hf x y hy, ih hys]

lemma exists_of_mem_mapM {y : γ} (h : xs.mapM f = .ok ys) (hy : y ∈ ys) : ∃ x ∈ xs, f x = .ok y := by
  induction xs generalizing ys with
  | nil =>
    obtain rfl := pure_eq_ok.1 h
    cases hy
  | cons x xs ih =>
    simp only [mapM_cons, ok_iff] at h
    obtain ⟨z, hz, ys', hys, rfl⟩ := h
    rcases mem_cons.1 hy with rfl | hy
    · exact ⟨x, mem_cons_self, hz⟩
    · obtain ⟨x', hx', hfx'⟩ := ih hys hy
      exact ⟨x', mem_cons_of_mem _ hx', hfx'⟩

lemma mem_of_mapM {x : α} (h : xs.mapM f = .ok ys) (hx : x ∈ xs) : ∃ y ∈ ys, f x = .ok y := by
  induction xs generalizing ys with
  | nil => cases hx
  | cons x' xs ih =>
    simp only [mapM_cons, ok_iff] at h
    obtain ⟨y, hy, ys', hys, rfl⟩ := h
    rcases mem_cons.1 hx with rfl | hx
    · exact ⟨y, mem_cons_self, hy⟩
    · obtain ⟨z, hz, hfz⟩ := ih hys hx
      exact ⟨z, mem_cons_of_mem y hz, hfz⟩

lemma exists_mapM (h : ∀ x ∈ xs, ∃ y, f x = .ok y) : ∃ ys, xs.mapM f = .ok ys := by
  induction xs with
  | nil => exact ⟨[], rfl⟩
  | cons x xs ih =>
    obtain ⟨y, hy⟩ := h x mem_cons_self
    obtain ⟨ys, hys⟩ := ih fun x' hx' => h x' (mem_cons_of_mem x hx')
    exact ⟨y :: ys, by rw [mapM_cons, hy, hys]; rfl⟩

variable {b' : β}

lemma foldlM_invariant {P : β → Prop} {f : β → α → Except ε β} (hstep : ∀ b x b', x ∈ xs → P b → f b x = .ok b' →
    P b') (hb : P b) (h : xs.foldlM f b = .ok b') : P b' := by
  induction xs generalizing b with
  | nil =>
    obtain rfl := pure_eq_ok.1 h
    exact hb
  | cons x xs ih =>
    rw [foldlM_cons, bind_eq_ok] at h
    obtain ⟨b₁, hx, hxs⟩ := h
    exact ih (fun b y b' hy => hstep b y b' (mem_cons_of_mem _ hy)) (hstep b x b₁ mem_cons_self hb hx) hxs

/-- A loop that refuses an element whose name is taken, and takes it otherwise, has gone over elements
with different names. -/
lemma foldlM_pairwise {κ : Type} {T : β → κ → Prop} {N : α → κ → Prop} {f : β → α → Except ε β}
    (hkeep : ∀ b x b' k, f b x = .ok b' → T b k → T b' k)
    (htake : ∀ b x b' k, f b x = .ok b' → N x k → ¬T b k ∧ T b' k) (h : xs.foldlM f b = .ok b') :
    (∀ x ∈ xs, ∀ k, N x k → ¬T b k) ∧ xs.Pairwise fun x y => ∀ k, N x k → ¬N y k := by
  induction xs generalizing b with
  | nil => exact ⟨nofun, .nil⟩
  | cons x xs ih =>
    rw [foldlM_cons, bind_eq_ok] at h
    obtain ⟨b₁, hx, hxs⟩ := h
    obtain ⟨hfree, hpair⟩ := ih hxs
    refine ⟨?_, pairwise_cons.2 ⟨?_, hpair⟩⟩
    · intro y hy k hk htook
      rcases mem_cons.1 hy with rfl | hy
      · exact (htake b y b₁ k hx hk).1 htook
      · exact hfree y hy k hk (hkeep b x b₁ k hx htook)
    · intro y hy k hk hk'
      exact hfree y hy k hk' (htake b x b₁ k hx hk).2

/-! ### Methods -/

/-- A method with a receiver of type `σ`: its outcome, and the receiver afterwards. -/
structure Method (σ ε α : Type) where
  call : σ → Except ε α × σ

namespace Method

instance : Monad (Method σ ε) where
  pure a := ⟨fun s => (.ok a, s)⟩
  bind m f := ⟨fun s =>
    match m.call s with
    | (.ok a, s') => (f a).call s'
    | (.error e, s') => (.error e, s')⟩

/-- A check is a method that writes nothing. -/
instance : MonadLift (Except ε) (Method σ ε) where
  monadLift x := ⟨fun s => (x, s)⟩

/-- The receiver, read. -/
def receiver : Method σ ε σ := ⟨fun s => (.ok s, s)⟩

/-- The receiver, overwritten. -/
def assign (s' : σ) : Method σ ε Unit := ⟨fun _ => (.ok (), s')⟩

/-- The body runs on a copy of the receiver, which replaces the receiver if the body succeeds. -/
def onClone (m : Method σ ε α) : Method σ ε α := ⟨fun s =>
    match m.call s with
    | (.ok a, s') => (.ok a, s')
    | (.error e, _) => (.error e, s)⟩

/-- An error, with the receiver left as it is. -/
def fail (e : ε) : Method σ ε α := ⟨fun s => (.error e, s)⟩

/-- `m` and then `k`. An error of `m` that satisfies `p` goes to `h`, and what `m` has written before
it failed stays. -/
def handle (m : Method σ ε α) (p : ε → Prop) [DecidablePred p] (h : ε → Method σ ε β)
    (k : α → Method σ ε β) : Method σ ε β :=
  ⟨fun s =>
    match m.call s with
    | (.ok a, s') => (k a).call s'
    | (.error e, s') => if p e then (h e).call s' else (.error e, s')⟩

/-- A transaction undoes the writes of a body that fails. A body that succeeds may hand out an error
all the same: then the writes stay and the error is returned. -/
def transaction (m : Method σ ε (Option ε)) : Method σ ε Unit := ⟨fun s =>
    match m.call s with
    | (.ok none, s') => (.ok (), s')
    | (.ok (some e), s') => (.error e, s')
    | (.error e, _) => (.error e, s)⟩

/-- The method called on a fresh object, which is returned only on success. -/
def construct (m : Method σ ε α) (s : σ) : Except ε (σ × α) := match m.call s with
  | (.ok a, s') => .ok (s', a)
  | (.error e, _) => .error e

/-! ### What a successful call did -/

variable {s s' : σ} {f : α → Method σ ε β} {m : Method σ ε α} {touches : α → Prop}
  {P : Except ε β × σ → Prop}

@[simp] lemma pure_returns {b : α} : (pure a : Method σ ε α).call s = (.ok b, s') ↔ a = b ∧ s = s' := by simp [pure]

@[simp] lemma bind_returns : (m >>= f).call s = (.ok b, s') ↔
    ∃ a s₁, m.call s = (.ok a, s₁) ∧ (f a).call s₁ = (.ok b, s') := by
  simp only [bind]
  split
  next a s₁ h =>
    rw [h]
    constructor
    · exact fun hf => ⟨a, s₁, rfl, hf⟩
    · rintro ⟨_, _, ⟨⟩, hf⟩
      exact hf
  next e s₁ h => simp [h]

@[simp] lemma lift_returns : (liftM x : Method σ ε α).call s = (.ok a, s') ↔ x = .ok a ∧ s = s' :=
  Prod.mk.injEq .. ▸ Iff.rfl

@[simp] lemma assign_returns {t : σ} : (assign t : Method σ ε Unit).call s = (.ok u, s') ↔ t = s' := by simp [assign]

lemma lift_bind_returns : (liftM x >>= f).call s = (.ok b, s') ↔ ∃ a, x = .ok a ∧ (f a).call s = (.ok b, s') := by
  rw [bind_returns]
  constructor
  · rintro ⟨a, s₁, h, hf⟩
    obtain ⟨hx, rfl⟩ := lift_returns.1 h
    exact ⟨a, hx, hf⟩
  · rintro ⟨a, hx, hf⟩
    exact ⟨a, s, lift_returns.2 ⟨hx, rfl⟩, hf⟩

lemma receiver_bind_call (f : σ → Method σ ε β) (s : σ) : (receiver >>= f).call s = (f s).call s := rfl

lemma assign_bind_call (t : σ) (f : Unit → Method σ ε β) (s : σ) : (assign t >>= f).call s = (f ()).call t := rfl

@[simp] lemma onClone_returns : (onClone m).call s = (.ok a, s') ↔ m.call s = (.ok a, s') := by
  simp only [onClone]
  split
  next b s₁ h => simp [h]
  next e s₁ h => simp [h]

@[simp] lemma construct_eq_ok : construct m s = .ok (s', a) ↔ m.call s = (.ok a, s') := by
  unfold construct
  split
  next b s₁ h => simp [h, and_comm]
  next e s₁ h => simp [h]

/-- A transaction leaves what its body left, if the body succeeded, and otherwise nothing. -/
lemma transaction_call (m : Method σ ε (Option ε)) (s : σ) :
    (∃ e s', m.call s = (.error e, s') ∧ (transaction m).call s = (.error e, s)) ∨
    ∃ rejection s', m.call s = (.ok rejection, s') ∧ (transaction m).call s = (rejection.elim (.ok ()) .error, s') := by
  simp only [transaction]
  split
  next s' hm => exact .inr ⟨none, s', hm, rfl⟩
  next e s' hm => exact .inr ⟨some e, s', hm, rfl⟩
  next e s' hm => exact .inl ⟨e, s', hm, rfl⟩

lemma forM_returns_invariant {P : σ → Prop} {f : α → Method σ ε Unit} (hstep : ∀ x s s', x ∈ xs → P s →
    (f x).call s = (.ok (), s') → P s') (hs : P s) (h : (forM xs f).call s = (.ok u, s')) : P s' := by
  induction xs generalizing s with
  | nil =>
    obtain ⟨-, rfl⟩ := pure_returns.1 h
    exact hs
  | cons x xs ih =>
    rw [forM_cons, bind_returns] at h
    obtain ⟨⟨⟩, s₁, hx, hxs⟩ := h
    exact ih (fun y s s' hy => hstep y s s' (mem_cons_of_mem _ hy)) (hstep x s s₁ mem_cons_self hs hx) hxs

lemma forM_returns_mono {f g : α → Method σ ε Unit} (hstep : ∀ x s s', (f x).call s = (.ok (), s') →
    (g x).call s = (.ok (), s')) (h : (forM xs f).call s = (.ok u, s')) : (forM xs g).call s = (.ok u, s') := by
  induction xs generalizing s with
  | nil => exact h
  | cons x xs ih =>
    rw [forM_cons, bind_returns] at h ⊢
    obtain ⟨⟨⟩, s₁, hx, hxs⟩ := h
    exact ⟨(), s₁, hstep x s s₁ hx, ih hxs⟩

/-- A part of the receiver that at most one call of a loop touches was changed by that call, or not at
all. -/
lemma forM_returns_touched {τ : Type} {v : σ → τ}
    {effect : α → τ → τ → Prop} {f : α → Method σ ε Unit}
    (hpair : xs.Pairwise fun x y => touches x → ¬touches y)
    (hskip : ∀ x s s', (f x).call s = (.ok (), s') → ¬touches x → v s' = v s)
    (htouch : ∀ x s s', (f x).call s = (.ok (), s') → touches x → effect x (v s) (v s'))
    (h : (forM xs f).call s = (.ok u, s')) :
    (∃ x ∈ xs, touches x ∧ effect x (v s) (v s')) ∨ (∀ x ∈ xs, ¬touches x) ∧ v s' = v s := by
  induction xs generalizing s with
  | nil =>
    obtain ⟨-, rfl⟩ := pure_returns.1 h
    exact .inr ⟨nofun, rfl⟩
  | cons x xs ih =>
    rw [forM_cons, bind_returns] at h
    obtain ⟨⟨⟩, s₁, hx, hxs⟩ := h
    obtain ⟨hfst, hpair⟩ := pairwise_cons.1 hpair
    by_cases ht : touches x
    · have hrest : v s' = v s₁ := by
        rcases ih hpair hxs with ⟨y, hy, hty, -⟩ | ⟨-, hrest⟩
        · exact absurd hty (hfst y hy ht)
        · exact hrest
      refine .inl ⟨x, mem_cons_self, ht, ?_⟩
      rw [hrest]
      exact htouch x s s₁ hx ht
    · have hsame := hskip x s s₁ hx ht
      rcases ih hpair hxs with ⟨y, hy, hty, heff⟩ | ⟨hnone, hrest⟩
      · exact .inl ⟨y, mem_cons_of_mem _ hy, hty, hsame ▸ heff⟩
      · refine .inr ⟨?_, hrest.trans hsame⟩
        intro y hy
        rcases mem_cons.1 hy with rfl | hy
        · exact ht
        · exact hnone y hy

lemma forM_returns_settled {Q : σ → Prop} {f : α → Method σ ε Unit} {x : α}
    (hpair : xs.Pairwise fun x y => touches x → ¬touches y) (hmem : x ∈ xs) (hx : touches x)
    (hset : ∀ s s', (f x).call s = (.ok (), s') → Q s')
    (hkeep : ∀ y s s', (f y).call s = (.ok (), s') → ¬touches y → Q s → Q s')
    (h : (forM xs f).call s = (.ok u, s')) : Q s' := by
  induction xs generalizing s with
  | nil => cases hmem
  | cons y ys ih =>
    rw [forM_cons, bind_returns] at h
    obtain ⟨⟨⟩, s₁, hy, hys⟩ := h
    obtain ⟨hfst, hpair⟩ := pairwise_cons.1 hpair
    rcases mem_cons.1 hmem with rfl | hmem
    · refine forM_returns_invariant ?_ (hset s s₁ hy) hys
      intro z t t' hz ht hstep
      exact hkeep z t t' hstep (hfst z hz hx) ht
    · exact ih hpair hmem hys

/-! ### All outcomes of a call -/

lemma lift_bind_outcome (hfail : ∀ e, x = .error e → P (.error e, s))
    (hok : ∀ a, x = .ok a → P ((f a).call s)) : P ((liftM x >>= f).call s) := by
  cases x with
  | error e => exact hfail e rfl
  | ok a => exact hok a rfl

lemma bind_outcome (hfail : ∀ e s', m.call s = (.error e, s') → P (.error e, s'))
    (hok : ∀ a s', m.call s = (.ok a, s') → P ((f a).call s')) : P ((m >>= f).call s) := by
  simp only [bind]
  split
  next a s' hm => exact hok a s' hm
  next e s' hm => exact hfail e s' hm

lemma handle_outcome {p : ε → Prop} [DecidablePred p] {h : ε → Method σ ε β} {k : α → Method σ ε β}
    (hok : ∀ a s', m.call s = (.ok a, s') → P ((k a).call s'))
    (hcaught : ∀ e s', m.call s = (.error e, s') → p e → P ((h e).call s'))
    (hfail : ∀ e s', m.call s = (.error e, s') → ¬p e → P (.error e, s')) : P ((handle m p h k).call s) := by
  simp only [handle]
  split
  next a s' hm => exact hok a s' hm
  next e s' hm =>
    by_cases hp : p e
    · rw [if_pos hp]
      exact hcaught e s' hm hp
    · rw [if_neg hp]
      exact hfail e s' hm hp

/-! ### Failed calls that leave nothing behind -/

/-- A failed call leaves the receiver as it was. -/
def Atomic (m : Method σ ε α) : Prop := ∀ s e s', m.call s = (.error e, s') → s' = s

lemma atomic_onClone (m : Method σ ε α) : Atomic (onClone m) := by
  intro s e s' h
  simp only [onClone] at h
  split at h
  · cases h
  · exact (Prod.mk.inj h).2.symm

lemma Atomic.lift_bind (x : Except ε α) (hf : ∀ a, Atomic (f a)) : Atomic (liftM x >>= f) := by
  intro s e s' h
  cases x with
  | error e' => exact (Prod.mk.inj h).2.symm
  | ok a => exact hf a s e s' h

lemma Atomic.receiver_bind {f : σ → Method σ ε β} (hf : ∀ s, Atomic (f s)) : Atomic (receiver >>= f) :=
  fun s e s' h => hf s s e s' h

lemma atomic_assign_pure (t : σ) (b : β) : Atomic (assign t >>= fun _ => pure b : Method σ ε β) := by
  intro s e s' h
  cases h

end Method

end PeersTouch.Lib
