import PeersTouch.Transfer.Chunks

/-!
# Rules for the worker

What holds of a task, at every point where it may be stopped and at its end (`Context.Ensures`): a rule for
each way tasks are composed and for each kind of operation. The rules for the operations are about the
record, the partial file and the staging file; the cache file may be evicted at any time, so they say nothing
about it.
-/

namespace PeersTouch.Transfer

open Lib Chat Program List

variable [Digest] {ε δ α β : Type}

/-- What happens outside, and what must hold where the worker may be stopped. -/
structure Context where
  env : Environment
  cacheRef : String
  Safe : World → Prop

namespace Context

variable (ctx : Context)

def Ensures (x : Task ε α) (w : World) (Q : Except ε α → World → Prop) : Prop :=
  x.run.wp (Step ctx.env ctx.cacheRef) (fun w => ctx.env.crashes w → ctx.Safe w) Q w

variable {ctx} {w : World} {x : Task ε α} {f : α → Task ε β}

/-! ### Composition -/

variable {Q : Except ε α → World → Prop} {r : Except ε α}

lemma Ensures.mono {Q' : Except ε α → World → Prop} (h : ctx.Ensures x w Q)
    (hQ : ∀ r w, Q r w → Q' r w) : ctx.Ensures x w Q' :=
  wp_mono h hQ

variable {a : α}

lemma ensures_pure (h : Q (.ok a) w) : ctx.Ensures (pure a : Task ε α) w Q := h

lemma ensures_throw {e : ε} (h : Q (.error e) w) : ctx.Ensures (throw e : Task ε α) w Q := h

lemma ensures_bind {Q : Except ε β → World → Prop}
    (h : ctx.Ensures x w (Program.andThen Q fun a w => ctx.Ensures (f a) w Q)) : ctx.Ensures (x >>= f) w Q :=
  wp_run_bind.2 h

lemma ensures_lift {p : Program Op Op.Answer α}
    (h : p.wp (Step ctx.env ctx.cacheRef) (fun w => ctx.env.crashes w → ctx.Safe w)
    (fun a w => Q (.ok a) w) w) : ctx.Ensures (ExceptT.lift p : Task ε α) w Q :=
  wp_bind.2 h

lemma ensures_lift_pure (h : Q (.ok a) w) : ctx.Ensures (ExceptT.lift (pure a) : Task ε α) w Q := h

lemma ensures_lift_bind {x : Task δ α} {f : Except δ α → Program Op Op.Answer β}
    {Q : Except ε β → World → Prop}
    (h : ctx.Ensures x w fun r w => ctx.Ensures (ExceptT.lift (f r) : Task ε β) w Q) :
    ctx.Ensures (ExceptT.lift (x.run >>= f) : Task ε β) w Q := by
  refine ensures_lift (wp_bind.2 (wp_mono h fun r w hr => ?_))
  exact wp_bind.1 hr

lemma ensures_ofExcept (h : Q r w) : ctx.Ensures (Task.ofExcept r) w Q := h

lemma ensures_ok_bind {Q : Except ε β → World → Prop} (h : ctx.Ensures (f a) w Q) :
    ctx.Ensures (Task.ofExcept (.ok a) >>= f) w Q :=
  h

lemma ensures_failWhen {p : Prop} [Decidable p] {e : ε} {Q : Except ε Unit → World → Prop}
    (hfail : p → Q (.error e) w) (h : ¬p → Q (.ok ()) w) : ctx.Ensures (Task.failWhen p e) w Q := by
  refine ensures_ofExcept ?_
  unfold failWhen
  split
  · next hp => exact hfail hp
  · next hp => exact h hp

lemma ensures_mapError {g : ε → δ} {Q : Except δ α → World → Prop}
    (h : ctx.Ensures x w fun r w => Q (r.mapError g) w) : ctx.Ensures (x.mapError g) w Q :=
  wp_bind.2 h

lemma ensures_attempt {Q : Except δ (Except ε α) → World → Prop}
    (h : ctx.Ensures x w fun r w => Q (.ok r) w) : ctx.Ensures (x.attempt : Task δ _) w Q :=
  ensures_lift h

lemma ensures_ite {p : Prop} [Decidable p] {y : Task ε α}
    (hthen : p → ctx.Ensures x w Q) (helse : ¬p → ctx.Ensures y w Q) : ctx.Ensures (if p then x else y) w Q := by
  split
  · next hp => exact hthen hp
  · next hp => exact helse hp

/-- A loop over the chunks, by what holds before each of them. -/
lemma ensures_foldlM_range {g : β → ℕ → Task ε β} {I : ℕ → β → World → Prop} {n : ℕ}
    {Q : Except ε β → World → Prop}
    (hstep : ∀ i b w, i < n → I i b w → ctx.Ensures (g b i) w (Program.andThen Q (I (i + 1))))
    (hdone : ∀ b w, I n b w → Q (.ok b) w) {b : β} (h : I 0 b w) :
    ctx.Ensures ((range n).foldlM g b) w Q := by
  refine wp_foldlM (I := fun xs b w => ∃ i ≤ n, xs = range' i (n - i) ∧ I i b w)
    ?_ ?_ ⟨0, Nat.zero_le n, by rw [Nat.sub_zero, range_eq_range'], h⟩
  · rintro x xs b w ⟨i, hi, hxs, hI⟩
    obtain ⟨m, hm⟩ : ∃ m, n - i = m + 1 := by
      cases hm : n - i with
      | zero => rw [hm] at hxs; cases hxs
      | succ m => exact ⟨m, rfl⟩
    rw [hm] at hxs
    obtain ⟨rfl, rfl⟩ := hxs
    refine (hstep x b w (by omega) hI).mono fun r w hr => ?_
    cases r with
    | ok b => exact ⟨x + 1, by omega, by rw [show n - (x + 1) = m by omega], hr⟩
    | error e => exact hr
  · rintro b w ⟨i, hi, hnil, hI⟩
    obtain rfl : i = n := by
      rw [eq_comm, range'_eq_nil_iff] at hnil
      omega
    exact hdone b w hI

/-! ### Operations -/

/-- The world before an operation: the cache file may have been evicted. -/
def Loses (ctx : Context) (op : Op) (w w₁ : World) : Prop := w₁ = w ∨ ctx.env.evicts op w ∧ w₁ = w.evict ctx.cacheRef

namespace Loses

variable {op : Op} {w₁ : World}

section

omit [Digest]

lemma transfer (h : ctx.Loses op w w₁) : w₁.transfer = w.transfer := by rcases h with rfl | ⟨-, rfl⟩ <;> rfl

lemma removedPartial (h : ctx.Loses op w w₁) : w₁.removedPartial = w.removedPartial := by
  rcases h with rfl | ⟨-, rfl⟩ <;> rfl

lemma files (h : ctx.Loses op w w₁) {ref : String} (href : ref ≠ ctx.cacheRef) : w₁.files ref = w.files ref := by
  rcases h with rfl | ⟨-, rfl⟩
  · rfl
  · exact Function.update_of_ne href _ _

end

end Loses

lemma wp_call {op : Op} {Q : op.Answer → World → Prop}
    (h : ∀ w₁ r w', ctx.Loses op w w₁ → Performs ctx.env op w₁ r w' → (ctx.env.crashes w' → ctx.Safe w') ∧ Q r w') :
    (Program.call op).wp (Step ctx.env ctx.cacheRef) (fun w => ctx.env.crashes w → ctx.Safe w) Q
    w := by
  refine Program.wp_call fun r w' hstep => ?_
  rcases hstep with hperfs | ⟨hevicts, hperfs⟩
  · exact h w r w' (.inl rfl) hperfs
  · exact h _ r w' (.inr ⟨hevicts, rfl⟩) hperfs

lemma ensures_blobText {op : BlobOp} {Q : Except String op.Answer → World → Prop}
    (h : ∀ w₁, ctx.Loses (.blob op) w w₁ → (ctx.env.crashes (w₁.execBlob op).2 → ctx.Safe (w₁.execBlob op).2) ∧
    Q (w₁.execBlob op).1 (w₁.execBlob op).2) : ctx.Ensures (blobText op) w Q := by
  refine wp_call fun w₁ r w' hloses hperfs => ?_
  have := h w₁ hloses
  rwa [show w₁.execBlob op = (r, w') from hperfs] at this

lemma ensures_store {op : StoreOp} {Q : Except ObjectTransferFailure op.Answer → World → Prop}
    (h : ∀ w₁, ctx.Loses (.store op) w w₁ → (ctx.env.crashes (w₁.execStore op).2 → ctx.Safe (w₁.execStore op).2) ∧
    Q (w₁.execStore op).1 (w₁.execStore op).2) : ctx.Ensures (store op) w Q := by
  refine wp_call fun w₁ r w' hloses hperfs => ?_
  have := h w₁ hloses
  rwa [show w₁.execStore op = (r, w') from hperfs] at this

lemma ensures_required {transfer : ObjectTransferRecord}
    {Q : Except ObjectTransferFailure ObjectTransferRecord → World → Prop}
    (hrec : w.transfer = some transfer)
    (h : ∀ w₁, ctx.Loses (.store .objectTransfer) w w₁ → (ctx.env.crashes w₁ → ctx.Safe w₁) ∧ Q (.ok transfer) w₁) :
    ctx.Ensures requiredTransfer w Q := by
  refine ensures_bind (ensures_store fun w₁ hloses => ?_)
  have hexec : w₁.execStore .objectTransfer = (.ok w₁.transfer, w₁) := by simp [World.execStore, StoreOp.exec]
  rw [hexec, hloses.transfer, hrec]
  exact h w₁ hloses

lemma ensures_checkRunning {Q : Except ObjectTransferFailure Unit → World → Prop} (h : ∀ w₁,
    ctx.Loses .checkTransferRunning w w₁ → (ctx.env.crashes w₁ → ctx.Safe w₁) ∧ Q (.ok ()) w₁ ∧ ∀ failure,
    failure.retryable = true → Q (.error failure) w₁) : ctx.Ensures checkTransferRunning w Q := by
  refine wp_call fun w₁ r w' hloses hperfs => ?_
  obtain ⟨hr, rfl⟩ := hperfs
  obtain ⟨hsafe, hok, herr⟩ := h w' hloses
  refine ⟨hsafe, ?_⟩
  rcases hr with rfl | rfl | rfl
  · exact hok
  · exact herr _ rfl
  · exact herr _ rfl

lemma ensures_getDownloadChunk {i start stop : ℕ}
    {Q : Except ObjectTransferFailure Bytes → World → Prop}
    (h : ∀ w₁ r, ctx.Loses (.getDownloadChunk i start stop) w w₁ → ctx.env.delivers i r →
    (ctx.env.crashes w₁ → ctx.Safe w₁) ∧ Q r w₁) :
    ctx.Ensures (getDownloadChunk i start stop) w Q := by
  refine wp_call fun w₁ r w' hloses hperfs => ?_
  obtain ⟨hr, rfl⟩ := hperfs
  exact h w' r hloses hr

lemma ensures_tryAdmit {Q : Except AdmissionError Unit → World → Prop} (h : ∀ w₁, ctx.Loses .tryAdmit w w₁ →
    (ctx.env.crashes w₁ → ctx.Safe w₁) ∧ Q (.ok ()) w₁ ∧ Q (.error .alreadyActive) w₁ ∧ ∀ failure,
    failure.retryable = true → Q (.error (.failure failure)) w₁) : ctx.Ensures tryAdmit w Q := by
  refine wp_call fun w₁ r w' hloses hperfs => ?_
  obtain ⟨hr, rfl⟩ := hperfs
  obtain ⟨hsafe, hok, hact, herr⟩ := h w' hloses
  refine ⟨hsafe, ?_⟩
  rcases hr with rfl | rfl | rfl | rfl
  · exact hok
  · exact hact
  · exact herr _ rfl
  · exact herr _ rfl

variable {w' : World}

lemma Ensures.of_returns (h : ctx.Ensures x w Q) (hx : x.run.Returns (Step ctx.env ctx.cacheRef) w r w') : Q r w' :=
  wp_of_returns h hx

lemma Ensures.of_halts (h : ctx.Ensures x w Q) (hx : x.run.Halts (Step ctx.env ctx.cacheRef) w w')
    (hcrash : ctx.env.crashes w') : ctx.Safe w' :=
  wp_of_halts h hx hcrash

-- from here on a task is taken apart by the rules only
attribute [irreducible] Ensures

end Context

end PeersTouch.Transfer
