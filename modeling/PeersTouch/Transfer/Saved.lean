import PeersTouch.Transfer.Rules

/-!
# What a stopped download leaves

The invariant of a download (`Saved`): a chunk whose bit is set in the record is in the partial file, in the
form the descriptor commits to. `Working` is what an attempt knows of the world while it runs, with a rule
for each operation that an attempt makes.

The parameter `sound` says whether the object and the transport are known to be correct. If they are, only
failures that can be retried happen (`Outcome`), so that the transfer does not become terminal.
-/

namespace PeersTouch.Transfer

open Lib Chat ObjectCryptoMaterial Context

def ObjectTransferRecord.material (transfer : ObjectTransferRecord) : ObjectCryptoMaterial where
  objectKey := transfer.objectKey
  baseNonce := transfer.baseNonce
  plaintextSize := transfer.plaintextSize
  chunkSize := transfer.chunkSize

/-- An attempt may go on. -/
structure ObjectTransferRecord.Active (transfer : ObjectTransferRecord) : Prop where
  not_complete : transfer.state ≠ .complete
  not_cancelled : transfer.state ≠ .cancelled
  not_terminal : transfer.state ≠ .terminal

variable {progress : TransferProgress}

lemma ObjectTransferRecord.Active.updateTransferProgress {transfer : ObjectTransferRecord} (h : transfer.Active) :
    updateTransferProgress progress (some transfer) = (.ok (), some (progress.apply transfer)) := by
  refine if_pos ?_
  simp [TransferProgress.matchesRow, h.not_complete, h.not_cancelled, h.not_terminal]

lemma Download.stagingRef_ne_cacheRef (d : Download) : d.stagingRef ≠ d.cacheRef := by
  intro h
  have hlen := congrArg String.length h
  simp only [stagingRef, plaintextStagingRef, String.length_append] at hlen
  have hpos : 0 < String.length ".decrypting" := by decide
  omega

lemma Download.apart {d : Download} {transfer : ObjectTransferRecord} (h : d.overlaps transfer = false) :
    transfer.partialLocalRef ≠ d.cacheRef ∧ transfer.partialLocalRef ≠ d.stagingRef := by
  simpa [Download.overlaps] using h

variable [Digest]

structure Committed (d : Download) (m : ObjectCryptoMaterial) (i : ℕ) (ciphertext : Bytes) : Prop where
  length : ciphertext.length = m.cipherSize i
  hash : d.descriptor.commitment.chunkCiphertextSHA256[i]? = some (hashBytes ciphertext).bytes

/-- A file that begins with so many chunks. -/
def HasChunks (d : Download) (m : ObjectCryptoMaterial) (k : ℕ) (file : Option Bytes) : Prop :=
  ∀ i < k, Committed d m i (slice (file.getD []) (m.ciphertextChunkOffset i) (m.cipherSize i))

section

variable {d : Download} {m : ObjectCryptoMaterial} {k n : ℕ} {file : Option Bytes} {bytes : Bytes}

namespace HasChunks

lemma exists_bytes (h : HasChunks d m k file) (hk : 0 < k) : ∃ bytes, file = some bytes := by
  cases file with
  | some bytes => exact ⟨bytes, rfl⟩
  | none =>
    have hlen := (h 0 hk).length
    rw [length_slice, Option.getD_none, List.length_nil, Nat.zero_sub] at hlen
    exact absurd hlen (m.cipherSize_pos 0).ne

lemma le_length (hm : 0 < m.chunkSize) (hk : k ≤ m.chunkCount)
    (h : HasChunks d m k file) : m.cipherStart k ≤ (file.getD []).length := by
  cases k with
  | zero =>
    rw [m.cipherStart_zero]
    exact Nat.zero_le _
  | succ k =>
    rw [cipherStart_succ, cipherStart_eq hm hk]
    have hlen := (h k k.lt_succ_self).length
    have := m.cipherSize_pos k
    rw [length_slice] at hlen
    omega

omit [Digest] in
lemma end_le (hm : 0 < m.chunkSize) (hk : k ≤ m.chunkCount) {i : ℕ} (hi : i < k) :
    m.ciphertextChunkOffset i + m.cipherSize i ≤ m.cipherStart k := by
  rw [← cipherStart_eq hm (hi.trans_le hk)]
  exact m.cipherStart_le hi

lemma setLen (hm : 0 < m.chunkSize) (hk : k ≤ m.chunkCount)
    (h : HasChunks d m k (some bytes)) (hn : m.cipherStart k ≤ n) : HasChunks d m k (some (setLen bytes n)) := by
  intro i hi
  have hend := HasChunks.end_le hm hk hi
  have hslice := slice_setLen (hend.trans (h.le_length hm hk)) (hend.trans hn)
  rw [Option.getD_some] at hslice ⊢
  rw [hslice]
  exact h i hi

lemma writeAt (hm : 0 < m.chunkSize) (hk : k < m.chunkCount) {data : Bytes}
    (h : HasChunks d m k file) (hdata : Committed d m k data) :
    HasChunks d m (k + 1) (some (writeAt (file.getD []) (m.ciphertextChunkOffset k) data)) := by
  intro i hi
  rw [Option.getD_some]
  rcases Nat.lt_succ_iff_lt_or_eq.1 hi with hlt | rfl
  · have hend := HasChunks.end_le hm hk.le hlt
    rw [slice_writeAt (hend.trans (h.le_length hm hk.le))]
    · exact h i hlt
    · rwa [← cipherStart_eq hm hk]
  · rw [← hdata.length, slice_writeAt_self]
    exact hdata

lemma mono {j : ℕ} (h : HasChunks d m k file) (hj : j ≤ k) : HasChunks d m j file := fun i hi => h i (hi.trans_le hj)

end HasChunks

end

variable [ObjectCommitmentCodec]

/-- The invariant of the record and its partial file. -/
structure Saved (d : Download) (m : ObjectCryptoMaterial) (sound : Prop)
    (transfer : ObjectTransferRecord) (file : Option Bytes) : Prop where
  material : transfer.material = m
  not_cancelled : transfer.state ≠ .cancelled
  not_terminal : sound → transfer.state ≠ .terminal
  apart : sound → d.overlaps transfer = false
  describes : sound → (validateDownloadDescriptor transfer d.descriptor).isOk = true
  chunks : transfer.state = .complete ∨ transfer.state = .terminal ∨
    ∃ k, Completed transfer.completedChunkBitmap m.chunkCount k ∧ HasChunks d m k file ∧
      (k = 0 ∨ d.overlaps transfer = false)

/-- The invariant of the world. -/
def Resumable (d : Download) (m : ObjectCryptoMaterial) (sound : Prop) (w : World) : Prop :=
  ∃ transfer, w.transfer = some transfer ∧ Saved d m sound transfer (w.files transfer.partialLocalRef)

structure Working (d : Download) (m : ObjectCryptoMaterial) (sound : Prop)
    (transfer : ObjectTransferRecord) (file staging : Option Bytes) (w : World) : Prop where
  record : w.transfer = some transfer
  partialFile : w.files transfer.partialLocalRef = file
  stagingFile : w.files d.stagingRef = staging
  saved : Saved d m sound transfer file
  active : transfer.Active
  apart : d.overlaps transfer = false

def Attempting (d : Download) (m : ObjectCryptoMaterial) (sound : Prop) (ref : String) (w : World) :
    Prop :=
  ∃ transfer file staging, transfer.partialLocalRef = ref ∧ Working d m sound transfer file staging w

variable {d : Download} {m : ObjectCryptoMaterial} {sound : Prop}
  {transfer : ObjectTransferRecord} {file file' staging staging' : Option Bytes} {w : World}

namespace Saved

section

variable (h : Saved d m sound transfer file)
include h

lemma exists_chunks (hact : transfer.Active) :
    ∃ k, Completed transfer.completedChunkBitmap m.chunkCount k ∧ HasChunks d m k file := by
  rcases h.chunks with hcompl | hterm | ⟨k, hk, hchs, -⟩
  · exact absurd hcompl hact.not_complete
  · exact absurd hterm hact.not_terminal
  · exact ⟨k, hk, hchs⟩

lemma of_complete (hcompl : transfer.state = .complete) (file' : Option Bytes) : Saved d m sound transfer file' :=
  { h with chunks := .inl hcompl }

lemma of_overlaps (hover : d.overlaps transfer = true) (file' : Option Bytes) : Saved d m sound transfer file' := by
  refine { h with chunks := ?_ }
  rcases h.chunks with hcompl | hterm | ⟨k, hk, -, rfl | hapart⟩
  · exact .inl hcompl
  · exact .inr (.inl hterm)
  · exact .inr (.inr ⟨0, hk, fun i hi => absurd hi i.not_lt_zero, .inl rfl⟩)
  · rw [hover] at hapart
    cases hapart

lemma of_chunks (hapart : d.overlaps transfer = false)
    (hfile : ∀ k, Completed transfer.completedChunkBitmap m.chunkCount k → HasChunks d m k file →
    HasChunks d m k file') : Saved d m sound transfer file' := by
  refine { h with chunks := ?_ }
  rcases h.chunks with hcompl | hterm | ⟨k, hk, hchs, -⟩
  · exact .inl hcompl
  · exact .inr (.inl hterm)
  · exact .inr (.inr ⟨k, hk, hfile k hk hchs, .inr hapart⟩)

end

variable {progress : TransferProgress}

lemma apply (h : Saved d m sound transfer file) (hcancel : progress.state ≠ .cancelled)
    (hterm : sound → progress.state ≠ .terminal) (hchs : progress.state = .complete ∨ progress.state = .terminal ∨
    ∃ k, Completed progress.completedChunkBitmap m.chunkCount k ∧ HasChunks d m k file' ∧
    (k = 0 ∨ d.overlaps transfer = false)) : Saved d m sound (progress.apply transfer) file' :=
  { h with not_cancelled := hcancel, not_terminal := hterm, chunks := hchs }

lemma apply_same (h : Saved d m sound transfer file) (hact : transfer.Active)
    (hcancel : progress.state ≠ .cancelled) (hterm : sound → progress.state ≠ .terminal)
    (hbitmap : progress.completedChunkBitmap = transfer.completedChunkBitmap) :
    Saved d m sound (progress.apply transfer) file := by
  refine h.apply hcancel hterm (.inr (.inr ?_))
  rw [hbitmap]
  rcases h.chunks with hcompl | hterm | hchs
  · exact absurd hcompl hact.not_complete
  · exact absurd hterm hact.not_terminal
  · exact hchs

end Saved

/-! ### Rules -/

def Download.context (d : Download) (m : ObjectCryptoMaterial) (sound : Prop) (env : Environment) :
    Context where
  env := env
  cacheRef := d.cacheRef
  Safe := Resumable d m sound

abbrev Download.Ensures (d : Download) (m : ObjectCryptoMaterial) (sound : Prop) (env : Environment) {ε α : Type} :=
  Context.Ensures (ε := ε) (α := α) (d.context m sound env)

variable {env : Environment}

lemma Working.resumable (h : Working d m sound transfer file staging w) : Resumable d m sound w :=
  ⟨transfer, h.record, h.partialFile.symm ▸ h.saved⟩

variable {w₁ : World}

lemma Working.loses {op : Op} (h : Working d m sound transfer file staging w)
    (hloses : (d.context m sound env).Loses op w w₁) : Working d m sound transfer file staging w₁ :=
  { h with
    record := hloses.transfer.trans h.record
    partialFile := (hloses.files (Download.apart h.apart).1).trans h.partialFile
    stagingFile := (hloses.files d.stagingRef_ne_cacheRef).trans h.stagingFile }

lemma Saved.loses {op : Op} (h : Saved d m sound transfer (w.files transfer.partialLocalRef))
    (hloses : (d.context m sound env).Loses op w w₁) : Saved d m sound transfer (w₁.files transfer.partialLocalRef) := by
  cases hover : d.overlaps transfer with
  | true => exact h.of_overlaps hover _
  | false => rwa [hloses.files (Download.apart hover).1]

/-- How a part of an attempt ends: with `P`, or with an error of which `E` holds and after which another
attempt can be made. -/
def Outcome (d : Download) (m : ObjectCryptoMaterial) (sound : Prop) (ref : String) {ε α : Type}
    (E : ε → Prop) (P : α → World → Prop) : Except ε α → World → Prop
  | .ok a, w => P a w
  | .error e, w => E e ∧ Attempting d m sound ref w

section

variable {ref : String} {ε δ α β : Type} {E : ε → Prop} {P : α → World → Prop}
  {R : β → World → Prop} {x : Task ε α} {f : α → Task ε β}

section

variable (hx : d.Ensures m sound env x w (Outcome d m sound ref E P))
include hx

lemma outcome_bind (hf : ∀ a w, P a w → d.Ensures m sound env (f a) w (Outcome d m sound ref E R)) :
    d.Ensures m sound env (x >>= f) w (Outcome d m sound ref E R) := by
  refine ensures_bind (hx.mono fun r w hr => ?_)
  cases r with
  | ok a => exact hf a w hr
  | error e => exact hr

lemma outcome_mono {P' : α → World → Prop} (hP : ∀ a w, P a w → P' a w) :
    d.Ensures m sound env x w (Outcome d m sound ref E P') := by
  refine hx.mono fun r w hr => ?_
  cases r with
  | ok a => exact hP a w hr
  | error e => exact hr

lemma outcome_mapError {g : ε → δ} {E' : δ → Prop} (hE : ∀ e, E e → E' (g e)) :
    d.Ensures m sound env (x.mapError g) w (Outcome d m sound ref E' P) := by
  refine ensures_mapError (hx.mono fun r w hr => ?_)
  cases r with
  | ok a => exact hr
  | error e => exact ⟨hE e hr.1, hr.2⟩

end

lemma outcome_foldlM_range {g : β → ℕ → Task ε β} {I : ℕ → β → World → Prop} {n : ℕ} {b : β}
    (hstep : ∀ i b w, i < n → I i b w → d.Ensures m sound env (g b i) w (Outcome d m sound ref E (I (i + 1))))
    (h : I 0 b w) : d.Ensures m sound env ((List.range n).foldlM g b) w (Outcome d m sound ref E (I n)) := by
  refine ensures_foldlM_range (fun i b w hi hI => ?_) (fun _ _ hI => hI) h
  refine (hstep i b w hi hI).mono fun r w hr => ?_
  cases r with
  | ok b => exact hr
  | error e => exact hr

lemma Working.ensures_ofExcept {r : Except ε α} (hw : Working d m sound transfer file staging w)
    (herr : ∀ e, r = .error e → E e) (hok : ∀ a, r = .ok a → P a w) :
    d.Ensures m sound env (Task.ofExcept r) w (Outcome d m sound transfer.partialLocalRef E P) := by
  refine Context.ensures_ofExcept ?_
  cases r with
  | ok a => exact hok a rfl
  | error e => exact ⟨herr e rfl, transfer, file, staging, rfl, hw⟩

lemma Working.ensures_failWhen {p : Prop} [Decidable p] {e : ε} {P : Unit → World → Prop}
    (hw : Working d m sound transfer file staging w) (herr : p → E e) (hok : ¬p → P () w) :
    d.Ensures m sound env (Task.failWhen p e) w (Outcome d m sound transfer.partialLocalRef E P) :=
  Context.ensures_failWhen (fun hp => ⟨herr hp, transfer, file, staging, rfl, hw⟩) hok

end

/-- A failure that the rest of the download survives. -/
def Retryable (sound : Prop) (failure : ObjectTransferFailure) : Prop := sound → failure.retryable = true

/-- An attempt at a transfer can be made again if it fails. -/
abbrev Retries (d : Download) (m : ObjectCryptoMaterial) (sound : Prop) (transfer : ObjectTransferRecord) {α : Type} :=
  Outcome (α := α) d m sound transfer.partialLocalRef (Retryable sound)

variable {op : BlobOp} {E : String → Prop} {A : op.Answer → Prop}

section

variable (hw : Working d m sound transfer file staging w)
include hw

namespace Working

lemma ensures_blobText (file' staging' : Option Bytes) (hsv : Saved d m sound transfer file')
    (hop : ∀ files : Files, files transfer.partialLocalRef = file → files d.stagingRef = staging →
      (op.exec files).2 transfer.partialLocalRef = file' ∧ (op.exec files).2 d.stagingRef = staging' ∧
        match (op.exec files).1 with
        | .ok a => A a
        | .error e => E e) : d.Ensures m sound env (blobText op) w
      (Outcome d m sound transfer.partialLocalRef E fun a w =>
        A a ∧ Working d m sound transfer file' staging' w) := by
  refine Context.ensures_blobText fun w₁ hloses => ?_
  have hw₁ := hw.loses hloses
  obtain ⟨hfile, hstg, hans⟩ := hop w₁.files hw₁.partialFile hw₁.stagingFile
  have hw' : Working d m sound transfer file' staging' (w₁.execBlob op).2 :=
    { hw₁ with partialFile := hfile, stagingFile := hstg, saved := hsv }
  refine ⟨fun _ => hw'.resumable, ?_⟩
  show Outcome d m sound transfer.partialLocalRef E _ (op.exec w₁.files).1 _
  cases h : (op.exec w₁.files).1 with
  | ok a =>
    rw [h] at hans
    exact ⟨hans, hw'⟩
  | error e =>
    rw [h] at hans
    exact ⟨hans, transfer, _, _, rfl, hw'⟩

lemma ensures_read {a : op.Answer}
    (hop : ∀ files : Files, files transfer.partialLocalRef = file → op.exec files = (.ok a, files)) :
    d.Ensures m sound env (blobText op) w (Outcome d m sound transfer.partialLocalRef E fun r w =>
    r = a ∧ Working d m sound transfer file staging w) := by
  refine hw.ensures_blobText file staging hw.saved fun files hfile hstg => ?_
  rw [hop files hfile]
  exact ⟨hfile, hstg, rfl⟩

/-- An operation the text of whose error becomes a failure, which can be retried. -/
lemma ensures_blob (file' staging' : Option Bytes) (hsv : Saved d m sound transfer file')
    (hop : ∀ files : Files, files transfer.partialLocalRef = file → files d.stagingRef = staging →
    (op.exec files).2 transfer.partialLocalRef = file' ∧
    (op.exec files).2 d.stagingRef = staging' ∧ ∀ a, (op.exec files).1 = .ok a → A a) :
    d.Ensures m sound env (blob op) w (Retries d m sound transfer fun a w =>
    A a ∧ Working d m sound transfer file' staging' w) := by
  refine outcome_mapError (E := fun _ => True) (hw.ensures_blobText file' staging' hsv ?_) fun _ _ _ => rfl
  intro files hfile hstg
  obtain ⟨hfile', hstg', hans⟩ := hop files hfile hstg
  refine ⟨hfile', hstg', ?_⟩
  cases h : (op.exec files).1 with
  | ok a => exact hans a h
  | error e => trivial

lemma ensures_blob_other (hop : ∀ (files : Files) (ref : String), ref ≠ d.cacheRef → (op.exec files).2 ref = files ref) :
    d.Ensures m sound env (blob op) w (Retries d m sound transfer fun _ w =>
    Working d m sound transfer file staging w) := by
  refine outcome_mono (hw.ensures_blob (A := fun _ => True) file staging hw.saved ?_) fun _ _ h => h.2
  intro files hfile hstg
  refine ⟨?_, ?_, fun _ _ => trivial⟩
  · rw [hop files _ (Download.apart hw.apart).1, hfile]
  · rw [hop files _ d.stagingRef_ne_cacheRef, hstg]

lemma ensures_remove_staging : d.Ensures m sound env (blob (.remove d.stagingRef)) w
    (Retries d m sound transfer fun _ w =>
    Working d m sound transfer file none w) := by
  refine outcome_mono (hw.ensures_blob (A := fun _ => True) file none hw.saved ?_) fun _ _ h => h.2
  intro files hfile hstg
  refine ⟨?_, Function.update_self .., fun _ _ => trivial⟩
  exact (Function.update_of_ne (Download.apart hw.apart).2 ..).trans hfile

lemma ensures_checkRunning : d.Ensures m sound env checkTransferRunning w
    (Retries d m sound transfer fun _ w =>
    Working d m sound transfer file staging w) := by
  refine Context.ensures_checkRunning fun w₁ hloses => ?_
  have hw₁ := hw.loses hloses
  exact ⟨fun _ => hw₁.resumable, hw₁, fun failure hrtr => ⟨fun _ => hrtr, transfer, file, staging, rfl, hw₁⟩⟩

lemma ensures_getDownloadChunk {i start stop : ℕ} {A : Bytes → Prop}
    (hfail : ∀ failure, env.delivers i (.error failure) → Retryable sound failure)
    (hck : ∀ ciphertext, env.delivers i (.ok ciphertext) → A ciphertext) :
    d.Ensures m sound env (getDownloadChunk i start stop) w
    (Retries d m sound transfer fun ciphertext w =>
    A ciphertext ∧ Working d m sound transfer file staging w) := by
  refine Context.ensures_getDownloadChunk fun w₁ r hloses hdlv => ?_
  have hw₁ := hw.loses hloses
  refine ⟨fun _ => hw₁.resumable, ?_⟩
  cases r with
  | ok ciphertext => exact ⟨hck ciphertext hdlv, hw₁⟩
  | error failure => exact ⟨hfail failure hdlv, transfer, file, staging, rfl, hw₁⟩

lemma ensures_required : d.Ensures m sound env requiredTransfer w
    (Retries d m sound transfer fun r w =>
    r = transfer ∧ Working d m sound transfer file staging w) := by
  refine Context.ensures_required hw.record fun w₁ hloses => ?_
  have hw₁ := hw.loses hloses
  exact ⟨fun _ => hw₁.resumable, rfl, hw₁⟩

/-- Progress of the attempt. The record is found because the transfer is active. -/
lemma ensures_update {k : ℕ} (hst : progress.state = .transferring ∨ progress.state = .verifying)
    (hk : Completed progress.completedChunkBitmap m.chunkCount k) (hchs : HasChunks d m k file) :
    d.Ensures m sound env (store (.updateTransferProgress progress)) w
    (Retries d m sound transfer fun _ w =>
    Working d m sound (progress.apply transfer) file staging w) := by
  have hact : (progress.apply transfer).Active := by
    rcases hst with h | h <;> refine ⟨?_, ?_, ?_⟩ <;>
      exact fun hne => ObjectTransferState.noConfusion (h.symm.trans hne)
  have hsv : Saved d m sound (progress.apply transfer) file :=
    hw.saved.apply hact.not_cancelled (fun _ => hact.not_terminal) (.inr (.inr ⟨k, hk, hchs, .inr hw.apart⟩))
  refine ensures_store fun w₁ hloses => ?_
  have hw₁ := hw.loses hloses
  have hexec : (StoreOp.updateTransferProgress progress).exec w₁.transfer = (.ok (), some (progress.apply transfer)) := by
    rw [hw₁.record]
    exact hw.active.updateTransferProgress
  have hw' : Working d m sound (progress.apply transfer) file staging (w₁.execStore (.updateTransferProgress progress)).2 :=
    { hw₁ with
      record := congrArg Prod.snd hexec, saved := hsv, active := hact, apart := hw.apart }
  refine ⟨fun _ => hw'.resumable, ?_⟩
  show Outcome d m sound _ _ _ ((StoreOp.updateTransferProgress progress).exec w₁.transfer).1 _
  rw [hexec]
  exact hw'

end Working

end

end PeersTouch.Transfer
