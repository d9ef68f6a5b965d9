import PeersTouch.Chat.RoundTrip
import PeersTouch.Transfer.Calls

/-!
# Downloads that are resumed

The runs of one worker on one transfer: calls of `run_download_once`, `restore_download_cache` and `retry`,
each of which returns or is stopped after one of its operations. If the worker is not stopped between the
removal of a partial file and the record of the failure, and the cache file is not evicted after its last
check, then in every state of a run the chunks whose bits are set are in the partial file, and a call that
says so has left the plaintext in the cache file (`resumes_of_careful`).
-/

namespace PeersTouch.Transfer

open Lib Chat List Option Program

section

variable [Digest] [ObjectCipher] [ObjectCommitmentCodec]

/-- A call returns, or it is stopped. -/
def Ends (env : Environment) (d : Download) {α : Type} (x : Worker α) (w w' : World) : Prop :=
  (∃ r, x.run.Returns (Step env d.cacheRef) w r w') ∨ x.run.Halts (Step env d.cacheRef) w w' ∧ env.crashes w'

inductive Call (env : Environment) (d : Download) (w w' : World) : Prop
  | runDownloadOnce (now : ℤ) : Ends env d (runDownloadOnce d now) w w' → Call env d w w'
  | restoreDownloadCache (now : ℤ) : Ends env d (restoreDownloadCache d now) w w' → Call env d w w'
  | retry (now : ℤ) : Ends env d (retry now) w w' → Call env d w w'

def Runs (env : Environment) (d : Download) : World → World → Prop := Relation.ReflTransGen (Call env d)

structure ObjectTransferRecord.New (transfer : ObjectTransferRecord) : Prop where
  queued : transfer.state = .queued
  nothing : transfer.completedChunkBitmap = List.replicate (transfer.material.chunkCount ⌈/⌉ 8) 0

def World.HoldsChunk (d : Download) (w : World) (transfer : ObjectTransferRecord) (i : ℕ) : Prop :=
  ∃ bytes, w.files transfer.partialLocalRef = some bytes ∧
    Committed d transfer.material i (slice bytes (transfer.material.ciphertextChunkOffset i)
      (transfer.material.cipherSize i))

variable {env : Environment} {d : Download} {m : ObjectCryptoMaterial} {sound : Prop}
  {transfer : ObjectTransferRecord} {w w' w₀ : World}

omit [ObjectCipher] in
lemma ObjectTransferRecord.New.saved (h : transfer.New) (file : Option Bytes) (hapart : sound → d.overlaps transfer = false)
    (hdesc : sound → (validateDownloadDescriptor transfer d.descriptor).isOk = true) :
    Saved d transfer.material sound transfer file := by
  refine ⟨rfl, ?_, fun _ => ?_, hapart, hdesc, .inr (.inr ⟨0, ?_, ?_, .inl rfl⟩)⟩
  · rw [h.queued]
    decide
  · rw [h.queued]
    decide
  · rw [h.nothing]
    exact completed_replicate _
  · exact fun i hi => absurd hi i.not_lt_zero

omit [ObjectCipher] in
/-- What a call ensures holds when it returns and where it is stopped. -/
lemma Ends.resumable {α : Type} {x : Worker α} {Q : Except ObjectTransferFailure α → World → Prop}
    (hx : d.Ensures m sound env x w Q) (hQ : ∀ r w, Q r w → Resumable d m sound w)
    (h : Ends env d x w w') : Resumable d m sound w' := by
  rcases h with ⟨r, hret⟩ | ⟨hhalts, hcrash⟩
  · exact hQ r w' (hx.of_returns hret)
  · exact hx.of_halts hhalts hcrash

lemma Call.resumable (hcare : env.Careful d) (hsound : sound → Faithful d m env)
    (hw : Resumable d m sound w) (h : Call env d w w') : Resumable d m sound w' := by
  cases h with
  | runDownloadOnce now h => exact h.resumable (ensures_runDownloadOnce hcare hsound now hw) fun _ _ hr => hr.1
  | restoreDownloadCache now h => exact h.resumable (ensures_restoreCache hcare now hw) fun _ _ hr => hr
  | retry now h => exact h.resumable (ensures_retry now hw) fun _ _ hr => hr

lemma Runs.resumable (hcare : env.Careful d) (hsound : sound → Faithful d m env)
    (h : Runs env d w w') (hw : Resumable d m sound w) : Resumable d m sound w' := by
  induction h with
  | refl => exact hw
  | tail _ hcall ih => exact hcall.resumable hcare hsound ih

omit [ObjectCipher] in
lemma Resumable.holdsChunk (h : Resumable d m sound w) (hrec : w.transfer = some transfer)
    (hcompl : transfer.state ≠ .complete) (hterm : transfer.state ≠ .terminal) {i : ℕ}
    (hi : chunkComplete transfer.completedChunkBitmap i = true) : w.HoldsChunk d transfer i := by
  obtain ⟨row, hrow, hsv⟩ := h
  obtain rfl : row = transfer := some.inj (hrow.symm.trans hrec)
  obtain ⟨k, hk, hchs⟩ := hsv.exists_chunks ⟨hcompl, hsv.not_cancelled, hterm⟩
  have hik := (hk.complete_iff i).1 hi
  obtain ⟨bytes, hb⟩ := hchs.exists_bytes (i.zero_le.trans_lt hik)
  have hck := hchs i hik
  rw [hb] at hck
  exact ⟨bytes, hb, hsv.material.symm ▸ hck⟩

/-- In every run from a new transfer: a call that says that the download is complete leaves the plaintext
in the cache file; a chunk whose bit is set is in the partial file, unless the transfer is complete or
terminal; and if the object and the transport are sound, the transfer does not become terminal. -/
theorem resumes_of_careful (hcareful : env.Careful d) (hrecord : w₀.transfer = some transfer)
    (hnew : transfer.New) (hruns : Runs env d w₀ w) :
    (∀ now w', (runDownloadOnce d now).run.Returns (Step env d.cacheRef) w (.ok .complete) w' → d.Cached w'.files) ∧
    (∀ row, w.transfer = some row → row.state ≠ .complete → row.state ≠ .terminal →
      ∀ i, chunkComplete row.completedChunkBitmap i = true → w.HoldsChunk d row i) ∧
    (Faithful d transfer.material env → d.overlaps transfer = false →
      (validateDownloadDescriptor transfer d.descriptor).isOk = true → w.state ≠ some .terminal) := by
  have hstart : Resumable d transfer.material False w₀ :=
    ⟨transfer, hrecord, hnew.saved _ (fun h => h.elim) fun h => h.elim⟩
  have hend := hruns.resumable hcareful (fun h => h.elim) hstart
  refine ⟨fun now w' hret => ?_, fun row hrow hcompl hterm i hi => ?_,
    fun hfaithful hapart hdesc hterm => ?_⟩
  · exact ((ensures_runDownloadOnce hcareful (fun h => h.elim) now hend).of_returns hret).2 rfl
  · exact hend.holdsChunk hrow hcompl hterm hi
  · have hsound : Resumable d transfer.material True w₀ :=
      ⟨transfer, hrecord, hnew.saved _ (fun _ => hapart) fun _ => hdesc⟩
    obtain ⟨row, hrow, hsaved⟩ := hruns.resumable hcareful (fun _ => hfaithful) hsound
    rw [World.state, hrow, map_some, some.injEq] at hterm
    exact hsaved.not_terminal trivial hterm

end

section

def answer [Digest] (delivered : ℕ → Except ObjectTransferFailure Bytes) : (op : Op) → World → op.Answer × World
  | .store op, w => w.execStore op
  | .blob op, w => w.execBlob op
  | .getDownloadChunk i _ _, w => (delivered i, w)
  | .checkTransferRunning, w => (.ok (), w)
  | .tryAdmit, w => (.ok (), w)

def handle [Digest] (cacheRef : String) (delivered : ℕ → Except ObjectTransferFailure Bytes)
    (evicts : Op → World → Bool) (op : Op) (w : World) : op.Answer × World :=
  answer delivered op (if evicts op w then w.evict cacheRef else w)

variable {env : Environment} {delivered : ℕ → Except ObjectTransferFailure Bytes}

lemma performs_answer [Digest] (hdlv : ∀ i, env.delivers i (delivered i)) (op : Op)
    (w : World) : Performs env op w (answer delivered op w).1 (answer delivered op w).2 := by
  cases op with
  | store op => rfl
  | blob op => rfl
  | getDownloadChunk i start stop => exact ⟨hdlv i, rfl⟩
  | checkTransferRunning => exact ⟨.inl rfl, rfl⟩
  | tryAdmit => exact ⟨.inl rfl, rfl⟩

lemma step_handle [Digest] {cacheRef : String} {evicts : Op → World → Bool} (hdlv : ∀ i, env.delivers i (delivered i))
    (hevicts : ∀ op w, evicts op w = true → env.evicts op w) (op : Op) (w : World) :
    Step env cacheRef op w (handle cacheRef delivered evicts op w).1 (handle cacheRef delivered evicts op w).2 := by
  unfold handle
  split
  · next h => exact .inr ⟨hevicts op w h, performs_answer hdlv op _⟩
  · exact .inl (performs_answer hdlv op w)

/-- The ciphertext is the plaintext, followed by a tag. -/
@[reducible]
def plainCipher : ObjectCipher where
  decrypt _ _ _ ciphertext := some (ciphertext.take (ciphertext.length - objectTagSize))

@[reducible]
def checksumCommitment [Digest] : ObjectCommitmentCodec where
  descriptorCommitment descriptor := .ok (hashBytes (Chat.bytesOf descriptor.objectID))

attribute [local instance] Chat.checksum plainCipher checksumCommitment

/-- The only chunk of an object of one byte. -/
def theChunk : Bytes := 7 :: List.replicate 16 0

def theDownload (expectedPlaintext : Bytes) : Download where
  transferID := "t"
  descriptor :=
    { objectID := "o", storageRef := "s"
      commitment :=
        { ciphertextSize := 17, ciphertextSHA256 := (hashBytes theChunk).bytes, mediaType := none
          chunkSize := objectChunkSize, chunkCount := 1, tagSize := objectTagSize
          chunkCiphertextSHA256 := [(hashBytes theChunk).bytes] } }
  expectedPlaintextSHA256 := hashBytes expectedPlaintext
  cacheRef := "c"
  retryPolicy := { initialDelayMs := 1000, maximumDelayMs := 60000 }

def theTransfer : ObjectTransferRecord where
  direction := .download
  state := .queued
  uploadID := ""
  generation := 0
  descriptorSHA256 := List.replicate 32 0
  completedChunkBitmap := [0]
  partialLocalRef := "p"
  objectKey := List.replicate 32 1
  baseNonce := List.replicate 12 0
  plaintextSize := 1
  chunkSize := objectChunkSize
  attemptCount := 0
  nextAttemptAtUnixMs := 0
  lastError := none

def theWorld : World where
  transfer := some theTransfer
  files _ := none

def theEnvironment : Environment where
  evicts _ w := w.state ≠ some .complete
  delivers i r := i = 0 ∧ r = .ok theChunk ∨ r = .error shuttingDown
  crashes w := w.removedPartial = true → w.state = some .complete

lemma new_theTransfer : theTransfer.New where
  queued := rfl
  nothing := by decide

lemma foldl_checksum_inj {l l' : Bytes} (hlen : l.length = l'.length)
    (h : l.foldl (fun n b => n * 257 + b.toNat + 1) 1 = l'.foldl (fun n b => n * 257 + b.toNat + 1) 1) : l = l' := by
  induction l using reverseRecOn generalizing l' with
  | nil => exact (length_eq_zero_iff.1 hlen.symm).symm
  | append_singleton l b ih =>
    obtain ⟨l', b', rfl⟩ : ∃ k c, l' = k ++ [c] := by
      rcases eq_nil_or_concat l' with rfl | hl'
      · simp at hlen
      · simpa using hl'
    simp only [length_append, length_singleton, Nat.add_right_cancel_iff] at hlen
    simp only [foldl_append, foldl_cons, foldl_nil] at h
    have hb := b.toNat_lt
    have hb' := b'.toNat_lt
    rw [ih hlen (by omega), UInt8.toNat_inj.1 (show b.toNat = b'.toNat by omega)]

lemma foldl_checksum_lt (l : Bytes) : l.foldl (fun n b => n * 257 + b.toNat + 1) 1 < 257 ^ (l.length + 1) := by
  induction l using reverseRecOn with
  | nil => decide
  | append_singleton l b ih =>
    simp only [foldl_append, foldl_cons, foldl_nil, length_append, length_singleton]
    have hb := b.toNat_lt
    omega

lemma checksum_number_inj {a b : ℕ} (ha : a < 2 ^ 192) (hb : b < 2 ^ 192)
    (h : a * (2 ^ 192 + 1) % 2 ^ 256 = b * (2 ^ 192 + 1) % 2 ^ 256) : a = b := by
  have hlow := congrArg (· % 2 ^ 192) h
  have hdvd : 2 ^ 192 ∣ 2 ^ 256 := Nat.pow_dvd_pow 2 (by decide)
  simp only [Nat.mod_mod_of_dvd _ hdvd, Nat.mul_add, Nat.mul_one, Nat.mul_add_mod_self_right] at hlow
  rwa [Nat.mod_eq_of_lt ha, Nat.mod_eq_of_lt hb] at hlow

lemma eq_theChunk {ciphertext : Bytes} (hlen : ciphertext.length = 17)
    (h : (hashBytes theChunk).bytes = (hashBytes ciphertext).bytes) : ciphertext = theChunk := by
  have hhash : hashBytes theChunk = hashBytes ciphertext := by
    have := Chat.newHash_bytes (hashBytes theChunk)
    rw [h, Chat.newHash_bytes] at this
    exact (Except.ok.inj this).symm
  have hlt : ∀ l : Bytes, l.length = 17 → l.foldl (fun n b => n * 257 + b.toNat + 1) 1 < 2 ^ 192 := by
    intro l hl
    have hlt := foldl_checksum_lt l
    rw [hl] at hlt
    exact hlt.trans (by decide)
  have hnat := congrArg BitVec.toNat (show BitVec.ofNat 256 _ = BitVec.ofNat 256 _ from hhash)
  rw [BitVec.toNat_ofNat, BitVec.toNat_ofNat] at hnat
  refine foldl_checksum_inj hlen ?_
  exact (checksum_number_inj (hlt theChunk rfl) (hlt ciphertext hlen) hnat).symm

lemma faithful_theDownload : Faithful (theDownload [7]) theTransfer.material theEnvironment := by
  have hone : theTransfer.material.chunkCount = 1 := by decide
  have hck : ∀ i < theTransfer.material.chunkCount, ∀ ciphertext,
      Committed (theDownload [7]) theTransfer.material i ciphertext → i = 0 ∧ ciphertext = theChunk := by
    intro i hi ciphertext h
    obtain rfl : i = 0 := by omega
    refine ⟨rfl, eq_theChunk (h.length.trans (by decide)) ?_⟩
    exact some.inj h.hash
  have hplain : decryptObjectChunk theTransfer.material ⟨0, theChunk, (hashBytes theChunk).bytes⟩ = .ok [7] := by decide
  refine ⟨⟨fun i hi ciphertext h => ?_, fun chunk h => ?_, fun chunk plaintext h => ?_⟩, ?_⟩
  · obtain ⟨rfl, rfl⟩ := hck i hi ciphertext h
    exact ⟨[7], by decide, hplain⟩
  · obtain ⟨-, hzero⟩ := hck 0 (by omega) (chunk 0) (h 0 (by omega))
    rw [hone, range_one, flatMap_singleton, hzero]
    rfl
  · obtain ⟨hcmt, hdecrypted⟩ := h 0 (by omega)
    obtain ⟨-, hzero⟩ := hck 0 (by omega) (chunk 0) hcmt
    rw [hzero] at hdecrypted
    rw [hone, range_one, flatMap_singleton, ← Except.ok.inj hdecrypted]
    rfl
  · rintro i r (⟨rfl, rfl⟩ | rfl)
    · exact .inl ⟨theChunk, rfl, by decide, rfl⟩
    · exact .inr ⟨_, rfl, rfl⟩

def delivering (i : ℕ) : Except ObjectTransferFailure Bytes := if i = 0 then .ok theChunk else .error shuttingDown

lemma step_theEnvironment (h : ∀ i, theEnvironment.delivers i (delivered i)) (op : Op) (w : World) :
    Step theEnvironment "c" op w (handle "c" delivered (fun _ _ => false) op w).1
    (handle "c" delivered (fun _ _ => false) op w).2 :=
  step_handle h (fun _ _ h => by cases h) op w

lemma delivers_delivering (i : ℕ) : theEnvironment.delivers i (delivering i) := by
  unfold delivering
  split
  · next h => exact .inl ⟨h, rfl⟩
  · exact .inr rfl

/-- The world after an attempt for which the transport was not there. -/
def waitingWorld : World := ((runDownloadOnce (theDownload [7]) 5).run.run
  (handle "c" (fun _ => .error shuttingDown) fun _ _ => false) theWorld).2

/-- The transport fails, the next attempt is stopped after it has saved the chunk, and the third one
completes the download. -/
theorem resumes_after_crash : ∃ w w', Runs theEnvironment (theDownload [7]) theWorld w ∧
      (∃ row, w.transfer = some row ∧ row.state = .transferring ∧ w.HoldsChunk (theDownload [7]) row 0) ∧
      w.state ≠ some .terminal ∧ (runDownloadOnce (theDownload [7]) 2000).run.Returns (Step theEnvironment "c") w
        (.ok .complete) w' ∧ (theDownload [7]).Cached w'.files := by
  have hfailed : Call theEnvironment (theDownload [7]) theWorld waitingWorld :=
    .runDownloadOnce 5 (.inl ⟨_, Program.returns_run (step_theEnvironment fun _ => .inr rfl) _ _⟩)
  obtain ⟨w, hhalts, hP⟩ := Program.exists_halts_of_runFor (step_theEnvironment delivers_delivering)
    (p := (runDownloadOnce (theDownload [7]) 1000).run) (n := 15) (s := waitingWorld) (P := fun w => !w.removedPartial &&
      w.transfer.any (fun row => row.state = .transferring && chunkComplete row.completedChunkBitmap 0) &&
      ((runDownloadOnce (theDownload [7]) 2000).run.run
        (handle "c" delivering fun _ _ => false) w).1 = .ok .complete) (by decide)
  simp only [Bool.and_eq_true, Bool.not_eq_true', Option.any_eq_true, decide_eq_true_eq] at hP
  obtain ⟨⟨hpresent, row, hrow, hstate, hbit⟩, hcompl⟩ := hP
  have hstop : Call theEnvironment (theDownload [7]) waitingWorld w :=
    .runDownloadOnce 1000 (.inr ⟨hhalts, fun h => by rw [hpresent] at h; cases h⟩)
  have hruns : Runs theEnvironment (theDownload [7]) theWorld w := (Relation.ReflTransGen.single hfailed).tail hstop
  obtain ⟨hcached, hchunks, hterm⟩ := resumes_of_careful ⟨fun _ h => h, fun _ _ h hin => absurd hin h⟩ rfl new_theTransfer hruns
  have hret := Program.returns_run (step_theEnvironment delivers_delivering)
    (runDownloadOnce (theDownload [7]) 2000).run w
  rw [hcompl] at hret
  refine ⟨w, _, hruns, ⟨row, hrow, hstate, hchunks row hrow ?_ ?_ 0 hbit⟩, ?_, hret, hcached 2000 _ hret⟩
  · rw [hstate]
    decide
  · rw [hstate]
    decide
  · exact hterm faithful_theDownload (by decide) (by decide)

/-- A stop between the removal of the partial file and the record of the failure, an eviction after the
last check, and a failure of the transport that cannot be retried. -/
theorem lost_chunk_after_crash : (∃ w row, Call .any (theDownload [8]) theWorld w ∧ w.transfer = some row ∧
      row.state = .verifying ∧ chunkComplete row.completedChunkBitmap 0 = true ∧ w.files row.partialLocalRef = none) ∧
    (∃ w, (runDownloadOnce (theDownload [7]) 5).run.Returns (Step .any "c") theWorld
      (.ok .complete) w ∧ w.files "c" = none) ∧
    ∃ w, (runDownloadOnce (theDownload [7]) 5).run.Returns (Step .any "c") theWorld
      (.ok (.terminal .notGranted)) w ∧ w.state = some .terminal := by
  have hstep : ∀ delivered evicts op w, Step .any "c" op w (handle "c" delivered evicts op w).1
      (handle "c" delivered evicts op w).2 :=
    fun _ _ op w => step_handle (fun _ => trivial) (fun _ _ _ => trivial) op w
  refine ⟨?_, ?_, ?_⟩
  · obtain ⟨w, hhalts, hP⟩ := Program.exists_halts_of_runFor (hstep delivering fun _ _ => false)
      (p := (runDownloadOnce (theDownload [8]) 5).run) (n := 27) (s := theWorld)
      (P := fun w => w.transfer.any fun row => row.state = .verifying &&
        chunkComplete row.completedChunkBitmap 0 && (w.files row.partialLocalRef).isNone) (by decide)
    simp only [Bool.and_eq_true, Option.any_eq_true, decide_eq_true_eq, Option.isNone_iff_eq_none] at hP
    obtain ⟨row, hrow, ⟨hstate, hbit⟩, hfile⟩ := hP
    exact ⟨w, row, .runDownloadOnce 5 (.inr ⟨hhalts, trivial⟩), hrow, hstate, hbit, hfile⟩
  · have hret := Program.returns_run (hstep delivering fun op _ => op = .blob (.remove "p"))
      (runDownloadOnce (theDownload [7]) 5).run theWorld
    exact ⟨_, hret, by decide⟩
  · have hret := Program.returns_run (hstep (fun _ => .error (.final .notGranted "not granted")) fun _ _ => false)
      (runDownloadOnce (theDownload [7]) 5).run theWorld
    exact ⟨_, hret, by decide⟩

end

end PeersTouch.Transfer
