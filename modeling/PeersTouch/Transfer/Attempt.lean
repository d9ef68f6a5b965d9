import PeersTouch.Transfer.Saved

/-!
# An attempt at a download

What each part of `download_once` does to the record, the partial file and the staging file, up to the
completion of the record. A stop or a failure that can be retried leaves every chunk whose bit is set; and
for a well-made object whose chunks arrive as they are, no other failure happens.
-/

namespace PeersTouch.Transfer

open Lib Chat Context Function BlobOp ObjectCryptoMaterial List Download Working Option Transfer

variable [Digest] [ObjectCipher] [ObjectCommitmentCodec]

/-- The object is what its descriptor and the message that names it say, if each of its chunks is: the
chunks decrypt, and the hashes of the whole follow from those of the chunks. -/
structure Download.WellMade (d : Download) (m : ObjectCryptoMaterial) : Prop where
  decrypts : ∀ i < m.chunkCount, ∀ ciphertext, Committed d m i ciphertext →
    ∃ plaintext, plaintext.length = m.plainSize i ∧
      decryptObjectChunk m ⟨i, ciphertext, (hashBytes ciphertext).bytes⟩ = .ok plaintext
  ciphertext : ∀ chunk : ℕ → Bytes, (∀ i < m.chunkCount, Committed d m i (chunk i)) →
    (hashBytes ((List.range m.chunkCount).flatMap chunk)).bytes =
      d.descriptor.commitment.ciphertextSHA256
  plaintext : ∀ chunk plaintext : ℕ → Bytes, (∀ i < m.chunkCount, Committed d m i (chunk i) ∧
    decryptObjectChunk m ⟨i, chunk i, (hashBytes (chunk i)).bytes⟩ = .ok (plaintext i)) →
    hashBytes ((List.range m.chunkCount).flatMap plaintext) = d.expectedPlaintextSHA256

/-- What is known of the object and of the transport when they are sound. -/
structure Faithful (d : Download) (m : ObjectCryptoMaterial) (env : Environment) : Prop where
  wellMade : d.WellMade m
  delivers : ∀ i r, env.delivers i r →
    (∃ ciphertext, r = .ok ciphertext ∧ Committed d m i ciphertext) ∨
      ∃ failure, r = .error failure ∧ failure.retryable = true

/-- What a descriptor that was accepted says. -/
structure Describes (d : Download) (m : ObjectCryptoMaterial) : Prop where
  chunkSize_pos : 0 < m.chunkSize
  chunkCount : d.descriptor.commitment.chunkCount = m.chunkCount
  ciphertextSize : d.descriptor.commitment.ciphertextSize = m.cipherStart m.chunkCount
  ciphertextHash : d.descriptor.commitment.ciphertextSHA256.length = 32
  chunkHash : ∀ hash ∈ d.descriptor.commitment.chunkCiphertextSHA256, hash.length = 32

variable {m : ObjectCryptoMaterial}
  {transfer : ObjectTransferRecord}

omit [Digest] [ObjectCipher] [ObjectCommitmentCodec] in
lemma materialFromTransfer_eq_ok (h : materialFromTransfer transfer = .ok m) : m = transfer.material ∧ 0 < m.chunkSize := by
  unfold materialFromTransfer fromParts at h
  simp only [ok_iff, not_or] at h
  obtain ⟨-, -, ⟨-, -, hpos, -⟩, -, rfl⟩ := h
  exact ⟨rfl, Nat.pos_of_ne_zero hpos⟩

section

omit [Digest] [ObjectCipher]

lemma validateDescriptor_eq_ok {d : Download}
    {hash : Hash}
    (h : validateDownloadDescriptor transfer d.descriptor = .ok (m, hash)) :
    m = transfer.material ∧ Describes d m ∧
    (transfer.descriptorSHA256 = replicate 32 0 ∨ transfer.descriptorSHA256 = hash.bytes) := by
  unfold validateDownloadDescriptor validateObjectDescriptor validateObjectUploadSpec at h
  simp only [ok_iff, not_or, not_not, not_exists, not_and] at h
  obtain ⟨⟨-, ⟨hcipherHash, -, -, -, -, -, hhashes⟩, -⟩, m', hm, ⟨hcnt, -, hsize⟩, hash', -, hpinned,
    rfl, rfl⟩ := h
  obtain ⟨rfl, hpos⟩ := materialFromTransfer_eq_ok hm
  refine ⟨rfl, ⟨hpos, hcnt, ?_, hcipherHash, hhashes⟩, ?_⟩
  · rw [hsize, cipherStart_chunkCount hpos]
  · by_contra hne
    rw [not_or] at hne
    exact hne.2 (hpinned hne.1)

lemma validateDescriptor_pinned {d : Download}
    {hash : Hash}
    (h : validateDownloadDescriptor transfer d.descriptor = .ok (m, hash)) :
    validateDownloadDescriptor { transfer with descriptorSHA256 := hash.bytes } d.descriptor = .ok (m, hash) := by
  unfold validateDownloadDescriptor at h ⊢
  simp only [ok_iff, Prod.mk.injEq] at h ⊢
  obtain ⟨hdescriptor, m', hm, hmat, hash', hhash, -, rfl, rfl⟩ := h
  exact ⟨hdescriptor, m', hm, hmat, hash', hhash, fun hne => hne.2 rfl, rfl, rfl⟩

end

variable {d : Download} {m : ObjectCryptoMaterial} {sound : Prop} {env : Environment}
  {transfer : ObjectTransferRecord} {file staging : Option Bytes} {w : World}

/-! ### The partial file -/

variable {i : ℕ} {bytes : Bytes}

omit [ObjectCipher] in
lemma Working.ensures_validateChunk (hw : Working d m sound transfer file staging w) {k : ℕ}
    (hk : HasChunks d m k file) (hle : k ≤ m.chunkCount) (hi : i < k) :
    d.Ensures m sound env (validateChunk d.descriptor m transfer.partialLocalRef i) w
    (Outcome d m sound transfer.partialLocalRef (fun _ => False) fun _ w =>
    Working d m sound transfer file staging w) := by
  unfold validateChunk
  have hck := hk i hi
  obtain ⟨bytes, rfl⟩ := hk.exists_bytes (i.zero_le.trans_lt hi)
  rw [ciphertextChunkSize_eq (hi.trans_le hle)]
  refine ensures_ok_bind (outcome_bind (hw.ensures_read
    (a := slice bytes (m.ciphertextChunkOffset i) (m.cipherSize i)) fun files hfile => ?_) ?_)
  · simp only [exec, hfile]
    exact if_pos hck.length
  · rintro _ w ⟨rfl, hw⟩
    exact hw.ensures_failWhen (fun hne => hne hck.hash) fun _ => hw

omit [ObjectCipher] in
lemma Working.ensures_validatePartial (hw : Working d m sound transfer file staging w) (hm : 0 < m.chunkSize) :
    d.Ensures m sound env (validatePartialCiphertext transfer m d.descriptor) w
    (Outcome d m sound transfer.partialLocalRef (fun _ => False) fun _ w =>
    ∃ file, Working d m sound transfer file staging w) := by
  obtain ⟨k, hk, hchs⟩ := hw.saved.exists_chunks hw.active
  refine outcome_bind (hw.ensures_read (a := file.isSome) fun files hpartialFile => ?_) ?_
  · simp only [exec, hpartialFile]
  rintro _ w ⟨rfl, hw⟩
  refine ensures_ite (fun hexists => ?_) fun hmiss => ?_
  · obtain ⟨bytes, rfl⟩ := Option.isSome_iff_exists.1 hexists
    have hlen : m.cipherStart k ≤ bytes.length := hchs.le_length hm hk.le
    rw [hk.completedPrefix]
    refine ensures_ok_bind ?_
    rw [prefixLength_eq hm hk.le]
    refine ensures_ok_bind (outcome_bind (hw.ensures_read (a := bytes.length) fun files hpartialFile => ?_) ?_)
    · simp only [exec, hpartialFile]
    rintro _ w ⟨rfl, hw⟩
    refine outcome_bind (hw.ensures_failWhen (P := fun _ w =>
      Working d m sound transfer (some bytes) staging w) (fun hlt => absurd hlen (not_le.2 hlt))
      fun _ => hw) ?_
    rintro _ w hw
    refine outcome_bind (P := fun _ w => ∃ file, HasChunks d m k file ∧
      Working d m sound transfer file staging w) ?_ ?_
    · refine ensures_ite (fun _ => ?_) fun _ => ensures_pure ⟨some bytes, hchs, hw⟩
      have hcut := hchs.setLen hm hk.le le_rfl
      refine outcome_mono (hw.ensures_blobText (A := fun _ => True)
        (some (setLen bytes (m.cipherStart k))) staging ?_ ?_) fun _ w hw => ⟨_, hcut, hw.2⟩
      · refine hw.saved.of_chunks hw.apart fun j hj _ => ?_
        rwa [hj.unique hk]
      · intro files hpartialFile hstg
        simp only [exec, hpartialFile]
        refine ⟨update_self .., ?_, trivial⟩
        exact (update_of_ne (Download.apart hw.apart).2.symm ..).trans hstg
    · rintro _ w ⟨file, hfile, hw⟩
      refine outcome_mono (outcome_foldlM_range
        (I := fun _ _ w => Working d m sound transfer file staging w)
        (fun i _ w hi hw => hw.ensures_validateChunk hfile hk.le hi) hw) fun _ _ hw => ⟨file, hw⟩
  · obtain rfl : file = none := Option.not_isSome_iff_eq_none.1 hmiss
    refine hw.ensures_failWhen (fun hany => ?_) fun _ => ⟨none, hw⟩
    obtain rfl : k = 0 := by
      by_contra hne
      obtain ⟨bytes, hb⟩ := hchs.exists_bytes (Nat.pos_of_ne_zero hne)
      cases hb
    rw [hk.any_ne_zero] at hany
    cases hany

/-! ### The chunks -/

/-- Before a chunk is fetched: the chunks before it are there. The record in the store and the copy of
the attempt agree in what the attempt reads. -/
def Fetching (d : Download) (m : ObjectCryptoMaterial) (sound : Prop) (ref : String) (i : ℕ)
    (transfer : ObjectTransferRecord) (w : World) : Prop :=
  transfer.partialLocalRef = ref ∧ ∃ row file, row.partialLocalRef = ref ∧
    transfer.completedChunkBitmap = row.completedChunkBitmap ∧
    (∀ j < i, chunkComplete row.completedChunkBitmap j = true) ∧ Working d m sound row file none w

variable {ref : String}

lemma ensures_downloadChunk (hsound : sound → Faithful d m env) (hm : 0 < m.chunkSize) (hi : i < m.chunkCount)
    (now : ℤ) (h : Fetching d m sound ref i transfer w) : d.Ensures m sound env (downloadChunk d m now transfer i) w
    (Outcome d m sound ref (Retryable sound) (Fetching d m sound ref (i + 1))) := by
  obtain ⟨rfl, row, file, href, hbitmap, hdone, hw⟩ := h
  unfold downloadChunk
  rw [hbitmap, ← href]
  refine outcome_bind hw.ensures_checkRunning ?_
  rintro _ w hw
  refine ensures_ite (fun hcompl => ?_) fun hmiss => ?_
  · refine ensures_pure ⟨href.symm, row, file, rfl, hbitmap, fun j hj => ?_, hw⟩
    rcases Nat.lt_succ_iff_lt_or_eq.1 hj with hlt | rfl
    · exact hdone j hlt
    · exact hcompl
  -- the first bit that is not set is that of this chunk
  obtain ⟨k, hk, hchs⟩ := hw.saved.exists_chunks hw.active
  obtain rfl : k = i := by
    have hge : ¬i < k := fun hlt => hmiss ((hk.complete_iff i).2 hlt)
    have hle : ¬k < i := fun hlt => lt_irrefl k ((hk.complete_iff k).1 (hdone k hlt))
    omega
  rw [ciphertextChunkSize_eq hi]
  refine ensures_ok_bind (outcome_bind (hw.ensures_getDownloadChunk
    (A := fun ciphertext => sound → Committed d m k ciphertext) ?_ ?_) ?_)
  · intro failure hdlv hs
    rcases (hsound hs).delivers k _ hdlv with ⟨_, h, -⟩ | ⟨_, h, hrtr⟩
    · cases h
    · cases h
      exact hrtr
  · intro ciphertext hdlv hs
    rcases (hsound hs).delivers k _ hdlv with ⟨_, h, hcmt⟩ | ⟨_, h, -⟩
    · cases h
      exact hcmt
    · cases h
  rintro ciphertext w ⟨hgood, hw⟩
  refine outcome_bind hw.ensures_checkRunning ?_
  rintro _ w hw
  refine outcome_bind (hw.ensures_failWhen (P := fun _ w =>
    ciphertext.length = m.cipherSize k ∧ Working d m sound row file none w)
    (fun hne hs => absurd (hgood hs).length hne) fun h => ⟨not_not.1 h, hw⟩) ?_
  rintro _ w ⟨hlen, hw⟩
  refine outcome_bind (hw.ensures_failWhen (P := fun _ w =>
    Committed d m k ciphertext ∧ Working d m sound row file none w)
    (fun hne hs => absurd (hgood hs).hash hne) fun h => ⟨⟨hlen, not_not.1 h⟩, hw⟩) ?_
  rintro _ w ⟨hcmt, hw⟩
  have hwritten := hchs.writeAt hm hi hcmt
  -- the bytes of the chunk, and then its bit
  refine outcome_bind (hw.ensures_blob (A := fun _ => True)
    (some (writeAt (file.getD []) (m.ciphertextChunkOffset k) ciphertext)) none ?_ ?_) ?_
  · refine hw.saved.of_chunks hw.apart fun j hj _ => ?_
    rw [hj.unique hk]
    exact hwritten.mono k.le_succ
  · intro files hfile hstg
    refine ⟨?_, ?_, fun _ _ => trivial⟩
    · simp only [exec, hfile, update_self]
    · exact (update_of_ne (apart hw.apart).2.symm ..).trans hstg
  rintro _ w ⟨-, hw⟩
  refine outcome_bind (hw.ensures_update (.inl rfl) (hk.set hi) hwritten) fun _ w hw => ?_
  refine ensures_pure ⟨rfl, _, _, ?_, ?_, fun j hj => ?_, hw⟩
  · rfl
  · rfl
  · exact ((hk.set hi).complete_iff j).2 hj

/-! ### The plaintext -/

/-- What a chunk of the partial file decrypts to. -/
def decryptedChunk (m : ObjectCryptoMaterial) (bytes : Bytes) (i : ℕ) : Bytes :=
  let ciphertext := slice bytes (m.ciphertextChunkOffset i) (m.cipherSize i)
  (decryptObjectChunk m ⟨i, ciphertext, (hashBytes ciphertext).bytes⟩).toOption.getD []

structure Staged (m : ObjectCryptoMaterial) (bytes : Bytes) (i : ℕ) (plaintext : Bytes) : Prop where
  eq : plaintext = (List.range i).flatMap (decryptedChunk m bytes)
  length : plaintext.length = m.plainStart i

section

omit [ObjectCommitmentCodec]

lemma Staged.zero (m : ObjectCryptoMaterial) (bytes : Bytes) : Staged m bytes 0 [] := ⟨rfl, m.plainStart_zero.symm⟩

lemma Staged.succ {plaintext chunk : Bytes} (hm : 0 < m.chunkSize) (hi : i < m.chunkCount) (h : Staged m bytes i plaintext)
    (hck : chunk = decryptedChunk m bytes i) (hlen : chunk.length = m.plainSize i) :
    Staged m bytes (i + 1) (writeAt plaintext (i * m.chunkSize) chunk) := by
  rw [← plainStart_eq hm hi, ← h.length, writeAt_length]
  refine ⟨?_, ?_⟩
  · rw [range_succ, flatMap_append, ← h.eq, hck, flatMap_singleton]
  · rw [length_append, h.length, hlen, plainStart_succ]

end

lemma Working.ensures_stageChunk (hw : Working d m sound transfer (some bytes) staging w)
    (hsound : sound → Faithful d m env) (hd : Describes d m) (hi : i < m.chunkCount)
    (hck : Committed d m i (slice bytes (m.ciphertextChunkOffset i) (m.cipherSize i)))
    (hstaged : sound → Staged m bytes i (staging.getD [])) :
    d.Ensures m sound env (stageChunk d m transfer.partialLocalRef i) w
    (Retries d m sound transfer fun _ w => ∃ staging,
    (sound → Staged m bytes (i + 1) (staging.getD [])) ∧ Working d m sound transfer (some bytes) staging w) := by
  refine outcome_bind hw.ensures_checkRunning ?_
  rintro _ w hw
  rw [hck.hash]
  refine ensures_ok_bind ?_
  rw [ciphertextChunkSize_eq hi]
  refine ensures_ok_bind (outcome_bind (outcome_mapError (E := fun _ => False) (hw.ensures_read
      (a := slice bytes (m.ciphertextChunkOffset i) (m.cipherSize i)) fun files hfile => ?_)
    fun _ h => h.elim) ?_)
  · simp only [exec, hfile]
    exact if_pos hck.length
  rintro _ w ⟨rfl, hw⟩
  refine outcome_bind (hw.ensures_ofExcept (P := fun plaintext w =>
    (sound → plaintext = decryptedChunk m bytes i ∧ plaintext.length = m.plainSize i) ∧
      Working d m sound transfer (some bytes) staging w) ?_ ?_) ?_
  · intro e he hs
    obtain ⟨plaintext, -, hok⟩ := (hsound hs).wellMade.decrypts i hi _ hck
    rw [hok] at he
    cases he
  · intro plaintext hok
    refine ⟨fun hs => ?_, hw⟩
    rw [mapError_eq_ok] at hok
    obtain ⟨plaintext', hlen, hok'⟩ := (hsound hs).wellMade.decrypts i hi _ hck
    obtain rfl : plaintext = plaintext' := Except.ok.inj (hok.symm.trans hok')
    refine ⟨?_, hlen⟩
    rw [decryptedChunk, hok]
    rfl
  rintro plaintext w ⟨hplain, hw⟩
  refine outcome_mono (hw.ensures_blob (A := fun _ => True) (some bytes)
    (some (writeAt (staging.getD []) (i * m.chunkSize) plaintext)) hw.saved ?_) ?_
  · intro files hfile hstg
    refine ⟨?_, ?_, fun _ _ => trivial⟩
    · exact (update_of_ne (Download.apart hw.apart).2 ..).trans hfile
    · simp only [exec, hstg, update_self]
  · rintro _ w ⟨-, hw⟩
    refine ⟨some (writeAt (staging.getD []) (i * m.chunkSize) plaintext), fun hs => ?_, hw⟩
    exact (hstaged hs).succ hd.chunkSize_pos hi (hplain hs).1 (hplain hs).2

section

omit [ObjectCommitmentCodec]

lemma HasChunks.ciphertext (hd : Describes d m) (hwell : d.WellMade m) (h : HasChunks d m m.chunkCount (some bytes)) :
    (hashBytes (Transfer.setLen bytes d.descriptor.commitment.ciphertextSize)).bytes =
    d.descriptor.commitment.ciphertextSHA256 := by
  have hm := hd.chunkSize_pos
  have hlen := h.le_length hm le_rfl
  have hwhole : Transfer.setLen bytes (m.cipherStart m.chunkCount) = (List.range m.chunkCount).flatMap
      fun i => slice bytes (m.cipherStart i) (m.cipherSize i) := by
    rw [← take_eq_flatMap_slice bytes m.cipherStart_zero fun i _ => m.cipherStart_succ i, Transfer.setLen]
    rw [Option.getD_some] at hlen
    rw [Nat.sub_eq_zero_of_le hlen, List.replicate_zero, List.append_nil]
  rw [hd.ciphertextSize, hwhole]
  refine hwell.ciphertext _ fun i hi => ?_
  rw [cipherStart_eq hm hi]
  exact h i hi

lemma Staged.hash {plaintext : Bytes} (hd : Describes d m) (hwell : d.WellMade m)
    (h : Staged m bytes m.chunkCount plaintext) (hchs : HasChunks d m m.chunkCount (some bytes)) :
    hashBytes (setLen plaintext m.plaintextSize) = d.expectedPlaintextSHA256 := by
  rw [← plainStart_chunkCount hd.chunkSize_pos, ← h.length, setLen_length, h.eq]
  refine hwell.plaintext (fun i => slice bytes (m.ciphertextChunkOffset i) (m.cipherSize i)) _
    fun i hi => ⟨hchs i hi, ?_⟩
  obtain ⟨plaintext, -, hok⟩ := hwell.decrypts i hi _ (hchs i hi)
  rw [getD_some] at hok
  rw [decryptedChunk, hok]
  rfl

end

lemma Working.ensures_verifyCiphertext (hw : Working d m sound transfer file staging w)
    (hsound : sound → Faithful d m env) (hd : Describes d m) (hchs : HasChunks d m m.chunkCount file)
    (hk : Completed transfer.completedChunkBitmap m.chunkCount m.chunkCount) :
    d.Ensures m sound env (verifyCiphertext d transfer.partialLocalRef) w
    (Retries d m sound transfer fun _ w => ∃ bytes,
    HasChunks d m m.chunkCount (some bytes) ∧ Working d m sound transfer (some bytes) staging w) := by
  have hm := hd.chunkSize_pos
  cases file with
  | none =>
    refine outcome_bind (hw.ensures_blob (A := fun _ => False) none staging hw.saved ?_) fun _ _ h => h.1.elim
    intro files hfile hstg
    simp only [exec, hfile]
    exact ⟨trivial, hstg, nofun⟩
  | some bytes =>
    have hcut : HasChunks d m m.chunkCount (some (setLen bytes d.descriptor.commitment.ciphertextSize)) :=
      hchs.setLen hm le_rfl hd.ciphertextSize.ge
    refine outcome_bind (hw.ensures_blob (A := fun _ => True)
      (some (setLen bytes d.descriptor.commitment.ciphertextSize)) staging ?_ ?_) ?_
    · refine hw.saved.of_chunks hw.apart fun j hj _ => ?_
      rwa [hj.unique hk]
    · intro files hfile hstg
      simp only [exec, hfile]
      refine ⟨update_self .., ?_, fun _ _ => trivial⟩
      exact (update_of_ne (Download.apart hw.apart).2.symm ..).trans hstg
    rintro _ w ⟨-, hw⟩
    refine outcome_bind (hw.ensures_failWhen (P := fun _ w => Working d m sound transfer
      (some (setLen bytes d.descriptor.commitment.ciphertextSize)) staging w)
      (fun hne => absurd hd.ciphertextHash hne) fun _ => hw) ?_
    rintro _ w hw
    refine outcome_bind (outcome_mapError (E := fun _ => False) (hw.ensures_read
      (a := hashBytes (setLen bytes d.descriptor.commitment.ciphertextSize))
      fun files hfile => ?_) fun _ h => h.elim) ?_
    · simp only [exec, hfile]
    rintro _ w ⟨rfl, hw⟩
    refine hw.ensures_failWhen (fun hne hs => ?_) fun _ => ⟨_, hcut, hw⟩
    exact absurd (hchs.ciphertext hd (hsound hs).wellMade) hne

omit [ObjectCipher] in
lemma Working.ensures_verifyPlaintext (hw : Working d m sound transfer file staging w)
    (hhash : sound → hashBytes (setLen (staging.getD []) m.plaintextSize) = d.expectedPlaintextSHA256) :
    d.Ensures m sound env (verifyPlaintext d m) w
    (Retries d m sound transfer fun _ w => ∃ staging,
    Working d m sound transfer file staging w) := by
  cases staging with
  | none =>
    refine outcome_bind (hw.ensures_blob (A := fun _ => False) file none hw.saved ?_) fun _ _ h => h.1.elim
    intro files hfile hstg
    simp only [exec, hstg]
    exact ⟨hfile, trivial, nofun⟩
  | some plaintext =>
    refine outcome_bind (hw.ensures_blob (A := fun _ => True) file
      (some (setLen plaintext m.plaintextSize)) hw.saved ?_) ?_
    · intro files hfile hstg
      simp only [exec, hstg]
      refine ⟨?_, update_self .., fun _ _ => trivial⟩
      exact (update_of_ne (Download.apart hw.apart).2 ..).trans hfile
    rintro _ w ⟨-, hw⟩
    refine outcome_bind (hw.ensures_blob (A := fun hash => hash = hashBytes (setLen plaintext m.plaintextSize)) file
      (some (setLen plaintext m.plaintextSize)) hw.saved ?_) ?_
    · intro files hfile hstg
      simp only [exec, hstg]
      exact ⟨hfile, trivial, fun _ h => (Except.ok.inj h).symm⟩
    rintro _ w ⟨rfl, hw⟩
    exact hw.ensures_failWhen (fun hne hs => absurd (hhash hs) hne) fun _ => ⟨_, hw⟩

lemma ensures_stagePlaintext (hsound : sound → Faithful d m env) (hd : Describes d m) (now : ℤ)
    (h : Fetching d m sound ref m.chunkCount transfer w) :
    d.Ensures m sound env (stagePlaintext d m transfer now) w
    (Outcome d m sound ref (Retryable sound) fun _ w => Attempting d m sound ref w) := by
  obtain ⟨rfl, row, file, href, hbitmap, hdone, hw⟩ := h
  obtain ⟨k, hk, hchs⟩ := hw.saved.exists_chunks hw.active
  obtain rfl : k = m.chunkCount := by
    refine le_antisymm hk.le (not_lt.1 fun hlt => ?_)
    exact lt_irrefl k ((hk.complete_iff k).1 (hdone k hlt))
  rw [← hbitmap] at hk
  unfold stagePlaintext
  rw [← href, hd.chunkCount]
  refine outcome_bind hw.ensures_checkRunning fun _ w hw => ?_
  refine outcome_bind (hw.ensures_update (.inr rfl) hk hchs) fun _ w hw => ?_
  refine outcome_bind (hw.ensures_verifyCiphertext hsound hd hchs hk) ?_
  rintro _ w ⟨bytes, hb, hw⟩
  refine outcome_bind (outcome_foldlM_range (I := fun i _ w => ∃ staging,
    (sound → Staged m bytes i (staging.getD [])) ∧
      Working d m sound ((transfer.advance .verifying now).apply row) (some bytes) staging w)
    ?_ ⟨none, fun _ => .zero m bytes, hw⟩) ?_
  · rintro i _ w hi ⟨staging, hstaged, hw⟩
    exact hw.ensures_stageChunk hsound hd hi (hb i hi) hstaged
  · rintro _ w ⟨staging, hstaged, hw⟩
    refine outcome_mono (hw.ensures_verifyPlaintext fun hs => ?_)
      fun _ w ⟨staging, hw⟩ => ⟨(transfer.advance .verifying now).apply row, _, _, rfl, hw⟩
    exact (hstaged hs).hash hd (hsound hs).wellMade hb

/-! ### Up to the completion -/

/-- The record once the descriptor is pinned. -/
def ObjectTransferRecord.prepared (transfer : ObjectTransferRecord) (descriptorSHA256 : Bytes) :
    ObjectTransferRecord :=
  { transfer with descriptorSHA256 }

namespace Working

variable (hw : Working d m sound transfer file staging w)
include hw

section

omit [ObjectCipher]

lemma ensures_cacheIsVerified : d.Ensures m sound env (cacheIsVerified d transfer) w
    (Retries d m sound transfer fun _ w =>
    Working d m sound transfer file staging w) := by
  refine ensures_ite (fun _ => ?_) fun _ => ensures_pure hw
  refine outcome_bind (hw.ensures_blob_other fun files ref _ => ?_) fun _ w hw => ensures_pure hw
  cases h : files d.cacheRef <;> simp only [exec, h]

lemma ensures_keepVerifiedCache : d.Ensures m sound env (keepVerifiedCache d transfer) w
    (Retries d m sound transfer fun _ w => ∃ staging,
    Working d m sound transfer file staging w) := by
  refine outcome_bind (hw.ensures_blob_other fun _ _ _ => rfl) fun found w hw => ?_
  cases found with
  | false => exact ensures_pure ⟨staging, hw⟩
  | true =>
    refine outcome_bind hw.ensures_cacheIsVerified fun verified w hw => ?_
    cases verified with
    | true =>
      exact outcome_bind hw.ensures_remove_staging fun _ w hw => ensures_pure ⟨none, hw⟩
    | false =>
      exact outcome_bind (hw.ensures_blob_other fun _ _ hne => update_of_ne hne ..)
        fun _ w hw => ensures_pure ⟨staging, hw⟩

lemma ensures_updatePrepared {m' : ObjectCryptoMaterial} {hash : Hash}
    (hval : validateDownloadDescriptor transfer d.descriptor = .ok (m', hash)) : d.Ensures m sound env
    (store (.updateTransferPrepared hash.bytes transfer.partialLocalRef)) w
    (Retries d m sound transfer fun _ w =>
    Working d m sound (transfer.prepared hash.bytes) file staging w) := by
  have hpinned := (validateDescriptor_eq_ok hval).2.2
  refine Context.ensures_store fun w₁ hloses => ?_
  have hw₁ := hw.loses hloses
  have hexec : (StoreOp.updateTransferPrepared hash.bytes transfer.partialLocalRef).exec
      w₁.transfer = (.ok (), some (transfer.prepared hash.bytes)) := by
    show updateTransferPrepared hash.bytes transfer.partialLocalRef w₁.transfer = _
    rw [hw₁.record, updateTransferPrepared]
    rw [if_neg (not_and_or.2 (hpinned.imp not_not.2 not_not.2)), if_neg]
    · rfl
    · rintro (h | h | h)
      · exact hw.active.not_cancelled h
      · exact hw.active.not_terminal h
      · exact hw.active.not_complete h
  have hw' : Working d m sound (transfer.prepared hash.bytes) file staging
      (w₁.execStore (.updateTransferPrepared hash.bytes transfer.partialLocalRef)).2 :=
    { hw₁ with
      record := congrArg Prod.snd hexec, saved := { hw.saved with
          describes := fun _ => by
            show (validateDownloadDescriptor { transfer with descriptorSHA256 := hash.bytes } d.descriptor).isOk = true
            rw [validateDescriptor_pinned hval]
            rfl }
      active := ⟨hw.active.not_complete, hw.active.not_cancelled, hw.active.not_terminal⟩, apart := hw.apart }
  refine ⟨fun _ => hw'.resumable, ?_⟩
  show Outcome d m sound _ _ _ (StoreOp.exec _ w₁.transfer).1 _
  rw [hexec]
  exact hw'

end

lemma ensures_materialize (hsound : sound → Faithful d m env) (now : ℤ) :
    d.Ensures m sound env (materialize d transfer now) w
    (Retries d m sound transfer fun res w =>
    res.partialLocalRef = transfer.partialLocalRef ∧ Attempting d m sound transfer.partialLocalRef w) := by
  refine outcome_bind (hw.ensures_ofExcept
    (P := fun r w => validateDownloadDescriptor transfer d.descriptor = .ok r ∧
      Working d m sound transfer file staging w) ?_ fun r hr => ⟨hr, hw⟩) ?_
  · intro failure hfail hs
    have hok := hw.saved.describes hs
    rw [hfail] at hok
    cases hok
  rintro ⟨m', hash⟩ w ⟨hval, hw⟩
  obtain ⟨rfl, hd, -⟩ := validateDescriptor_eq_ok hval
  obtain rfl := hw.saved.material
  refine outcome_bind (hw.ensures_updatePrepared hval) fun _ w hw => ?_
  refine outcome_bind hw.ensures_required ?_
  rintro _ w ⟨rfl, hw⟩
  obtain ⟨k, hk, -⟩ := hw.saved.exists_chunks hw.active
  rw [hd.chunkCount, hk.validateBitmap]
  refine ensures_ok_bind (outcome_bind hw.ensures_keepVerifiedCache ?_)
  rintro kept w ⟨staging, hw⟩
  cases kept with
  | true => exact ensures_pure ⟨rfl, transfer.prepared hash.bytes, _, _, rfl, hw⟩
  | false =>
    refine outcome_bind hw.ensures_remove_staging fun _ w hw => ?_
    refine outcome_bind (outcome_mapError
      (hw.ensures_validatePartial hd.chunkSize_pos) fun _ h => h.elim) ?_
    rintro _ w ⟨file, hw⟩
    refine outcome_bind (outcome_foldlM_range
      (I := Fetching d transfer.material sound transfer.partialLocalRef)
      (fun i t w hi ht => ensures_downloadChunk hsound hd.chunkSize_pos hi now ht)
      ⟨rfl, transfer.prepared hash.bytes, file, rfl, rfl, fun j hj => absurd hj j.not_lt_zero, hw⟩) fun t w ht => ?_
    exact outcome_bind (ensures_stagePlaintext hsound hd now ht) fun _ w hw => ensures_pure ⟨ht.1, hw⟩

end Working

end PeersTouch.Transfer
