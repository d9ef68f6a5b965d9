import PeersTouch.Transfer.Chunks

/-!
# Sealing an object chunk by chunk

The sender's side of `object/crypto.rs`: the plaintext is cut into chunks, each is encrypted under its own
nonce and associated data, and the ciphertexts stand one behind the other. The associated data names
the index, the declared size and the chunk size in decimal digits, so it tells two chunks apart.
-/

namespace PeersTouch.Transfer

open Lib Chat List ObjectCryptoMaterial

/-! ### The nonce and the associated data -/

lemma objectChunkNonce_injective {baseNonce : Bytes} {i j : ℕ} (hi : i < 2 ^ 32) (hj : j < 2 ^ 32)
    (h : objectChunkNonce baseNonce i = objectChunkNonce baseNonce j) : i = j := by
  have h := append_cancel_left h
  simp only [bigEndian, range_succ, range_zero, nil_append, reverse_cons, reverse_nil, cons_append, map_cons,
    cons.injEq, ← UInt8.toNat_inj, UInt8.toNat_ofNat'] at h
  omega

lemma colon_notMem_toString (n : ℕ) : ':' ∉ (toString n).toList := by
  intro h
  rw [Nat.toString_eq_ofList_toDigits, String.toList_ofList] at h
  exact absurd (Nat.isDigit_of_mem_toDigits (by decide) (by decide) h) (by decide)

lemma eq_of_append_cons {a : Char} {x y z w : List Char} (hx : a ∉ x) (hy : a ∉ y)
    (h : x ++ a :: z = y ++ a :: w) : x = y ∧ z = w := by
  have hlen := congrArg (idxOf a) h
  rw [idxOf_append_of_notMem hx, idxOf_append_of_notMem hy, idxOf_cons_self, idxOf_cons_self] at hlen
  obtain ⟨hxy, hzw⟩ := append_inj h hlen
  exact ⟨hxy, (cons.inj hzw).2⟩

lemma objectChunkAAD_injective {i j size size' chunkSize chunkSize' : ℕ}
    (h : objectChunkAAD i size chunkSize = objectChunkAAD j size' chunkSize') :
    i = j ∧ size = size' ∧ chunkSize = chunkSize' := by
  have hcolon : ":".toList = [':'] := rfl
  have h := congrArg String.toList (bytesOf_inj.1 h)
  simp only [String.toList_append, append_assoc, hcolon] at h
  obtain ⟨hi, h⟩ := eq_of_append_cons (colon_notMem_toString i) (colon_notMem_toString j) (append_cancel_left h)
  obtain ⟨hsize, hck⟩ := eq_of_append_cons (colon_notMem_toString size) (colon_notMem_toString size') h
  exact ⟨Nat.repr_inj.1 (String.toList_inj.1 hi), Nat.repr_inj.1 (String.toList_inj.1 hsize),
    Nat.repr_inj.1 (String.toList_inj.1 hck)⟩

/-! ### Encryption -/

/-- AES-256-GCM in both directions. -/
class ObjectAEAD extends ObjectCipher where
  encrypt : Bytes → Bytes → Bytes → Bytes → Bytes

section

variable [Digest] [ObjectAEAD]

def encryptObjectChunk (material : ObjectCryptoMaterial) (chunkIndex : ℕ) (plaintext : Bytes) :
    Except String EncryptedObjectChunk := do
  let expected ← material.expectedPlaintextChunkSize chunkIndex
  failWhen (plaintext.length ≠ expected) "secure content object plaintext chunk size mismatch"
  let ciphertext := ObjectAEAD.encrypt material.objectKey (objectChunkNonce material.baseNonce chunkIndex)
    (objectChunkAAD chunkIndex material.plaintextSize material.chunkSize) plaintext
  return ⟨chunkIndex, ciphertext, (hashBytes ciphertext).bytes⟩

/-- The loop of `prepare_upload` over the chunks of a source. -/
def encryptObject (material : ObjectCryptoMaterial) (source : Bytes) :
    Except String (List EncryptedObjectChunk) :=
  (range material.chunkCount).mapM fun index => do
    let size ← material.expectedPlaintextChunkSize index
    encryptObjectChunk material index (slice source (index * material.chunkSize) size)

/-- The file with every chunk at its offset. -/
def layOut (material : ObjectCryptoMaterial) (chunks : List EncryptedObjectChunk) : Bytes :=
  chunks.foldl (fun file chunk => writeAt file (material.ciphertextChunkOffset chunk.chunkIndex) chunk.ciphertext) []

/-- The loop of the download over the chunks of the file, for the hashes of the chunks. -/
def decryptObject (material : ObjectCryptoMaterial) (chunks : List EncryptedObjectChunk) (file : Bytes) :
    Except String Bytes := do
  let plaintexts ← chunks.mapM fun chunk => do
    let size ← material.expectedCiphertextChunkSize chunk.chunkIndex
    decryptObjectChunk material
      { chunk with ciphertext := slice file (material.ciphertextChunkOffset chunk.chunkIndex) size }
  return plaintexts.flatten

/-! ### The chunks of a source -/

/-- The chunk of a source with an index. -/
def sealedChunk (material : ObjectCryptoMaterial) (source : Bytes) (i : ℕ) : EncryptedObjectChunk :=
  let ciphertext := ObjectAEAD.encrypt material.objectKey (objectChunkNonce material.baseNonce i)
    (objectChunkAAD i material.plaintextSize material.chunkSize)
    (slice source (material.plainStart i) (material.plainSize i))
  ⟨i, ciphertext, (hashBytes ciphertext).bytes⟩

variable {material : ObjectCryptoMaterial} {source : Bytes} {i n : ℕ} (hc : 0 < material.chunkSize)
  (hsource : source.length = material.plaintextSize)
include hc hsource

omit [Digest] [ObjectAEAD] in
lemma length_slice_source (h : i < material.chunkCount) :
    (slice source (material.plainStart i) (material.plainSize i)).length = material.plainSize i := by
  rw [length_slice, hsource, plainStart_eq hc h]
  exact min_eq_left (min_le_left _ _)

lemma encryptObject_eq :
    encryptObject material source = .ok ((range material.chunkCount).map (sealedChunk material source)) := by
  conv_lhs => rw [encryptObject, ← map_id (range material.chunkCount)]
  refine mapM_map_of_forall fun i hi => ?_
  have hi : i < material.chunkCount := mem_range.1 hi
  have hsize := plaintextChunkSize_eq hi
  simp only [ok_iff, encryptObjectChunk, id, ← plainStart_eq hc hi]
  exact ⟨_, hsize, _, hsize, not_not.2 (length_slice_source hc hsource hi), rfl⟩

variable (htag : ∀ nonce aad plaintext, (ObjectAEAD.encrypt material.objectKey nonce aad plaintext).length =
  plaintext.length + objectTagSize)
include htag

lemma length_sealedChunk (h : i < material.chunkCount) :
    (sealedChunk material source i).ciphertext.length = material.cipherSize i := by
  rw [sealedChunk, htag, length_slice_source hc hsource h, cipherSize]

/-- Every chunk is written at the end of the file, so it leaves the others as they are. -/
lemma layOut_map_range (hn : n ≤ material.chunkCount) :
    (layOut material ((range n).map (sealedChunk material source))).length = material.cipherStart n ∧
    ∀ i < n, slice (layOut material ((range n).map (sealedChunk material source)))
    (material.ciphertextChunkOffset i) (material.cipherSize i) = (sealedChunk material source i).ciphertext := by
  induction n with
  | zero => simp [layOut, cipherStart_zero]
  | succ n ih =>
    obtain ⟨hlen, hslice⟩ := ih (Nat.le_of_succ_le hn)
    have hstart := cipherStart_eq hc hn
    have hsize := length_sealedChunk hc hsource htag hn
    have hstep : layOut material ((range (n + 1)).map (sealedChunk material source)) =
        layOut material ((range n).map (sealedChunk material source)) ++ (sealedChunk material source n).ciphertext := by
      rw [← writeAt_length, hlen, hstart, range_succ, map_append, layOut, foldl_append]
      rfl
    rw [hstep]
    refine ⟨?_, fun i hi => ?_⟩
    · rw [length_append, hlen, hsize, cipherStart_succ]
    · rcases Nat.lt_succ_iff_lt_or_eq.1 hi with hi | rfl
      · have hle := material.cipherStart_le hi
        rw [cipherStart_eq hc (hi.trans hn)] at hle
        rw [slice_append_left (by rw [hlen]; exact hle), hslice i hi]
      · rw [← hsize, ← hstart, ← hlen, slice, drop_left, take_length]

lemma decryptObject_eq (hopen : ∀ nonce aad plaintext, ObjectCipher.decrypt material.objectKey nonce aad
    (ObjectAEAD.encrypt material.objectKey nonce aad plaintext) = some plaintext) :
    let chunks := (range material.chunkCount).map (sealedChunk material source)
    decryptObject material chunks (layOut material chunks) = .ok source := by
  intro chunks
  have hslices := take_eq_flatMap_slice (n := material.chunkCount) source material.plainStart_zero
    fun i _ => plainStart_succ material i
  rw [plainStart_chunkCount hc, ← hsource, take_length] at hslices
  simp only [decryptObject, ok_iff]
  refine ⟨_, mapM_map_of_forall fun i hi => ?_, hslices.symm⟩
  have hi : i < material.chunkCount := mem_range.1 hi
  have hslice := (layOut_map_range hc hsource htag le_rfl).2 i hi
  have hsize := length_sealedChunk hc hsource htag hi
  simp only [ok_iff]
  refine ⟨_, ciphertextChunkSize_eq hi, ?_⟩
  have hck : { sealedChunk material source i with
    ciphertext := slice (layOut material chunks) (material.ciphertextChunkOffset i) (material.cipherSize i) } =
      sealedChunk material source i := by rw [hslice]
  refine (congrArg _ hck).trans ?_
  simp only [decryptObjectChunk, ok_iff, not_not]
  exact ⟨rfl, _, plaintextChunkSize_eq hi, hsize, hopen _ _ _⟩

omit hc hsource htag

/-! ### Sealed objects -/

/-- The chunks follow each other without a gap up to the end, within the integers of the code. -/
structure ObjectCryptoMaterial.Tiles (material : ObjectCryptoMaterial) : Prop where
  count_lt : material.chunkCount < 2 ^ 32
  size_lt : material.chunkSize + objectTagSize < 2 ^ 32
  first : material.ciphertextChunkOffset 0 = 0
  next : ∀ i < material.chunkCount, ∃ size, material.expectedCiphertextChunkSize i = .ok size ∧ 0 < size ∧
    material.ciphertextChunkOffset i + size = (if i + 1 < material.chunkCount then
      material.ciphertextChunkOffset (i + 1) else
      material.plaintextSize + material.chunkCount * objectTagSize)
  end_lt : material.plaintextSize + material.chunkCount * objectTagSize < 2 ^ 64

omit [Digest] [ObjectAEAD] in
lemma tiles_of_fromParts {key nonce : Bytes} {size chunkSize : ℕ}
    (hm : fromParts key nonce size chunkSize = .ok material) : material.Tiles := by
  simp only [fromParts, ok_iff, not_or] at hm
  obtain ⟨⟨-, hsize, hpos, hle⟩, -, rfl⟩ := hm
  have hc : 0 < chunkSize := Nat.pos_of_ne_zero hpos
  set material : ObjectCryptoMaterial := ⟨key, nonce, size, chunkSize⟩
  have hcnt : material.chunkCount ≤ size := (ceilDiv_le_iff_le_mul hc).2 (Nat.le_mul_of_pos_left size hc)
  simp only [objectMaxPlaintextSize, objectChunkSize] at hsize hle
  refine ⟨by omega, ?_, Nat.zero_mul _, fun i hi => ?_, ?_⟩
  · show chunkSize + 16 < _
    omega
  · refine ⟨_, ciphertextChunkSize_eq hi, cipherSize_pos _ _, ?_⟩
    rw [← cipherStart_eq hc hi, ← cipherStart_succ]
    split_ifs with hnext
    · exact cipherStart_eq hc hnext
    · rw [show i + 1 = material.chunkCount by omega, cipherStart_chunkCount hc]
  · show size + material.chunkCount * 16 < _
    omega

/-- The last part is for a cipher that opens a chunk under its own associated data only. -/
theorem object_chunks {key nonce : Bytes} {size chunkSize : ℕ} (hm : fromParts key nonce size chunkSize = .ok material)
    (htag : ∀ nonce aad plaintext, (ObjectAEAD.encrypt key nonce aad plaintext).length = plaintext.length + objectTagSize)
    (hopen : ∀ nonce aad plaintext,
      ObjectCipher.decrypt key nonce aad (ObjectAEAD.encrypt key nonce aad plaintext) = some plaintext) :
    (∀ source, source.length = size → ∃ chunks, encryptObject material source = .ok chunks ∧
      (layOut material chunks).length = size + material.chunkCount * objectTagSize ∧
      decryptObject material chunks (layOut material chunks) = .ok source) ∧ material.Tiles ∧
    (∀ i < material.chunkCount, ∀ j < material.chunkCount, objectChunkNonce nonce i = objectChunkNonce nonce j → i = j) ∧
    ∀ nonce' size' chunkSize' material', fromParts key nonce' size' chunkSize' = .ok material' →
      ∀ i j plaintext chunk, encryptObjectChunk material' j plaintext = .ok chunk →
        (i, size, chunkSize) ≠ (j, size', chunkSize') →
        (objectChunkAAD i size chunkSize ≠ objectChunkAAD j size' chunkSize' →
          ObjectCipher.decrypt key (objectChunkNonce nonce i) (objectChunkAAD i size chunkSize)
            (ObjectAEAD.encrypt key (objectChunkNonce nonce' j) (objectChunkAAD j size' chunkSize') plaintext) = none) →
        ∀ hash result, decryptObjectChunk material ⟨i, chunk.ciphertext, hash⟩ ≠ .ok result := by
  have htiles := tiles_of_fromParts hm
  simp only [fromParts, ok_iff, not_or] at hm
  obtain ⟨⟨-, -, hpos, -⟩, -, rfl⟩ := hm
  have hc : 0 < chunkSize := Nat.pos_of_ne_zero hpos
  refine ⟨fun source hsource => ?_, htiles, fun i hi j hj => ?_, ?_⟩
  · refine ⟨_, encryptObject_eq hc hsource, ?_, decryptObject_eq hc hsource htag hopen⟩
    rw [(layOut_map_range hc hsource htag le_rfl).1, cipherStart_chunkCount hc]
  · exact objectChunkNonce_injective (hi.trans htiles.count_lt) (hj.trans htiles.count_lt)
  · rintro nonce' size' chunkSize' material' hm' i j plaintext chunk hchunk hne hreject hash result h
    simp only [fromParts, ok_iff] at hm'
    obtain ⟨-, -, rfl⟩ := hm'
    simp only [encryptObjectChunk, ok_iff] at hchunk
    obtain ⟨-, -, -, rfl⟩ := hchunk
    simp only [decryptObjectChunk, ok_iff] at h
    obtain ⟨-, -, -, -, h⟩ := h
    rw [hreject fun haad => hne ?_] at h
    · cases h
    · obtain ⟨rfl, rfl, rfl⟩ := objectChunkAAD_injective haad
      rfl

end

/-- The last bytes of the associated data. -/
def dataTag (aad : Bytes) : Bytes := (aad.reverse ++ replicate objectTagSize 0).take objectTagSize

@[reducible]
def taggingCipher : ObjectAEAD where
  encrypt _ _ aad plaintext := plaintext ++ dataTag aad
  decrypt _ _ aad ciphertext :=
    let size := ciphertext.length - objectTagSize
    if ciphertext.drop size = dataTag aad then some (ciphertext.take size) else none

attribute [local instance] Chat.checksum taggingCipher

lemma length_dataTag (aad : Bytes) : (dataTag aad).length = objectTagSize := by simp [dataTag]

def twoChunks : ObjectCryptoMaterial := ⟨[], replicate 12 0, 2, 1⟩

theorem twoChunks_sealed : ∃ chunks, encryptObject twoChunks [1, 2] = .ok chunks ∧
    decryptObject twoChunks chunks (layOut twoChunks chunks) = .ok [1, 2] := by
  have hm : fromParts [] (replicate 12 0) 2 1 = .ok twoChunks := rfl
  obtain ⟨hseal, -⟩ := object_chunks hm (fun _ aad plaintext => by simp [ObjectAEAD.encrypt, length_dataTag])
    (fun _ aad plaintext => by simp [ObjectAEAD.encrypt, ObjectCipher.decrypt, length_dataTag])
  obtain ⟨chunks, hencrypt, -, hdecrypt⟩ := hseal [1, 2] rfl
  exact ⟨chunks, hencrypt, hdecrypt⟩

end PeersTouch.Transfer
