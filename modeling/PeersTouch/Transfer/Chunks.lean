import PeersTouch.Transfer.Worker

/-!
# Bitmaps and chunks

What the worker relies on about its data: the chunks in a record are the first ones (`Completed`), a chunk
written behind the others leaves them as they are, and a file of the right length is the
concatenation of its chunks.
-/

namespace PeersTouch.Transfer

open Lib Chat List Option

/-! ### Bitmaps -/

/-- The first `k` of `n` chunks are complete, and no other. -/
structure Completed (bitmap : Bytes) (n k : ℕ) : Prop where
  le : k ≤ n
  length : bitmap.length = n ⌈/⌉ 8
  complete_iff : ∀ i, chunkComplete bitmap i = true ↔ i < k

lemma le_mul_ceilDiv (n : ℕ) {c : ℕ} (hc : 0 < c) : n ≤ c * (n ⌈/⌉ c) := (ceilDiv_le_iff_le_mul hc).1 le_rfl

lemma lt_ceilDiv_iff {n c i : ℕ} (hc : 0 < c) : i < n ⌈/⌉ c ↔ c * i < n := by
  rw [← not_le, ceilDiv_le_iff_le_mul hc, not_le]

lemma chunkComplete_replicate (m i : ℕ) : chunkComplete (replicate m 0) i = false := by
  unfold chunkComplete
  rw [getElem?_replicate]
  split <;> simp

lemma completed_replicate (n : ℕ) : Completed (replicate (n ⌈/⌉ 8) 0) n 0 := by
  refine ⟨Nat.zero_le n, length_replicate, fun i => ?_⟩
  rw [chunkComplete_replicate]
  simp

variable {j : ℕ}

lemma toNat_setBit (byte : UInt8) (hj : j < 8) : (UInt8.ofNat (byte.toNat ||| 2 ^ j)).toNat = byte.toNat ||| 2 ^ j := by
  refine Nat.mod_eq_of_lt (Nat.or_lt_two_pow byte.toNat_lt ?_)
  exact Nat.pow_lt_pow_right (by decide) hj

variable {bitmap : Bytes}

lemma chunkComplete_set {k : ℕ} (hk : k / 8 < bitmap.length) (i : ℕ) :
    chunkComplete (setChunkComplete bitmap k) i = true ↔ i = k ∨ chunkComplete bitmap i = true := by
  unfold chunkComplete setChunkComplete
  rw [List.getElem?_modify]
  by_cases hbyte : k / 8 = i / 8
  · have hi : i / 8 < bitmap.length := hbyte ▸ hk
    simp only [hbyte, if_true, List.getElem?_eq_getElem hi, Option.map_eq_map, Option.map_some, Option.any_some]
    rw [toNat_setBit _ (Nat.mod_lt k (by decide)), Nat.testBit_or, Nat.testBit_two_pow,
      Bool.or_eq_true, decide_eq_true_eq, or_comm]
    refine or_congr_left ⟨fun h => ?_, fun h => by rw [h]⟩
    omega
  · have hne : i ≠ k := fun h => hbyte (by rw [h])
    simp only [hbyte, hne]
    cases bitmap[i / 8]? <;> simp

variable {byte : UInt8}

lemma lt_eight_of_testBit (h : byte.toNat.testBit j = true) : j < 8 := by
  by_contra hge
  have hlt : byte.toNat < 2 ^ j := byte.toNat_lt.trans_le (Nat.pow_le_pow_right (by decide) (not_lt.1 hge))
  rw [Nat.testBit_lt_two_pow hlt] at h
  cases h

lemma chunkComplete_of_testBit {i : ℕ} (hbyte : bitmap[i]? = some byte)
    (h : byte.toNat.testBit j = true) : chunkComplete bitmap (8 * i + j) = true := by
  have hj := lt_eight_of_testBit h
  unfold chunkComplete
  rw [show (8 * i + j) / 8 = i by omega, show (8 * i + j) % 8 = j by omega, hbyte]
  exact h

namespace Completed

variable {bitmap : Bytes} {n k : ℕ}

lemma unique {j : ℕ} (hj : Completed bitmap n j) (hk : Completed bitmap n k) : j = k := by
  have hiff : ∀ i, i < j ↔ i < k := fun i => (hj.complete_iff i).symm.trans (hk.complete_iff i)
  have h₁ := hiff j
  have h₂ := hiff k
  omega

lemma set (h : Completed bitmap n k) (hk : k < n) : Completed (setChunkComplete bitmap k) n (k + 1) := by
  have hlt : k / 8 < bitmap.length := by
    rw [h.length, lt_ceilDiv_iff (by decide)]
    omega
  refine ⟨hk, ?_, fun i => ?_⟩
  · rw [← h.length]
    exact length_modify _ _ _
  · rw [chunkComplete_set hlt, h.complete_iff]
    omega

lemma validateBitmap (h : Completed bitmap n k) : validateBitmap bitmap n = .ok () := by
  unfold Transfer.validateBitmap
  simp only [ok_iff, not_not, not_and]
  refine ⟨h.length, fun hn hlast => ?_⟩
  obtain ⟨byte, hbyte, hle⟩ := (any_eq_true _ _).1 hlast
  obtain ⟨j, hj, hbit⟩ := Nat.exists_ge_and_testBit_of_ge_two_pow (of_decide_eq_true hle)
  have hlen : bitmap.length = n / 8 + 1 := by
    rw [h.length, Nat.ceilDiv_eq_add_pred_div]
    omega
  rw [getLast?_eq_getElem?] at hbyte
  have hlt := (h.complete_iff _).1 (chunkComplete_of_testBit hbyte hbit)
  have hle := h.le
  omega

lemma takeWhile_range {p : ℕ → Bool} (hp : ∀ i, p i = true ↔ i < k) (hk : k ≤ n) : (range n).takeWhile p = range k := by
  obtain ⟨m, rfl⟩ := Nat.exists_eq_add_of_le hk
  rw [range_add, takeWhile_append_of_pos fun i hi => (hp i).2 (mem_range.1 hi)]
  cases m with
  | zero => simp
  | succ m =>
    have hfst : p k = false := by
      rw [Bool.eq_false_iff]
      exact fun h => absurd ((hp k).1 h) (lt_irrefl k)
    simp [hfst]

lemma completedPrefix (h : Completed bitmap n k) : completedPrefix bitmap n = .ok k := by
  unfold Transfer.completedPrefix
  rw [takeWhile_range h.complete_iff h.le, List.length_range, if_neg]
  rw [Bool.not_eq_true, List.any_eq_false]
  intro i hi hcompl
  obtain ⟨j, hj, rfl⟩ := List.mem_drop_iff_getElem.1 hi
  rw [List.getElem_range, h.complete_iff] at hcompl
  omega

lemma any_ne_zero (h : Completed bitmap n 0) : bitmap.any (· ≠ 0) = false := by
  rw [List.any_eq_false]
  intro byte hbyte hne
  obtain ⟨i, hi, rfl⟩ := List.getElem_of_mem hbyte
  have hzero : (bitmap[i]).toNat ≠ 0 := by
    intro hz
    simp only [decide_eq_true_eq] at hne
    exact hne (UInt8.toNat_inj.1 hz)
  obtain ⟨j, hj⟩ := Nat.exists_testBit_of_ne_zero hzero
  have hcompl := chunkComplete_of_testBit (List.getElem?_eq_getElem hi) hj
  exact absurd ((h.complete_iff _).1 hcompl) (Nat.not_lt_zero _)

end Completed

/-! ### Slices of files -/

section

variable {bytes data : Bytes} {offset length o l n : ℕ}

@[simp] lemma length_setLen (bytes : Bytes) (length : ℕ) : (setLen bytes length).length = length := by
  unfold setLen
  rw [length_take, length_append, length_replicate]
  omega

lemma setLen_length (bytes : Bytes) : setLen bytes bytes.length = bytes := by simp [setLen]

lemma length_slice (bytes : Bytes) (offset length : ℕ) :
    (slice bytes offset length).length = min length (bytes.length - offset) := by
  rw [slice, length_take, length_drop]

lemma slice_take (h : o + l ≤ n) : slice (bytes.take n) o l = slice bytes o l := by
  unfold slice
  rw [drop_take, take_take]
  congr 1
  omega

lemma slice_append_left (h : o + l ≤ bytes.length) : slice (bytes ++ data) o l = slice bytes o l := by
  unfold slice
  rw [drop_append_of_le_length (by omega), take_append_of_le_length]
  rw [length_drop]
  omega

lemma slice_setLen (h : o + l ≤ bytes.length) (hn : o + l ≤ n) : slice (setLen bytes n) o l = slice bytes o l := by
  unfold setLen
  rw [slice_take hn, slice_append_left h]

lemma slice_writeAt (h : o + l ≤ bytes.length) (hoffset : o + l ≤ offset) :
    slice (writeAt bytes offset data) o l = slice bytes o l := by
  unfold writeAt
  rw [append_assoc, slice_append_left (by rw [length_setLen]; exact hoffset), slice_setLen h hoffset]

lemma slice_writeAt_self (bytes : Bytes) (offset : ℕ) (data : Bytes) :
    slice (writeAt bytes offset data) offset data.length = data := by
  unfold writeAt slice
  rw [append_assoc, drop_append_of_le_length (by rw [length_setLen]),
    drop_eq_nil_of_le (by rw [length_setLen]), nil_append, take_left]

lemma writeAt_length (bytes data : Bytes) : writeAt bytes bytes.length data = bytes ++ data := by
  unfold writeAt
  rw [setLen_length, drop_eq_nil_of_le (by omega), append_nil]

/-- A file is the concatenation of its slices. -/
lemma take_eq_flatMap_slice (bytes : Bytes) {start size : ℕ → ℕ} (hzero : start 0 = 0)
    (hnext : ∀ i < n, start (i + 1) = start i + size i) :
    bytes.take (start n) = (range n).flatMap fun i => slice bytes (start i) (size i) := by
  induction n with
  | zero => simp [hzero]
  | succ n ih =>
    rw [range_succ, flatMap_append, ← ih fun i hi => hnext i (Nat.lt_succ_of_lt hi), hnext n (Nat.lt_succ_self n), take_add]
    simp [slice]

end

/-! ### The chunks of an object -/

namespace ObjectCryptoMaterial

variable {material : ObjectCryptoMaterial} {i : ℕ}

def plainSize (material : ObjectCryptoMaterial) (i : ℕ) : ℕ :=
  min (material.plaintextSize - i * material.chunkSize) material.chunkSize

def cipherSize (material : ObjectCryptoMaterial) (i : ℕ) : ℕ := material.plainSize i + objectTagSize

lemma cipherSize_pos (material : ObjectCryptoMaterial) (i : ℕ) : 0 < material.cipherSize i :=
  Nat.add_pos_right _ (by decide)

lemma plaintextChunkSize_eq (h : i < material.chunkCount) :
    material.expectedPlaintextChunkSize i = .ok (material.plainSize i) := by
  unfold expectedPlaintextChunkSize
  simp only [ok_iff, not_le]
  exact ⟨h, rfl⟩

lemma ciphertextChunkSize_eq (h : i < material.chunkCount) :
    material.expectedCiphertextChunkSize i = .ok (material.cipherSize i) := by
  unfold expectedCiphertextChunkSize
  simp only [ok_iff]
  exact ⟨_, plaintextChunkSize_eq h, rfl⟩

def plainStart (material : ObjectCryptoMaterial) (i : ℕ) : ℕ := min (i * material.chunkSize) material.plaintextSize

def cipherStart (material : ObjectCryptoMaterial) (i : ℕ) : ℕ := material.plainStart i + i * objectTagSize

lemma plainStart_zero (material : ObjectCryptoMaterial) : material.plainStart 0 = 0 := by simp [plainStart]

lemma plainStart_eq (hc : 0 < material.chunkSize) (h : i < material.chunkCount) :
    material.plainStart i = i * material.chunkSize := by
  rw [chunkCount, lt_ceilDiv_iff hc, mul_comm] at h
  exact min_eq_left h.le

lemma plainStart_succ (material : ObjectCryptoMaterial) (i : ℕ) :
    material.plainStart (i + 1) = material.plainStart i + material.plainSize i := by
  unfold plainStart plainSize
  rw [Nat.succ_mul]
  omega

lemma plainStart_chunkCount (hc : 0 < material.chunkSize) :
    material.plainStart material.chunkCount = material.plaintextSize := by
  refine min_eq_right ?_
  rw [mul_comm]
  exact le_mul_ceilDiv _ hc

lemma cipherStart_zero (material : ObjectCryptoMaterial) : material.cipherStart 0 = 0 := by
  simp [cipherStart, plainStart_zero]

lemma cipherStart_succ (material : ObjectCryptoMaterial) (i : ℕ) :
    material.cipherStart (i + 1) = material.cipherStart i + material.cipherSize i := by
  rw [cipherStart, plainStart_succ, cipherStart, cipherSize, Nat.succ_mul]
  omega

lemma cipherStart_le (material : ObjectCryptoMaterial) {j : ℕ} (hij : i < j) :
    material.cipherStart i + material.cipherSize i ≤ material.cipherStart j := by
  induction j, hij using Nat.le_induction with
  | base => exact (cipherStart_succ material i).ge
  | succ j hij ih =>
    rw [cipherStart_succ]
    exact ih.trans (Nat.le_add_right _ _)

section

variable (hc : 0 < material.chunkSize)
include hc

lemma cipherStart_eq (h : i < material.chunkCount) : material.cipherStart i = material.ciphertextChunkOffset i := by
  rw [cipherStart, plainStart_eq hc h, ciphertextChunkOffset, mul_add]

lemma cipherStart_chunkCount : material.cipherStart material.chunkCount =
    material.plaintextSize + material.chunkCount * objectTagSize := by
  rw [cipherStart, plainStart_chunkCount hc]

lemma prefixLength_eq {k : ℕ} (hk : k ≤ material.chunkCount) : material.prefixLength k = .ok (material.cipherStart k) := by
  unfold prefixLength
  cases k with
  | zero => rw [if_pos rfl, cipherStart_zero]
  | succ k =>
    rw [if_neg k.succ_ne_zero, Nat.add_sub_cancel]
    simp only [ok_iff]
    refine ⟨_, ciphertextChunkSize_eq hk, ?_⟩
    rw [← cipherStart_eq hc hk, cipherStart_succ]

end

end ObjectCryptoMaterial

end PeersTouch.Transfer
