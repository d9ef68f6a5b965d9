import Mathlib

/-!
# Bytes as text

The encodings of bytes in an alphabet of `2 ^ width` symbols, without padding characters. The bytes
are read as one number, which is moved up until its bits fill the last symbol. Only a text that some
bytes are encoded as is decoded.
-/

namespace PeersTouch.Lib

open List

/-! ### Digits -/

variable {base count n : ℕ} {ds : List ℕ}

/-- The `count` last digits of a number, most significant first. -/
def digits (base : ℕ) : ℕ → ℕ → List ℕ
  | 0, _ => []
  | count + 1, n => digits base count (n / base) ++ [n % base]

def ofDigits (base : ℕ) (ds : List ℕ) : ℕ := ds.foldl (fun n d => n * base + d) 0

@[simp] lemma length_digits : (digits base count n).length = count := by
  induction count generalizing n with
  | zero => rfl
  | succ count ih => simp [digits, ih]

lemma lt_of_mem_digits (hbase : 0 < base) {d : ℕ} (h : d ∈ digits base count n) : d < base := by
  induction count generalizing n with
  | zero => cases h
  | succ count ih =>
    rw [digits, mem_append, mem_singleton] at h
    rcases h with h | rfl
    · exact ih h
    · exact Nat.mod_lt n hbase

lemma ofDigits_append (d : ℕ) : ofDigits base (ds ++ [d]) = ofDigits base ds * base + d := by simp [ofDigits]

lemma ofDigits_digits (h : n < base ^ count) : ofDigits base (digits base count n) = n := by
  induction count generalizing n with
  | zero =>
    rw [pow_zero, Nat.lt_one_iff] at h
    exact h.symm
  | succ count ih => rw [digits, ofDigits_append, ih (Nat.div_lt_of_lt_mul (pow_succ' base count ▸ h)), Nat.div_add_mod']

lemma ofDigits_spec (h : ∀ d ∈ ds, d < base) :
    ofDigits base ds < base ^ ds.length ∧ digits base ds.length (ofDigits base ds) = ds := by
  induction ds using reverseRecOn with
  | nil => exact ⟨Nat.one_pos, rfl⟩
  | append_singleton ds d ih =>
    obtain ⟨hlt, hdigits⟩ := ih fun d hd => h d (mem_append_left _ hd)
    have hd : d < base := h d (mem_append_right _ mem_cons_self)
    rw [ofDigits_append, length_append, length_singleton, digits, Nat.mul_comm, Nat.mul_add_div (by omega),
      Nat.div_eq_of_lt hd, add_zero, hdigits, Nat.mul_add_mod, Nat.mod_eq_of_lt hd, pow_succ']
    exact ⟨by nlinarith, rfl⟩

/-! ### Alphabets -/

structure Alphabet where
  width : ℕ
  symbols : List Char
  width_pos : 0 < width := by decide
  width_le : width ≤ 8 := by decide
  length_symbols : symbols.length = 2 ^ width := by decide
  nodup : symbols.Nodup := by decide +kernel

namespace Alphabet

variable (a : Alphabet)

/-- The number of symbols for `length` bytes. -/
def size (length : ℕ) : ℕ := (8 * length + a.width - 1) / a.width

def number (bytes : List UInt8) : ℕ :=
  ofDigits 256 (bytes.map UInt8.toNat) * 2 ^ (a.size bytes.length * a.width - 8 * bytes.length)

def encode (bytes : List UInt8) : String :=
  .ofList ((digits (2 ^ a.width) (a.size bytes.length) (a.number bytes)).map (a.symbols.getD · ' '))

def decode (text : String) : Option (List UInt8) :=
  let ds := text.toList.map a.symbols.idxOf
  let length := ds.length * a.width / 8
  let n := ofDigits (2 ^ a.width) ds / 2 ^ (ds.length * a.width - 8 * length)
  let bytes := (digits 256 length n).map UInt8.ofNat
  if a.encode bytes = text then some bytes else none

variable {a}

lemma size_spec (length : ℕ) :
    8 * length ≤ a.size length * a.width ∧ a.size length * a.width < 8 * length + a.width := by
  have hpos := a.width_pos
  have hsize : a.width * a.size length + (8 * length + a.width - 1) % a.width = _ := Nat.div_add_mod _ _
  have hmod := Nat.mod_lt (8 * length + a.width - 1) hpos
  rw [Nat.mul_comm] at hsize
  omega

lemma mem_symbols {bytes : List UInt8} {c : Char} (h : c ∈ (a.encode bytes).toList) : c ∈ a.symbols := by
  rw [encode, String.toList_ofList, mem_map] at h
  obtain ⟨d, hd, rfl⟩ := h
  have hlt := lt_of_mem_digits (Nat.two_pow_pos _) hd
  rw [← a.length_symbols] at hlt
  rw [getD_eq_getElem _ _ hlt]
  exact getElem_mem hlt

@[simp] lemma decode_encode (bytes : List UInt8) : a.decode (a.encode bytes) = some bytes := by
  obtain ⟨hlow, hhigh⟩ := size_spec (a := a) bytes.length
  have hle := a.width_le
  have hlen : a.size bytes.length * a.width / 8 = bytes.length := by omega
  have hdigit : ∀ d ∈ bytes.map UInt8.toNat, d < 256 := forall_mem_map.2 fun byte _ => byte.toNat_lt
  obtain ⟨hlt, hb⟩ := ofDigits_spec hdigit
  rw [length_map] at hlt hb
  have hfits : a.number bytes < (2 ^ a.width) ^ a.size bytes.length := by
    rw [number, ← pow_mul, Nat.mul_comm a.width, ← Nat.add_sub_cancel' hlow, pow_add, pow_mul, Nat.add_sub_cancel_left]
    exact Nat.mul_lt_mul_of_pos_right hlt (Nat.two_pow_pos _)
  have hread : (a.encode bytes).toList.map a.symbols.idxOf = digits (2 ^ a.width) (a.size bytes.length) (a.number bytes) := by
    rw [encode, String.toList_ofList, map_map]
    refine (map_congr_left fun d hd => ?_).trans (map_id _)
    have hd := lt_of_mem_digits (Nat.two_pow_pos _) hd
    rw [← a.length_symbols] at hd
    rw [Function.comp_apply, getD_eq_getElem _ _ hd, a.nodup.idxOf_getElem, id]
  have hnumber : a.number bytes / 2 ^ (a.size bytes.length * a.width - 8 * bytes.length) = _ :=
    Nat.mul_div_cancel _ (Nat.two_pow_pos _)
  simp [decode, hread, hlen, ofDigits_digits hfits, hnumber, hb, Function.comp_def]

lemma encode_injective : Function.Injective a.encode := by
  intro bytes bytes' h
  have hdec := decode_encode (a := a) bytes
  rw [h, decode_encode] at hdec
  exact (Option.some_injective _ hdec).symm

end Alphabet

end PeersTouch.Lib
