import Mathlib

/-!
# Formats of messages

A `Format` turns a message into bytes and reads it back; what it writes it can read. A `Codec`
does the same for a value in the middle of a message: it also says where the value ends, so codecs
can be put one after the other. `Codec.format` makes a format of a codec, and the instances build
codecs for pairs, options, lists and strings. Numbers are written seven bits at a time.
-/

namespace PeersTouch.Lib

open List Option

/-- A way to write messages of type `α`. -/
structure Format (α : Type) where
  marshal : α → List UInt8
  unmarshal : List UInt8 → Option α
  unmarshal_marshal : ∀ a, unmarshal (marshal a) = some a

variable {α : Type}

lemma Format.marshal_injective (f : Format α) : Function.Injective f.marshal := by
  intro a b h
  have := f.unmarshal_marshal a
  rw [h, f.unmarshal_marshal b] at this
  exact (some.inj this).symm

/-- A way to write values of type `α` that says where a value ends. -/
class Codec (α : Type) where
  encode : α → List UInt8
  decode : List UInt8 → Option (α × List UInt8)
  decode_encode : ∀ a rest, decode (encode a ++ rest) = some (a, rest)

namespace Codec

variable {α β : Type}

/-- The format of a message that consists of one value. -/
def format (α : Type) [Codec α] : Format α where
  marshal := encode
  unmarshal bytes := (decode bytes).map Prod.fst
  unmarshal_marshal a := by
    have := decode_encode a []
    rw [List.append_nil] at this
    rw [this]
    rfl

/-- A codec for a type whose values can be recovered from values that have a codec. -/
@[reducible]
def via [Codec β] (f : α → β) (g : β → α) (h : ∀ a, g (f a) = a) : Codec α where
  encode a := encode (f a)
  decode bytes := (decode bytes).map fun p => (g p.1, p.2)
  decode_encode a rest := by rw [decode_encode, Option.map_some, h]

/-! ### Numbers -/

/-- The low seven bits first, with the high bit set on every byte but the last. -/
def encodeNat : ℕ → ℕ → List UInt8
  | 0, n => [UInt8.ofNat n]
  | fuel + 1, n => if n < 128 then [UInt8.ofNat n] else UInt8.ofNat (n % 128 + 128) :: encodeNat fuel (n / 128)

def decodeNat : List UInt8 → Option (ℕ × List UInt8)
  | [] => none
  | b :: bytes =>
    if b.toNat < 128 then some (b.toNat, bytes)
    else (decodeNat bytes).map fun p => (b.toNat - 128 + 128 * p.1, p.2)

lemma decodeNat_single {n : ℕ} (h : n < 128) (rest : List UInt8) : decodeNat (UInt8.ofNat n :: rest) = some (n, rest) := by
  have e : (UInt8.ofNat n).toNat = n := by
    rw [UInt8.toNat_ofNat']
    omega
  rw [decodeNat, e, if_pos h]

lemma decodeNat_encodeNat {fuel n : ℕ} (h : n < 128 ^ (fuel + 1)) (rest : List UInt8) :
    decodeNat (encodeNat fuel n ++ rest) = some (n, rest) := by
  induction fuel generalizing n with
  | zero => exact decodeNat_single h rest
  | succ fuel ih =>
    rw [encodeNat]
    split_ifs with hn
    · exact decodeNat_single hn rest
    · have e : (UInt8.ofNat (n % 128 + 128)).toNat = n % 128 + 128 := by
        rw [UInt8.toNat_ofNat']
        omega
      have hhigh : n / 128 < 128 ^ (fuel + 1) := Nat.div_lt_of_lt_mul (by rwa [← Nat.pow_succ'])
      rw [cons_append, decodeNat, e, ih hhigh, map_some]
      refine congrArg some (Prod.ext ?_ rfl)
      omega

lemma length_encodeNat_le (fuel n : ℕ) : (encodeNat fuel n).length ≤ fuel + 1 := by
  induction fuel generalizing n with
  | zero => exact Nat.le_refl 1
  | succ fuel ih =>
    unfold encodeNat
    split_ifs
    · exact Nat.succ_le_succ (Nat.zero_le _)
    · exact Nat.succ_le_succ (ih _)

instance : Codec ℕ where
  encode n := encodeNat n n
  decode := decodeNat
  decode_encode n rest := decodeNat_encodeNat (Nat.lt_trans n.lt_succ_self (Nat.lt_pow_self (by decide))) rest

instance : Codec Int := via (fun z => match z with | .ofNat n => 2 * n | .negSucc n => 2 * n + 1)
    (fun n => if n % 2 = 0 then .ofNat (n / 2) else .negSucc (n / 2)) fun z => by
      cases z with
      | ofNat n => simp
      | negSucc n =>
        have h : (2 * n + 1) % 2 = 1 := by omega
        have h' : (2 * n + 1) / 2 = n := by omega
        simp [h, h']

instance : Codec Bool := via Bool.toNat (· == 1) fun b => by cases b <;> rfl

instance : Codec UInt8 := via UInt8.toNat UInt8.ofNat fun _ => UInt8.ofNat_toNat

instance : Codec Int64 := via (fun z => z.toUInt64.toNat) (fun n => (UInt64.ofNat n).toInt64) fun z => by simp

instance : Codec Char := via Char.toNat Char.ofNat Char.ofNat_toNat

/-! ### Compound values -/

instance [Codec α] [Codec β] : Codec (α × β) where
  encode p := encode p.1 ++ encode p.2
  decode bytes := (decode bytes).bind fun p => (decode p.2).map fun q => ((p.1, q.1), q.2)
  decode_encode p rest := by rw [List.append_assoc, decode_encode, Option.bind_some, decode_encode, Option.map_some]

instance : Codec Unit where
  encode _ := []
  decode bytes := some ((), bytes)
  decode_encode _ _ := rfl

/-- Read a value and wrap it. -/
def readAs [Codec β] (f : β → α) (bytes : List UInt8) : Option (α × List UInt8) :=
  (decode bytes).map fun p => (f p.1, p.2)

@[simp] lemma readAs_encode [Codec β] (f : β → α) (b : β) (rest : List UInt8) :
    readAs f (encode b ++ rest) = some (f b, rest) := by
  rw [readAs, decode_encode, map_some]

/-- A codec for a type with several alternatives: the number of the alternative, then what it is
made of. -/
@[reducible]
def tagged (write : α → ℕ × List UInt8) (read : ℕ → List UInt8 → Option (α × List UInt8))
    (h : ∀ a rest, read (write a).1 ((write a).2 ++ rest) = some (a, rest)) : Codec α where
  encode a := encode (write a).1 ++ (write a).2
  decode bytes := (decode bytes).bind fun p => read p.1 p.2
  decode_encode a rest := by rw [List.append_assoc, decode_encode, Option.bind_some, h]

instance [Codec α] : Codec (Option α) :=
  tagged (fun o => match o with | none => (0, encode ()) | some a => (1, encode a))
    (fun tag => if tag = 0 then readAs fun () => none else readAs some) fun o _ => by cases o <;> simp

/-- Read `n` values. -/
def decodeMany [Codec α] : ℕ → List UInt8 → Option (List α × List UInt8)
  | 0, bytes => some ([], bytes)
  | n + 1, bytes => (decode bytes).bind fun p => (decodeMany n p.2).map fun q => (p.1 :: q.1, q.2)

lemma decodeMany_flatMap_encode [Codec α] (xs : List α) (rest : List UInt8) :
    decodeMany xs.length (xs.flatMap encode ++ rest) = some (xs, rest) := by
  induction xs with
  | nil => rfl
  | cons x xs ih => rw [flatMap_cons, append_assoc, length_cons, decodeMany, decode_encode, bind_some, ih, map_some]

instance [Codec α] : Codec (List α) where
  encode xs := encode xs.length ++ xs.flatMap encode
  decode bytes := (decode bytes).bind fun p => decodeMany p.1 p.2
  decode_encode xs rest := by rw [List.append_assoc, decode_encode, Option.bind_some, decodeMany_flatMap_encode]

instance : Codec String := via String.toList String.ofList fun _ => String.ofList_toList

end Codec

/-! ### Code words in a row -/

/-- A way to write values with the property `P` such that one can see where a value ends. -/
def SelfDelimiting {α : Type} (P : α → Prop) (write : α → List UInt8) : Prop :=
  ∀ a b rest rest', P a → P b → write a ++ rest = write b ++ rest' → a = b ∧ rest = rest'

/-- A row of such values can be taken apart in one way only. -/
lemma SelfDelimiting.flatMap_injective {P : α → Prop} {write : α → List UInt8}
    (h : SelfDelimiting P write) (hwr : ∀ a, P a → write a ≠ []) {as bs : List α}
    (has : ∀ a ∈ as, P a) (hbs : ∀ b ∈ bs, P b) (heq : as.flatMap write = bs.flatMap write) : as = bs := by
  induction as generalizing bs with
  | nil =>
    cases bs with
    | nil => rfl
    | cons b bs => exact absurd (append_eq_nil_iff.1 heq.symm).1 (hwr b (hbs b mem_cons_self))
  | cons a as ih =>
    cases bs with
    | nil => exact absurd (append_eq_nil_iff.1 heq).1 (hwr a (has a mem_cons_self))
    | cons b bs =>
      obtain ⟨rfl, hrest⟩ := h a b _ _ (has a mem_cons_self) (hbs b mem_cons_self) heq
      rw [ih (fun x hx => has x (mem_cons_of_mem _ hx)) (fun x hx => hbs x (mem_cons_of_mem _ hx)) hrest]

end PeersTouch.Lib
