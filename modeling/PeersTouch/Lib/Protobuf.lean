import PeersTouch.Lib.Codec
import PeersTouch.Lib.Method

/-!
# Protocol buffer messages

The wire format of protocol buffers and a decoder that is driven by the table of a message's fields.

A message is a sequence of records. A record starts with a key, which has the number of the field and
a wire type, and the wire type alone says where the record ends. A decoder therefore reads the same
keys whatever message it expects (`keys`). Two lemmas follow: a decoder that succeeds has found
every field it knows with its own wire type (`wire_of_mem_keys`), and what no record writes keeps its
value (`mergeLoop_invariant`). Together they compare the decoders of two messages on the same bytes.

A field that is not in the table is skipped, a field that occurs twice is merged, and a message is
written with its fields in ascending order and without those that have their default value.
-/

namespace PeersTouch.Lib.Protobuf

open Codec List

inductive WireType where
  | varint | sixtyFourBit | lengthDelimited | startGroup | endGroup | thirtyTwoBit
deriving DecidableEq

def WireType.number : WireType → ℕ
  | .varint => 0
  | .sixtyFourBit => 1
  | .lengthDelimited => 2
  | .startGroup => 3
  | .endGroup => 4
  | .thirtyTwoBit => 5

def WireType.ofNumber : ℕ → Option WireType
  | 0 => some .varint
  | 1 => some .sixtyFourBit
  | 2 => some .lengthDelimited
  | 3 => some .startGroup
  | 4 => some .endGroup
  | 5 => some .thirtyTwoBit
  | _ => none

inductive DecodeError where
  | invalidVarint | invalidKey | invalidWireType | invalidTag | invalidString
  | unexpectedWireType (actual expected : WireType)
  | unexpectedEndGroup | recursionLimit | bufferUnderflow
deriving DecidableEq

structure Key where
  tag : ℕ
  wire : WireType

/-! ### Reading -/

/-- Seven bits a byte, the low ones first, in at most `limit` bytes. The last of ten bytes has room for
one bit. -/
def decodeVarintWithin : ℕ → List UInt8 → Except DecodeError (ℕ × List UInt8)
  | 0, _ => .error .invalidVarint
  | _ + 1, [] => .error .invalidVarint
  | limit + 1, b :: bytes =>
    if b.toNat < 128 then
      if limit = 0 ∧ 2 ≤ b.toNat then .error .invalidVarint else .ok (b.toNat, bytes)
    else do
      let (high, rest) ← decodeVarintWithin limit bytes
      return (b.toNat - 128 + 128 * high, rest)

def decodeVarint (bytes : List UInt8) : Except DecodeError (ℕ × List UInt8) := decodeVarintWithin 10 bytes

def decodeKey (bytes : List UInt8) : Except DecodeError (Key × List UInt8) := do
  let (key, rest) ← decodeVarint bytes
  failWhen (2 ^ 32 ≤ key) .invalidKey
  let wire ← orFail (WireType.ofNumber (key % 8)) .invalidWireType
  failWhen (key / 8 = 0) .invalidTag
  return (⟨key / 8, wire⟩, rest)

def takeBytes (n : ℕ) (bytes : List UInt8) : Except DecodeError (List UInt8 × List UInt8) := do
  failWhen (bytes.length < n) .bufferUnderflow
  return bytes.splitAt n

/-- What a record holds, as far as a field can use it. -/
inductive Value where
  | varint (n : ℕ)
  | delimited (bytes : List UInt8)
  | skipped

/-- How many groups may be open at a time. -/
def recursionLimit : ℕ := 100

def readPlain (wire : WireType) (bytes : List UInt8) : Except DecodeError (Value × List UInt8) :=
  match wire with
  | .varint => do
    let (n, rest) ← decodeVarint bytes
    return (.varint n, rest)
  | .sixtyFourBit => do
    let (_, rest) ← takeBytes 8 bytes
    return (.skipped, rest)
  | .lengthDelimited => do
    let (n, rest) ← decodeVarint bytes
    let (content, rest) ← takeBytes n rest
    return (.delimited content, rest)
  | .thirtyTwoBit => do
    let (_, rest) ← takeBytes 4 bytes
    return (.skipped, rest)
  | .startGroup | .endGroup => .error .unexpectedEndGroup

/-- Skip the records of the open groups, the innermost first. Every round reads a key, so the number of
bytes bounds the number of rounds. -/
def skipGroups : ℕ → List ℕ → List UInt8 → Except DecodeError (List UInt8)
  | _, [], bytes => .ok bytes
  | 0, _ :: _, _ => .error .bufferUnderflow
  | rounds + 1, tag :: outer, bytes => do
    let (key, rest) ← decodeKey bytes
    match key.wire with
    | .endGroup =>
      failWhen (key.tag ≠ tag) .unexpectedEndGroup
      skipGroups rounds outer rest
    | .startGroup =>
      failWhen (recursionLimit ≤ outer.length + 1) .recursionLimit
      skipGroups rounds (key.tag :: tag :: outer) rest
    | wire =>
      let (_, rest) ← readPlain wire rest
      skipGroups rounds (tag :: outer) rest

/-- The value after a key. -/
def readValue (key : Key) (bytes : List UInt8) : Except DecodeError (Value × List UInt8) :=
  match key.wire with
  | .startGroup => do
    let rest ← skipGroups bytes.length [key.tag] bytes
    return (.skipped, rest)
  | wire => readPlain wire bytes

/-! ### Fields and messages -/

/-- How a message takes the value of one of its fields. -/
inductive Field (M : Type) where
  | varint (merge : ℕ → M → M)
  | delimited (merge : List UInt8 → M → Except DecodeError M)

section

variable {M N : Type}

namespace Field

def wire : Field M → WireType
  | .varint _ => .varint
  | .delimited _ => .lengthDelimited

/-- The decoder checks the wire type first, so the last case does not occur. -/
def merge : Field M → Value → M → Except DecodeError M
  | .varint f, .varint n, m => .ok (f n m)
  | .delimited f, .delimited bytes, m => f bytes m
  | f, _, _ => .error (.unexpectedWireType f.wire f.wire)

end Field

/-- Merge one record into a message. -/
def mergeField (fields : ℕ → Option (Field M)) (key : Key) (bytes : List UInt8) (m : M) :
    Except DecodeError (M × List UInt8) :=
  match fields key.tag with
  | none => do
    let (_, rest) ← readValue key bytes
    return (m, rest)
  | some field => do
    failWhen (key.wire ≠ field.wire) (.unexpectedWireType key.wire field.wire)
    let (value, rest) ← readValue key bytes
    let m' ← field.merge value m
    return (m', rest)

/-- Merge the records of a message. Every round reads a key, so the number of bytes bounds the number
of rounds. -/
def mergeLoop (fields : ℕ → Option (Field M)) : ℕ → List UInt8 → M → Except DecodeError M
  | _, [], m => .ok m
  | 0, _ :: _, _ => .error .bufferUnderflow
  | rounds + 1, b :: bytes, m => do
    let (key, rest) ← decodeKey (b :: bytes)
    let (m', rest) ← mergeField fields key rest m
    mergeLoop fields rounds rest m'

class Message (M : Type) where
  /-- The message without a record. -/
  empty : M
  fields : ℕ → Option (Field M)
  encode : M → List UInt8

/-- Merge an encoded message into one of the same type. -/
def Message.merge [Message M] (bytes : List UInt8) (m : M) : Except DecodeError M :=
  mergeLoop Message.fields bytes.length bytes m

def Message.decode (M : Type) [Message M] (bytes : List UInt8) : Except DecodeError M :=
  Message.merge bytes Message.empty

/-! ### The types of fields -/

/-- The two's complement value of the low `w` bits. -/
def signed (w n : ℕ) : ℤ := (BitVec.ofNat w n).toInt

namespace Field

def bytes (set : List UInt8 → M → M) : Field M := .delimited fun value m => .ok (set value m)

def string (set : String → M → M) : Field M := .delimited fun value m => do
    let text ← orFail (String.fromUTF8? ⟨value.toArray⟩) .invalidString
    return set text m

def int64 (set : ℤ → M → M) : Field M := .varint fun n => set (signed 64 n)

/-- An enumeration is an `int32`, also when its value is not one of the declared ones. -/
def enumeration (set : ℤ → M → M) : Field M := .varint fun n => set (signed 32 n)

def uint32 (set : ℕ → M → M) : Field M := .varint fun n => set (n % 2 ^ 32)

def bool (set : Bool → M → M) : Field M := .varint fun n => set (n != 0)

def message [Message N] (get : M → Option N) (set : N → M → M) : Field M :=
  .delimited fun value m => do
    let n ← Message.merge value ((get m).getD Message.empty)
    return set n m

end Field

/-! ### What a field keeps -/

namespace Field

variable {P : M → Prop}

/-- Merging a value keeps `P`. -/
def Keeps (P : M → Prop) (field : Field M) : Prop := ∀ value m m', field.merge value m = .ok m' → P m → P m'

lemma keeps_varint {f : ℕ → M → M} (h : ∀ n m, P m → P (f n m)) : (Field.varint f).Keeps P := by
  intro value m m' hmrg hm
  cases value with
  | varint n =>
    simp only [merge, Except.ok.injEq] at hmrg
    exact hmrg ▸ h n m hm
  | delimited bytes => simp [merge] at hmrg
  | skipped => simp [merge] at hmrg

lemma keeps_delimited {f : List UInt8 → M → Except DecodeError M}
    (h : ∀ bytes m m', f bytes m = .ok m' → P m → P m') : (Field.delimited f).Keeps P := by
  intro value m m' hmrg hm
  cases value with
  | varint n => simp [merge] at hmrg
  | delimited bytes => exact h bytes m m' hmrg hm
  | skipped => simp [merge] at hmrg

lemma keeps_bytes {set : List UInt8 → M → M} (h : ∀ v m, P m → P (set v m)) : (Field.bytes set).Keeps P := by
  refine keeps_delimited fun bytes m m' hmrg hm => ?_
  simp only [Except.ok.injEq] at hmrg
  exact hmrg ▸ h bytes m hm

lemma keeps_string {set : String → M → M} (h : ∀ v m, P m → P (set v m)) : (Field.string set).Keeps P := by
  refine keeps_delimited fun bytes m m' hmrg hm => ?_
  simp only [ok_iff] at hmrg
  obtain ⟨text, -, rfl⟩ := hmrg
  exact h text m hm

lemma keeps_message [Message N] {get : M → Option N} {set : N → M → M}
    (h : ∀ v m, P m → P (set v m)) : (Field.message get set).Keeps P := by
  refine keeps_delimited fun bytes m m' hmrg hm => ?_
  simp only [ok_iff] at hmrg
  obtain ⟨n, -, rfl⟩ := hmrg
  exact h n m hm

end Field

/-! ### Writing -/

def encodeVarint (n : ℕ) : List UInt8 := encodeNat 9 n

def encodeKey (tag : ℕ) (wire : WireType) : List UInt8 := encodeVarint (8 * tag + wire.number)

def writeDelimited (tag : ℕ) (content : List UInt8) : List UInt8 :=
  encodeKey tag .lengthDelimited ++ encodeVarint content.length ++ content

def writeBytes (tag : ℕ) (value : List UInt8) : List UInt8 := if value = [] then [] else writeDelimited tag value

def writeString (tag : ℕ) (value : String) : List UInt8 := writeBytes tag value.toUTF8.data.toList

/-- A number in the 64 bits of a varint; a negative one takes ten bytes. -/
def writeAlways (tag : ℕ) (value : ℤ) : List UInt8 := encodeKey tag .varint ++ encodeVarint (BitVec.ofInt 64 value).toNat

def writeInt (tag : ℕ) (value : ℤ) : List UInt8 := if value = 0 then [] else writeAlways tag value

def writeBool (tag : ℕ) (value : Bool) : List UInt8 := writeInt tag value.toNat

def writeMessage [Message N] (tag : ℕ) (value : Option N) : List UInt8 :=
  (value.map fun n => writeDelimited tag (Message.encode n)).getD []

/-! ### Sizes -/

lemma length_encodeVarint_le (n : ℕ) : (encodeVarint n).length ≤ 10 := Codec.length_encodeNat_le 9 n

lemma length_writeDelimited_le (tag : ℕ) (content : List UInt8) :
    (writeDelimited tag content).length ≤ 20 + content.length := by
  have hkey := length_encodeVarint_le (8 * tag + WireType.lengthDelimited.number)
  have hlen := length_encodeVarint_le content.length
  simp only [writeDelimited, encodeKey, length_append]
  omega

lemma length_writeBytes_le (tag : ℕ) (value : List UInt8) : (writeBytes tag value).length ≤ 20 + value.length := by
  unfold writeBytes
  split_ifs
  · exact Nat.zero_le _
  · exact length_writeDelimited_le tag value

lemma length_writeString_le (tag : ℕ) (value : String) : (writeString tag value).length ≤ 20 + value.utf8ByteSize :=
  length_writeBytes_le tag _

lemma length_writeInt_le (tag : ℕ) (value : ℤ) : (writeInt tag value).length ≤ 20 := by
  have hkey := length_encodeVarint_le (8 * tag + WireType.varint.number)
  have hvalue := length_encodeVarint_le (BitVec.ofInt 64 value).toNat
  unfold writeInt
  split_ifs
  · exact Nat.zero_le _
  · simp only [writeAlways, encodeKey, length_append]
    omega

/-! ### Records -/

/-- What a record holds, as it is written. -/
inductive Payload where
  | varint (n : ℕ)
  | delimited (content : List UInt8)
deriving DecidableEq

structure Record where
  tag : ℕ
  payload : Payload
deriving DecidableEq

namespace Record

def write (record : Record) : List UInt8 := match record.payload with
  | .varint n => encodeKey record.tag .varint ++ encodeVarint n
  | .delimited content => writeDelimited record.tag content

/-- A record whose numbers fit into the 64 bits of a varint. -/
def Fits (record : Record) : Prop := record.tag < 2 ^ 32 ∧ match record.payload with
    | .varint n => n < 2 ^ 64
    | .delimited content => content.length < 2 ^ 64

end Record

lemma selfDelimiting_varint : SelfDelimiting (· < 2 ^ 64) encodeVarint := by
  intro m n rest rest' hm hn h
  have hdec := Codec.decodeNat_encodeNat (show m < 128 ^ (9 + 1) by omega) rest
  have hdec' := Codec.decodeNat_encodeNat (show n < 128 ^ (9 + 1) by omega) rest'
  unfold encodeVarint at h
  rw [h, hdec', Option.some.injEq, Prod.mk.injEq] at hdec
  exact ⟨hdec.1.symm, hdec.2.symm⟩

lemma encodeVarint_ne_nil (n : ℕ) : encodeVarint n ≠ [] := by
  unfold encodeVarint encodeNat
  split <;> simp

lemma selfDelimiting_write : SelfDelimiting Record.Fits Record.write := by
  rintro ⟨tag, payload⟩ ⟨tag', payload'⟩ rest rest' ⟨htag, hfits⟩ ⟨htag', hfits'⟩ h
  have hkey : ∀ (t : ℕ) (wire : WireType), t < 2 ^ 32 → 8 * t + wire.number < 2 ^ 64 := by
    intro t wire ht
    have hwire : wire.number < 8 := by cases wire <;> decide
    omega
  -- the key of each record is read first: it has the tag and says which kind of payload follows
  cases payload <;> cases payload' <;>
    simp only [Record.write, writeDelimited, List.append_assoc] at h <;>
    obtain ⟨hkeys, hpay⟩ := selfDelimiting_varint _ _ _ _ (hkey _ _ htag) (hkey _ _ htag') h <;>
    simp only [WireType.number] at hkeys
  case varint.varint n n' =>
    obtain ⟨rfl, hrest⟩ := selfDelimiting_varint _ _ _ _ hfits hfits' hpay
    obtain rfl : tag = tag' := by omega
    exact ⟨rfl, hrest⟩
  case delimited.delimited content content' =>
    obtain ⟨hlen, hcontent⟩ := selfDelimiting_varint _ _ _ _ hfits hfits' hpay
    obtain ⟨rfl, hrest⟩ := List.append_inj hcontent hlen
    obtain rfl : tag = tag' := by omega
    exact ⟨rfl, hrest⟩
  all_goals omega

lemma Record.write_ne_nil (record : Record) : record.write ≠ [] := by
  unfold Record.write
  cases record.payload <;> simp [writeDelimited, encodeVarint_ne_nil]

namespace Record

/-- The record of a field of bytes, which is left out if there are none. -/
def ofBytes (tag : ℕ) (value : List UInt8) : List Record := if value = [] then [] else [⟨tag, .delimited value⟩]

def ofInt (tag : ℕ) (value : ℤ) : List Record := if value = 0 then [] else [⟨tag, .varint (BitVec.ofInt 64 value).toNat⟩]

def ofString (tag : ℕ) (value : String) : List Record := ofBytes tag value.toUTF8.data.toList

/-- The record of a message, which is left out if the field is not set. -/
def ofMessage (tag : ℕ) (value : Option (List UInt8)) : List Record :=
  (value.map fun content => [⟨tag, .delimited content⟩]).getD []

lemma flatMap_ofBytes (tag : ℕ) (value : List UInt8) : (ofBytes tag value).flatMap write = writeBytes tag value := by
  unfold ofBytes writeBytes
  split <;> simp [write]

lemma flatMap_ofInt (tag : ℕ) (value : ℤ) : (ofInt tag value).flatMap write = writeInt tag value := by
  unfold ofInt writeInt
  split <;> simp [write, writeAlways]

lemma flatMap_ofMessage (tag : ℕ) (value : Option (List UInt8)) :
    (ofMessage tag value).flatMap write = (value.map (writeDelimited tag)).getD [] := by
  cases value <;> simp [ofMessage, write]

variable {tag : ℕ} {record : Record}

lemma fits_of_mem_ofBytes {value : List UInt8} (htag : tag < 2 ^ 32)
    (hvalue : value.length < 2 ^ 64) (h : record ∈ ofBytes tag value) : record.Fits := by
  unfold ofBytes at h
  split at h
  · simp at h
  · rw [mem_singleton.1 h]
    exact ⟨htag, hvalue⟩

lemma fits_of_mem_ofInt {value : ℤ} (htag : tag < 2 ^ 32) (h : record ∈ ofInt tag value) : record.Fits := by
  unfold ofInt at h
  split at h
  · simp at h
  · rw [mem_singleton.1 h]
    exact ⟨htag, BitVec.isLt _⟩

lemma fits_of_mem_ofMessage {value : Option (List UInt8)} (htag : tag < 2 ^ 32) (hvalue : ∀ content ∈ value,
    content.length < 2 ^ 64) (h : record ∈ ofMessage tag value) : record.Fits := by
  cases value with
  | none => simp [ofMessage] at h
  | some content =>
    rw [mem_singleton.1 h]
    exact ⟨htag, hvalue content rfl⟩

lemma filter_ofBytes (tag tag' : ℕ) (value : List UInt8) :
    (ofBytes tag value).filter (fun r => r.tag = tag') = if tag = tag' then ofBytes tag value else [] := by
  unfold ofBytes
  split_ifs <;> simp [*]

lemma filter_ofInt (tag tag' : ℕ) (value : ℤ) :
    (ofInt tag value).filter (fun r => r.tag = tag') = if tag = tag' then ofInt tag value else [] := by
  unfold ofInt
  split_ifs <;> simp [*]

lemma filter_ofMessage (tag tag' : ℕ) (value : Option (List UInt8)) : (ofMessage tag value).filter (fun r => r.tag = tag') =
    if tag = tag' then ofMessage tag value else [] := by
  cases value <;> split_ifs <;> simp [ofMessage, *]

lemma ofBytes_injective {value value' : List UInt8} (h : ofBytes tag value = ofBytes tag value') : value = value' := by
  unfold ofBytes at h
  split_ifs at h with h₁ h₂ h₂
  · rw [h₁, h₂]
  · simpa using h

lemma ofString_injective {value value' : String} (h : ofString tag value = ofString tag value') : value = value' := by
  have hb := ofBytes_injective h
  exact String.toByteArray_inj.1 (ByteArray.ext (Array.toList_inj.1 hb))

end Record

/-! ### The keys of a message -/

/-- The keys a decoder reads, whatever fields it knows. -/
def keys : ℕ → List UInt8 → List Key
  | _, [] => []
  | 0, _ :: _ => []
  | rounds + 1, b :: bytes =>
    match decodeKey (b :: bytes) with
    | .error _ => []
    | .ok (key, rest) =>
      key :: match readValue key rest with
        | .error _ => []
        | .ok (_, rest) => keys rounds rest

variable {fields : ℕ → Option (Field M)} {rounds : ℕ} {bytes : List UInt8} {m m' : M}
  {key : Key} {value : Value} {rest rest' : List UInt8} {b : UInt8}

lemma keys_cons (hkey : decodeKey (b :: bytes) = .ok (key, rest)) (hread : readValue key rest = .ok (value, rest')) :
    keys (rounds + 1) (b :: bytes) = key :: keys rounds rest' := by
  rw [keys, hkey]
  simp only [hread]

/-- One record takes a message to another. -/
def Merges (fields : ℕ → Option (Field M)) (key : Key) (value : Value) (m m' : M) : Prop :=
  fields key.tag = none ∧ m' = m ∨
    ∃ field, fields key.tag = some field ∧ key.wire = field.wire ∧ field.merge value m = .ok m'

lemma mergeField_eq_ok : mergeField fields key bytes m = .ok (m', rest) ↔
    ∃ value, readValue key bytes = .ok (value, rest) ∧ Merges fields key value m m' := by
  unfold mergeField Merges
  cases fields key.tag with
  | none =>
    simp only [ok_iff, Prod.exists, Prod.mk.injEq]
    constructor
    · rintro ⟨value, rest', hread, rfl, rfl⟩
      exact ⟨value, hread, .inl ⟨trivial, rfl⟩⟩
    · rintro ⟨value, hread, ⟨-, rfl⟩ | ⟨_, ⟨⟩, -⟩⟩
      exact ⟨value, rest, hread, rfl, rfl⟩
  | some field =>
    simp only [ok_iff, not_not, Prod.exists, Prod.mk.injEq]
    constructor
    · rintro ⟨hwire, value, rest', hread, n, hmrg, rfl, rfl⟩
      exact ⟨value, hread, .inr ⟨field, rfl, hwire, hmrg⟩⟩
    · rintro ⟨value, hread, ⟨⟨⟩, -⟩ | ⟨_, ⟨⟩, hwire, hmrg⟩⟩
      exact ⟨hwire, value, rest, hread, m', hmrg, rfl, rfl⟩

lemma mergeLoop_cons : mergeLoop fields (rounds + 1) (b :: bytes) m = .ok m' ↔ ∃ key rest value rest' n, decodeKey
    (b :: bytes) = .ok (key, rest) ∧ readValue key rest = .ok (value, rest') ∧ Merges fields key value m n ∧
    mergeLoop fields rounds rest' n = .ok m' := by
  rw [mergeLoop]
  simp only [bind_eq_ok, Prod.exists, mergeField_eq_ok]
  constructor
  · rintro ⟨key, rest, hkey, n, rest', ⟨value, hread, hmrgs⟩, hloop⟩
    exact ⟨key, rest, value, rest', n, hkey, hread, hmrgs, hloop⟩
  · rintro ⟨key, rest, value, rest', n, hkey, hread, hmrgs, hloop⟩
    exact ⟨key, rest, hkey, n, rest', ⟨value, hread, hmrgs⟩, hloop⟩

lemma mergeLoop_nil : mergeLoop fields rounds [] m = .ok m := by cases rounds <;> rfl

/-- Induction on the records of a message that a decoder accepts, from the last record on. -/
lemma mergeLoop_induction {motive : ℕ → List UInt8 → M → Prop} (nil : ∀ rounds, motive rounds [] m')
    (cons : ∀ {rounds b bytes key rest value rest' m n}, decodeKey (b :: bytes) = .ok (key, rest) →
    readValue key rest = .ok (value, rest') → Merges fields key value m n →
    motive rounds rest' n → motive (rounds + 1) (b :: bytes) m)
    (h : mergeLoop fields rounds bytes m = .ok m') : motive rounds bytes m := by
  induction rounds generalizing bytes m with
  | zero =>
    cases bytes with
    | nil => exact Except.ok.inj (mergeLoop_nil.symm.trans h) ▸ nil 0
    | cons b bytes => simp [mergeLoop] at h
  | succ rounds ih =>
    cases bytes with
    | nil => exact Except.ok.inj (mergeLoop_nil.symm.trans h) ▸ nil (rounds + 1)
    | cons b bytes =>
      obtain ⟨key, rest, value, rest', n, hkey, hread, hmrgs, hloop⟩ := mergeLoop_cons.1 h
      exact cons hkey hread hmrgs (ih hloop)

lemma wire_of_mem_keys (h : mergeLoop fields rounds bytes m = .ok m')
    (hkey : key ∈ keys rounds bytes) {field : Field M} (hfld : fields key.tag = some field) : key.wire = field.wire := by
  refine mergeLoop_induction (motive := fun rounds bytes _ => key ∈ keys rounds bytes →
    key.wire = field.wire) (fun rounds hkey => ?_) (fun hdec hread hmrgs ih hkey => ?_) h hkey
  · cases rounds <;> cases hkey
  · rw [keys_cons hdec hread, mem_cons] at hkey
    rcases hkey with rfl | hkey
    · rcases hmrgs with ⟨hnone, -⟩ | ⟨field', hsome, hwire, -⟩
      · rw [hnone] at hfld
        cases hfld
      · rw [hsome] at hfld
        cases hfld
        exact hwire
    · exact ih hkey

/-- Two messages are read from the same bytes, so no record has a number under which their wire types differ. -/
lemma tag_ne_of_wire_ne {N : Type} {fields' : ℕ → Option (Field N)} {n n' : N} {tag : ℕ} {field : Field M}
    {field' : Field N} (h : mergeLoop fields rounds bytes m = .ok m')
    (h' : mergeLoop fields' rounds bytes n = .ok n') (hkey : key ∈ keys rounds bytes)
    (hfld : fields tag = some field) (hfld' : fields' tag = some field')
    (hne : field.wire ≠ field'.wire) : key.tag ≠ tag := by
  rintro rfl
  exact hne ((wire_of_mem_keys h hkey hfld).symm.trans (wire_of_mem_keys h' hkey hfld'))

variable {P : M → Prop}

lemma mergeLoop_invariant (h : mergeLoop fields rounds bytes m = .ok m')
    (hkeep : ∀ key ∈ keys rounds bytes, ∀ field, fields key.tag = some field → field.Keeps P) (hm : P m) : P m' := by
  refine mergeLoop_induction (motive := fun rounds bytes m => (∀ key ∈ keys rounds bytes, ∀ field,
    fields key.tag = some field → field.Keeps P) → P m → P m') (fun _ _ hm => hm) ?_ h hkeep hm
  intro rounds b bytes key rest value rest' m n hdec hread hmrgs ih hkeep hm
  rw [keys_cons hdec hread] at hkeep
  refine ih (fun k hk => hkeep k (mem_cons_of_mem key hk)) ?_
  rcases hmrgs with ⟨-, rfl⟩ | ⟨field, hfld, -, hmrg⟩
  · exact hm
  · exact hkeep key mem_cons_self field hfld value m n hmrg hm

/-! ### Two decoders on the same bytes -/

variable {fields' : ℕ → Option (Field N)} {n n' : N}

/-- What holds of two messages and is kept by every record that both decoders accept. -/
lemma mergeLoop_pair {P : M → N → Prop} (h : mergeLoop fields rounds bytes m = .ok m')
    (h' : mergeLoop fields' rounds bytes n = .ok n') (hstep : ∀ key value m n m₁ n₁, Merges fields key value m m₁ →
    Merges fields' key value n n₁ → P m n → P m₁ n₁) (hmn : P m n) : P m' n' := by
  refine mergeLoop_induction (motive := fun rounds bytes m => ∀ n,
    mergeLoop fields' rounds bytes n = .ok n' → P m n → P m' n') ?_ ?_ h n h' hmn
  · intro rounds n h' hmn
    exact Except.ok.inj (mergeLoop_nil.symm.trans h') ▸ hmn
  · intro rounds b bytes key rest value rest' m m₁ hkey hread hm₁ ih n h' hmn
    obtain ⟨key', rest₂, value', rest₂', n₁, hkey', hread', hn₁, hloop'⟩ := mergeLoop_cons.1 h'
    -- both decoders read the same record
    cases hkey.symm.trans hkey'
    cases hread.symm.trans hread'
    exact ih n₁ hloop' (hstep key value m n m₁ n₁ hm₁ hn₁ hmn)

/-- A decoder succeeds where another one does, if it follows every record after which the result can
still have the property that it has at the end. -/
lemma mergeLoop_transfer {g : M → N} (h : mergeLoop fields rounds bytes m = .ok m') (hstep : ∀ key value m m₁,
    Merges fields key value m m₁ → P m₁ → P m ∧ Merges fields' key value (g m) (g m₁)) (hm' : P m') : P m ∧
    mergeLoop fields' rounds bytes (g m) = .ok (g m') := by
  refine mergeLoop_induction (motive := fun rounds bytes m =>
    P m ∧ mergeLoop fields' rounds bytes (g m) = .ok (g m')) (fun _ => ⟨hm', mergeLoop_nil⟩) ?_ h
  rintro rounds b bytes key rest value rest' m m₁ hkey hread hm₁ ⟨hP, hloop⟩
  obtain ⟨hPm, hmrgs⟩ := hstep key value m m₁ hm₁ hP
  exact ⟨hPm, mergeLoop_cons.2 ⟨key, rest, value, rest', g m₁, hkey, hread, hmrgs, hloop⟩⟩

end

end PeersTouch.Lib.Protobuf
