import PeersTouch.Lib.BaseEncoding
import PeersTouch.Lib.Protobuf

/-!
# Action links

The links of `schema-core/src/link.rs` that carry an action: `encode_action` writes an action as a
link and `parse` reads a link. Protobuf stays abstract: `Messages` says that decoding inverts encoding.
-/

namespace PeersTouch.Schema

open Lib Lib.Protobuf

abbrev Bytes := List UInt8

inductive SchemaError where
  | invalidLink | unregisteredAction | payloadTooLarge
deriving DecidableEq

/-! ### Messages -/

structure DeviceLinkLocator where
  protocolVersion : ℕ
  offerDigest : Bytes
  expiresAtUnixMs : ℤ
  (stationRootEd25519 bootstrapSecret : Bytes)
  canonicalDiscoveryOrigin : String
  endpointRole : ℤ
  relayEd25519 : Bytes
  endpointTlsTrust : Option (Option (Bytes ⊕ Bytes))

/-- The checks that `parse` makes on a locator. -/
def DeviceLinkLocator.WellFormed (l : DeviceLinkLocator) : Prop :=
  l.protocolVersion = 1 ∧ l.bootstrapSecret.length = 32 ∧ l.stationRootEd25519.length = 32 ∧ l.offerDigest.length = 32 ∧
    l.canonicalDiscoveryOrigin ≠ "" ∧ 0 < l.expiresAtUnixMs ∧ (l.endpointRole = 1 ∨ l.endpointRole = 2) ∧
    l.relayEd25519.length = (if l.endpointRole = 2 then 32 else 0) ∧
    ¬(l.endpointRole = 2 ∧ l.relayEd25519 = l.stationRootEd25519)
deriving Decidable

/-- What an action asks for; `P` are the messages that nothing here reads. -/
inductive Action (P : Type) where
  | deviceLinkOffer (offer : P)
  | deviceLinkLocator (locator : DeviceLinkLocator)
  | publicConnection (material : P)
  | circuitConnection (envelope : P)
  | conversationId (text : String)
  | actorPtid (text : String)
  | inviteCode (text : String)

structure SchemaAction (P : Type) where
  protocolVersion : UInt32
  action : Option (Action P)

variable {P : Type}

/-- The version and then what `member` writes for the action that is set. -/
def SchemaAction.encodeWith (member : Action P → Bytes) (a : SchemaAction P) : Bytes :=
  writeInt 1 a.protocolVersion.toNat ++ (a.action.map member).getD []

class Messages (P : Type) where
  locator : Format DeviceLinkLocator
  member : Action P → Bytes
  decode : Bytes → Option (SchemaAction P)
  decode_encode : ∀ a, decode (a.encodeWith member) = some a

structure Navigation where
  resource : String
  (id subResource subId : Option String)

inductive Link (P : Type) where
  | webUrl (url : String)
  | navigation (target : Navigation)
  | action (action : SchemaAction P)
  | oAuthCallback (url : String)

/-! ### Reading and writing -/

def base64Url : Alphabet where
  width := 6
  symbols := "ABCDEFGHIJKLMNOPQRSTUVWXYZabcdefghijklmnopqrstuvwxyz0123456789-_".toList

def base32 : Alphabet where
  width := 5
  symbols := "ABCDEFGHIJKLMNOPQRSTUVWXYZ234567".toList

def maxLinkBytes : ℕ := 32768

def deviceReferencePrefix : String := "peers-touch://device/link#B32:"

/-- `DEVICE_PREFIX` for an action of a device link, `ACTION_PREFIX` for the others. -/
def actionPrefix (device : Bool) : String := if device then "peers-touch://device/link#" else "peers-touch://action/v1#"

/-- What follows `start` in a text that begins with it. -/
def strip (start value : String) : Option String := (start.toList.isPrefixOf? value.toList).map String.ofList

def decode (value : String) : Except SchemaError Bytes := do
  failWhen (value = "") .invalidLink
  let bytes ← orFail (base64Url.decode value) .invalidLink
  failWhen (base64Url.encode bytes ≠ value) .invalidLink
  return bytes

def SchemaAction.isLocator (a : SchemaAction P) : Bool := match a.action with
  | some (.deviceLinkLocator _) => true
  | _ => false

def SchemaAction.deviceAction (a : SchemaAction P) : Bool := match a.action with
  | some (.deviceLinkOffer _) | some (.deviceLinkLocator _) => true
  | _ => false

def validate (a : SchemaAction P) : Except SchemaError Unit := do
  failWhen (a.protocolVersion ≠ 1 ∨ a.action.isNone) .unregisteredAction
  match a.action with
  | some (.conversationId text) | some (.actorPtid text) | some (.inviteCode text) =>
    failWhen (text = "" ∨ 512 < text.utf8ByteSize ∨ ∃ c ∈ text.toList, c ≤ ' ' ∨ c = '\x7f') .invalidLink
  | _ => return

def bounded (value : String) : Except SchemaError Unit := do
  failWhen (maxLinkBytes < value.utf8ByteSize) .payloadTooLarge
  failWhen (value = "" ∨ ∃ c ∈ value.toList, c ≤ ' ' ∨ c = '\x7f' ∨ c = '\\') .invalidLink

section

variable [Messages P]

def SchemaAction.encodeToVec (a : SchemaAction P) : Bytes := a.encodeWith Messages.member

def parseReference (encoded : String) : Except SchemaError (Link P) := do
  let bytes ← orFail (base32.decode encoded) .invalidLink
  let locator ← orFail ((Messages.locator P).unmarshal bytes) .invalidLink
  failWhen (base32.encode bytes ≠ encoded ∨ (Messages.locator P).marshal locator ≠ bytes ∨ ¬locator.WellFormed)
    .invalidLink
  return .action ⟨1, some (.deviceLinkLocator locator)⟩

def parseAction (device : Bool) (encoded : String) : Except SchemaError (Link P) := do
  let bytes ← decode encoded
  let action : SchemaAction P ← orFail (Messages.decode bytes) .invalidLink
  validate action
  failWhen (action.encodeToVec ≠ bytes ∨ action.isLocator = true ∨ action.deviceAction ≠ device) .invalidLink
  return .action action

-- reads the texts in none of the three forms: paths, connection links and web addresses
variable (other : String → Except SchemaError (Link P))

def parse (value : String) : Except SchemaError (Link P) := do
  bounded value
  match strip deviceReferencePrefix value with
  | some encoded => parseReference encoded
  | none => match strip (actionPrefix true) value with
    | some encoded => parseAction true encoded
    | none => match strip (actionPrefix false) value with
      | some encoded => parseAction false encoded
      | none => other value

def encodeAction (a : SchemaAction P) : Except SchemaError String := do
  validate a
  match a.action with
  | some (.deviceLinkLocator locator) =>
    let value := deviceReferencePrefix ++ base32.encode ((Messages.locator P).marshal locator)
    discard (parse other value)
    return value
  | _ =>
    let value := actionPrefix a.deviceAction ++ base64Url.encode a.encodeToVec
    bounded value
    return value

end

/-- A text in one of the three forms of `encode_action`. -/
def ActionLink (link : String) : Prop :=
  (∃ encoded, link = deviceReferencePrefix ++ encoded) ∨ ∃ device encoded, link = actionPrefix device ++ encoded

/-! ### Prefixes -/

lemma strip_eq_some {start value rest : String} : strip start value = some rest ↔ value = start ++ rest := by
  simp only [strip, Option.map_eq_some_iff, List.isPrefixOf?_eq_some_iff_append_eq]
  constructor
  · rintro ⟨chars, hchars, rfl⟩
    rw [← String.toList_inj, String.toList_append, String.toList_ofList, hchars]
  · rintro rfl
    exact ⟨rest.toList, by rw [String.toList_append], String.ofList_toList⟩

lemma strip_reference (device : Bool) (bytes : Bytes) :
    strip deviceReferencePrefix (actionPrefix device ++ base64Url.encode bytes) = none := by
  rw [Option.eq_none_iff_forall_ne_some]
  intro rest h
  rw [strip_eq_some, ← String.toList_inj, String.toList_append, String.toList_append] at h
  cases device with
  | false => simp [actionPrefix, deviceReferencePrefix] at h
  | true =>
    -- a colon is no symbol of the alphabet
    have hcolon : ':' ∈ (base64Url.encode bytes).toList := by
      simp [actionPrefix, deviceReferencePrefix] at h
      simp [h]
    exact absurd (Alphabet.mem_symbols hcolon) (by decide)

lemma version_of_validate {a : SchemaAction P} (h : validate a = .ok ()) : a.protocolVersion = 1 := by
  simp only [validate, ok_iff, not_or, not_not] at h
  exact h.1.1

section

variable [Messages P] {other : String → Except SchemaError (Link P)} {result : Link P} {encoded : String}

lemma parse_reference : parse other (deviceReferencePrefix ++ encoded) = .ok result ↔
    bounded (deviceReferencePrefix ++ encoded) = .ok () ∧ parseReference encoded = .ok result := by
  simp only [parse, strip_eq_some.2 rfl, ok_iff]

lemma parse_action {device : Bool} (h : strip deviceReferencePrefix (actionPrefix device ++ encoded) = none) :
    parse other (actionPrefix device ++ encoded) = .ok result ↔
    bounded (actionPrefix device ++ encoded) = .ok () ∧ parseAction device encoded = .ok result := by
  have hoth : strip (actionPrefix true) (actionPrefix false ++ encoded) = none := by
    rw [Option.eq_none_iff_forall_ne_some]
    intro rest h
    rw [strip_eq_some, ← String.toList_inj, String.toList_append, String.toList_append] at h
    simp [actionPrefix] at h
  cases device with
  | false => simp only [parse, h, hoth, strip_eq_some.2 rfl, ok_iff]
  | true => simp only [parse, h, strip_eq_some.2 rfl, ok_iff]

lemma parseReference_eq_ok : parseReference encoded = .ok result ↔ ∃ locator : DeviceLinkLocator, locator.WellFormed ∧
    encoded = base32.encode ((Messages.locator P).marshal locator) ∧
    result = .action ⟨1, some (.deviceLinkLocator locator)⟩ := by
  simp only [parseReference, ok_iff, not_or, not_not]
  constructor
  · rintro ⟨bytes, -, locator, -, ⟨henc, hb, hwell⟩, rfl⟩
    exact ⟨locator, hwell, by rw [hb, henc], rfl⟩
  · rintro ⟨locator, hwell, rfl, rfl⟩
    exact ⟨_, Alphabet.decode_encode _, locator, Format.unmarshal_marshal _ _, ⟨rfl, rfl, hwell⟩, rfl⟩

lemma decode_eq_ok {bytes : Bytes} (hne : bytes ≠ []) : decode encoded = .ok bytes ↔ encoded = base64Url.encode bytes := by
  simp only [decode, ok_iff, not_not]
  constructor
  · rintro ⟨-, _, -, rfl, rfl⟩
    rfl
  · rintro rfl
    have hnil : base64Url.encode [] = "" := by decide
    exact ⟨fun hemp => hne (Alphabet.encode_injective (hemp.trans hnil.symm)), _, Alphabet.decode_encode _, rfl, rfl⟩

lemma encodeToVec_ne_nil {a : SchemaAction P} (h : a.protocolVersion = 1) : a.encodeToVec ≠ [] := by
  simp [SchemaAction.encodeToVec, SchemaAction.encodeWith, h, writeInt, writeAlways, encodeKey, encodeVarint_ne_nil]

lemma parseAction_eq_ok {device : Bool} : parseAction device encoded = .ok result ↔ ∃ a : SchemaAction P,
    validate a = .ok () ∧ a.isLocator = false ∧ a.deviceAction = device ∧ encoded = base64Url.encode a.encodeToVec ∧
    result = .action a := by
  simp only [parseAction, ok_iff, not_or, not_not, Bool.not_eq_true]
  constructor
  · rintro ⟨_, hdec, a, -, hval, ⟨rfl, hloc, hdev⟩, rfl⟩
    have hne := encodeToVec_ne_nil (version_of_validate hval)
    exact ⟨a, hval, hloc, hdev, (decode_eq_ok hne).1 hdec, rfl⟩
  · rintro ⟨a, hval, hloc, hdev, henc, rfl⟩
    have hne := encodeToVec_ne_nil (version_of_validate hval)
    exact ⟨_, (decode_eq_ok hne).2 henc, a, Messages.decode_encode a, hval, ⟨rfl, hloc, hdev⟩, rfl⟩

variable {a : SchemaAction P} {link : String}

lemma encodeAction_locator {version : UInt32} {locator : DeviceLinkLocator} : encodeAction other ⟨version,
    some (.deviceLinkLocator locator)⟩ = .ok link ↔ version = 1 ∧ (∃ result, parse other link = .ok result) ∧
    deviceReferencePrefix ++ base32.encode ((Messages.locator P).marshal locator) = link := by
  simp only [encodeAction, validate, ok_iff, not_or, not_not]
  constructor
  · rintro ⟨⟨⟨hversion, -⟩, -⟩, hpars, rfl⟩
    exact ⟨hversion, hpars, rfl⟩
  · rintro ⟨hversion, hpars, rfl⟩
    exact ⟨⟨⟨hversion, by simp⟩, trivial⟩, hpars, rfl⟩

lemma encodeAction_of_not_locator (h : a.isLocator = false) : encodeAction other a = .ok link ↔
    validate a = .ok () ∧ bounded link = .ok () ∧ actionPrefix a.deviceAction ++ base64Url.encode a.encodeToVec = link := by
  simp only [encodeAction, ok_iff]
  split
  · next hactn => simp [SchemaAction.isLocator, hactn] at h
  · simp only [ok_iff]
    grind

end

end PeersTouch.Schema
