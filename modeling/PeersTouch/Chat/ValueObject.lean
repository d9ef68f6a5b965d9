import PeersTouch.Lib.Method

/-!
# Value objects of the conversation domain

The identifiers, enumerations and small records of `domain/valueobject`, with the coded errors of
`domain/errors.go`. Identifiers are strings; an enumeration of the source, which is a Go string
type, is an inductive type whose constructor `other` holds every text outside the declared values.

A `Sequence` or an `Epoch` of the source is a `uint64` counter: here a natural number, with a
successor modulo `2 ^ 64`. A `Time` is the number of nanoseconds since the zero time of the source, so that the zero time is `0`
and truncation rounds down. A `Hash` is a 256-bit string read as a big-endian number, so that the
byte order of the source is the order of the numbers. SHA-256 itself is the parameter `Digest`.
-/

namespace PeersTouch.Chat

open Lib

/-! ### Errors -/

inductive ErrorCode where
  | invalidArgument | notFound | inactive | readOnly | unauthorized | rateLimited | commandConflict
  | staleAuthorityHead | staleMembershipEpoch | staleMLSEpoch | deliverySetMismatch | ownerProtected
  | targetNotMember | commandExpired | memberMuted | membershipConflict | deviceConflict
  | hashChainInvalid | authorityPlanStale | authorityPlanExpired | authorityPlanState
  | proposalInvalid | proposalExpired | proposalBinding | proposalSignature | actorKeyUnavailable
  | actorKeyRevoked | federationInactive | unsupportedTransition
deriving DecidableEq

/-- An error of the domain. `code` is `none` for an error that was never given a code. -/
structure Error where
  code : Option ErrorCode
  (operation field message : String)
deriving DecidableEq

def newError (code : ErrorCode) (operation field message : String) : Error :=
  { code := some code, operation, field, message }

/-- An error of a library, which has a text and no code. -/
def uncodedError (message : String) : Error := { code := none, operation := "", field := "", message }

def invalid (operation field message : String) : Error := newError .invalidArgument operation field message

/-- `Error.Error`: the text of an error. -/
def Error.text (e : Error) : String :=
  if e.field ≠ "" then e.operation ++ ": " ++ e.field ++ ": " ++ e.message
  else if e.operation ≠ "" then e.operation ++ ": " ++ e.message
  else e.message

/-! ### Bytes, times and hashes -/

abbrev Bytes := List UInt8

def bytesOf (s : String) : Bytes := s.toUTF8.data.toList

lemma bytesOf_inj {s t : String} : bytesOf s = bytesOf t ↔ s = t := by
  refine ⟨fun h => String.toByteArray_inj.mp ?_, congrArg bytesOf⟩
  exact ByteArray.ext (Array.toList_inj.mp h)

/-- `n` written with `width` bytes, most significant byte first. -/
def bigEndian (width n : ℕ) : Bytes := (List.range width).reverse.map fun i => UInt8.ofNat (n / 256 ^ i)

def hexDigit (n : ℕ) : Char := if n < 10 then Char.ofNat (48 + n) else Char.ofNat (87 + n)

def hexEncode (bytes : Bytes) : String :=
  String.ofList (bytes.flatMap fun b => [hexDigit (b.toNat / 16), hexDigit (b.toNat % 16)])

def canonicalTuple (fields : List Bytes) : Bytes := fields.flatMap fun field => bigEndian 4 field.length ++ field

abbrev Time := Int

/-- `Truncate(time.Microsecond)`. -/
def truncateMicros (t : Time) : Time := t - t % 1000

/-- `UnixNano`, for a time counted from the first instant of the year 1. -/
def unixNano (t : Time) : Int := t - 62135596800000000000

abbrev Hash := BitVec 256

def Hash.bytes (h : Hash) : Bytes := bigEndian 32 h.toNat

lemma bigEndian_length (width n : ℕ) : (bigEndian width n).length = width := by simp [bigEndian]

@[simp] lemma Hash.length_bytes (h : Hash) : h.bytes.length = 32 := bigEndian_length 32 _

/-- A hash is made of exactly 32 bytes. -/
def newHash (value : Bytes) : Except Error Hash := do
  failWhen (value.length ≠ 32) (invalid "valueobject.hash" "hash" "must be 32 bytes")
  return BitVec.ofNat 256 (value.foldl (fun n b => n * 256 + b.toNat) 0)

/-- SHA-256. -/
class Digest where
  sha256 : Bytes → Hash

/-- A digest that can be evaluated. The last bytes count for the first bytes of the result too. -/
@[reducible]
def checksum : Digest where
  sha256 bytes := BitVec.ofNat 256 (bytes.foldl (fun n b => n * 257 + b.toNat + 1) 1 * (2 ^ 192 + 1))

def hashBytes [Digest] (value : Bytes) : Hash := Digest.sha256 value

/-- The first sixteen bytes of a hash, in hexadecimal. -/
def Hash.shortHex (h : Hash) : String := hexEncode (h.bytes.take 16)

/-! ### Identifiers and counters -/

abbrev ConversationID := String
abbrev CommandID := String
abbrev EventID := String
abbrev PlanID := String
abbrev TransitionID := String
abbrev PTID := String
abbrev DeviceID := String
abbrev StationID := String
abbrev FederationID := String
abbrev MessageID := String
abbrev ObjectID := String

/-- `Next` of `Sequence` and `Epoch`: the successor of a `uint64`. -/
def next (n : ℕ) : ℕ := (n + 1) % 2 ^ 64

lemma next_lt (n : ℕ) : next n < 2 ^ 64 := Nat.mod_lt _ (by decide)

lemma next_of_lt {n : ℕ} (h : n + 1 < 2 ^ 64) : next n = n + 1 := Nat.mod_eq_of_lt h

lemma next_of_ne_zero {n : ℕ} (hn : n < 2 ^ 64) (h : next n ≠ 0) : next n = n + 1 := by
  apply next_of_lt
  by_contra hge
  have e : n + 1 = 2 ^ 64 := by omega
  rw [next, e] at h
  exact h rfl

def isSpace (c : Char) : Bool :=
  let n := c.toNat
  (9 ≤ n && n ≤ 13) || n == 0x20 || n == 0x85 || n == 0xA0 || n == 0x1680 ||
    (0x2000 ≤ n && n ≤ 0x200A) || n == 0x2028 || n == 0x2029 || n == 0x202F || n == 0x205F ||
    n == 0x3000

def trimSpace (s : String) : String := String.ofList ((s.toList.dropWhile isSpace).reverse.dropWhile isSpace).reverse

def validatedString (field value : String) : Except Error String := do
  let normalized := trimSpace value
  failWhen (normalized = "") (invalid "valueobject.validate" field "is required")
  return normalized

def newPTID (value : String) : Except Error PTID := validatedString "ptid" value

def newDeviceID (value : String) : Except Error DeviceID := validatedString "device_id" value

/-! ### Enumerations -/

inductive ConversationKind where
  | direct | group
  | other (text : String)
deriving DecidableEq

def ConversationKind.validate : ConversationKind → Except Error Unit
  | direct | group => .ok ()
  | other _ => .error (invalid "valueobject.conversation_kind" "kind" "is not supported")

def ConversationKind.text : ConversationKind → String
  | direct => "direct"
  | group => "group"
  | other text => text

inductive ConversationStatus where
  | active | dissolved | degradedReadOnly | orphanedReadOnly
  | other (text : String)
deriving DecidableEq

def ConversationStatus.Writable (s : ConversationStatus) : Prop := s = active
deriving Decidable

def ConversationStatus.validate : ConversationStatus → Except Error Unit
  | active | dissolved | degradedReadOnly | orphanedReadOnly => .ok ()
  | other _ => .error (invalid "valueobject.conversation_status" "status" "is not supported")

inductive MemberRole where
  | member | admin | owner
  | other (text : String)
deriving DecidableEq

namespace MemberRole

def CanManageMembership (r : MemberRole) : Prop := r = owner ∨ r = admin
deriving Decidable

def validate : MemberRole → Except Error Unit
  | member | admin | owner => .ok ()
  | other _ => .error (invalid "valueobject.member_role" "role" "is not supported")

def text : MemberRole → String
  | member => "member"
  | admin => "admin"
  | owner => "owner"
  | other text => text

/-- The conversion `MemberRole(text)` of a string of the wire. -/
def ofText (text : String) : MemberRole := if text = "member" then member
  else if text = "admin" then admin
  else if text = "owner" then owner
  else other text

@[simp] lemma text_ofText (text : String) : (ofText text).text = text := by
  unfold ofText
  split_ifs with hm ha ho
  · exact hm.symm
  · exact ha.symm
  · exact ho.symm
  · rfl

end MemberRole

inductive MemberStatus where
  | active | left | removed
  | other (text : String)
deriving DecidableEq

def MemberStatus.validate : MemberStatus → Except Error Unit
  | active | left | removed => .ok ()
  | other _ => .error (invalid "valueobject.member_status" "status" "is not supported")

def MemberStatus.text : MemberStatus → String
  | active => "active"
  | left => "left"
  | removed => "removed"
  | other text => text

inductive ConversationVisibility where
  | publicVisibility | privateVisibility
  | other (text : String)
deriving DecidableEq

def ConversationVisibility.validate : ConversationVisibility → Except Error Unit
  | publicVisibility | privateVisibility => .ok ()
  | other _ => .error (invalid "valueobject.conversation_visibility" "visibility" "must be public or private")

def ConversationVisibility.text : ConversationVisibility → String
  | publicVisibility => "public"
  | privateVisibility => "private"
  | other text => text

inductive DeliveryKind where
  | directCiphertext | mlsApplication | mlsCommit | mlsWelcome | publicEvent | conversation
  | mlsRetirement | directServicePlaintext
  | other (text : String)
deriving DecidableEq

def DeliveryKind.commitmentCode : DeliveryKind → Except Error ℕ
  | directCiphertext => .ok 1
  | mlsApplication => .ok 2
  | mlsCommit => .ok 3
  | mlsWelcome => .ok 4
  | publicEvent => .ok 5
  | conversation => .ok 6
  | mlsRetirement => .ok 7
  | directServicePlaintext => .ok 8
  | other _ => .error (invalid "valueobject.delivery_kind" "kind" "is not supported")

/-! ### Endpoints -/

structure Endpoint where
  actor : PTID
  device : DeviceID
deriving DecidableEq

/-- The device under which a Station commits its own service messages. -/
def systemStationDeviceID : DeviceID := "station-system"

def newEndpoint (actor device : String) : Except Error Endpoint := do
  let ptid ← newPTID actor
  let deviceID ← newDeviceID device
  return { actor := ptid, device := deviceID }

/-- An endpoint is valid if its parts are not blank; they may still have blanks around them. -/
def Endpoint.validate (e : Endpoint) : Except Error Unit := do
  let _ ← newPTID e.actor
  let _ ← newDeviceID e.device

def Endpoint.key (e : Endpoint) : String := hexEncode (canonicalTuple [bytesOf e.actor, bytesOf e.device])

/-- The order of `SortEndpoints`: by actor, then by device. -/
def Endpoint.le (a b : Endpoint) : Prop := a.actor < b.actor ∨ a.actor = b.actor ∧ a.device ≤ b.device
deriving Decidable

def sortEndpoints (endpoints : List Endpoint) : List Endpoint := endpoints.insertionSort Endpoint.le

/-- Equal after sorting. -/
def EqualEndpointSets (left right : List Endpoint) : Prop := sortEndpoints left = sortEndpoints right
deriving Decidable

structure AuthorityHead where
  sequence : ℕ
  eventHash : Hash
  (membershipEpoch mlsEpoch : ℕ)
deriving DecidableEq

/-! ### Deliveries -/

structure PreparedDelivery where
  recipient : Endpoint
  homeStation : StationID
  kind : DeliveryKind
  opaquePayload : Bytes
  payloadHash : Hash

structure DeliveryCommitment where
  recipient : Endpoint
  hash : Hash

/-! ### Settings -/

structure ConversationSettings where
  (name description avatarObjectID : String)
  visibility : ConversationVisibility
deriving DecidableEq

/-- Settings may leave the visibility open. -/
def ConversationSettings.validate (s : ConversationSettings) : Except Error Unit :=
  if s.visibility = .other "" then .ok () else s.visibility.validate

structure SettingsPatch where
  (name description avatarObjectID : Option String)
  visibility : Option ConversationVisibility
deriving DecidableEq

def SettingsPatch.empty : SettingsPatch :=
  { name := none, description := none, avatarObjectID := none, visibility := none }

def SettingsPatch.validate (p : SettingsPatch) : Except Error Unit := match p.visibility with
  | none => .ok ()
  | some visibility => visibility.validate

def SettingsPatch.normalized (p : SettingsPatch) : SettingsPatch := { p with
  name := p.name.map trimSpace, description := p.description.map trimSpace
  avatarObjectID := p.avatarObjectID.map trimSpace }

def ConversationSettings.apply (s : ConversationSettings) (patch : SettingsPatch) :
    ConversationSettings :=
  let patch := patch.normalized
  { name := patch.name.getD s.name, description := patch.description.getD s.description
    avatarObjectID := patch.avatarObjectID.getD s.avatarObjectID, visibility := patch.visibility.getD s.visibility }

lemma ConversationSettings.validate_apply {s : ConversationSettings} {patch : SettingsPatch}
    (hs : s.validate = .ok ()) (hp : patch.validate = .ok ()) : (s.apply patch).validate = .ok () := by
  cases hv : patch.visibility with
  | none => simpa [validate, apply, SettingsPatch.normalized, hv] using hs
  | some visibility =>
    have hval : visibility.validate = .ok () := by simpa [SettingsPatch.validate, hv] using hp
    simp [validate, apply, SettingsPatch.normalized, hv, hval]

/-! ### Deterministic identifiers -/

section

variable [Digest]

def directConversationID (left right : PTID) : Except Error ConversationID := do
  failWhen (left = "" ∨ right = "" ∨ left = right)
    (invalid "valueobject.direct_conversation_id" "actors" "two distinct actors are required")
  return "direct-" ++ (hashBytes (canonicalTuple
    [bytesOf "peers-touch/direct-conversation", bytesOf (min left right), bytesOf (max left right)])).shortHex

def selfDirectConversationID (actor : PTID) : Except Error ConversationID := do
  failWhen (actor = "") (invalid "valueobject.self_direct_conversation_id" "actor" "a non-empty actor is required")
  return "direct-self-" ++ (hashBytes (canonicalTuple
    [bytesOf "peers-touch/self-direct-conversation", bytesOf actor])).shortHex

def directConversationIDForActors (left right : PTID) : Except Error ConversationID :=
  if left ≠ "" ∧ left = right then selfDirectConversationID left
  else directConversationID left right

def deterministicEventID (conversationID : ConversationID) (commandID : CommandID) : EventID :=
  (hashBytes (canonicalTuple
    [bytesOf "peers-touch/conversation-event", bytesOf conversationID, bytesOf commandID])).shortHex

end

/-! ### Scopes -/

/-- The authorization scope of a conversation. `zero` is the value a scope has before it is set. -/
inductive Scope where
  | zero
  | onStation (station : StationID) (nonblank : trimSpace station ≠ "")
  | federation (id : FederationID) (nonempty : id ≠ "")
deriving DecidableEq

namespace Scope

def federationScope (id : FederationID) : Except Error Scope := if h : id = "" then
    .error (invalid "valueobject.scope" "federation_id" "is required for a federation scope")
  else .ok (federation id h)

def IsFederation : Scope → Prop
  | federation _ _ => True
  | _ => False

instance : DecidablePred IsFederation
  | zero => isFalse id
  | onStation _ _ => isFalse id
  | federation _ _ => isTrue trivial

/-- No scope equals the zero value, not even itself. -/
def Equal (s other : Scope) : Prop := s = other ∧ s ≠ zero
deriving Decidable

def federationIDOrEmpty : Scope → FederationID
  | federation id _ => id
  | _ => ""

/-- The kind and the bound identity, separated by a zero byte. -/
def canonical : Scope → String
  | zero => ""
  | onStation station _ => "local" ++ "\x00" ++ station
  | federation id _ => "federation" ++ "\x00" ++ id

end Scope

end PeersTouch.Chat
