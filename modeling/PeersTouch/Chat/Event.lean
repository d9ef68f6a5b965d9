import PeersTouch.Chat.Entity

/-!
# Event records and their sealing

The events of `domain/event`: the fact that a command commits, the record that carries it in the
hash chain, and the sealers that turn the input of a record into the record. A sealer chooses the
hash and the encoding; everything else of a record is fixed by `sealRecord`, which also refuses an
incomplete input and an input whose previous hash does not fit its sequence number. That a sealer
goes through `sealRecord`, and that a transport record has a hash, is part of the type `Sealer`.
-/

namespace PeersTouch.Chat

open Lib

/-! ### Facts -/

inductive Kind where
  | conversationCreated | messageCommitted | messageEdited | messageRetracted
  | messageHiddenForActor | messageModerated | messageForwarded | reactionCommitted
  | messagePinCommitted | membershipCommitted | memberAuthority | conversationSettings
  | conversationDissolved | systemServiceMessageCommitted
  | other (text : String)
deriving DecidableEq

def Kind.text : Kind → String
  | conversationCreated => "conversation_created"
  | messageCommitted => "message_committed"
  | messageEdited => "message_edited"
  | messageRetracted => "message_retracted"
  | messageHiddenForActor => "message_hidden_for_actor"
  | messageModerated => "message_moderated"
  | messageForwarded => "message_forwarded"
  | reactionCommitted => "reaction_committed"
  | messagePinCommitted => "message_pin_committed"
  | membershipCommitted => "membership_transition_committed"
  | memberAuthority => "member_authority_committed"
  | conversationSettings => "conversation_settings_changed"
  | conversationDissolved => "conversation_dissolved"
  | systemServiceMessageCommitted => "system_service_message_committed"
  | other text => text

inductive MemberAuthorityAction where
  | updateMember | transferOwnership
  | other (text : String)
deriving DecidableEq

def MemberAuthorityAction.text : MemberAuthorityAction → String
  | updateMember => "update_member"
  | transferOwnership => "transfer_ownership"
  | other text => text

structure MemberAuthorityMutation where
  action : MemberAuthorityAction
  target : PTID
  role : Option MemberRole
  muted : Option Bool
  mutedUntil : Option Time
  (previousOwner owner : PTID)
  (fromMembershipEpoch toMembershipEpoch : ℕ)
deriving DecidableEq

structure ConversationCreated where
  kind : ConversationKind
  name : String
  owner : PTID
  members : List PTID
deriving DecidableEq

/-- The part of a conversation that an event shows to the follower Stations. -/
structure ConversationState where
  kind : ConversationKind
  scope : Scope
  authorityEpoch : ℕ
  owner : PTID
  settings : ConversationSettings
  activeMembers : List Member
  activeEndpoints : List Endpoint
  activeDevices : List MemberDevice
  (membershipEpoch mlsEpoch : ℕ)
deriving DecidableEq

structure Fact where
  kind : Kind
  messageID : MessageID
  payload : Bytes
  membershipChanges : List MembershipChange
  created : Option ConversationCreated
  postState : Option ConversationState
  memberAuthority : Option MemberAuthorityMutation
  settingsPatch : SettingsPatch
deriving DecidableEq

namespace Fact

def plain (kind : Kind) (payload : Bytes) : Fact :=
  { kind, messageID := "", payload, membershipChanges := [], created := none, postState := none
    memberAuthority := none, settingsPatch := .empty }

def newCommandCommitted (kind : Kind) (messageID : MessageID) (payload : Bytes) : Fact :=
  { plain kind payload with messageID }

def newSystemServiceMessage (messageID : MessageID) (payload : Bytes) : Fact :=
  { plain .systemServiceMessageCommitted payload with messageID }

def newMembershipTransition (changes : List MembershipChange) (payload : Bytes) : Fact :=
  { plain .membershipCommitted payload with membershipChanges := changes }

def newMemberAuthority (mutation : MemberAuthorityMutation) (payload : Bytes) : Fact :=
  { plain .memberAuthority payload with memberAuthority := some mutation }

def newSettingsChanged (patch : SettingsPatch) (payload : Bytes) : Fact :=
  { plain .conversationSettings payload with settingsPatch := patch }

def newConversationDissolved (payload : Bytes) : Fact := plain .conversationDissolved payload

end Fact

/-! ### Records -/

structure RecordInput where
  id : EventID
  conversationID : ConversationID
  sequence : ℕ
  commandID : CommandID
  actor : Endpoint
  previousHash : Hash
  committedAt : Time
  (membershipEpoch mlsEpoch : ℕ)
  authorityStation : StationID
  deliveryCommitments : List Hash
  fact : Fact
deriving DecidableEq

inductive HashScheme where
  | domain | transport
  | other (text : String)
deriving DecidableEq

structure Record extends RecordInput where
  hash : Hash
  hashScheme : HashScheme
  encodedBytes : Bytes
deriving DecidableEq

def sortedHashes (values : List Hash) : List Hash := values.insertionSort (· ≤ ·)

/-- What the record was sealed from. -/
def Record.input (r : Record) : RecordInput :=
  { r.toRecordInput with deliveryCommitments := sortedHashes r.deliveryCommitments }

/-- The form in which a record keeps its input. The persistence layer keeps microseconds, so the
record does not keep more. -/
def RecordInput.normalized (input : RecordInput) : RecordInput := { input with
  committedAt := truncateMicros input.committedAt
  deliveryCommitments := sortedHashes input.deliveryCommitments }

/-- The record of an input, for a hash and an encoding that the caller chose. -/
def sealRecord (input : RecordInput) (hash : Hash) (scheme : HashScheme) (encoded : Bytes) :
    Except Error Record := do
  failWhen (input.id = "" ∨ input.conversationID = "" ∨ input.sequence = 0 ∨
    input.commandID = "" ∨ input.actor.validate ≠ .ok () ∨ input.authorityStation = "" ∨
    input.committedAt = 0 ∨ input.fact.kind = .other "")
    (invalid "event.new_record" "event" "identity, sequence, actor, authority, time, and fact are required")
  failWhen (input.sequence = 1 ∧ input.previousHash ≠ 0) (newError .hashChainInvalid "event.new_record" "previous_hash"
    "genesis event cannot have a previous hash")
  failWhen (input.sequence > 1 ∧ input.previousHash = 0) (newError .hashChainInvalid "event.new_record" "previous_hash"
    "non-genesis event requires a previous hash")
  return { input.normalized with hash, hashScheme := scheme, encodedBytes := encoded }

/-- The inputs that `sealRecord` accepts. -/
structure RecordInput.Sealable (input : RecordInput) : Prop where
  id_ne : input.id ≠ ""
  conversationID_ne : input.conversationID ≠ ""
  sequence_ne : input.sequence ≠ 0
  commandID_ne : input.commandID ≠ ""
  actor : input.actor.validate = .ok ()
  authorityStation_ne : input.authorityStation ≠ ""
  committedAt_ne : input.committedAt ≠ 0
  kind_ne : input.fact.kind ≠ .other ""
  genesis : input.sequence = 1 → input.previousHash = 0
  chained : 1 < input.sequence → input.previousHash ≠ 0

lemma sealRecord_eq_ok {input : RecordInput} {hash : Hash} {scheme : HashScheme}
    {encoded : Bytes} {record : Record} :
    sealRecord input hash scheme encoded = .ok record ↔ input.Sealable ∧
        { input.normalized with hash, hashScheme := scheme, encodedBytes := encoded } = record := by
  simp only [sealRecord, ok_iff, not_or, not_and, not_not, ← and_assoc]
  refine and_congr_left fun _ => ⟨?_, ?_⟩
  · rintro ⟨⟨⟨⟨⟨⟨⟨⟨⟨hid, hconv⟩, hseq⟩, hcmd⟩, hac⟩, hstn⟩, htime⟩, hkind⟩, hgen⟩, hch⟩
    exact ⟨hid, hconv, hseq, hcmd, hac, hstn, htime, hkind, hgen, hch⟩
  · intro h
    exact ⟨⟨⟨⟨⟨⟨⟨⟨⟨h.id_ne, h.conversationID_ne⟩, h.sequence_ne⟩, h.commandID_ne⟩, h.actor⟩,
      h.authorityStation_ne⟩, h.committedAt_ne⟩, h.kind_ne⟩, h.genesis⟩, h.chained⟩

def sealTransportRecord (input : RecordInput) (hash : Hash) (encoded : Bytes) :
    Except Error Record := do
  failWhen (hash = 0) (newError .hashChainInvalid "event.seal_record" "event_hash" "is required")
  failWhen (encoded = []) (newError .hashChainInvalid "event.seal_transport_record" "encoded_event" "is required")
  sealRecord input hash .transport encoded

/-- A sealer makes a record of an input by way of `sealRecord`, and gives a transport record a
hash. -/
structure Sealer where
  sealEvent : RecordInput → Except Error Record
  sealed : ∀ {input record}, sealEvent input = .ok record →
    ∃ hash scheme encoded, sealRecord input hash scheme encoded = .ok record ∧
      (scheme = .transport → hash ≠ 0)

/-! ### The canonical encoding of the domain -/

def uint64Bytes (n : ℕ) : Bytes := bigEndian 8 n

def int64Bytes (n : Int) : Bytes := uint64Bytes (n % 2 ^ 64).toNat

/-- A flag, and the value if there is one. -/
def optionalFieldBytes {α : Type} (encode : α → Bytes) : Option α → Bytes
  | none => [0]
  | some value => 1 :: encode value

def boolBytes (b : Bool) : Bytes := [if b then 1 else 0]

def timeBytes (t : Time) : Bytes := int64Bytes (unixNano t)

def memberAuthorityBytes : Option MemberAuthorityMutation → Bytes
  | none => []
  | some mutation => canonicalTuple [bytesOf mutation.action.text, bytesOf mutation.target,
    optionalFieldBytes (fun role => bytesOf role.text) mutation.role, optionalFieldBytes boolBytes mutation.muted,
    optionalFieldBytes timeBytes mutation.mutedUntil, bytesOf mutation.previousOwner, bytesOf mutation.owner,
    uint64Bytes mutation.fromMembershipEpoch, uint64Bytes mutation.toMembershipEpoch]

def settingsBytes (patch : SettingsPatch) : Bytes :=
  canonicalTuple
    [optionalFieldBytes bytesOf patch.name, optionalFieldBytes bytesOf patch.description,
      optionalFieldBytes bytesOf patch.avatarObjectID,
      optionalFieldBytes (fun visibility => bytesOf visibility.text) patch.visibility]

def conversationCreatedBytes : Option ConversationCreated → Bytes
  | none => []
  | some created => canonicalTuple ([bytesOf created.kind.text, bytesOf created.name, bytesOf created.owner] ++
    (created.members.insertionSort (· ≤ ·)).map bytesOf)

def conversationStateBytes : Option ConversationState → Bytes
  | none => []
  | some state => canonicalTuple ([bytesOf state.kind.text, bytesOf state.scope.canonical,
      bytesOf (toString state.authorityEpoch), bytesOf state.owner,
      bytesOf state.settings.name, bytesOf state.settings.description,
      bytesOf state.settings.avatarObjectID, bytesOf state.settings.visibility.text,
      uint64Bytes state.membershipEpoch, uint64Bytes state.mlsEpoch] ++
    (state.activeMembers.insertionSort (·.actor ≤ ·.actor)).flatMap (fun member =>
      [bytesOf member.actor, bytesOf member.role.text, bytesOf member.status.text,
        bytesOf member.homeStation, uint64Bytes member.joinedAt, optionalFieldBytes boolBytes (some member.muted),
        optionalFieldBytes timeBytes member.mutedUntil]) ++
    (sortEndpoints state.activeEndpoints).flatMap (fun endpoint =>
      [bytesOf endpoint.actor, bytesOf endpoint.device]) ++
    (state.activeDevices.insertionSort (·.key ≤ ·.key)).flatMap (fun device =>
      [bytesOf device.endpoint.actor, bytesOf device.endpoint.device,
        bytesOf device.homeStation, uint64Bytes device.joinedAt]))

def Record.canonicalBytes (r : Record) : Bytes :=
  canonicalTuple ([bytesOf "peers-touch/conversation-domain-event", bytesOf r.id, bytesOf r.conversationID,
      uint64Bytes r.sequence, bytesOf r.commandID, bytesOf r.actor.actor, bytesOf r.actor.device,
      r.previousHash.bytes, timeBytes r.committedAt, uint64Bytes r.membershipEpoch,
      uint64Bytes r.mlsEpoch, bytesOf r.authorityStation, bytesOf r.fact.kind.text,
      bytesOf r.fact.messageID, r.fact.payload, conversationCreatedBytes r.fact.created,
      conversationStateBytes r.fact.postState, memberAuthorityBytes r.fact.memberAuthority,
      settingsBytes r.fact.settingsPatch] ++ r.fact.membershipChanges.flatMap (fun change =>
      [bytesOf change.action.text, bytesOf change.actor, bytesOf change.device,
        bytesOf change.homeStation, bytesOf change.role.text]) ++
    (sortedHashes r.deliveryCommitments).map Hash.bytes)

section

variable [Digest]

/-- `CanonicalSealer.Seal`: the hash of the canonical bytes. -/
def canonicalSeal (input : RecordInput) : Except Error Record := do
  let record ← sealRecord input 0 .domain []
  return { record with
    encodedBytes := record.canonicalBytes, hash := hashBytes record.canonicalBytes }

/-- A stored record is complete, and under the domain scheme its bytes are the
canonical ones. -/
def Record.rehydrate (record : Record) : Except Error Record := do
  failWhen (record.hash = 0) (newError .hashChainInvalid "event.rehydrate" "event_hash" "is required")
  failWhen (record.encodedBytes = []) (newError .hashChainInvalid "event.rehydrate" "encoded_event" "is required")
  let scheme := if record.hashScheme = .other "" then .domain else record.hashScheme
  failWhen (scheme = .domain ∧ hashBytes record.encodedBytes ≠ record.hash)
    (newError .hashChainInvalid "event.rehydrate" "encoded_event" "does not match the event hash")
  failWhen (scheme = .domain ∧ record.encodedBytes ≠ record.canonicalBytes)
    (newError .hashChainInvalid "event.rehydrate" "event_hash" "does not match canonical event bytes")
  failWhen (scheme ≠ .domain ∧ scheme ≠ .transport)
    (newError .hashChainInvalid "event.rehydrate" "hash_scheme" "is not supported")
  return { record with
    hashScheme := scheme, deliveryCommitments := sortedHashes record.deliveryCommitments }

/-- Sealing the record's input again gives its hash and its bytes. -/
def Record.verify (record : Record) (sealer : Sealer) : Except Error Record := do
  let rehydrated ← record.rehydrate
  let expected ← sealer.sealEvent rehydrated.input
  failWhen (expected.hash ≠ rehydrated.hash ∨ expected.encodedBytes ≠ rehydrated.encodedBytes)
    (newError .hashChainInvalid "event.verify" "event" "does not match the configured canonical encoding")
  return rehydrated

/-! ### Delivery sets -/

/-- One round of the loop over the required endpoints, with the keys seen so far. -/
def requireEndpoint (keys : List String) (endpoint : Endpoint) : Except Error (List String) := do
  endpoint.validate
  failWhen (endpoint.key ∈ keys) (newError .deliverySetMismatch "domain.validate_delivery_set" "required_endpoints"
    "contains a duplicate endpoint")
  return endpoint.key :: keys

def checkDelivery (requiredKeys seen : List String) (entry : PreparedDelivery × ℕ) :
    Except Error (List String) := do
  let (delivery, index) := entry
  let field := "deliveries[" ++ toString index ++ "]"
  delivery.recipient.validate
  failWhen (delivery.opaquePayload = [] ∨ delivery.kind = .other "" ∨ delivery.homeStation = "" ∨ delivery.payloadHash = 0)
    (newError .deliverySetMismatch "domain.validate_delivery_set" field "is incomplete")
  failWhen (hashBytes delivery.opaquePayload ≠ delivery.payloadHash)
    (newError .deliverySetMismatch "domain.validate_delivery_set" (field ++ ".payload_hash") "does not match the payload")
  failWhen (delivery.recipient.key ∉ requiredKeys)
    (newError .deliverySetMismatch "domain.validate_delivery_set" (field ++ ".recipient") "is not a required endpoint")
  failWhen (delivery.recipient.key ∈ seen)
    (newError .deliverySetMismatch "domain.validate_delivery_set" (field ++ ".recipient") "is duplicated")
  return delivery.recipient.key :: seen

def validateExactDeliverySet (required : List Endpoint) (deliveries : List PreparedDelivery) :
    Except Error Unit := do
  let requiredKeys ← required.foldlM requireEndpoint []
  let seen ← deliveries.zipIdx.foldlM (checkDelivery requiredKeys) []
  failWhen (seen.length ≠ requiredKeys.length) (newError .deliverySetMismatch "domain.validate_delivery_set" "deliveries"
    "does not cover the exact required endpoint set")

def deliveryCommitment (conversationID : ConversationID) (eventID : EventID)
    (delivery : PreparedDelivery) : Except Error DeliveryCommitment := do
  delivery.recipient.validate
  let kindCode ← delivery.kind.commitmentCode
  let writeString (s : String) : Bytes := bigEndian 4 (bytesOf s).length ++ bytesOf s
  return {
    recipient := delivery.recipient
    hash := hashBytes (bytesOf "peers-touch/device-delivery-commitment" ++ [0] ++ bigEndian 4 1 ++
      writeString conversationID ++ writeString eventID ++ writeString delivery.recipient.actor ++
      writeString delivery.recipient.device ++ bigEndian 4 kindCode ++ delivery.payloadHash.bytes) }

def buildDeliveryCommitments (conversationID : ConversationID) (eventID : EventID)
    (deliveries : List PreparedDelivery) : Except Error (List DeliveryCommitment) := do
  failWhen (conversationID = "" ∨ eventID = "") (invalid "domain.build_delivery_commitments" "event"
    "conversation and event identities are required")
  let commitments ← deliveries.mapM (deliveryCommitment conversationID eventID)
  return commitments.insertionSort (·.hash ≤ ·.hash)

end

end PeersTouch.Chat
