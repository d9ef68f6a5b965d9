import PeersTouch.Chat.Event
import PeersTouch.Lib.Codec

/-!
# Events on the wire

An authority Station sends its events to the follower Stations as protobuf messages. This module
has the messages, the mapping of a record to its message (`mapEvent`, from `interface/http`), the
sealer that hashes and encodes the message (`protobufEventSealer`), and the mapping of a message
back to a record (`productionRecordFromWire`, from `production_federation.go`).

The protobuf encoding itself is a parameter (`WireFormat`): a deterministic encoding that can be
decoded. Of a command only what the two mappings read is modelled. A descriptor of an encrypted
object is passed through as it is, so it stays in its encoded form.
-/

namespace PeersTouch.Chat

open Lib

/-! ### Messages -/

namespace Wire

inductive ConversationKind where
  | unspecified | direct | group
deriving DecidableEq

inductive ConversationScopeKind where
  | unspecified | onStation | federation
deriving DecidableEq

inductive GroupVisibility where
  | unspecified | publicVisibility | privateVisibility
deriving DecidableEq

inductive MemberRole where
  | unspecified | member | admin | owner
deriving DecidableEq

inductive MembershipAction where
  | unspecified | addActor | removeActor | leave | changeRole | addDevice | removeDevice
deriving DecidableEq

inductive MemberAuthorityAction where
  | unspecified | updateMember | transferOwnership
deriving DecidableEq

inductive ContentKind where
  | unspecified | text | image | file | audio | video | system
deriving DecidableEq

inductive DeliverySecurity where
  | unspecified | e2ee | servicePlaintext
deriving DecidableEq

structure Timestamp where
  seconds : Int
  nanos : ℕ

abbrev EncryptedObjectDescriptor := Bytes

structure CryptoEndpoint where
  (ptid deviceId : String)
deriving DecidableEq

structure AuthorityMember where
  (ptid role homeStationPeerId : String)
  muted : Bool
  mutedUntil : Option Timestamp

structure AuthorityEndpoint where
  endpoint : Option CryptoEndpoint
  homeStationPeerId : String

structure AuthoritySnapshot where
  kind : ConversationKind
  (name ownerPtid : String)
  activeMembers : List AuthorityMember
  activeEndpoints : List CryptoEndpoint
  (membershipEpoch mlsEpoch : Int64)
  activeEndpointRoutes : List AuthorityEndpoint
  federationId : String
  authorityEpoch : Int64
  (description avatarObjectId : String)
  visibility : GroupVisibility
  scopeKind : ConversationScopeKind

structure ConversationCreatedFact where
  kind : ConversationKind
  (name ownerPtid : String)
  members : List AuthorityMember
  postState : Option AuthoritySnapshot

structure MessageCommittedFact where
  messageId : String
  sender : Option CryptoEndpoint
  contentKind : ContentKind
  (replyToMessageId threadRootMessageId : String)
  attachments : List EncryptedObjectDescriptor
  clientTimestamp : Option Timestamp
  deliverySecurity : DeliverySecurity

structure MessageForwardedFact where
  destinationMessageId : String
  sender : Option CryptoEndpoint
  contentKind : ContentKind
  destinationAttachments : List EncryptedObjectDescriptor
  clientTimestamp : Option Timestamp

structure ConversationUpdatedFact where
  (name description avatarObjectId : Option String)
  visibility : Option GroupVisibility

structure MembershipChangeCommitted where
  action : MembershipAction
  (ptid deviceId homeStationPeerId role : String)

structure MembershipTransitionFact where
  transitionId : String
  (fromMembershipEpoch toMembershipEpoch fromMlsEpoch toMlsEpoch : Int64)
  changes : List MembershipChangeCommitted
  mlsCommitSha256 : Bytes
  leaveIntentId : String
  postState : Option AuthoritySnapshot

structure MemberAuthorityFact where
  action : MemberAuthorityAction
  targetPtid : String
  role : Option MemberRole
  muted : Option Bool
  mutedUntil : Option Timestamp
  (previousOwnerPtid ownerPtid : String)
  (fromMembershipEpoch toMembershipEpoch : Int64)
  postState : Option AuthoritySnapshot

/-- The alternatives of `ConversationEvent.payload`. -/
inductive EventPayload where
  | messageCommitted (fact : MessageCommittedFact)
  | messageEdited (messageId : String) (editor : Option CryptoEndpoint)
      (editedAt : Option Timestamp)
  | messageRetracted (messageId : String) (retractor : Option CryptoEndpoint)
      (retractedAt : Option Timestamp)
  | reactionCommitted (messageId : String) (actor : Option CryptoEndpoint) (reaction : String)
      (removed : Bool)
  | messagePinCommitted (messageId : String) (actor : Option CryptoEndpoint) (removed : Bool)
  | conversationUpdated (fact : ConversationUpdatedFact)
  | membershipTransitionCommitted (fact : MembershipTransitionFact)
  | conversationCreated (fact : ConversationCreatedFact)
  | conversationDissolved (dissolvedByPtid : String)
  | memberAuthorityCommitted (fact : MemberAuthorityFact)
  | messageHiddenForActor (messageId actorPtid : String) (hiddenAt : Option Timestamp)
  | messageModerated (messageId : String) (moderator : Option CryptoEndpoint)
      (reasonCode : String) (moderatedAt : Option Timestamp)
  | messageForwarded (fact : MessageForwardedFact)

structure ConversationEvent where
  (eventId conversationId : String)
  sequence : Int64
  commandId : String
  actor : Option CryptoEndpoint
  (previousHash eventHash : Bytes)
  committedAt : Option Timestamp
  deliveryCommitments : List Bytes
  (membershipEpoch mlsEpoch : Int64)
  authorityStationPeerId : String
  payload : Option EventPayload

structure SendMessageIntent where
  messageId : String
  contentKind : ContentKind
  (replyToMessageId threadRootMessageId : String)
  attachments : List EncryptedObjectDescriptor

structure MembershipTransitionIntent where
  transitionId : String
  (fromMembershipEpoch fromMlsEpoch toMlsEpoch : Int64)
  mlsCommitSha256 : Bytes
  leaveIntentId : String

/-- The alternatives of `ChatCommand.payload`. -/
inductive CommandPayload where
  | sendMessage (intent : SendMessageIntent)
  | editMessage (messageId : String)
  | retractMessage (messageId : String)
  | reaction (messageId reaction : String) (remove : Bool)
  | pinMessage (messageId : String) (remove : Bool)
  | updateConversation (intent : ConversationUpdatedFact)
  | membershipTransition (intent : MembershipTransitionIntent)
  | dissolveConversation
  | hideMessageForActor (messageId : String)
  | moderateMessage (messageId reasonCode : String)
  | forwardMessage (destinationMessageId : String) (contentKind : ContentKind)
      (destinationAttachments : List EncryptedObjectDescriptor)

structure ChatCommand where
  clientTimestamp : Option Timestamp
  payload : Option CommandPayload

end Wire

/-- The deterministic protobuf encoding of the two messages. -/
class WireFormat where
  event : Format Wire.ConversationEvent
  command : Format Wire.ChatCommand

/-! ### From a record to its message -/

/-- The conversion of a `uint64` to an `int64`. -/
def toInt64 (n : ℕ) : Int64 := (UInt64.ofNat n).toInt64

/-- The conversion of an `int64` to a `uint64`. -/
def ofInt64 (z : Int64) : ℕ := z.toUInt64.toNat

/-- `timestamppb.New`. -/
def timestampOf (t : Time) : Wire.Timestamp :=
  { seconds := t / 1000000000 - 62135596800, nanos := (t % 1000000000).toNat }

namespace Wire.Timestamp

def asTime (ts : Wire.Timestamp) : Time := (ts.seconds + 62135596800) * 1000000000 + ts.nanos

/-- The years 1 to 9999. -/
def IsValid (ts : Wire.Timestamp) : Prop := -62135596800 ≤ ts.seconds ∧ ts.seconds ≤ 253402300799 ∧ ts.nanos < 1000000000
deriving Decidable

end Wire.Timestamp

def endpointToProto (e : Endpoint) : Wire.CryptoEndpoint := { ptid := e.actor, deviceId := e.device }

def conversationKindToProto : ConversationKind → Wire.ConversationKind
  | .direct => .direct
  | .group => .group
  | .other _ => .unspecified

def authorityScopeKind : Scope → Wire.ConversationScopeKind
  | .onStation _ _ => .onStation
  | .federation _ _ => .federation
  | .zero => .unspecified

def conversationVisibilityToProto : ConversationVisibility → Wire.GroupVisibility
  | .publicVisibility => .publicVisibility
  | .privateVisibility => .privateVisibility
  | .other _ => .unspecified

def memberRoleToProto : MemberRole → Wire.MemberRole
  | .member => .member
  | .admin => .admin
  | .owner => .owner
  | .other _ => .unspecified

def memberAuthorityActionToProto : MemberAuthorityAction → Wire.MemberAuthorityAction
  | .updateMember => .updateMember
  | .transferOwnership => .transferOwnership
  | .other _ => .unspecified

def membershipActionToProto : MembershipAction → Wire.MembershipAction
  | .addActor => .addActor
  | .removeActor => .removeActor
  | .leave => .leave
  | .changeRole => .changeRole
  | .addDevice => .addDevice
  | .removeDevice => .removeDevice
  | .other _ => .unspecified

def mapMember (member : Member) : Wire.AuthorityMember :=
  { ptid := member.actor, role := member.role.text, homeStationPeerId := member.homeStation
    muted := member.muted, mutedUntil := member.mutedUntil.map timestampOf }

def mapDevice (device : MemberDevice) : Wire.AuthorityEndpoint :=
  { endpoint := some (endpointToProto device.endpoint), homeStationPeerId := device.homeStation }

def mapConversationState (state : ConversationState) : Wire.AuthoritySnapshot :=
  { kind := conversationKindToProto state.kind, name := state.settings.name
    ownerPtid := state.owner, activeMembers := state.activeMembers.map mapMember
    activeEndpoints := state.activeEndpoints.map endpointToProto
    membershipEpoch := toInt64 state.membershipEpoch, mlsEpoch := toInt64 state.mlsEpoch
    activeEndpointRoutes := state.activeDevices.map mapDevice
    federationId := state.scope.federationIDOrEmpty, authorityEpoch := toInt64 state.authorityEpoch
    description := state.settings.description, avatarObjectId := state.settings.avatarObjectID
    visibility := conversationVisibilityToProto state.settings.visibility
    scopeKind := authorityScopeKind state.scope }

def mapCommittedChange (change : MembershipChange) : Wire.MembershipChangeCommitted :=
  { action := membershipActionToProto change.action, ptid := change.actor
    deviceId := change.device, homeStationPeerId := change.homeStation, role := change.role.text }

def optionalHashBytes (h : Hash) : Bytes := if h = 0 then [] else h.bytes

/-- What the payload of an event is made of, besides the source command. -/
structure PayloadSource where
  actor : Endpoint
  committedAt : Time
  membershipEpoch : ℕ
  fact : Fact

def missing (field message : String) : Error := invalid "interface.map_event" field message

def mapCommandPayload (s : PayloadSource) (source : Wire.ChatCommand) :
    Except Error Wire.EventPayload :=
  let actor := some (endpointToProto s.actor)
  let time := some (timestampOf s.committedAt)
  match s.fact.kind, source.payload with
  | .messageCommitted, some (.sendMessage intent) =>
    .ok (.messageCommitted
      { messageId := intent.messageId, sender := actor, contentKind := intent.contentKind
        replyToMessageId := intent.replyToMessageId
        threadRootMessageId := intent.threadRootMessageId, attachments := intent.attachments
        clientTimestamp := source.clientTimestamp, deliverySecurity := .unspecified })
  | .messageCommitted, _ => .error (missing "fact" "message command payload is missing")
  | .messageEdited, some (.editMessage messageId) => .ok (.messageEdited messageId actor time)
  | .messageEdited, _ => .error (missing "fact" "edit command payload is missing")
  | .messageRetracted, some (.retractMessage messageId) => .ok (.messageRetracted messageId actor time)
  | .messageRetracted, _ => .error (missing "fact" "retract command payload is missing")
  | .messageHiddenForActor, some (.hideMessageForActor messageId) =>
    .ok (.messageHiddenForActor messageId s.actor.actor time)
  | .messageHiddenForActor, _ => .error (missing "fact" "actor-hide command payload is missing")
  | .messageModerated, some (.moderateMessage messageId reasonCode) =>
    .ok (.messageModerated messageId actor reasonCode time)
  | .messageModerated, _ => .error (missing "fact" "moderation command payload is missing")
  | .messageForwarded, some (.forwardMessage destinationMessageId contentKind attachments) =>
    .ok (.messageForwarded
      { destinationMessageId, sender := actor, contentKind
        destinationAttachments := attachments, clientTimestamp := source.clientTimestamp })
  | .messageForwarded, _ => .error (missing "fact" "forward command payload is missing")
  | .reactionCommitted, some (.reaction messageId reaction remove) =>
    .ok (.reactionCommitted messageId actor reaction remove)
  | .reactionCommitted, _ => .error (missing "fact" "reaction command payload is missing")
  | .messagePinCommitted, some (.pinMessage messageId remove) => .ok (.messagePinCommitted messageId actor remove)
  | .messagePinCommitted, _ => .error (missing "fact" "pin command payload is missing")
  | .conversationSettings, _ =>
    .ok (.conversationUpdated
      { name := s.fact.settingsPatch.name, description := s.fact.settingsPatch.description
        avatarObjectId := s.fact.settingsPatch.avatarObjectID
        visibility := s.fact.settingsPatch.visibility.map conversationVisibilityToProto })
  | .membershipCommitted, some (.membershipTransition intent) =>
    .ok (.membershipTransitionCommitted
      { transitionId := intent.transitionId, fromMembershipEpoch := intent.fromMembershipEpoch
        toMembershipEpoch := toInt64 s.membershipEpoch, fromMlsEpoch := intent.fromMlsEpoch
        toMlsEpoch := intent.toMlsEpoch, changes := s.fact.membershipChanges.map mapCommittedChange
        mlsCommitSha256 := intent.mlsCommitSha256, leaveIntentId := intent.leaveIntentId
        postState := s.fact.postState.map mapConversationState })
  | .membershipCommitted, _ => .error (missing "fact" "membership command payload is missing")
  | .conversationDissolved, _ => .ok (.conversationDissolved s.actor.actor)
  | _, _ => .error (newError .unsupportedTransition "interface.map_event" "fact" "is not mapped by the transport adapter")

def mapCreated (fact : Fact) : Except Error Wire.EventPayload := do
  let created ← orFail fact.created (missing "fact" "creation fact is missing")
  let postState ← orFail (fact.postState.map mapConversationState) (missing "post_state" "creation state is missing")
  return .conversationCreated
    { kind := conversationKindToProto created.kind, name := created.name
      ownerPtid := created.owner, members := postState.activeMembers, postState := some postState }

def mapMemberAuthority (fact : Fact) : Except Error Wire.EventPayload := do
  let mutation ← orFail fact.memberAuthority (missing "member_authority" "fact is missing")
  return .memberAuthorityCommitted
    { action := memberAuthorityActionToProto mutation.action, targetPtid := mutation.target
      role := mutation.role.map memberRoleToProto, muted := mutation.muted
      mutedUntil := mutation.mutedUntil.map timestampOf
      previousOwnerPtid := mutation.previousOwner, ownerPtid := mutation.owner
      fromMembershipEpoch := toInt64 mutation.fromMembershipEpoch
      toMembershipEpoch := toInt64 mutation.toMembershipEpoch
      postState := fact.postState.map mapConversationState }

section

variable [WireFormat]

/-- The payload of an event. All kinds but three carry the command they were made from. -/
def mapPayload (s : PayloadSource) : Except Error Wire.EventPayload :=
  match s.fact.kind with
  | .conversationCreated => mapCreated s.fact
  | .memberAuthority => mapMemberAuthority s.fact
  | .systemServiceMessageCommitted =>
    .ok (.messageCommitted
      { messageId := s.fact.messageID, sender := some (endpointToProto s.actor)
        contentKind := .system, replyToMessageId := "", threadRootMessageId := ""
        attachments := [], clientTimestamp := none, deliverySecurity := .servicePlaintext })
  | _ => do
    let source ← orFail (WireFormat.command.unmarshal s.fact.payload)
      (uncodedError "conversation interface: decode event source command")
    mapCommandPayload s source

def Record.payloadSource (r : Record) : PayloadSource :=
  { actor := r.actor, committedAt := r.committedAt, membershipEpoch := r.membershipEpoch, fact := r.fact }

def mapEvent (record : Record) : Except Error Wire.ConversationEvent := do
  let payload ← mapPayload record.payloadSource
  return {
    eventId := record.id, conversationId := record.conversationID
    sequence := toInt64 record.sequence, commandId := record.commandID
    actor := some (endpointToProto record.actor)
    previousHash := optionalHashBytes record.previousHash, eventHash := record.hash.bytes
    committedAt := some (timestampOf record.committedAt)
    deliveryCommitments := record.deliveryCommitments.map Hash.bytes
    membershipEpoch := toInt64 record.membershipEpoch, mlsEpoch := toInt64 record.mlsEpoch
    authorityStationPeerId := record.authorityStation, payload := some payload }

end

/-! ### Sealing -/

section

variable [Digest] [WireFormat]

/-- The hash of an event is taken of its message without a hash. -/
def wireHash (wire : Wire.ConversationEvent) : Hash := hashBytes (WireFormat.event.marshal { wire with eventHash := [] })

/-- `ProtobufEventSealer.Seal`. -/
def protobufSeal (input : RecordInput) : Except Error Record := do
  let provisional ← canonicalSeal input
  let wire ← mapEvent provisional
  sealTransportRecord input (wireHash wire)
    (WireFormat.event.marshal { wire with eventHash := (wireHash wire).bytes })

def protobufEventSealer : Sealer where
  sealEvent := protobufSeal
  sealed := by
    intro input record h
    simp only [protobufSeal, sealTransportRecord, ok_iff] at h
    obtain ⟨provisional, -, wire, -, hne, -, h⟩ := h
    exact ⟨_, _, _, h, fun _ => hne⟩

end

/-! ### From a message to its record -/

def productionWireHash (value : Bytes) (optional : Bool) : Except Error Hash :=
  if optional ∧ value = [] then .ok 0 else newHash value

def productionConversationKindFromProto : Wire.ConversationKind → ConversationKind
  | .direct => .direct
  | .group => .group
  | .unspecified => .other ""

def productionConversationVisibilityFromProto : Wire.GroupVisibility → ConversationVisibility
  | .publicVisibility => .publicVisibility
  | .privateVisibility => .privateVisibility
  | .unspecified => .other ""

def productionMembershipActionFromProto : Wire.MembershipAction → MembershipAction
  | .addActor => .addActor
  | .removeActor => .removeActor
  | .leave => .leave
  | .changeRole => .changeRole
  | .addDevice => .addDevice
  | .removeDevice => .removeDevice
  | .unspecified => .other ""

def productionMemberAuthorityActionFromProto : Wire.MemberAuthorityAction → MemberAuthorityAction
  | .updateMember => .updateMember
  | .transferOwnership => .transferOwnership
  | .unspecified => .other ""

def productionMemberRole : Wire.MemberRole → MemberRole
  | .owner => .owner
  | .admin => .admin
  | .member | .unspecified => .member

/-- One round of the loop over the members. The wire has no lifecycle; every member is active. -/
def memberFromWire (member : Wire.AuthorityMember) : Except Error Member := do
  let mapped : Member :=
    { actor := member.ptid, role := .ofText member.role, status := .active
      homeStation := member.homeStationPeerId, joinedAt := 1, leftAt := 0, muted := member.muted
      mutedUntil := member.mutedUntil.map Wire.Timestamp.asTime }
  mapped.validate
  return mapped

/-- `homeByActor[actor]`; the last member with the actor counts. -/
def homeByActor (members : List Member) (actor : PTID) : StationID :=
  ((members.reverse.find? fun member => member.actor = actor).map Member.homeStation).getD ""

def maximumInt64 (left right : Int64) : Int64 := if left > right then left else right

/-- One round of the loop over the routes. Here the endpoint is taken as it is. -/
def deviceFromWire (members : List Member) (sequence : Int64) (route : Wire.AuthorityEndpoint) :
    Except Error MemberDevice := do
  let endpoint ← orFail route.endpoint (invalid "production_federation.map_state" "active_endpoint_routes"
    "contains an incomplete endpoint")
  let device : MemberDevice :=
    { endpoint := { actor := endpoint.ptid, device := endpoint.deviceId }
      homeStation := route.homeStationPeerId, active := true
      joinedAt := ofInt64 (maximumInt64 1 sequence), leftAt := 0 }
  failWhen (homeByActor members device.endpoint.actor ≠ device.homeStation)
    (newError .hashChainInvalid "production_federation.map_state" "home_station_peer_id"
      "member and endpoint routes disagree")
  device.validate
  return device

/-- Here the endpoint loses the blanks around its parts. -/
def endpointFromWire (endpoint : Wire.CryptoEndpoint) : Except Error Endpoint :=
  newEndpoint endpoint.ptid endpoint.deviceId

def productionStateFromWire (wire : Option Wire.AuthoritySnapshot) (sequence : Int64) :
    Except Error ConversationState := do
  let wire ← orFail wire (invalid "production_federation.map_state" "post_state" "is required")
  let members ← wire.activeMembers.mapM memberFromWire
  let devices ← wire.activeEndpointRoutes.mapM (deviceFromWire members sequence)
  let endpoints ← wire.activeEndpoints.mapM endpointFromWire
  let scope ← Scope.federationScope wire.federationId
  return {
    kind := productionConversationKindFromProto wire.kind, scope
    authorityEpoch := ofInt64 wire.authorityEpoch, owner := wire.ownerPtid
    settings := { wire with
        avatarObjectID := wire.avatarObjectId
        visibility := productionConversationVisibilityFromProto wire.visibility }
    activeMembers := members
    activeEndpoints := endpoints
    activeDevices := devices
    membershipEpoch := ofInt64 wire.membershipEpoch
    mlsEpoch := ofInt64 wire.mlsEpoch }

def membershipChangeFromWire (change : Wire.MembershipChangeCommitted) : MembershipChange :=
  { action := productionMembershipActionFromProto change.action, actor := change.ptid
    device := change.deviceId, homeStation := change.homeStationPeerId, role := .ofText change.role }

def productionSettingsPatchFromWire (wire : Wire.ConversationUpdatedFact) : SettingsPatch :=
  { wire with
    avatarObjectID := wire.avatarObjectId
    visibility := wire.visibility.map productionConversationVisibilityFromProto }

def memberAuthorityFromWire (committed : Wire.MemberAuthorityFact) : MemberAuthorityMutation :=
  { action := productionMemberAuthorityActionFromProto committed.action
    target := committed.targetPtid, role := committed.role.map productionMemberRole
    muted := committed.muted, mutedUntil := committed.mutedUntil.map Wire.Timestamp.asTime
    previousOwner := committed.previousOwnerPtid, owner := committed.ownerPtid
    fromMembershipEpoch := ofInt64 committed.fromMembershipEpoch
    toMembershipEpoch := ofInt64 committed.toMembershipEpoch }

section

variable [WireFormat]

def commandFact (kind : Kind) (messageID : MessageID) (clientTimestamp : Option Wire.Timestamp)
    (payload : Wire.CommandPayload) : Fact :=
  { Fact.plain kind (WireFormat.command.marshal { clientTimestamp, payload := some payload }) with
    messageID }

def productionFactFromWire (wire : Wire.ConversationEvent) : Except Error Fact :=
  match wire.payload with
  | some (.conversationCreated created) => do
    let state ← productionStateFromWire created.postState wire.sequence
    return { Fact.plain .conversationCreated [] with
      created := some
        { kind := productionConversationKindFromProto created.kind, name := created.name
          owner := created.ownerPtid, members := created.members.map Wire.AuthorityMember.ptid }
      postState := some state }
  | some (.messageCommitted message) =>
    .ok (commandFact .messageCommitted message.messageId message.clientTimestamp (.sendMessage
      { messageId := message.messageId, contentKind := message.contentKind
        replyToMessageId := message.replyToMessageId
        threadRootMessageId := message.threadRootMessageId, attachments := message.attachments }))
  | some (.messageEdited messageId _ _) => .ok (commandFact .messageEdited messageId none (.editMessage messageId))
  | some (.messageRetracted messageId _ _) =>
    .ok (commandFact .messageRetracted messageId none (.retractMessage messageId))
  | some (.messageHiddenForActor messageId _ _) =>
    .ok (commandFact .messageHiddenForActor messageId none (.hideMessageForActor messageId))
  | some (.messageModerated messageId _ reasonCode _) =>
    .ok (commandFact .messageModerated messageId none (.moderateMessage messageId reasonCode))
  | some (.messageForwarded message) =>
    .ok (commandFact .messageForwarded message.destinationMessageId message.clientTimestamp
      (.forwardMessage message.destinationMessageId message.contentKind
        message.destinationAttachments))
  | some (.reactionCommitted messageId _ reaction removed) =>
    .ok (commandFact .reactionCommitted messageId none (.reaction messageId reaction removed))
  | some (.messagePinCommitted messageId _ removed) =>
    .ok (commandFact .messagePinCommitted messageId none (.pinMessage messageId removed))
  | some (.conversationUpdated update) =>
    .ok { commandFact .conversationSettings "" none (.updateConversation update) with
      settingsPatch := productionSettingsPatchFromWire update }
  | some (.membershipTransitionCommitted transition) => do
    let state ← productionStateFromWire transition.postState wire.sequence
    return { commandFact .membershipCommitted "" none (.membershipTransition
        { transitionId := transition.transitionId, fromMembershipEpoch := transition.fromMembershipEpoch
          fromMlsEpoch := transition.fromMlsEpoch, toMlsEpoch := transition.toMlsEpoch
          mlsCommitSha256 := transition.mlsCommitSha256, leaveIntentId := transition.leaveIntentId }) with
      membershipChanges := transition.changes.map membershipChangeFromWire
      postState := some state }
  | some (.memberAuthorityCommitted committed) => do
    let state ← productionStateFromWire committed.postState wire.sequence
    return { Fact.plain .memberAuthority [] with
      memberAuthority := some (memberAuthorityFromWire committed), postState := some state }
  | some (.conversationDissolved _) => .ok (commandFact .conversationDissolved "" none .dissolveConversation)
  | none => .error (newError .unsupportedTransition "production_federation.map_event" "payload" "is not supported")

def incompleteEvent : Error := invalid "production_federation.map_event" "event" "is incomplete"

def productionRecordFromWire (wire : Wire.ConversationEvent) : Except Error Record := do
  let wireActor ← orFail wire.actor incompleteEvent
  let committedAt ← orFail (wire.committedAt.filter fun ts => ts.IsValid) incompleteEvent
  let previousHash ← productionWireHash wire.previousHash true
  let eventHash ← productionWireHash wire.eventHash false
  let actor ← endpointFromWire wireActor
  let fact ← productionFactFromWire wire
  let commitments ← wire.deliveryCommitments.mapM fun encoded => productionWireHash encoded false
  sealTransportRecord
    { id := wire.eventId, conversationID := wire.conversationId, sequence := ofInt64 wire.sequence
      commandID := wire.commandId, actor, previousHash, committedAt := committedAt.asTime
      membershipEpoch := ofInt64 wire.membershipEpoch, mlsEpoch := ofInt64 wire.mlsEpoch
      authorityStation := wire.authorityStationPeerId, deliveryCommitments := commitments, fact }
    eventHash (WireFormat.event.marshal wire)

end

end PeersTouch.Chat
