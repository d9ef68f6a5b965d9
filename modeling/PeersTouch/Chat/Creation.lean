import PeersTouch.Chat.Operations

/-!
# Creation of a conversation

The three ways to create a conversation, from `domain/aggregate`: between two actors or of one
actor with itself (`createDirect`), as a group (`createGroup`), and between a bot and its owner
(`createSystemDirect`). All of them prepare the input and end in `create`, which builds the first
state (`initial`) and commits the genesis event on it.
-/

namespace PeersTouch.Chat

open Lib Method

section

variable [Digest]

structure Participant where
  actor : PTID
  homeStation : StationID
  role : MemberRole

structure CreateInput where
  id : ConversationID
  kind : ConversationKind
  scope : Scope
  authorityStation : StationID
  authorityEpoch : ℕ
  owner : PTID
  participants : List Participant
  devices : List MemberDevice
  settings : ConversationSettings
  commandID : CommandID
  creator : Endpoint
  deliveries : List PreparedDelivery
  eventPayload : Bytes
  createdAt : Time
  eventSealer : Option Sealer
  genesisRecipients : List Endpoint

namespace Conversation

def addParticipant (members : Registry Member Member.actor) (participant : Participant) :
    Except Error (Registry Member Member.actor) := do
  failWhen (participant.actor = "" ∨ participant.homeStation = "")
    (invalid "aggregate.create" "participant" "actor and home Station are required")
  failWhen ((members.find participant.actor).isSome = true)
    (invalid "aggregate.create" "participants" "contains a duplicate actor")
  let member ← Member.create participant.actor participant.role participant.homeStation 1
  return members.insert member

def addInitialDevice (members : Registry Member Member.actor)
    (devices : Registry MemberDevice MemberDevice.key) (device : MemberDevice) :
    Except Error (Registry MemberDevice MemberDevice.key) := do
  device.validate
  failWhen (device.active = false ∨ device.joinedAt ≠ 1) (invalid "aggregate.create" "devices"
    "all initial devices must be active and joined at the genesis sequence")
  let member ← orFail ((members.find device.endpoint.actor).filter fun member => member.Active)
    (invalid "aggregate.create" "devices" "device actor is not an active member")
  failWhen (device.homeStation ≠ member.homeStation) (invalid "aggregate.create" "devices"
    "device Home Station must match its actor membership")
  devices.addNew (invalid "aggregate.create" "devices" "contains a duplicate endpoint") device

def validateCreationDeliveryKinds (c : Conversation) (creator : Endpoint)
    (deliveries : List PreparedDelivery) : Except Error Unit :=
  forM deliveries fun delivery =>
    failWhen (delivery.kind ≠ if c.kind = .group then
        if delivery.recipient = creator then .publicEvent else .mlsWelcome
      else .conversation)
      (newError .deliverySetMismatch "aggregate.validate_creation" "delivery_kind"
        "does not match the Conversation kind and creation endpoint role")

def genesisEndpoints (c : Conversation) (input : CreateInput) : Except Error (List Endpoint) :=
  if input.genesisRecipients = [] then .ok c.activeEndpoints
  else do
    forM input.genesisRecipients fun recipient =>
      failWhen (c.isActiveEndpoint recipient = false) (newError .deliverySetMismatch "aggregate.create" "genesis_recipients"
        "system genesis recipient must be an active member device")
    return sortEndpoints input.genesisRecipients

/-- The conversation that a creation commits, before its first event. -/
def initial (input : CreateInput) (membershipEpoch mlsEpoch : ℕ) : Except Error Conversation := do
  failWhen (input.id = "" ∨ input.scope = .zero ∨ input.authorityStation = "" ∨
    input.authorityEpoch = 0 ∨ input.commandID = "" ∨ input.creator.validate ≠ .ok () ∨ input.createdAt = 0)
    (invalid "aggregate.create" "input" "complete creation identity and time are required")
  failWhen (input.kind = .group ∧ ¬input.scope.IsFederation)
    (invalid "aggregate.create" "scope" "group conversations require a federation scope")
  input.kind.validate
  input.settings.validate
  let members ← input.participants.foldlM addParticipant ∅
  let owner ← orFail (members.find input.owner) (invalid "aggregate.create" "owner" "must be an active owner participant")
  failWhen (owner.role ≠ .owner ∧ input.kind = .group)
    (invalid "aggregate.create" "owner" "must be an active owner participant")
  let devices ← input.devices.foldlM (addInitialDevice members) ∅
  let conversation : Conversation := { input with
    status := .active, head := { sequence := 0, eventHash := 0, membershipEpoch, mlsEpoch }
    members
    devices
    updatedAt := input.createdAt }
  conversation.validateState 1
  failWhen (conversation.isActiveEndpoint input.creator = false)
    (newError .unauthorized "aggregate.create" "creator" "must be an active member device")
  let required ← conversation.genesisEndpoints input
  validateExactDeliverySet required input.deliveries
  conversation.validateCreationDeliveryKinds input.creator input.deliveries
  return conversation

def create (input : CreateInput) (membershipEpoch mlsEpoch : ℕ) :
    Except Error (Conversation × Transition) := do
  let conversation ← initial input membershipEpoch mlsEpoch
  let created : ConversationCreated := { conversation with
    name := conversation.settings.name, members := conversation.activeMemberActors }
  (commit input.commandID input.creator { Fact.plain .conversationCreated input.eventPayload with
      created := some created, postState := some conversation.eventState }
    input.deliveries [] input.createdAt input.eventSealer).construct conversation

def asMembers (participants : List Participant) : List Participant :=
  participants.map fun participant => { participant with role := .member }

def directPair (input : CreateInput) : Except Error (Participant × Participant) :=
  match input.participants with
  | [self] => do
    failWhen (self.actor ≠ input.creator.actor) (invalid "aggregate.create_direct" "participants"
      "self-direct sole participant must be the creator")
    return (self, self)
  | [left, right] => return (left, right)
  | _ => throw (invalid "aggregate.create_direct" "participants"
    "direct conversation requires one (self) or two participants")

/-- A conversation of two actors, or of one with itself. -/
def createDirect (input : CreateInput) : Except Error (Conversation × Transition) := do
  failWhen (input.kind ≠ .other "" ∧ input.kind ≠ .direct)
    (invalid "aggregate.create_direct" "kind" "direct conversation requires direct kind")
  let (left, right) ← directPair input
  let computedID ← directConversationIDForActors left.actor right.actor
  failWhen (input.id ≠ "" ∧ input.id ≠ computedID)
    (invalid "aggregate.create_direct" "conversation_id" "does not match the participant pair")
  create { input with
    kind := .direct, id := computedID, owner := min left.actor right.actor
    participants := asMembers input.participants } 1 0

def groupRole (owner : PTID) (participant : Participant) : Participant :=
  if participant.actor = owner then { participant with role := .owner }
  else if participant.role = .other "" then { participant with role := .member }
  else participant

def createGroup (input : CreateInput) : Except Error (Conversation × Transition) := do
  failWhen (input.kind ≠ .other "" ∧ input.kind ≠ .group ∨ input.owner = "" ∨ input.participants = [])
    (invalid "aggregate.create_group" "participants" "group owner and participants are required")
  create { input with
    kind := .group, participants := input.participants.map (groupRole input.owner) } 1 1

def systemPair (input : CreateInput) : Except Error (Participant × Participant) :=
  match input.participants with
  | [left, right] => return (left, right)
  | _ => throw (invalid "aggregate.create_system_direct" "participants"
    "system direct conversation requires two participants")

/-- A direct conversation that the system device of a bot opens with the
owner of the bot. The system device is a member device, but gets no delivery. -/
def createSystemDirect (input : CreateInput) : Except Error (Conversation × Transition) := do
  let (left, right) ← systemPair input
  failWhen (input.creator.device ≠ systemStationDeviceID) (invalid "aggregate.create_system_direct" "creator"
    "system direct conversation creator must use the reserved station-system device")
  let computedID ← directConversationID left.actor right.actor
  let endpoints := input.devices.map MemberDevice.endpoint
  let ownerRecipients := endpoints.filter fun endpoint => endpoint ≠ input.creator
  failWhen (input.creator ∉ endpoints ∨ ownerRecipients = []) (invalid "aggregate.create_system_direct" "devices"
    "system device and at least one owner device are required")
  create { input with
    kind := .direct, id := computedID, genesisRecipients := ownerRecipients
    owner := min left.actor right.actor, participants := asMembers input.participants } 1 0

end Conversation

inductive Creation where
  | direct (input : CreateInput)
  | group (input : CreateInput)
  | systemDirect (input : CreateInput)

namespace Creation

def run : Creation → Except Error (Conversation × Transition)
  | .direct input => Conversation.createDirect input
  | .group input => Conversation.createGroup input
  | .systemDirect input => Conversation.createSystemDirect input

def input : Creation → CreateInput
  | .direct input | .group input | .systemDirect input => input

end Creation

end

end PeersTouch.Chat
