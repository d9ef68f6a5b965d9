import PeersTouch.Chat.Event
import PeersTouch.Lib.Registry

/-!
# The conversation aggregate

The state of a conversation and what is read off it, from `domain/aggregate/conversation.go`: its
members and devices, the checks that a state has to pass before it is committed (`validateState`),
creation, and the snapshot by which an aggregate is stored and loaded again.

Members are stored under their actor and devices under the key of their endpoint, so both maps are
registries. A loop over a map runs in the order of the keys; the source leaves the order open,
which only matters for which of several errors is returned.
-/

namespace PeersTouch.Chat

open Lib

/-! ### State -/

structure Conversation where
  id : ConversationID
  kind : ConversationKind
  status : ConversationStatus
  scope : Scope
  authorityStation : StationID
  authorityEpoch : ℕ
  owner : PTID
  head : AuthorityHead
  settings : ConversationSettings
  members : Registry Member Member.actor
  devices : Registry MemberDevice MemberDevice.key
  (createdAt updatedAt : Time)

structure Snapshot where
  id : ConversationID
  kind : ConversationKind
  status : ConversationStatus
  scope : Scope
  authorityStation : StationID
  authorityEpoch : ℕ
  owner : PTID
  head : AuthorityHead
  settings : ConversationSettings
  members : List Member
  devices : List MemberDevice
  (createdAt updatedAt : Time)
deriving DecidableEq

/-- What a committed operation hands to its caller. -/
structure Transition where
  event : Record
  deliveries : List PreparedDelivery
  objectIDs : List ObjectID
  recipientActors : List PTID

def membershipConflict (message : String) : Error :=
  newError .membershipConflict "aggregate.apply_membership_change" "membership" message

namespace Conversation

def snapshot (c : Conversation) : Snapshot := { c with members := c.members.values, devices := c.devices.values }

/-- `c.members[actor]`: the zero member for an actor that is not there. -/
def memberOf (c : Conversation) (actor : PTID) : Member := (c.members.find actor).getD .zero

def isActiveMember (c : Conversation) (actor : PTID) : Bool := (c.members.find actor).any fun member => member.Active

def isActiveEndpoint (c : Conversation) (endpoint : Endpoint) : Bool :=
  (c.devices.find endpoint.key).any fun device => device.active

def isActiveMemberEndpoint (c : Conversation) (endpoint : Endpoint) : Bool :=
  endpoint.validate = .ok () && c.isActiveMember endpoint.actor && (c.kind = .direct || c.isActiveEndpoint endpoint)

def activeEndpoints (c : Conversation) : List Endpoint :=
  sortEndpoints ((c.devices.values.filter fun device =>
    device.active && c.isActiveMember device.endpoint.actor).map MemberDevice.endpoint)

def activeMembers (members : List Member) : List Member := members.filter fun member => member.Active

def activeDevices (devices : List MemberDevice) : List MemberDevice := devices.filter fun device => device.active

def activeMemberActors (c : Conversation) : List PTID := (activeMembers c.members.values).map Member.actor

def eventState (c : Conversation) : ConversationState :=
  { kind := c.kind, scope := c.scope, authorityEpoch := c.authorityEpoch, owner := c.owner
    settings := c.settings, activeMembers := activeMembers c.members.values
    activeEndpoints := c.activeEndpoints, activeDevices := activeDevices c.devices.values
    membershipEpoch := c.head.membershipEpoch, mlsEpoch := c.head.mlsEpoch }

/-! ### The checks of a state -/

def validateMemberState (maxSequence : ℕ) (member : Member) : Except Error Unit := do
  member.validate
  failWhen (member.joinedAt > maxSequence ∨ member.leftAt > maxSequence) (invalid "aggregate.validate_state" "members"
    "contains a lifecycle sequence beyond the authority head")

def validateDeviceState (c : Conversation) (maxSequence : ℕ) (device : MemberDevice) :
    Except Error Unit := do
  device.validate
  failWhen (device.joinedAt > maxSequence ∨ device.leftAt > maxSequence) (invalid "aggregate.validate_state" "devices"
    "contains a lifecycle sequence beyond the authority head")
  let member := c.memberOf device.endpoint.actor
  failWhen ((c.members.find device.endpoint.actor).isSome = false ∨
    device.active = true ∧ (¬member.Active ∨ device.homeStation ≠ member.homeStation))
    (invalid "aggregate.validate_state" "devices" "contains an orphaned or inconsistently routed active member device")

section

variable [Digest]

/-- The identity and the owner that the members of a direct conversation determine. -/
def directIdentity : List PTID → Except Error (ConversationID × PTID)
  | [actor] => do return (← selfDirectConversationID actor, actor)
  | left :: right :: _ => do return (← directConversationID left right, min left right)
  | [] => return ("", "")

def validateDirectInvariant (c : Conversation) : Except Error Unit :=
  if c.kind ≠ .direct then .ok ()
  else do
    failWhen (c.head.membershipEpoch ≠ 1 ∨ c.head.mlsEpoch ≠ 0)
      (newError .staleMembershipEpoch "aggregate.validate_direct" "authority_head"
        "direct conversation epochs must remain membership one and MLS zero")
    failWhen (c.members.size ≠ 1 ∧ c.members.size ≠ 2) (newError .membershipConflict "aggregate.validate_direct" "members"
      "direct conversation must contain one (self) or two active members")
    forM c.members.values fun member =>
      failWhen (¬member.Active ∨ member.role ≠ .member) (newError .membershipConflict "aggregate.validate_direct" "members"
        "direct conversation members must be active member-role actors")
    let (expectedID, expectedOwner) ← directIdentity (c.members.values.map Member.actor)
    failWhen (c.id ≠ expectedID) (invalid "aggregate.validate_direct" "conversation_id"
      "does not match the deterministic participant pair")
    failWhen (c.owner ≠ expectedOwner) (newError .ownerProtected "aggregate.validate_direct" "owner"
      "must be the canonical actor from the deterministic participant pair")

end

def validateOwnerInvariant (c : Conversation) : Except Error Unit := if c.kind ≠ .group then .ok ()
  else do
    let owner := c.memberOf c.owner
    failWhen ((c.members.find c.owner).isSome = false ∨ ¬owner.Active ∨ owner.role ≠ .owner)
      (newError .ownerProtected "aggregate.validate_owner" "owner" "must remain the active canonical owner")
    forM c.members.values fun member =>
      failWhen (member.Active ∧ member.role = .owner ∧ member.actor ≠ c.owner)
        (newError .ownerProtected "aggregate.validate_owner" "owner" "must be unique")
    failWhen ((c.devices.values.filter fun device => device.active && device.endpoint.actor = c.owner).length = 0)
      (newError .ownerProtected "aggregate.validate_owner" "owner_device" "must retain an active endpoint")

/-- What must hold of a state before it is committed. No lifecycle sequence may
lie beyond `maxSequence`. -/
def validateState [Digest] (c : Conversation) (maxSequence : ℕ) : Except Error Unit := do
  forM c.members.values (validateMemberState maxSequence)
  forM c.devices.values (c.validateDeviceState maxSequence)
  failWhen (c.members.size = 0 ∨ c.devices.size = 0)
    (invalid "aggregate.validate_state" "snapshot" "must contain members and member devices")
  c.validateDirectInvariant
  c.validateOwnerInvariant

/-- The aggregate of a stored snapshot. -/
def rehydrate [Digest] (snapshot : Snapshot) : Except Error Conversation := do
  failWhen (snapshot.id = "" ∨ snapshot.scope = .zero ∨ snapshot.authorityStation = "" ∨
    snapshot.authorityEpoch = 0 ∨ snapshot.owner = "" ∨ snapshot.createdAt = 0 ∨ snapshot.updatedAt = 0)
    (invalid "aggregate.rehydrate" "snapshot" "persisted aggregate is incomplete")
  snapshot.kind.validate
  snapshot.status.validate
  snapshot.settings.validate
  failWhen (snapshot.updatedAt < snapshot.createdAt)
    (invalid "aggregate.rehydrate" "updated_at" "cannot precede the creation time")
  failWhen (snapshot.head.sequence = 0 ∧ snapshot.head.eventHash ≠ 0 ∨
    snapshot.head.sequence > 0 ∧ snapshot.head.eventHash = 0)
    (newError .hashChainInvalid "aggregate.rehydrate" "authority_head" "sequence and event hash disagree")
  failWhen (snapshot.kind = .group ∧ ¬snapshot.scope.IsFederation)
    (invalid "aggregate.rehydrate" "scope" "group conversations require a federation scope")
  failWhen (snapshot.kind = .group ∧ (snapshot.head.membershipEpoch = 0 ∨ snapshot.head.mlsEpoch = 0 ∨
    snapshot.head.membershipEpoch < snapshot.head.mlsEpoch))
    (newError .staleMembershipEpoch "aggregate.rehydrate" "authority_head"
      "group membership epoch must be at least the non-zero MLS epoch")
  let members ← (∅ : Registry Member Member.actor).addAll
    (invalid "aggregate.rehydrate" "members" "contains a duplicate actor") snapshot.members
  let devices ← (∅ : Registry MemberDevice MemberDevice.key).addAll
    (invalid "aggregate.rehydrate" "devices" "contains a duplicate endpoint") snapshot.devices
  let conversation : Conversation := { snapshot with members, devices }
  conversation.validateState snapshot.head.sequence
  return conversation

end Conversation

end PeersTouch.Chat
