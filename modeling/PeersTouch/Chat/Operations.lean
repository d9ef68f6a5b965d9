import PeersTouch.Chat.Aggregate

/-!
# Operations of the conversation aggregate

Every operation of `domain/aggregate` that changes a conversation, as a method on it. An operation
first checks the command against the current state, then builds the next state, and last commits an
event to the hash chain. Those that write before they commit work on a clone of the aggregate and
assign it at the end.

`Operation` collects them.
-/

namespace PeersTouch.Chat

open Lib Method

/-! ### Commands -/

structure Command where
  id : CommandID
  conversationID : ConversationID
  authorityStation : StationID
  sender : Endpoint
  (observedMembershipEpoch observedMLSEpoch : ℕ)
  deliveryPlanHash : Hash
  kind : Kind
  (messageID replyToMessageID threadRootMessageID : MessageID)
  (reaction reasonCode : String)
  payload : Bytes
  deliveries : List PreparedDelivery
  requiredEndpoints : List Endpoint
  objectIDs : List ObjectID
  committedAt : Time
  eventSealer : Option Sealer

structure MembershipTransition extends Command where
  transitionID : TransitionID
  authorityPlanID : PlanID
  authorityPlanHash : Hash
  (fromMembership fromMLS toMLS : ℕ)
  changes : List MembershipChange
  (preEndpoints postEndpoints : List Endpoint)
  leaveIntentID : String

structure MemberAuthorityCommand extends Command where
  action : MemberAuthorityAction
  target : PTID
  role : Option MemberRole
  muted : Option Bool
  mutedUntil : Option Time
  observedAuthorityHead : AuthorityHead
  observedScope : Scope
  observedAuthorityEpoch : ℕ
  deadline : Time

structure SettingsCommand extends Command where
  patch : SettingsPatch

structure DissolveCommand extends Command

structure SystemServiceMessageInput where
  commandID : CommandID
  messageID : MessageID
  (senderActor recipient : PTID)
  sender : Endpoint
  deliveries : List PreparedDelivery
  payload : Bytes
  committedAt : Time
  eventSealer : Option Sealer

structure CommandPreparation where
  kind : ConversationKind
  authorityStation : StationID
  head : AuthorityHead
  requiredEndpoints : List Endpoint
  deliveryPlanHash : Hash

/-! ### Sets of endpoints -/

/-- One endpoint for each key of the two lists. -/
def endpointUnion (left right : List Endpoint) : List Endpoint :=
  sortEndpoints ((left ++ right).foldl Registry.insert (∅ : Registry Endpoint Endpoint.key)).values

section

variable [Digest]

def deliveryPlanHash (conversationID : ConversationID) (head : AuthorityHead)
    (endpoints : List Endpoint) : Hash :=
  hashBytes (canonicalTuple ([bytesOf "peers-touch/conversation-delivery-plan", bytesOf conversationID,
      bytesOf (toString head.sequence), head.eventHash.bytes,
      bytesOf (toString head.membershipEpoch), bytesOf (toString head.mlsEpoch)] ++
    (sortEndpoints endpoints).flatMap fun endpoint => [bytesOf endpoint.actor, bytesOf endpoint.device]))

namespace Conversation

/-! ### Committing an event -/

def recordInput (c : Conversation) (commandID : CommandID) (actor : Endpoint) (fact : Fact)
    (commitments : List DeliveryCommitment) (time : Time) : RecordInput :=
  { id := deterministicEventID c.id commandID, conversationID := c.id
    sequence := next c.head.sequence, commandID, actor, previousHash := c.head.eventHash
    committedAt := time, membershipEpoch := c.head.membershipEpoch, mlsEpoch := c.head.mlsEpoch
    authorityStation := c.authorityStation, deliveryCommitments := commitments.map DeliveryCommitment.hash, fact }

def advance (c : Conversation) (record : Record) (time : Time) : Conversation := { c with
  head := { c.head with sequence := record.sequence, eventHash := record.hash }
  updatedAt := time }

/-- The event is sealed on top of the current head, which then moves to it. -/
def commit (commandID : CommandID) (actor : Endpoint) (fact : Fact)
    (deliveries : List PreparedDelivery) (objectIDs : List ObjectID) (time : Time)
    (sealer : Option Sealer) : Method Conversation Error Transition := do
  let c ← receiver
  failWhen (commandID = "" ∨ actor.validate ≠ .ok () ∨ time = 0)
    (invalid "aggregate.commit" "command" "identity, actor, and time are required")
  let commitments ← buildDeliveryCommitments c.id (deterministicEventID c.id commandID) deliveries
  let sealer ← orFail sealer (invalid "aggregate.commit" "event_sealer" "canonical transport event sealer is required")
  let record ← sealer.sealEvent (c.recordInput commandID actor fact commitments time)
  failWhen (record.hashScheme ≠ .transport) (newError .hashChainInvalid "aggregate.commit" "hash_scheme"
    "must use the canonical transport event encoding")
  assign (c.advance record time)
  return { event := record, deliveries, objectIDs, recipientActors := c.activeMemberActors }

/-! ### Checking a command -/

def requireWritableSender (c : Conversation) (sender : Endpoint) : Except Error Unit := do
  let code : ErrorCode := if c.status = .degradedReadOnly ∨ c.status = .orphanedReadOnly then .readOnly else .inactive
  failWhen (¬c.status.Writable) (newError code "aggregate.require_writable_sender" "conversation" "is not writable")
  failWhen (c.isActiveMemberEndpoint sender = false) (newError .unauthorized "aggregate.require_writable_sender" "sender"
    "is not an active member device")

/-- One round of the loop over the required endpoints, with the keys seen so far. -/
def requireActiveEndpoint (c : Conversation) (seen : List String) (endpoint : Endpoint) :
    Except Error (List String) := do
  failWhen (endpoint.key ∈ seen ∨ c.isActiveMemberEndpoint endpoint = false)
    (newError .deliverySetMismatch "aggregate.validate_required_endpoints" "required_endpoints"
      "contains a duplicate or inactive endpoint")
  return endpoint.key :: seen

def validateRequiredEndpoints (c : Conversation) (required : List Endpoint) :
    Except Error Unit := do
  failWhen (required = []) (newError .deliverySetMismatch "aggregate.validate_required_endpoints" "required_endpoints"
    "cannot be empty")
  let _ ← required.foldlM c.requireActiveEndpoint []

def prepareCommand (c : Conversation) (sender : Endpoint) (requiredEndpoints : List Endpoint) :
    Except Error CommandPreparation := do
  c.requireWritableSender sender
  c.validateRequiredEndpoints requiredEndpoints
  return { c with
    requiredEndpoints := sortEndpoints requiredEndpoints
    deliveryPlanHash := deliveryPlanHash c.id c.head requiredEndpoints }

def validateCommandBase (c : Conversation) (command : Command) : Except Error Unit := do
  failWhen (command.id = "" ∨ command.conversationID ≠ c.id ∨
    command.authorityStation ≠ c.authorityStation ∨ command.sender.validate ≠ .ok () ∨
    command.committedAt = 0 ∨ command.kind = .other "" ∨ command.payload = [])
    (invalid "aggregate.validate_command" "command" "identity, authority, sender, kind, payload, and time are required")
  c.requireWritableSender command.sender
  failWhen (command.observedMembershipEpoch ≠ c.head.membershipEpoch)
    (newError .staleMembershipEpoch "aggregate.validate_command" "observed_membership_epoch" "is stale")
  failWhen (command.observedMLSEpoch ≠ c.head.mlsEpoch)
    (newError .staleMLSEpoch "aggregate.validate_command" "observed_mls_epoch" "is stale")

def validateCommand (c : Conversation) (command : Command) : Except Error Unit := do
  c.validateCommandBase command
  let preparation ← c.prepareCommand command.sender command.requiredEndpoints
  failWhen (command.deliveryPlanHash = 0 ∨ command.deliveryPlanHash ≠ preparation.deliveryPlanHash)
    (newError .staleAuthorityHead "aggregate.validate_command" "delivery_plan_hash"
      "does not match the current authority head")
  validateExactDeliverySet preparation.requiredEndpoints command.deliveries

def expectedDeliveryKind (c : Conversation) (command : Command) (delivery : PreparedDelivery) :
    DeliveryKind :=
  if command.kind = .messageCommitted ∨ command.kind = .messageForwarded ∨ command.kind = .messageEdited then
    if delivery.recipient = command.sender then .publicEvent
    else if c.kind = .direct then .directCiphertext
    else if c.kind = .group then .mlsApplication
    else .publicEvent
  else .publicEvent

def validateOrdinaryFields (c : Conversation) (command : Command) : Except Error Unit :=
  let sender := c.memberOf command.sender.actor
  match command.kind with
  | .messageCommitted | .messageForwarded => do
    failWhen (command.messageID = "" ∨ command.replyToMessageID = command.messageID ∨
      command.threadRootMessageID = command.messageID)
      (invalid "aggregate.validate_command" "message" "message identity is required and cannot reference itself")
    failWhen (sender.MutedAt command.committedAt)
      (newError .memberMuted "aggregate.validate_command" "sender" "is muted in this Conversation")
  | .messageEdited | .messageRetracted | .messageHiddenForActor | .messagePinCommitted =>
    failWhen (command.messageID = "") (invalid "aggregate.validate_command" "message_id" "is required")
  | .messageModerated => do
    failWhen (command.messageID = "") (invalid "aggregate.validate_command" "message_id" "is required")
    failWhen (c.kind ≠ .group ∨ ¬sender.role.CanManageMembership)
      (newError .unauthorized "aggregate.validate_command" "moderation" "requires a group administrator")
    failWhen (command.reasonCode = "") (invalid "aggregate.validate_command" "reason_code" "is required")
  | .reactionCommitted =>
    failWhen (command.messageID = "" ∨ command.reaction = "")
      (invalid "aggregate.validate_command" "reaction" "message identity and reaction are required")
  | _ =>
    throw (newError .unsupportedTransition "aggregate.validate_command" "kind" "is not a supported ordinary command")

def validateOrdinaryCommand (c : Conversation) (command : Command) : Except Error Unit := do
  c.validateOrdinaryFields command
  forM command.deliveries fun delivery => do
    failWhen (delivery.kind = .directServicePlaintext) (newError .unauthorized "aggregate.validate_command" "delivery_kind"
      "direct_service_plaintext is restricted to the internal system sender")
    failWhen (delivery.kind ≠ c.expectedDeliveryKind command delivery)
      (newError .deliverySetMismatch "aggregate.validate_command" "delivery_kind"
        "does not match the command and Conversation kind")

/-! ### Membership changes -/

structure ChangeBatch where
  actorLifecycle : List (PTID × MembershipAction)
  (roleChanges deviceChanges : List PTID)
  endpointChanges : List String

namespace ChangeBatch

def empty : ChangeBatch := { actorLifecycle := [], roleChanges := [], deviceChanges := [], endpointChanges := [] }

/-- `recordEndpointChange`, together with the count of the actor's device changes. -/
def recordDevice (b : ChangeBatch) (change : MembershipChange) : Except Error ChangeBatch := do
  failWhen (change.endpoint.key ∈ b.endpointChanges)
    (newError .deviceConflict "aggregate.validate_membership_change_batch" "endpoint"
      "has conflicting changes within one transition")
  return { b with
    endpointChanges := change.endpoint.key :: b.endpointChanges
    deviceChanges := change.actor :: b.deviceChanges }

/-- An actor is added or removed once, and not together with a change of its role. -/
def recordLifecycle (b : ChangeBatch) (change : MembershipChange) : Except Error ChangeBatch := do
  failWhen ((b.actorLifecycle.lookup change.actor).isSome = true ∨ change.actor ∈ b.deviceChanges)
    (membershipConflict "actor lifecycle changes conflict within one transition")
  failWhen (change.actor ∈ b.roleChanges)
    (membershipConflict "actor role and lifecycle changes conflict within one transition")
  return { b with actorLifecycle := (change.actor, change.action) :: b.actorLifecycle }

def record (b : ChangeBatch) (change : MembershipChange) : Except Error ChangeBatch := do
  change.validate
  match change.action with
  | .addActor => do
    let b ← b.recordLifecycle change
    if change.device ≠ "" then b.recordDevice change else return b
  | .removeActor | .leave => b.recordLifecycle change
  | .changeRole => do
    failWhen ((b.actorLifecycle.lookup change.actor).isSome = true)
      (membershipConflict "actor role and lifecycle changes conflict within one transition")
    failWhen (change.actor ∈ b.roleChanges) (membershipConflict "actor role changes conflict within one transition")
    return { b with roleChanges := change.actor :: b.roleChanges }
  | .addDevice | .removeDevice => do
    failWhen (∃ action ∈ b.actorLifecycle.lookup change.actor, action ≠ .addActor)
      (membershipConflict "actor removal and device changes conflict within one transition")
    b.recordDevice change
  | .other _ => return b

end ChangeBatch

def validateMembershipChangeBatch (changes : List MembershipChange) : Except Error Unit := do
  failWhen (changes = []) (membershipConflict "membership transition must contain at least one change")
  let _ ← changes.foldlM ChangeBatch.record .empty

def addDevice (change : MembershipChange) (sequence : ℕ) : Method Conversation Error Unit := do
  let c ← receiver
  failWhen (c.isActiveEndpoint change.endpoint = true)
    (newError .deviceConflict "aggregate.add_device" "device" "is already active")
  let device ← MemberDevice.create change.endpoint change.homeStation sequence
  assign { c with devices := c.devices.insert device }

def addActor (change : MembershipChange) (sequence : ℕ) : Method Conversation Error Unit := do
  let c ← receiver
  failWhen (c.isActiveMember change.actor = true) (membershipConflict "actor is already active")
  failWhen (change.role = .owner) (newError .ownerProtected "aggregate.apply_membership_change" "role"
    "cannot assign a second owner")
  let added ← Member.create change.actor change.role change.homeStation sequence
  assign { c with members := c.members.insert added }
  if change.device ≠ "" then addDevice change sequence else pure ()

def withoutDevicesOf (c : Conversation) (actor : PTID) (sequence : ℕ) :
    Except Error (Registry MemberDevice MemberDevice.key) :=
  c.devices.updateM fun device =>
    if device.endpoint.actor = actor ∧ device.active = true then device.remove sequence
    else .ok device

def removeActor (change : MembershipChange) (sequence : ℕ) (status : MemberStatus) :
    Method Conversation Error Unit := do
  let c ← receiver
  failWhen (c.isActiveMember change.actor = false) (membershipConflict "actor is not active")
  failWhen (change.actor = c.owner) (newError .ownerProtected "aggregate.apply_membership_change" "actor"
    "owner cannot leave or be removed")
  let updated ← (c.memberOf change.actor).leave sequence status
  assign { c with members := c.members.insert updated }
  let devices ← c.withoutDevicesOf change.actor sequence
  assign { c with members := c.members.insert updated, devices }

def changeRole (change : MembershipChange) : Method Conversation Error Unit := do
  let c ← receiver
  failWhen (c.isActiveMember change.actor = false) (membershipConflict "actor is not active")
  failWhen (change.actor ≠ c.owner ∧ change.role = .owner)
    (newError .ownerProtected "aggregate.apply_membership_change" "role" "cannot assign a second owner")
  failWhen (change.actor = c.owner ∧ change.role ≠ .owner)
    (newError .ownerProtected "aggregate.apply_membership_change" "role" "owner role cannot be changed")
  let updated ← (c.memberOf change.actor).withRole change.role
  assign { c with members := c.members.insert updated }

def addMemberDevice (change : MembershipChange) (sequence : ℕ) :
    Method Conversation Error Unit := do
  let c ← receiver
  failWhen (c.isActiveMember change.actor = false) (membershipConflict "device actor is not active")
  failWhen (change.homeStation ≠ (c.memberOf change.actor).homeStation)
    (newError .deviceConflict "aggregate.apply_membership_change" "home_station" "must match the actor membership")
  addDevice change sequence

def removeDevice (change : MembershipChange) (sequence : ℕ) : Method Conversation Error Unit := do
  let c ← receiver
  let device ← orFail ((c.devices.find change.endpoint.key).filter fun device => device.active)
    (newError .deviceConflict "aggregate.apply_membership_change" "device" "is not active")
  let removed ← device.remove sequence
  assign { c with devices := c.devices.insert removed }

/-- One change of a batch, at the sequence of the event that will carry
it. -/
def applyMembershipChange (change : MembershipChange) (sequence : ℕ) :
    Method Conversation Error Unit := do
  change.validate
  match change.action with
  | .addActor => addActor change sequence
  | .removeActor => removeActor change sequence .removed
  | .leave => removeActor change sequence .left
  | .changeRole => changeRole change
  | .addDevice => addMemberDevice change sequence
  | .removeDevice => removeDevice change sequence
  | .other _ =>
    liftM (m := Except Error) (.error (newError .unsupportedTransition
      "aggregate.apply_membership_change" "action" "is not supported"))

/-! ### Member authority -/

def applyMemberAuthorityMutation (mutation : MemberAuthorityMutation) :
    Method Conversation Error Unit := do
  let c ← receiver
  failWhen (c.isActiveMember mutation.target = false)
    (newError .targetNotMember "aggregate.apply_member_authority_mutation" "target_ptid"
      "is not an active Conversation member")
  let target := c.memberOf mutation.target
  match mutation.action with
  | .updateMember => do
    let updated ← target.withAuthorityState mutation.role mutation.muted mutation.mutedUntil
    assign { c with members := c.members.insert updated }
  | .transferOwnership => do
    failWhen (mutation.previousOwner ≠ c.owner ∨ mutation.owner ≠ mutation.target ∨ mutation.owner = mutation.previousOwner)
      (newError .ownerProtected "aggregate.apply_member_authority_mutation" "owner" "transfer owner bindings are invalid")
    let updatedOwner ← (c.memberOf c.owner).withAuthorityState (some .admin) none none
    let updatedTarget ← target.withAuthorityState (some .owner) (some false) none
    assign { c with
      members := (c.members.insert updatedOwner).insert updatedTarget, owner := target.actor }
  | .other _ =>
    liftM (m := Except Error) (.error (newError .unsupportedTransition
      "aggregate.apply_member_authority_mutation" "action" "is not supported"))

def EqualMemberAuthorityState (left right : Member) : Prop :=
  left.role = right.role ∧ left.muted = right.muted ∧ left.mutedUntil = right.mutedUntil
deriving Decidable

def checkUpdateMember (c : Conversation) (command : MemberAuthorityCommand) :
    Except Error Unit := do
  let operator := c.memberOf command.sender.actor
  let target := c.memberOf command.target
  failWhen (command.role = none ∧ command.muted = none)
    (invalid "aggregate.apply_member_authority" "patch" "must update role or mute state")
  failWhen (command.target = c.owner) (newError .ownerProtected "aggregate.apply_member_authority" "target_ptid"
    "owner authority can only change through ownership transfer")
  failWhen (command.role = some .owner) (newError .ownerProtected "aggregate.apply_member_authority" "role"
    "owner role can only change through ownership transfer")
  failWhen (∃ role ∈ command.role, role ≠ .member ∧ role ≠ .admin)
    (invalid "aggregate.apply_member_authority" "role" "must be member or admin")
  failWhen (command.role ≠ none ∧ operator.role ≠ .owner)
    (newError .unauthorized "aggregate.apply_member_authority" "role" "only the owner may assign member or admin role")
  failWhen (command.muted ≠ none ∧ (¬operator.role.CanManageMembership ∨ operator.role = .admin ∧ target.role ≠ .member))
    (newError .unauthorized "aggregate.apply_member_authority" "muted" "operator cannot manage the target mute state")
  failWhen (command.muted = some true ∧ ∃ ends ∈ command.mutedUntil, ends ≤ command.committedAt)
    (newError .commandExpired "aggregate.apply_member_authority" "muted_until" "has expired")

def checkTransferOwnership (c : Conversation) (command : MemberAuthorityCommand) :
    Except Error Unit := do
  failWhen (command.sender.actor ≠ c.owner ∨ (c.memberOf command.sender.actor).role ≠ .owner)
    (newError .unauthorized "aggregate.apply_member_authority" "operator" "only the current owner may transfer ownership")
  failWhen (command.target = c.owner) (newError .ownerProtected "aggregate.apply_member_authority" "target_ptid"
    "is already the owner")
  failWhen (command.role ≠ none ∨ command.muted ≠ none ∨ command.mutedUntil ≠ none)
    (invalid "aggregate.apply_member_authority" "patch" "owner transfer does not accept member update fields")

/-- The mutation that a command asks for, once the operator is found entitled to it. -/
def authorizedMutation (c : Conversation) (command : MemberAuthorityCommand) :
    Except Error MemberAuthorityMutation :=
  let mutation : MemberAuthorityMutation := { command with
    mutedUntil := command.mutedUntil.map truncateMicros, previousOwner := c.owner
    owner := c.owner, fromMembershipEpoch := c.head.membershipEpoch
    toMembershipEpoch := next c.head.membershipEpoch }
  match command.action with
  | .updateMember => do
    c.checkUpdateMember command
    return mutation
  | .transferOwnership => do
    c.checkTransferOwnership command
    return { mutation with role := some .owner, muted := some false, owner := command.target }
  | .other _ => throw (newError .unsupportedTransition "aggregate.apply_member_authority" "action" "is not supported")

/-! ### The operations -/

def applyCommand (command : Command) : Method Conversation Error Transition := do
  let c ← receiver
  failWhen (command.kind = .membershipCommitted ∨ command.kind = .conversationSettings ∨
    command.kind = .conversationDissolved ∨ command.kind = .conversationCreated)
    (newError .unsupportedTransition "aggregate.apply_command" "kind" "requires a dedicated aggregate transition")
  c.validateCommand command
  c.validateOrdinaryCommand command
  commit command.id command.sender (Fact.newCommandCommitted command.kind command.messageID command.payload)
    command.deliveries command.objectIDs command.committedAt command.eventSealer

def expectedMembershipDeliveryKind (transition : MembershipTransition)
    (delivery : PreparedDelivery) : DeliveryKind :=
  let pre := transition.preEndpoints.map Endpoint.key
  let post := transition.postEndpoints.map Endpoint.key
  let key := delivery.recipient.key
  if key ∈ pre ∧ key ∉ post then .mlsRetirement
  else if key ∈ post ∧ key ∉ pre then .mlsWelcome
  else if delivery.recipient = transition.sender then .publicEvent
  else .mlsCommit

def validateMembershipDeliveryKinds (transition : MembershipTransition) : Except Error Unit :=
  forM transition.deliveries fun delivery =>
    failWhen (delivery.kind ≠ expectedMembershipDeliveryKind transition delivery)
      (newError .deliverySetMismatch "aggregate.validate_membership" "delivery_kind"
        "does not match the endpoint role in the MLS transition")

/-- The checks of a membership transition against the state before it. -/
def validateMembershipTransition (c : Conversation) (transition : MembershipTransition) :
    Except Error Unit := do
  failWhen (c.kind ≠ .group) (newError .membershipConflict "aggregate.apply_membership" "conversation"
    "membership transition requires a group conversation")
  c.validateCommandBase transition.toCommand
  failWhen (transition.kind ≠ .membershipCommitted ∨ transition.transitionID = "" ∨
    transition.authorityPlanID = "" ∨ transition.authorityPlanHash = 0 ∨
    transition.fromMembership ≠ c.head.membershipEpoch ∨
    transition.fromMLS ≠ c.head.mlsEpoch ∨ transition.toMLS ≠ next c.head.mlsEpoch)
    (newError .staleMembershipEpoch "aggregate.apply_membership" "authority_plan"
      "does not match the current aggregate head")
  failWhen (transition.deliveryPlanHash ≠ transition.authorityPlanHash)
    (newError .authorityPlanStale "aggregate.apply_membership" "delivery_plan_hash" "does not match the authority plan")
  failWhen (¬(c.memberOf transition.sender.actor).role.CanManageMembership)
    (newError .unauthorized "aggregate.apply_membership" "sender" "does not manage membership")
  validateMembershipChangeBatch transition.changes

/-- One round of the loop over the changes: nobody but the owner authors its own departure. -/
def applyAuthoredChange (operation : String) (owner sender : PTID) (sequence : ℕ)
    (change : MembershipChange) : Method Conversation Error Unit := do
  failWhen (change.action = .leave ∧ change.actor = sender ∧ change.actor ≠ owner)
    (newError .unauthorized operation "leave" "departing actor cannot author its own MLS removal")
  applyMembershipChange change sequence

/-- The endpoint sets and deliveries of a transition against the states before and after it. -/
def validateMembershipDeliveries (transition : MembershipTransition)
    (preEndpoints postEndpoints : List Endpoint) : Except Error Unit := do
  failWhen (¬EqualEndpointSets preEndpoints transition.preEndpoints)
    (newError .deliverySetMismatch "aggregate.apply_membership" "pre_endpoints"
      "does not match the aggregate pre-transition leaf set")
  failWhen (¬EqualEndpointSets postEndpoints transition.postEndpoints)
    (newError .deliverySetMismatch "aggregate.apply_membership" "post_endpoints"
      "does not match the aggregate post-transition leaf set")
  let requiredEndpoints := endpointUnion preEndpoints postEndpoints
  failWhen (¬EqualEndpointSets requiredEndpoints transition.requiredEndpoints)
    (newError .deliverySetMismatch "aggregate.apply_membership" "required_endpoints"
      "does not match the transition endpoint union")
  validateExactDeliverySet requiredEndpoints transition.deliveries
  validateMembershipDeliveryKinds transition

/-- The state with the epochs of an event that is about to be committed. -/
def withEpochs (c : Conversation) (membershipEpoch mlsEpoch : ℕ) : Conversation :=
  { c with head := { c.head with membershipEpoch, mlsEpoch } }

def applyMembershipTransition (transition : MembershipTransition) :
    Method Conversation Error Transition := do
  let c ← receiver
  c.validateMembershipTransition transition
  onClone do
    let nextSequence := next c.head.sequence
    forM transition.changes (applyAuthoredChange "aggregate.apply_membership" c.owner transition.sender.actor
      nextSequence)
    let candidate ← receiver
    candidate.validateState nextSequence
    validateMembershipDeliveries transition c.activeEndpoints candidate.activeEndpoints
    let candidate := candidate.withEpochs (next candidate.head.membershipEpoch) transition.toMLS
    assign candidate
    commit transition.id transition.sender
      { Fact.newMembershipTransition transition.changes transition.payload with
        postState := some candidate.eventState }
      transition.deliveries transition.objectIDs transition.committedAt transition.eventSealer

/-- The checks of a member authority command against the state before it. -/
def validateMemberAuthority (c : Conversation) (command : MemberAuthorityCommand) :
    Except Error Unit := do
  failWhen (c.kind ≠ .group) (newError .membershipConflict "aggregate.apply_member_authority" "conversation"
    "member authority mutation requires a group conversation")
  failWhen (command.kind ≠ .memberAuthority) (newError .unsupportedTransition "aggregate.apply_member_authority" "kind"
    "is not a member authority command")
  c.validateCommand command.toCommand
  failWhen (¬command.observedScope.Equal c.scope ∨ command.observedAuthorityEpoch ≠ c.authorityEpoch ∨
    command.observedAuthorityHead.sequence ≠ c.head.sequence ∨ command.observedAuthorityHead.eventHash ≠ c.head.eventHash)
    (newError .staleAuthorityHead "aggregate.apply_member_authority" "authority_head"
      "does not match the current Conversation authority")
  failWhen (command.deadline = 0 ∨ command.deadline ≤ command.committedAt)
    (newError .commandExpired "aggregate.apply_member_authority" "deadline" "has expired")
  failWhen (c.isActiveMember command.target = false)
    (newError .targetNotMember "aggregate.apply_member_authority" "target_ptid" "is not an active Conversation member")

def applyMemberAuthority (command : MemberAuthorityCommand) :
    Method Conversation Error Transition := do
  let c ← receiver
  c.validateMemberAuthority command
  let mutation ← c.authorizedMutation command
  onClone do
    applyMemberAuthorityMutation mutation
    let candidate ← receiver
    failWhen (command.action = .updateMember ∧ EqualMemberAuthorityState
      (c.memberOf command.target) (candidate.memberOf command.target))
      (invalid "aggregate.apply_member_authority" "patch" "does not change the target member authority state")
    let candidate := candidate.withEpochs (next candidate.head.membershipEpoch) candidate.head.mlsEpoch
    assign candidate
    candidate.validateState (next candidate.head.sequence)
    commit command.id command.sender { Fact.newMemberAuthority mutation command.payload with
      postState := some candidate.eventState }
      command.deliveries command.objectIDs command.committedAt command.eventSealer

def updateSettings (command : SettingsCommand) : Method Conversation Error Transition := do
  let c ← receiver
  c.validateCommand command.toCommand
  command.patch.validate
  failWhen (c.kind = .group ∧ ¬(c.memberOf command.sender.actor).role.CanManageMembership)
    (newError .unauthorized "aggregate.update_settings" "sender" "does not manage group settings")
  onClone do
    assign { c with settings := c.settings.apply command.patch.normalized }
    commit command.id command.sender (Fact.newSettingsChanged command.patch.normalized command.payload)
      command.deliveries command.objectIDs command.committedAt command.eventSealer

def dissolve (command : DissolveCommand) : Method Conversation Error Transition := do
  let c ← receiver
  failWhen (c.kind ≠ .group) (newError .unsupportedTransition "aggregate.dissolve" "conversation"
    "only group conversations can be dissolved")
  c.validateCommand command.toCommand
  failWhen (command.sender.actor ≠ c.owner) (newError .unauthorized "aggregate.dissolve" "sender"
    "only the owner may dissolve the conversation")
  onClone do
    assign { c with status := .dissolved }
    commit command.id command.sender (Fact.newConversationDissolved command.payload)
      command.deliveries command.objectIDs command.committedAt command.eventSealer

/-- The checks of a service message: a direct conversation of two local members, written by the
system device of one and delivered to the other. -/
def validateSystemServiceMessage (c : Conversation) (input : SystemServiceMessageInput) :
    Except Error Unit := do
  failWhen (c.kind ≠ .direct) (newError .deliverySetMismatch "aggregate.commit_system_service_message" "conversation"
    "service plaintext is allowed only in a direct conversation")
  failWhen (¬c.status.Writable)
    (newError .inactive "aggregate.commit_system_service_message" "conversation" "is not writable")
  failWhen (input.senderActor = "" ∨ input.recipient = "" ∨ input.senderActor = input.recipient)
    (invalid "aggregate.commit_system_service_message" "sender_recipient"
      "two distinct sender and recipient actors are required")
  failWhen (input.sender.actor ≠ input.senderActor)
    (newError .unauthorized "aggregate.commit_system_service_message" "sender"
      "service plaintext must be authored by the delegated sender")
  failWhen (input.sender.device ≠ systemStationDeviceID)
    (newError .unauthorized "aggregate.commit_system_service_message" "sender.device"
      "service plaintext must use the reserved Station system device")
  failWhen (c.isActiveMember input.senderActor = false ∨ c.isActiveMember input.recipient = false)
    (newError .unauthorized "aggregate.commit_system_service_message" "members"
      "the sender and recipient must both be active conversation members")
  failWhen (c.activeMemberActors.length ≠ 2)
    (newError .deliverySetMismatch "aggregate.commit_system_service_message" "members"
      "a service-plaintext direct conversation has exactly two active members")
  failWhen ((c.memberOf input.senderActor).homeStation ≠ c.authorityStation ∨
    (c.memberOf input.recipient).homeStation ≠ c.authorityStation)
    (newError .unauthorized "aggregate.commit_system_service_message" "home_station"
      "service plaintext v1 is forbidden across federated Stations")
  c.requireWritableSender input.sender
  failWhen (input.deliveries = []) (invalid "aggregate.commit_system_service_message" "deliveries"
    "at least one owner delivery is required")
  forM input.deliveries fun delivery => do
    failWhen (delivery.kind ≠ .directServicePlaintext)
      (newError .deliverySetMismatch "aggregate.commit_system_service_message" "delivery_kind"
        "system delivery must be direct_service_plaintext")
    failWhen (delivery.recipient.actor ≠ input.recipient)
      (newError .unauthorized "aggregate.commit_system_service_message" "recipient"
        "service plaintext v1 may target only the authorized recipient")

def commitSystemServiceMessage (input : SystemServiceMessageInput) :
    Method Conversation Error Transition := do
  let c ← receiver
  c.validateSystemServiceMessage input
  commit input.commandID input.sender (Fact.newSystemServiceMessage input.messageID input.payload)
    input.deliveries [] input.committedAt input.eventSealer

end Conversation

inductive Operation where
  | command (command : Command)
  | membership (transition : MembershipTransition)
  | memberAuthority (command : MemberAuthorityCommand)
  | settings (command : SettingsCommand)
  | dissolve (command : DissolveCommand)
  | systemServiceMessage (input : SystemServiceMessageInput)

namespace Operation

def run : Operation → Method Conversation Error Transition
  | .command cmd => Conversation.applyCommand cmd
  | .membership transition => Conversation.applyMembershipTransition transition
  | .memberAuthority cmd => Conversation.applyMemberAuthority cmd
  | .settings cmd => Conversation.updateSettings cmd
  | .dissolve cmd => Conversation.dissolve cmd
  | .systemServiceMessage input => Conversation.commitSystemServiceMessage input

def committedAt : Operation → Time
  | .command cmd => cmd.committedAt
  | .membership transition => transition.committedAt
  | .memberAuthority cmd => cmd.committedAt
  | .settings cmd => cmd.committedAt
  | .dissolve cmd => cmd.committedAt
  | .systemServiceMessage input => input.committedAt

def eventSealer : Operation → Option Sealer
  | .command cmd => cmd.eventSealer
  | .membership transition => transition.eventSealer
  | .memberAuthority cmd => cmd.eventSealer
  | .settings cmd => cmd.eventSealer
  | .dissolve cmd => cmd.eventSealer
  | .systemServiceMessage input => input.eventSealer

end Operation

end

end PeersTouch.Chat
