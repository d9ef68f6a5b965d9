import PeersTouch.Chat.Store

/-!
# Follower Stations

A Station that is not the authority of a conversation follows it: it applies the events of the
authority in their order, keeps those that arrive before their turn, and becomes read-only when the
events contradict each other. This is `ApplyFollowerEvent` of `application/command/projections.go`
with the repository it writes to.

An event that shows its state is applied twice. The state it shows is taken as it is, and the change
it declares is carried out on the state the follower has; the two must agree on everything that the
authority shows (`reconcileCommittedMembershipProjection`).
-/

namespace PeersTouch.Chat

open Lib Method

/-! ### Agreement on what the authority shows -/

namespace Conversation

/-- The same members, whatever their lifecycle. -/
def EqualCommittedMembers (left right : List Member) : Prop := left.length = right.length ∧
    (∀ member ∈ right, ∃ want ∈ (left.foldl Registry.insert (∅ : Registry Member Member.actor)).find member.actor,
      member.role = want.role ∧ member.status = want.status ∧
        member.homeStation = want.homeStation ∧ member.muted = want.muted ∧ member.mutedUntil = want.mutedUntil) ∧
    (right.map Member.actor).Nodup
deriving Decidable

/-- The same devices, whatever their lifecycle. -/
def EqualCommittedMemberDevices (left right : List MemberDevice) : Prop :=
  left.length = right.length ∧ (∀ device ∈ right, ∃ want ∈ (left.foldl Registry.insert
      (∅ : Registry MemberDevice MemberDevice.key)).find device.key,
    device.endpoint = want.endpoint ∧ device.homeStation = want.homeStation ∧ device.active = want.active) ∧
    (right.map MemberDevice.key).Nodup
deriving Decidable

def membershipProjectionError (message : String) : Error :=
  newError .hashChainInvalid "aggregate.validate_membership_projection" "post_state" message

def asProjectionError {α : Type} : Except Error α → Except Error α
  | .ok a => .ok a
  | .error e => .error (membershipProjectionError e.text)

section

variable [Digest]

/-- The declared changes, carried out on the current
state, must give the committed one. The result has the lifecycle data of the follower. -/
def reconcileCommittedMembershipProjection (current : Snapshot) (changes : List MembershipChange)
    (post : Snapshot) : Except Error Snapshot := do
  let conversation ← rehydrate current
  failWhen (conversation.kind ≠ .group) (membershipProjectionError "membership transition requires a group Conversation")
  failWhen (post.id ≠ current.id ∨ post.kind ≠ current.kind ∨ post.status ≠ current.status ∨
    ¬post.scope.Equal current.scope ∨ post.authorityStation ≠ current.authorityStation ∨
    post.authorityEpoch ≠ current.authorityEpoch ∨ post.owner ≠ current.owner ∨
    post.settings ≠ current.settings ∨ post.createdAt ≠ current.createdAt ∨
    post.head.sequence ≠ next current.head.sequence ∨ post.head.membershipEpoch ≠ next current.head.membershipEpoch ∨
    post.head.mlsEpoch ≠ next current.head.mlsEpoch)
    (membershipProjectionError "post-state scope, metadata, or authority head does not match the transition")
  asProjectionError (validateMembershipChangeBatch changes)
  let (candidate, _) ← asProjectionError
    ((forM changes (applyMembershipChange · post.head.sequence)).construct conversation)
  let candidate := candidate.withEpochs post.head.membershipEpoch post.head.mlsEpoch
  asProjectionError (candidate.validateState post.head.sequence)
  let expectedMembers := activeMembers candidate.members.values
  let expectedDevices := activeDevices candidate.devices.values
  failWhen (¬EqualCommittedMembers expectedMembers post.members ∨ ¬EqualCommittedMemberDevices expectedDevices post.devices)
    (membershipProjectionError "declared membership changes do not produce the committed post-state")
  return { post with members := expectedMembers, devices := expectedDevices }

def reconcileCommittedMemberAuthorityProjection (current : Snapshot)
    (mutation : MemberAuthorityMutation) (post : Snapshot) : Except Error Snapshot := do
  let conversation ← rehydrate current
  failWhen (conversation.kind ≠ .group)
    (membershipProjectionError "member authority transition requires a group Conversation")
  failWhen (post.id ≠ current.id ∨ post.kind ≠ current.kind ∨ post.status ≠ current.status ∨
    ¬post.scope.Equal current.scope ∨ post.authorityStation ≠ current.authorityStation ∨
    post.authorityEpoch ≠ current.authorityEpoch ∨ post.settings ≠ current.settings ∨
    post.createdAt ≠ current.createdAt ∨ post.head.sequence ≠ next current.head.sequence ∨
    post.head.membershipEpoch ≠ next current.head.membershipEpoch ∨ post.head.mlsEpoch ≠ current.head.mlsEpoch ∨
    mutation.fromMembershipEpoch ≠ current.head.membershipEpoch ∨ mutation.toMembershipEpoch ≠ post.head.membershipEpoch)
    (membershipProjectionError "member authority post-state does not match the current aggregate head")
  let (candidate, _) ← asProjectionError ((applyMemberAuthorityMutation mutation).construct conversation)
  let candidate := candidate.withEpochs post.head.membershipEpoch candidate.head.mlsEpoch
  asProjectionError (candidate.validateState post.head.sequence)
  let expected := candidate.snapshot
  failWhen (expected.owner ≠ post.owner ∨ ¬EqualCommittedMembers (activeMembers expected.members) post.members ∨
    ¬EqualCommittedMemberDevices (activeDevices expected.devices) post.devices)
    (membershipProjectionError "member authority mutation does not produce the committed post-state")
  return { post with
    owner := expected.owner, members := activeMembers expected.members
    devices := activeDevices expected.devices }

end

end Conversation

/-! ### The next state of a follower -/

structure FollowerProjection where
  conversation : Snapshot
  head : AuthorityHead
  status : FollowerStatus
  updatedAt : Time

def followerGapError : Error :=
  newError .staleAuthorityHead "application.apply_follower_event" "sequence"
    "authority event gap is buffered and requires resynchronization"

def followerForkError : Error :=
  newError .hashChainInvalid "application.apply_follower_event" "event"
    "conflicts with the buffered authority event at the same sequence"

def followerReadOnlyError : Error :=
  newError .hashChainInvalid "application.apply_follower_event" "status"
    "follower is read-only until explicit resynchronization"

def followerEpochError (message : String) : Error :=
  newError .hashChainInvalid "application.apply_follower_event" "epochs" message

def followerStateShapeError (message : String) : Error :=
  newError .hashChainInvalid "application.apply_follower_event" "post_state" message

def SameFollowerEvent (left right : Record) : Prop :=
  left.id = right.id ∧ left.conversationID = right.conversationID ∧
    left.sequence = right.sequence ∧ left.hashScheme = right.hashScheme ∧
    left.hash = right.hash ∧ left.encodedBytes = right.encodedBytes
deriving Decidable

/-- `authorityHeadFromEvent`. -/
def Record.authorityHead (event : Record) : AuthorityHead := { event with eventHash := event.hash }

def validateFollowerGenesisEpochs (event : Record) (state : ConversationState) :
    Except Error Unit := do
  failWhen (state.membershipEpoch ≠ event.membershipEpoch ∨ state.mlsEpoch ≠ event.mlsEpoch)
    (followerEpochError "creation post-state epochs disagree with the authority event")
  match state.kind with
  | .direct =>
    failWhen (event.membershipEpoch ≠ 1 ∨ event.mlsEpoch ≠ 0) (followerEpochError
      "direct creation must start at membership epoch one and MLS epoch zero")
  | .group =>
    failWhen (event.membershipEpoch ≠ 1 ∨ event.mlsEpoch ≠ 1)
      (followerEpochError "group creation must start at membership and MLS epoch one")
  | .other _ => throw (followerEpochError "creation event has an unsupported Conversation kind")

def validateFollowerCreationProjection (event : Record) (snapshot : Snapshot) :
    Except Error Unit := do
  let mismatch := followerStateShapeError "creation fact does not match the committed Conversation post-state"
  let created ← orFail event.fact.created mismatch
  failWhen (created.kind ≠ snapshot.kind ∨ created.owner ≠ snapshot.owner ∨ created.name ≠ snapshot.settings.name ∨
    created.members.length ≠ snapshot.members.length) mismatch
  failWhen ("" ∈ created.members) (followerStateShapeError "creation fact contains an empty member")
  failWhen (¬created.members.Nodup) (followerStateShapeError "creation fact contains duplicate members")
  forM snapshot.members fun member =>
    failWhen (member.actor ∉ created.members)
      (followerStateShapeError "creation fact members do not match the committed post-state")

def validateFollowerEventStateShape (event : Record) : Except Error Unit :=
  match event.fact.kind with
  | .membershipCommitted | .memberAuthority =>
    failWhen (event.fact.postState = none) (followerStateShapeError
      "membership authority event must contain the complete post-transition state")
  | .messageCommitted | .messageForwarded | .messageEdited | .messageRetracted
  | .messageHiddenForActor | .messageModerated | .reactionCommitted | .messagePinCommitted
  | .conversationSettings | .conversationDissolved =>
    failWhen (event.fact.postState ≠ none) (followerStateShapeError "ordinary event cannot replace Conversation state")
  | .conversationCreated => .error (followerStateShapeError "creation event is valid only at sequence one")
  | .systemServiceMessageCommitted | .other _ =>
    .error (followerStateShapeError "event kind is not supported by the follower projection")

def validateFollowerEpochTransition (current : Snapshot) (event : Record) : Except Error Unit := do
  failWhen (∃ state ∈ event.fact.postState, state.membershipEpoch ≠ event.membershipEpoch ∨ state.mlsEpoch ≠ event.mlsEpoch)
    (followerEpochError "post-state epochs disagree with the authority event")
  if current.kind = .direct then
    failWhen (event.fact.kind = .membershipCommitted ∨ event.membershipEpoch ≠ current.head.membershipEpoch ∨
      event.mlsEpoch ≠ current.head.mlsEpoch)
      (followerEpochError "direct events cannot change membership or MLS epochs")
  else if event.fact.kind = .membershipCommitted then
    failWhen (event.membershipEpoch ≠ next current.head.membershipEpoch ∨ event.mlsEpoch ≠ next current.head.mlsEpoch)
      (followerEpochError "membership events must advance both group epochs by exactly one")
  else if event.fact.kind = .memberAuthority then
    failWhen (event.membershipEpoch ≠ next current.head.membershipEpoch ∨ event.mlsEpoch ≠ current.head.mlsEpoch)
      (followerEpochError "member authority events must advance membership epoch only")
  else
    failWhen (event.membershipEpoch ≠ current.head.membershipEpoch ∨ event.mlsEpoch ≠ current.head.mlsEpoch)
      (followerEpochError "ordinary events cannot change group epochs")

section

variable [Digest]

/-- The state that an event shows, if it is complete and can be loaded. -/
def snapshotFromEventState (event : Record) (createdAt : Time) (status : ConversationStatus)
    (state : ConversationState) : Except Error Snapshot := do
  let head := event.authorityHead
  failWhen (¬state.scope.IsFederation ∨ state.authorityEpoch = 0 ∨
    state.membershipEpoch ≠ head.membershipEpoch ∨ state.mlsEpoch ≠ head.mlsEpoch ∨
    state.activeMembers.length = 0 ∨ state.activeDevices.length = 0 ∨
    ¬EqualEndpointSets ((Conversation.activeDevices state.activeDevices).map
      MemberDevice.endpoint) state.activeEndpoints)
    (invalid "application.apply_follower_event" "post_state"
      "must contain a federation scope and the complete active member and endpoint state")
  let snapshot : Snapshot := { state with
    id := event.conversationID, status, authorityStation := event.authorityStation, head
    members := state.activeMembers, devices := state.activeDevices, createdAt
    updatedAt := event.committedAt }
  let _ ← Conversation.rehydrate snapshot
  return snapshot

def deriveGenesis (event : Record) : Except Error FollowerProjection := do
  let incomplete := invalid "application.apply_follower_event" "event"
    "first follower event must contain a complete creation post-state"
  failWhen (event.fact.kind ≠ .conversationCreated) incomplete
  let state ← orFail event.fact.postState incomplete
  validateFollowerGenesisEpochs event state
  let snapshot ← snapshotFromEventState event event.committedAt .active state
  validateFollowerCreationProjection event snapshot
  return { conversation := snapshot, head := event.authorityHead, status := .active
           updatedAt := event.committedAt }

def deriveFromPostState (current : Snapshot) (event : Record) (state : ConversationState) :
    Except Error Snapshot := do
  failWhen (¬state.scope.Equal current.scope ∨ state.authorityEpoch ≠ current.authorityEpoch)
    (newError .hashChainInvalid "application.apply_follower_event" "authority_scope"
      "does not match the established follower authority scope")
  let snapshot ← snapshotFromEventState event current.createdAt current.status state
  if event.fact.kind = .membershipCommitted then
    Conversation.reconcileCommittedMembershipProjection current event.fact.membershipChanges
      snapshot
  else if event.fact.kind = .memberAuthority then do
    let mutation ← orFail event.fact.memberAuthority
      (followerStateShapeError "member authority event is missing its mutation")
    Conversation.reconcileCommittedMemberAuthorityProjection current mutation snapshot
  else return snapshot

def deriveSnapshot (current : Snapshot) (event : Record) : Except Error Snapshot :=
  match event.fact.postState with
  | some state => deriveFromPostState current event state
  | none =>
    if event.fact.kind = .conversationSettings then
      .ok { current with settings := current.settings.apply event.fact.settingsPatch }
    else if event.fact.kind = .conversationDissolved then
      .ok { current with status := .dissolved }
    else .ok current

def deriveNext (current : FollowerProjection) (event : Record) :
    Except Error FollowerProjection := do
  failWhen (current.conversation.authorityStation ≠ event.authorityStation)
    (newError .hashChainInvalid "application.apply_follower_event" "authority_station"
      "does not match the established follower authority")
  validateFollowerEventStateShape event
  validateFollowerEpochTransition current.conversation event
  let snapshot ← deriveSnapshot current.conversation event
  let snapshot := { snapshot with head := event.authorityHead, updatedAt := event.committedAt }
  let _ ← Conversation.rehydrate snapshot
  return { conversation := snapshot, head := event.authorityHead, status := current.status
           updatedAt := event.committedAt }

def deriveFollowerProjection (current : Option FollowerProjection) (event : Record) :
    Except Error FollowerProjection :=
  match current with
  | none =>
    if event.sequence = 1 then deriveGenesis event
    else .error (newError .staleAuthorityHead "application.apply_follower_event" "sequence"
      "follower state is missing before a non-genesis event")
  | some current =>
    if event.sequence = 1 then
      .ok { current with
        head := event.authorityHead
        conversation := { current.conversation with head := event.authorityHead } }
    else deriveNext current event

end

/-! ### The follower repository -/

/-- `followerFromModel`: a stored head, if its snapshot can be loaded and agrees with the columns. -/
def FollowerHead.projection [Digest] (row : FollowerHead) (status : FollowerStatus) :
    Except Error FollowerProjection := do
  let snapshot := row.snapshot
  let _ ← Conversation.rehydrate snapshot
  failWhen (¬snapshot.scope.IsFederation ∨ snapshot.scope.federationIDOrEmpty ≠ row.federationID ∨
    snapshot.authorityStation ≠ row.authorityStation ∨ snapshot.authorityEpoch ≠ row.authorityEpoch)
    (newError .hashChainInvalid "persistence.decode_follower" "authority_scope"
      "indexed authority scope disagrees with the canonical follower snapshot")
  let indexedHead : AuthorityHead :=
    { sequence := row.sequence, eventHash := row.eventHash
      membershipEpoch := row.membershipEpoch, mlsEpoch := row.mlsEpoch }
  failWhen (snapshot.id ≠ row.conversationID ∨ snapshot.head ≠ indexedHead)
    (newError .hashChainInvalid "persistence.decode_follower" "authority_head"
      "indexed identity or head disagrees with the canonical follower snapshot")
  return { conversation := snapshot, head := indexedHead, status, updatedAt := row.updatedAt }

namespace Station

def statusOf (s : Station) (id : ConversationID) : Option FollowerStatus :=
  (s.followerStates.find id).map FollowerState.status

/-- `followerRepository.Get`. -/
def getFollower [Digest] (s : Station) (id : ConversationID) : Except Error FollowerProjection := do
  let row ← orFail (s.followerHeads.find id) (notFound "get follower projection")
  let status ← orFail (s.statusOf id) (notFound "get follower status")
  row.projection status

def withStatus (s : Station) (id : ConversationID) (status : FollowerStatus) : Station :=
  { s with followerStates := s.followerStates.insert { conversationID := id, status } }

/-- A follower that is read-only stays so. -/
def setStatus (id : ConversationID) (status : FollowerStatus) : Method Station Error Unit := do
  let s ← receiver
  failWhen (s.statusOf id = some .readOnly ∧ status ≠ .readOnly)
    (newError .hashChainInvalid "persistence.set_follower_status" "status"
      "read-only follower protection requires explicit resynchronization")
  assign (s.withStatus id status)

def markFollowerReadOnly {α : Type} (id : ConversationID) (reason : String) :
    Method Station Error α := do
  setStatus id .readOnly
  fail (newError .hashChainInvalid "persistence.apply_follower_event" "event" reason)

def markFollowerResyncRequired {α : Type} (id : ConversationID) (reason : String) :
    Method Station Error α := do
  setStatus id .resyncRequired
  fail (newError .staleAuthorityHead "persistence.apply_follower_event" "event" reason)

/-- May the event follow the stored head?  It is `false` if it is the stored head already. -/
def checkExisting (row : FollowerHead) (event : Record) : Method Station Error Bool :=
  let id := event.conversationID
  if row.sequence = event.sequence then
    if row.authorityStation = event.authorityStation ∧ row.eventHash = event.hash then pure false
    else markFollowerReadOnly id "same sequence has a different event hash"
  else if event.sequence < row.sequence then
    fail (newError .staleAuthorityHead "persistence.apply_follower_event" "sequence"
      "is older than the durable follower head")
  else if next row.sequence < event.sequence then
    markFollowerResyncRequired id "authority event sequence has a gap"
  else if row.authorityStation ≠ event.authorityStation then
    markFollowerReadOnly id "authority Station changed without a handover"
  else if row.eventHash ≠ event.previousHash then
    markFollowerReadOnly id "authority event previous hash mismatch"
  else pure true

def checkMissing (event : Record) : Method Station Error Bool := if event.sequence ≠ 1 then
    fail (newError .staleAuthorityHead "persistence.apply_follower_event" "sequence"
      "first follower event must be sequence one")
  else pure true

def headRow (projection : FollowerProjection) (event : Record) : FollowerHead := { event with
  federationID := projection.conversation.scope.federationIDOrEmpty
  authorityEpoch := projection.conversation.authorityEpoch, eventHash := event.hash
  snapshot := projection.conversation, updatedAt := event.committedAt }

def memberRows (projection : FollowerProjection) (event : Record) : List FollowerMember :=
  projection.conversation.members.map fun member =>
    { conversationID := event.conversationID, ptid := member.actor, status := member.status }

/-- The writes of `followerRepository.Apply`. -/
def writeFollower (projection : FollowerProjection) (event : Record) :
    Method Station Error Unit := do
  let s ← receiver
  assign { s with followerHeads := s.followerHeads.insert (headRow projection event) }
  setStatus event.conversationID .active
  let s ← receiver
  assign { s with
    followerMembers :=
      (s.followerMembers.filter fun row => row.conversationID ≠ event.conversationID) ++ memberRows projection event }

section

variable [Digest] (sealer : Sealer)

/-- `followerRepository.Apply`. -/
def applyFollower (projection : FollowerProjection) (event : Record) :
    Method Station Error Unit := do
  let event ← event.verify sealer
  failWhen (projection.head ≠ event.authorityHead ∨ projection.conversation.head ≠ event.authorityHead ∨
    projection.conversation.id ≠ event.conversationID ∨ projection.conversation.authorityStation ≠ event.authorityStation)
    (newError .hashChainInvalid "persistence.apply_follower_event" "projection"
      "does not match the verified authority event head")
  let s ← receiver
  let existing := s.followerHeads.find event.conversationID
  let status := s.statusOf event.conversationID
  failWhen (status = some .readOnly) (newError .hashChainInvalid "persistence.apply_follower_event" "projection"
    "requires an explicit resynchronization before applying more events")
  failWhen (status = some .degraded) (newError .staleAuthorityHead "persistence.apply_follower_event" "projection"
    "requires an explicit resynchronization before applying more events")
  failWhen (status = some .resyncRequired ∧ ∃ row ∈ existing, next row.sequence ≠ event.sequence)
    (newError .staleAuthorityHead "persistence.apply_follower_event" "projection"
      "is waiting for the next contiguous authority event")
  let proceed ← existing.elim (checkMissing event) (checkExisting · event)
  if proceed then writeFollower projection event else pure ()

def maxBufferedFollowerEvents : ℕ := 128

/-- Which of two such rows is found does not matter: a row that equals the
event is the only one. -/
def findBufferedEvent (s : Station) (event : Record) : Option Record :=
  s.pendingEvents.find? fun row =>
    row.conversationID = event.conversationID ∧ row.sequence = event.sequence ∨ row.id = event.id

/-- An event that is in the buffer already must be the same one. -/
def resolveBufferedEvent (event existing : Record) : Method Station Error Unit :=
  if existing = event then pure ()
  else do
    setStatus event.conversationID .readOnly
    fail (newError .hashChainInvalid "persistence.buffer_follower_event" "event"
      "same sequence has conflicting buffered event bytes")

def insertBuffered (event : Record) : Method Station Error Unit := do
  let s ← receiver
  if maxBufferedFollowerEvents ≤
      (s.pendingEvents.filter fun row => row.conversationID = event.conversationID).length then do
    setStatus event.conversationID .readOnly
    fail (newError .hashChainInvalid "persistence.buffer_follower_event" "buffer"
      "exceeded the bounded follower event capacity")
  else assign { s with pendingEvents := s.pendingEvents ++ [event] }

def buffer (event : Record) : Method Station Error Unit := do
  let event ← event.verify sealer
  let s ← receiver
  (s.findBufferedEvent event).elim (insertBuffered event) (resolveBufferedEvent event)

def decodeBufferedEvent (row : Record) : Except Error Record := row.verify sealer

/-- The first event in the buffer after the given sequence. -/
def nextBuffered (s : Station) (id : ConversationID) (after : ℕ) : Except Error Record := do
  let row ← orFail ((s.pendingEvents.filter fun row => row.conversationID = id ∧ after < row.sequence).argmin
    fun row => row.sequence)
    (notFound "get buffered follower event")
  decodeBufferedEvent sealer row

def getBuffered (s : Station) (id : ConversationID) (sequence : ℕ) : Except Error Record := do
  let row ← orFail (s.pendingEvents.find? fun row => row.conversationID = id ∧ row.sequence = sequence)
    (notFound "get buffered follower event")
  decodeBufferedEvent sealer row

end

def deleteBuffered (id : ConversationID) (sequence : ℕ) : Method Station Error Unit := do
  let s ← receiver
  assign { s with
    pendingEvents := s.pendingEvents.filter fun row => ¬(row.conversationID = id ∧ row.sequence = sequence) }

end Station

/-! ### Applying an event -/

section

open Station

variable [Digest] (sealer : Sealer)

/-- The follower becomes read-only, and the event is rejected for the given reason. -/
def rejectReadOnly (id : ConversationID) (reason : Error) :
    Method Station Error (Option Error) := do
  setStatus id .readOnly
  return some reason

/-- `x` and then `k`. An error that says that the chain is broken makes the follower read-only. -/
def unlessBroken {α : Type} (id : ConversationID) (x : Except Error α)
    (k : α → Method Station Error (Option Error)) : Method Station Error (Option Error) :=
  handle (liftM x) (·.IsCode .hashChainInvalid) (rejectReadOnly id) k

/-- Write the state after the event and the event itself. An error about the chain or the head
rejects the event, with what was written until then. -/
def recordApplied (projection : FollowerProjection) (event : Record)
    (k : Method Station Error (Option Error)) : Method Station Error (Option Error) :=
  handle (applyFollower sealer projection event) (fun e => e.IsCode .hashChainInvalid ∨ e.IsCode .staleAuthorityHead)
    (fun e => pure (some e))
    fun _ => do
      append sealer event
      deleteBuffered event.conversationID event.sequence
      k

/-- Apply the events of the buffer as far as they follow each other. Each
round takes an event out of the buffer, so as many rounds as it has events are enough. -/
def drainFollowerBuffer : ℕ → FollowerProjection → Method Station Error (Option Error)
  | 0, _ => fail (uncodedError "out of rounds")
  | rounds + 1, current => do
    let id := current.conversation.id
    let s ← receiver
    unlessBroken id (ifFound (s.nextBuffered sealer id current.head.sequence)) fun found =>
      found.elim (do setStatus id .active return none) fun event =>
          if event.sequence ≠ next current.head.sequence then do
            setStatus id .resyncRequired
            return some followerGapError
          else
            unlessBroken id (deriveFollowerProjection (some current) event) fun projection =>
              recordApplied sealer projection event (drainFollowerBuffer rounds projection)

/-- An event at or below the head must be the one that was applied there. -/
def checkApplied (event : Record) : Method Station Error (Option Error) := do
  let s ← receiver
  let applied ← ifFound (s.getBySequence sealer event.conversationID event.sequence)
  if ∃ row ∈ applied, SameFollowerEvent row event then return none
  else rejectReadOnly event.conversationID followerForkError

/-- An event that is not the next one waits in the buffer. -/
def bufferGap (event : Record) : Method Station Error (Option Error) :=
  handle (buffer sealer event) (·.IsCode .hashChainInvalid) (fun e => pure (some e)) fun _ => do
    setStatus event.conversationID .resyncRequired
    return some followerGapError

def applyNext (current : Option FollowerProjection) (event : Record) :
    Method Station Error (Option Error) := do
  let id := event.conversationID
  let s ← receiver
  unlessBroken id (ifFound (s.getBuffered sealer id event.sequence)) fun buffered =>
    if ∃ row ∈ buffered, ¬SameFollowerEvent row event then rejectReadOnly id followerForkError
    else
      unlessBroken id (deriveFollowerProjection current event) fun projection =>
        recordApplied sealer projection event do
          let s ← receiver
          drainFollowerBuffer sealer (s.pendingEvents.length + 1) projection

/-- The body of the transaction of `ApplyFollowerEvent`. -/
def applyVerifiedEvent (event : Record) : Method Station Error (Option Error) := do
  let id := event.conversationID
  let s ← receiver
  failWhen ((s.conversations.find id).isSome = true)
    (newError .commandConflict "application.apply_follower_event" "conversation_id" "already exists as a local authority")
  let current ← ifFound (s.getFollower id)
  if s.statusOf id = some .readOnly then return some followerReadOnlyError
  else if ∃ follower ∈ current, follower.conversation.authorityStation ≠ event.authorityStation then
    rejectReadOnly id (newError .hashChainInvalid "application.apply_follower_event" "authority_station"
      "does not match the established follower authority")
  else if ∃ follower ∈ current, event.sequence ≤ follower.head.sequence then
    checkApplied sealer event
  else if current = none ∧ 1 < event.sequence ∨ ∃ follower ∈ current, next follower.head.sequence < event.sequence then
    bufferGap sealer event
  else applyNext sealer current event

def applyFollowerEvent (event : Record) : Method Station Error Unit := do
  let event ← event.verify sealer
  failWhen (event.hashScheme ≠ .transport) (newError .hashChainInvalid "application.apply_follower_event" "hash_scheme"
    "follower events require the canonical transport hash scheme")
  transaction (applyVerifiedEvent sealer event)

end

end PeersTouch.Chat
