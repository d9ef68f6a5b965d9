import PeersTouch.Actors.Actor

/-!
# Blocking another actor

The domain of directional relationships, `domain/federated_relationship.go`. An actor blocks or unblocks another one
by a command that a device of theirs signs. A command that changes the state becomes an event, and the events of a
pair of actors form a chain: each has the next revision and the hash of the one before.

* **Heads.**  A Station keeps the state after the last event of a pair, with the hash and the bytes of that event.
* **Revisions** are 64-bit numbers, and the one after the last wraps around.
-/

namespace PeersTouch.Social

open Lib Protobuf Chat Federation

/-! ### Commands -/

inductive SocialRelationshipAction where
  | unspecified | block | unblock
  | other (code : ℤ)
deriving DecidableEq

def SocialRelationshipAction.number : SocialRelationshipAction → ℤ
  | unspecified => 0
  | block => 1
  | unblock => 2
  | other code => code

structure SocialRelationshipCommandBody where
  formatVersion : ℕ := 0
  commandID : String := ""
  action : SocialRelationshipAction := .unspecified
  actor : Option ActorRef := none
  targetActor : Option ActorRef := none
  actorHomeStationPeerID : String := ""
  targetHomeStationPeerID : String := ""
  observedRevision : ℤ := 0
  createdAt : Option Timestamp := none
  expiresAt : Option Timestamp := none
  authorizingDevice : Option ActorDeviceRef := none
  unknown : Bytes := []

namespace SocialRelationshipCommandBody

def getDevice (body : SocialRelationshipCommandBody) : ActorDeviceRef := body.authorizingDevice.getD {}

def marshal (body : SocialRelationshipCommandBody) : Bytes :=
  writeInt 1 body.formatVersion ++ writeString 2 body.commandID ++ writeInt 3 body.action.number ++
    writeActor 4 body.actor ++ writeActor 5 body.targetActor ++
    writeString 6 body.actorHomeStationPeerID ++ writeString 7 body.targetHomeStationPeerID ++
    writeInt 8 body.observedRevision ++ writeTimestamp 9 body.createdAt ++ writeTimestamp 10 body.expiresAt ++
    (body.authorizingDevice.map fun d => writeDelimited 11 d.marshal).getD [] ++ body.unknown

end SocialRelationshipCommandBody

structure SocialRelationshipCommand where
  body : Option SocialRelationshipCommandBody
  signingKeyID : String
  actorDeviceSignature : Bytes
  unknown : Bytes := []

namespace SocialRelationshipCommand

def getBody (command : SocialRelationshipCommand) : SocialRelationshipCommandBody := command.body.getD {}

/-- The fields that the command and its signing input have in common. -/
def marshalSigned (command : SocialRelationshipCommand) : Bytes :=
  (command.body.map fun b => writeDelimited 1 b.marshal).getD [] ++ writeString 2 command.signingKeyID

def marshal (command : SocialRelationshipCommand) : Bytes :=
  command.marshalSigned ++ writeBytes 3 command.actorDeviceSignature ++ command.unknown

/-- `CanonicalSocialRelationshipSigningBytes`. -/
def signingBytes (command : SocialRelationshipCommand) : Except FederationError Bytes := do
  let invalid := newFederationError .invalidArgument "social.canonical_relationship_signing_bytes"
  failWhen (command.body = none) (invalid "command.body" "is required")
  failWhen (command.unknown ≠ [] ∨ command.getBody.unknown ≠ []) (invalid "command" "contains unknown fields")
  return command.marshalSigned

end SocialRelationshipCommand

def validateSocialRelationshipIdentifier (operation field value : String) :
    Except FederationError Unit :=
  failWhen (BadIdentifier value) (newFederationError .invalidArgument operation field "is required, canonical, and bounded")

def commandError (code : FederationErrorCode) (field message : String) : FederationError :=
  newFederationError code "social.validate_relationship_command" field message

def validateSocialRelationshipCommandTimes (body : SocialRelationshipCommandBody) (now : Time) :
    Except FederationError Unit := do
  let (createdAt, expiresAt) ← orFail (commandTimes body.createdAt body.expiresAt)
    (commandError .invalidArgument "created_at" "and expires_at must be valid timestamps")
  failWhen (OutsideLifetime createdAt.asTime expiresAt.asTime now)
    (commandError .invalidArgument "expires_at" "is outside the accepted command lifetime")

/-- Whether the command or a message in it has a field that the Station does not know. -/
def SocialRelationshipCommand.HasUnknownFields (command : SocialRelationshipCommand) : Prop :=
  command.unknown ≠ [] ∨ command.getBody.unknown ≠ [] ∨ (getActor command.getBody.actor).unknown ≠ [] ∨
    (getActor command.getBody.targetActor).unknown ≠ [] ∨ command.getBody.getDevice.unknown ≠ [] ∨
    (getActor command.getBody.getDevice.actor).unknown ≠ []
deriving Decidable

def SocialRelationshipCommand.identifiers (command : SocialRelationshipCommand)
    (localStationPeerID : String) : List (String × String) :=
  [("command_id", command.getBody.commandID), ("actor_home_station_peer_id", command.getBody.actorHomeStationPeerID),
    ("target_home_station_peer_id", command.getBody.targetHomeStationPeerID), ("signing_key_id", command.signingKeyID),
    ("authorizing_device.device_id", command.getBody.getDevice.deviceID), ("local_station_peer_id", localStationPeerID)]

def validateSocialRelationshipCommand (command : SocialRelationshipCommand)
    (localStationPeerID : String) (now : Time) : Except FederationError Unit := do
  let body := command.getBody
  failWhen (command.body = none) (commandError .invalidArgument "command.body" "is required")
  failWhen command.HasUnknownFields (commandError .invalidArgument "command" "contains unknown fields")
  failWhen (body.formatVersion ≠ 1) (commandError .invalidArgument "format_version" "is unsupported")
  (command.identifiers localStationPeerID).forM fun p =>
    validateSocialRelationshipIdentifier "social.validate_relationship_command" p.1 p.2
  validateHumanActorRef "social.validate_relationship_command" "actor" body.actor
  validateHumanActorRef "social.validate_relationship_command" "target_actor" body.targetActor
  failWhen ((getActor body.actor).ptid = (getActor body.targetActor).ptid)
    (commandError .invalidArgument "target_actor.ptid" "must differ from actor.ptid")
  failWhen (body.actorHomeStationPeerID ≠ localStationPeerID)
    (commandError .unauthorized "actor_home_station_peer_id" "must be the local Home Station")
  failWhen ((getActor body.getDevice.actor).ptid ≠ (getActor body.actor).ptid)
    (commandError .unauthorized "authorizing_device.actor" "must match the relationship actor")
  failWhen (body.action ≠ .block ∧ body.action ≠ .unblock) (commandError .invalidArgument "action" "is unspecified")
  failWhen (body.observedRevision < 0) (commandError .invalidArgument "observed_revision" "must be non-negative")
  failWhen (command.actorDeviceSignature.length ≠ 64)
    (commandError .invalidSignature "actor_device_signature" "has an invalid length")
  validateSocialRelationshipCommandTimes body now

/-! ### Events -/

inductive InvalidationClass where
  | unspecified | follow | friendRequestEligibility | privateContentGrant | conversationEntry
  | other (code : ℤ)
deriving DecidableEq

def InvalidationClass.number : InvalidationClass → ℤ
  | unspecified => 0
  | follow => 1
  | friendRequestEligibility => 2
  | privateContentGrant => 3
  | conversationEntry => 4
  | other code => code

structure SocialRelationshipEvent where
  (eventID commandID : String)
  action : SocialRelationshipAction
  (actor targetActor : Option ActorRef)
  (actorHomeStationPeerID targetHomeStationPeerID : String)
  revision : ℤ
  blocked : Bool
  invalidationClasses : List InvalidationClass
  committedAt : Option Timestamp
  (previousHash eventHash : Bytes)
  unknown : Bytes := []
deriving DecidableEq

/-- A repeated field of numbers in one record. -/
def writePacked (tag : ℕ) (values : List ℤ) : Bytes :=
  writeBytes tag (values.flatMap fun v => encodeVarint (BitVec.ofInt 64 v).toNat)

namespace SocialRelationshipEvent

def marshal (event : SocialRelationshipEvent) : Bytes :=
  writeString 1 event.eventID ++ writeString 2 event.commandID ++ writeInt 3 event.action.number ++
    writeActor 4 event.actor ++ writeActor 5 event.targetActor ++
    writeString 6 event.actorHomeStationPeerID ++ writeString 7 event.targetHomeStationPeerID ++
    writeInt 8 event.revision ++ writeBool 9 event.blocked ++
    writePacked 10 (event.invalidationClasses.map InvalidationClass.number) ++
    writeTimestamp 11 event.committedAt ++ writeBytes 12 event.previousHash ++
    writeBytes 13 event.eventHash ++ event.unknown

/-- The hash of `canonicalSocialRelationshipEventHashInput`. -/
def canonicalHash [Digest] (event : SocialRelationshipEvent) : Bytes :=
  (hashBytes { event with eventHash := [] }.marshal).bytes

end SocialRelationshipEvent

def relationshipInvalidations (blocked : Bool) : List InvalidationClass :=
  if blocked then [.follow, .friendRequestEligibility, .privateContentGrant, .conversationEntry] else []

def socialRelationshipEventID (commandID : String) (revision : ℤ) : String :=
  "social-relationship-event:" ++ commandID ++ ":" ++ toString revision

structure DirectionalRelationshipState where
  (actorPTID targetActorPTID actorHomeStationPeerID targetHomeStationPeerID : String)
  blocked : Bool
  revision : ℤ
  (lastEventHash lastEventBytes : Bytes)
  blockedAt : Option Time
  updatedAt : Time
deriving DecidableEq

/-- The revision after another one, in 64 bits. -/
def nextRevision (revision : ℤ) : ℤ := (BitVec.ofInt 64 (revision + 1)).toInt

/-- The revision of a pair whose head is `current`; a pair without events has revision 0. -/
def revisionOf (current : Option DirectionalRelationshipState) : ℤ := (current.map (·.revision)).getD 0

def blockedOf (current : Option DirectionalRelationshipState) : Bool := (current.map (·.blocked)).getD false

def relationshipEventOf [Digest] (current : Option DirectionalRelationshipState)
    (body : SocialRelationshipCommandBody) (now : Time) : SocialRelationshipEvent :=
  let revision := nextRevision (revisionOf current)
  let blocked := decide (body.action = .block)
  let event : SocialRelationshipEvent :=
    { eventID := socialRelationshipEventID body.commandID revision, commandID := body.commandID
      action := body.action, actor := body.actor, targetActor := body.targetActor
      actorHomeStationPeerID := body.actorHomeStationPeerID
      targetHomeStationPeerID := body.targetHomeStationPeerID, revision, blocked
      committedAt := some (.ofTime now), previousHash := (current.map (·.lastEventHash)).getD []
      invalidationClasses := relationshipInvalidations blocked, eventHash := [] }
  { event with eventHash := event.canonicalHash }

/-- The event of a command, or `none` if the command changes nothing. -/
def newSocialRelationshipEvent [Digest] (current : Option DirectionalRelationshipState)
    (command : SocialRelationshipCommand) (now : Time) :
    Except FederationError (Option SocialRelationshipEvent) := do
  failWhen (command.getBody.observedRevision ≠ revisionOf current)
    (newFederationError .stateConflict "social.apply_relationship_command" "observed_revision"
      "does not match the authoritative relationship revision")
  return if blockedOf current = decide (command.getBody.action = .block) then none
    else some (relationshipEventOf current command.getBody now)

def eventError (code : FederationErrorCode) (field message : String) : FederationError :=
  newFederationError code "social.validate_relationship_event" field message

namespace SocialRelationshipEvent

def HasUnknownFields (event : SocialRelationshipEvent) : Prop :=
  event.unknown ≠ [] ∨ (getActor event.actor).unknown ≠ [] ∨ (getActor event.targetActor).unknown ≠ [] ∨
    ∃ t ∈ event.committedAt, t.unknown ≠ []
deriving Decidable

def identifiers (event : SocialRelationshipEvent) : List (String × String) :=
  [("event_id", event.eventID), ("command_id", event.commandID),
    ("actor_home_station_peer_id", event.actorHomeStationPeerID),
    ("target_home_station_peer_id", event.targetHomeStationPeerID)]

def BreaksChain (event : SocialRelationshipEvent) : Prop :=
  event.revision = 1 ∧ event.previousHash.length ≠ 0 ∨ 1 < event.revision ∧ event.previousHash.length ≠ 32
deriving Decidable

end SocialRelationshipEvent

def validateSocialRelationshipEvent [Digest] (event : SocialRelationshipEvent) :
    Except FederationError Unit := do
  failWhen event.HasUnknownFields (eventError .invalidArgument "event" "is required and must not contain unknown fields")
  event.identifiers.forM fun p => validateSocialRelationshipIdentifier "social.validate_relationship_event" p.1 p.2
  validateHumanActorRef "social.validate_relationship_event" "actor" event.actor
  validateHumanActorRef "social.validate_relationship_event" "target_actor" event.targetActor
  failWhen ((getActor event.actor).ptid = (getActor event.targetActor).ptid ∨ event.revision ≤ 0 ∨
    InvalidTimestamp event.committedAt ∨ event.eventHash.length ≠ 32)
    (eventError .invalidArgument "event" "contains an invalid actor pair, revision, timestamp, or hash")
  failWhen (event.action ≠ .block ∧ event.action ≠ .unblock ∨ event.blocked ≠ decide (event.action = .block))
    (eventError .stateConflict "action" "does not match the resulting block state")
  failWhen (event.invalidationClasses.length ≠ (relationshipInvalidations event.blocked).length)
    (eventError .stateConflict "invalidation_classes" "does not match the resulting relationship state")
  failWhen (event.invalidationClasses ≠ relationshipInvalidations event.blocked)
    (eventError .stateConflict "invalidation_classes" "is not canonical")
  failWhen event.BreaksChain (eventError .stateConflict "previous_hash" "does not extend the relationship hash chain")
  failWhen (event.canonicalHash ≠ event.eventHash)
    (eventError .idempotencyConflict "event_hash" "does not match deterministic event bytes")

def applyError (code : FederationErrorCode) (field message : String) : FederationError :=
  newFederationError code "social.apply_relationship_event" field message

def DirectionalRelationshipState.ofEvent (event : SocialRelationshipEvent) :
    DirectionalRelationshipState :=
  let updatedAt := (event.committedAt.map Timestamp.asTime).getD 0
  { event with
    actorPTID := (getActor event.actor).ptid, targetActorPTID := (getActor event.targetActor).ptid
    lastEventHash := event.eventHash, lastEventBytes := event.marshal
    blockedAt := if event.blocked then some updatedAt else none, updatedAt }

/-- The head after an event, and whether it was the head already. -/
def applySocialRelationshipEvent [Digest] (current : Option DirectionalRelationshipState)
    (event : SocialRelationshipEvent) : Except FederationError (DirectionalRelationshipState × Bool) := do
  validateSocialRelationshipEvent event
  match current with
  | none =>
    failWhen (event.revision ≠ 1 ∨ event.previousHash.length ≠ 0)
      (applyError .stateConflict "revision" "must begin at revision 1")
    return (.ofEvent event, false)
  | some head =>
    if head.revision = event.revision then
      failWhen (head.lastEventHash ≠ event.eventHash ∨ head.lastEventBytes ≠ event.marshal)
        (applyError .idempotencyConflict "event" "revision was reused with different canonical bytes")
      return (head, true)
    else
      failWhen (event.revision ≠ nextRevision head.revision ∨ event.previousHash ≠ head.lastEventHash)
        (applyError .stateConflict "revision" "does not extend the current relationship head")
      return (.ofEvent event, false)

/-! ### Results of commands -/

inductive DeniedReason where
  | none | interactionDenied

inductive AllowedAction where
  | follow | friendRequest | directConversation | privateContent

structure SocialRelationshipProjection where
  targetActor : Option ActorRef
  (following followedBy blockedByViewer interactionAllowed : Bool)
  deniedReason : DeniedReason
  allowedActions : List AllowedAction
  revision : ℤ
  targetHomeStationPeerID : String

def socialRelationshipProjectionFromState (target : ActorRef) (targetHomeStationPeerID : String)
    (following followedBy blockedByViewer interactionAllowed : Bool) (revision : ℤ) :
    SocialRelationshipProjection where
  targetActor := some target
  following := interactionAllowed && following
  followedBy := interactionAllowed && followedBy
  blockedByViewer := blockedByViewer
  interactionAllowed := interactionAllowed
  deniedReason := if interactionAllowed then .none else .interactionDenied
  allowedActions := if interactionAllowed then [.follow, .friendRequest, .directConversation, .privateContent] else []
  revision := revision
  targetHomeStationPeerID := targetHomeStationPeerID

inductive CommandResultKind where
  | unspecified | committed | duplicate | rejected | conflict
deriving DecidableEq

inductive CommandErrorCode where
  | unspecified | invalid | unauthorized | staleRevision | idempotencyConflict | expired
  | retryLater
deriving DecidableEq

structure SocialRelationshipCommandResult where
  commandID : String
  commandPayloadSHA256 : Bytes
  kind : CommandResultKind
  event : Option SocialRelationshipEvent := none
  projection : Option SocialRelationshipProjection := none
  errorCode : CommandErrorCode := .unspecified
  retryable : Bool := false
  unknown : Bytes := []

def resultError (code : FederationErrorCode) (field message : String) : FederationError :=
  newFederationError code "social.validate_relationship_command_result" field message

/-- Whether the projection of a result is not the one after its event. -/
def ProjectionDiffers (projection : Option SocialRelationshipProjection)
    (event : SocialRelationshipEvent) : Prop :=
  (getActor (projection.bind (·.targetActor))).ptid ≠ (getActor event.targetActor).ptid ∨
    (projection.map (·.revision)).getD 0 ≠ event.revision ∨ (projection.map (·.blockedByViewer)).getD false ≠ event.blocked
deriving Decidable

def validateSocialRelationshipCommandResult [Digest] (result : SocialRelationshipCommandResult) :
    Except FederationError Unit := do
  failWhen (result.unknown ≠ []) (resultError .invalidArgument "result" "is required and must not contain unknown fields")
  validateSocialRelationshipIdentifier "social.validate_relationship_command_result" "command_id"
    result.commandID
  failWhen (result.commandPayloadSHA256.length ≠ 32)
    (resultError .invalidArgument "command_payload_sha256" "must be SHA-256")
  (match result.kind with
    | .committed | .duplicate =>
      failWhen (result.projection = none) (resultError .invalidArgument "projection" "is required for a successful result")
    | .rejected | .conflict =>
      failWhen (result.errorCode = .unspecified)
        (resultError .invalidArgument "error_code" "is required for a rejected result")
    | .unspecified => .error (resultError .invalidArgument "kind" "is unspecified"))
  match result.event with
  | none => .ok ()
  | some event => do
    validateSocialRelationshipEvent event
    failWhen (event.commandID ≠ result.commandID)
      (resultError .stateConflict "event.command_id" "does not match the result")
    failWhen (ProjectionDiffers result.projection event)
      (resultError .stateConflict "projection" "does not match the committed event")

end PeersTouch.Social
