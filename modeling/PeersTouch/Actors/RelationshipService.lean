import PeersTouch.Actors.Tables

/-!
# The relationship service

What a Station does with the commands of its own actors and with the events of other Stations:
`application/federated_relationship.go` on the tables of `infrastructure/federated_relationship_store.go`.

* **Commands.**  `submitRelationshipCommand` is one transaction. It extends the chain of the pair, takes back what a
  block forbids, puts the frame of the event into the outbox, and keeps the result for a repetition of the command.
* **Events.**  `receiveRelationshipEvent` is the receiver of those frames at the Home Station of the target.
* **Neighbours.**  The signature of a device is checked by `verifySignature`, and private content is taken back by
  `revoke`; both may differ from one call to the next.
* **Migration.**  `migrateLegacyBlockedRelationships` makes heads of the friendships that were blocked before there
  were events.
-/

namespace PeersTouch.Social

open Lib Chat Federation

/-! ### Writes -/

def Friendship.legacyHead (f : Friendship) (now : Time) : DirectionalRelationshipState where
  actorPTID := f.actorPTID
  targetActorPTID := f.peerPTID
  actorHomeStationPeerID := ""
  targetHomeStationPeerID := ""
  blocked := true
  revision := 1
  lastEventHash := []
  lastEventBytes := []
  blockedAt := some (if f.updatedAt = 0 then now else f.updatedAt)
  updatedAt := now

namespace Tables

def migrateLegacyBlockedRelationships (tables : Tables) (now : Time) : Tables :=
  let legacy := tables.friendships.rows.filter fun f => f.status = .blocked
  { tables with
    relationships := tables.relationships.insertAll (legacy.map (·.legacyHead now))
    friendships := tables.friendships.deleteWhere fun f => f.status = .blocked }

/-- What a state writes into the row of a head: all columns but the key. -/
def rewrite (state head : DirectionalRelationshipState) : DirectionalRelationshipState :=
  { state with actorPTID := head.actorPTID, targetActorPTID := head.targetActorPTID }

lemma pair_rewrite (state head : DirectionalRelationshipState) : (rewrite state head).pair = head.pair := rfl

/-- The first head of a pair, or one in the place of the head that was loaded. -/
def saveDirectionalRelationship (tables : Tables) (state : DirectionalRelationshipState)
    (expectedRevision : Option ℤ) : Except FederationError Tables :=
  let refuse := newFederationError .stateConflict "social.save_directional_relationship" "revision"
  match expectedRevision with
  | none => do
    let relationships ← tables.relationships.insert state (refuse "relationship head was created concurrently")
    return { tables with relationships }
  | some revision => do
    let relationships ← tables.relationships.updateOne (fun r => r.pair = state.pair ∧ r.revision = revision)
      (rewrite state) (pair_rewrite state) (refuse "relationship head changed concurrently")
    return { tables with relationships }

def IsPair (a b : String) (pair : String × String) : Prop := pair = (a, b) ∨ pair = (b, a)
deriving Decidable

def applyBlockedRelationshipEffects (tables : Tables) (actorPTID targetActorPTID : String) : Tables :=
  { tables with
    follows := tables.follows.filter fun p => ¬IsPair actorPTID targetActorPTID p
    accepted := tables.accepted.deleteWhere fun r => IsPair actorPTID targetActorPTID r.pair
    friendships := tables.friendships.deleteWhere fun f =>
      f.status = .accepted ∧ IsPair actorPTID targetActorPTID f.pair }

/-- The record, or the one that was there before. -/
def putSocialRelationshipCommand (tables : Tables) (record : SocialRelationshipCommandRecord) :
    Except FederationError (Tables × SocialRelationshipCommandRecord × Bool) := do
  failWhen (record.actorPTID = "" ∨ record.commandID = "" ∨ record.commandBytes = [] ∨
    record.commandPayloadSHA256.length ≠ 32 ∨ record.createdAt = 0)
    (newFederationError .invalidArgument "social.put_relationship_command" "record" "is incomplete")
  return match tables.relationshipCommands.find record.key with
    | some existing => (tables, existing, false)
    | none =>
      ({ tables with relationshipCommands := tables.relationshipCommands.insertOrIgnore record },
        record, true)

end Tables

/-! ### The service -/

structure Station where
  localStationID : String
  signer : Signer

/-- How private content between a local actor and a peer is taken back; it sends frames of its own. -/
abbrev Revoker := String → String → Outbox → Except String Outbox

def Station.revokeBlockedPrivateContent (station : Station) (revoke : Option Revoker)
    (state : DirectionalRelationshipState) (outbox : Outbox) : Except Failure Outbox :=
  match revoke with
  | none => .ok outbox
  | some revoke =>
    if state.actorHomeStationPeerID = station.localStationID then
      (revoke state.actorPTID state.targetActorPTID outbox).mapError .foreign
    else if state.targetHomeStationPeerID = station.localStationID then
      (revoke state.targetActorPTID state.actorPTID outbox).mapError .foreign
    else
      .error (.federation (newFederationError .unauthorized "social.revoke_blocked_private_content"
        "home_station_peer_id" "does not include the local Station"))

/-- What follows from a block: nothing if the new state is not one. -/
def Station.blockedEffects (station : Station) (revoke : Option Revoker)
    (state : DirectionalRelationshipState) (outbox : Outbox) (tables : Tables) :
    Except Failure (Outbox × Tables) :=
  if state.blocked then do
    let outbox ← station.revokeBlockedPrivateContent revoke state outbox
    return (outbox, tables.applyBlockedRelationshipEffects state.actorPTID state.targetActorPTID)
  else .ok (outbox, tables)

def relationshipOrderingKey (actorPTID targetActorPTID : String) : String :=
  "social-relationship:" ++ actorPTID ++ ":" ++ targetActorPTID

/-- The frame of an event before it is signed; it lives for a day. -/
def Station.relationshipFrame [Digest] (station : Station) (event : SocialRelationshipEvent) (now : Time) :
    Frame :=
  socialFrame .socialRelationshipEvent "FEDERATED_DOMAIN_PAYLOAD_KIND_SOCIAL_RELATIONSHIP_EVENT"
    station.localStationID event.targetHomeStationPeerID event.eventID
    (relationshipOrderingKey (getActor event.actor).ptid (getActor event.targetActor).ptid)
    event.revision event.marshal now (now + 86400000000000)

def Station.newSignedRelationshipFrame [Digest] (station : Station) (event : SocialRelationshipEvent)
    (now : Time) : Except Federation.Error Frame :=
  signFrame (station.relationshipFrame event now) (defaultFramePolicy event.targetHomeStationPeerID)
    station.signer

/-! ### Commands -/

/-- A command as it is submitted: by whom, when, and what the neighbours of the service do at that time. -/
structure SubmitCall where
  authenticatedActorPTID : String
  command : SocialRelationshipCommand
  now : Time
  verifySignature : Bytes → Except FederationError Unit
  revoke : Option Revoker

namespace SubmitCall

def body (call : SubmitCall) : SocialRelationshipCommandBody := call.command.getBody

def pair (call : SubmitCall) : String × String :=
  ((getActor call.body.actor).ptid, (getActor call.body.targetActor).ptid)

def commandKey (call : SubmitCall) : String × String := ((getActor call.body.actor).ptid, call.body.commandID)

end SubmitCall

def submitError (code : FederationErrorCode) (field message : String) : Failure :=
  .federation (newFederationError code "social.submit_relationship_command" field message)

def SubmitCall.result [Digest] (call : SubmitCall) (kind : CommandResultKind) :
    SocialRelationshipCommandResult :=
  { commandID := call.body.commandID, commandPayloadSHA256 := (hashBytes call.command.marshal).bytes, kind }

/-- `relationshipCommandFailure`. -/
def SubmitCall.failure [Digest] (call : SubmitCall) (e : FederationError) :
    SocialRelationshipCommandResult :=
  match e.code with
  | .stateConflict => { call.result .conflict with errorCode := .staleRevision }
  | .idempotencyConflict => { call.result .conflict with errorCode := .idempotencyConflict }
  | .unauthorized | .invalidSignature => { call.result .rejected with errorCode := .unauthorized }
  | .persistence | .identityUnavailable => { call.result .rejected with errorCode := .retryLater, retryable := true }
  | .invalidArgument | .notFound | .blocked | .alreadyFriends => { call.result .rejected with errorCode := .invalid }

/-- `sameSocialRelationshipCommandRecord`. -/
def SubmitCall.SameRecord [Digest] (call : SubmitCall) (record : SocialRelationshipCommandRecord) : Prop :=
  record.key = call.commandKey ∧ record.commandBytes = call.command.marshal ∧
    record.commandPayloadSHA256 = (hashBytes call.command.marshal).bytes
deriving Decidable

def SubmitCall.replay [Digest] (call : SubmitCall) (record : SocialRelationshipCommandRecord) :
    Except Failure SocialRelationshipCommandResult := do
  failWhen (¬call.SameRecord record)
    (submitError .idempotencyConflict "command_id" "was reused with different canonical bytes")
  failWhen (validateSocialRelationshipCommandResult record.result ≠ .ok ())
    (submitError .persistence "result" "persisted result is invalid")
  return record.result

/-- The outbox and the tables inside a transaction. -/
abbrev Working := Outbox × Tables

/-- The new head of a pair, with everything that goes with it. -/
def Station.commitRelationshipEvent [Digest] (station : Station) (call : SubmitCall)
    (current : Option DirectionalRelationshipState) (event : SocialRelationshipEvent) (db : Working) :
    Except Failure (Working × SocialRelationshipCommandResult) := do
  let (next, _) ← (applySocialRelationshipEvent current event).mapError .federation
  let tables ← (db.2.saveDirectionalRelationship next (current.map (·.revision))).mapError .federation
  let (outbox, tables) ← station.blockedEffects call.revoke next db.1 tables
  let projection ← (tables.relationshipProjection call.pair.1 call.pair.2).mapError .federation
  let frame ← (station.newSignedRelationshipFrame event call.now).mapError .ofDelivery
  let (outbox, _) ← (enqueueFrame outbox frame call.now).mapError .ofDelivery
  return ((outbox, tables),
    { call.result .committed with event := some event, projection := some projection })

/-- A command that changes nothing. -/
def SubmitCall.duplicateResult [Digest] (call : SubmitCall) (tables : Tables) :
    Except Failure SocialRelationshipCommandResult := do
  let projection ← (tables.relationshipProjection call.pair.1 call.pair.2).mapError .federation
  let projection := if projection.targetHomeStationPeerID = "" then
      { projection with targetHomeStationPeerID := call.body.targetHomeStationPeerID }
    else projection
  return { call.result .duplicate with projection := some projection }

def Station.decideCommand [Digest] (station : Station) (call : SubmitCall) (db : Working) :
    Except Failure (Working × SocialRelationshipCommandResult) :=
  let current := db.2.relationships.find call.pair
  match newSocialRelationshipEvent current call.command call.now with
  | .error e => .ok (db, call.failure e)
  | .ok none => do
    let result ← call.duplicateResult db.2
    return (db, result)
  | .ok (some event) => station.commitRelationshipEvent call current event db

def SubmitCall.record [Digest] (call : SubmitCall) (result : SocialRelationshipCommandResult) :
    SocialRelationshipCommandRecord where
  actorPTID := (getActor call.body.actor).ptid
  commandID := call.body.commandID
  commandBytes := call.command.marshal
  commandPayloadSHA256 := (hashBytes call.command.marshal).bytes
  result := result
  createdAt := call.now
  resolvedAt := call.now

/-- The result of a command after its record was offered to the table. -/
def SubmitCall.persistedResult [Digest] (call : SubmitCall) (result : SocialRelationshipCommandResult)
    (persisted : SocialRelationshipCommandRecord) (inserted : Bool) :
    Except Failure SocialRelationshipCommandResult :=
  if inserted then .ok result else call.replay persisted

/-- The transaction of a command that was not submitted before. -/
def Station.submitNew [Digest] (station : Station) (call : SubmitCall) (db : Working) :
    Except Failure (Working × SocialRelationshipCommandResult) := do
  let signingBytes ← call.command.signingBytes.mapError .federation
  (call.verifySignature signingBytes).mapError .federation
  (db.2.validateRelationshipActorHome call.pair.2 call.body.targetHomeStationPeerID
    station.localStationID).mapError .federation
  let (db, result) ← station.decideCommand call db
  let (tables, persisted, inserted) ← (db.2.putSocialRelationshipCommand (call.record result)).mapError .federation
  let result ← call.persistedResult result persisted inserted
  return ((db.1, tables), result)

def Station.submitTransaction [Digest] (station : Station) (call : SubmitCall) (db : Working) :
    Except Failure (Working × SocialRelationshipCommandResult) :=
  match db.2.relationshipCommands.find call.commandKey with
  | some existing => do
    let result ← call.replay existing
    return (db, result)
  | none => station.submitNew call db

def Station.submitRelationshipCommand [Digest] (station : Station) (call : SubmitCall) (db : Working) :
    Except FederationError (Working × SocialRelationshipCommandResult) := do
  validateSocialRelationshipCommand call.command station.localStationID call.now
  failWhen (call.authenticatedActorPTID = "" ∨ call.authenticatedActorPTID ≠ call.pair.1)
    (newFederationError .unauthorized "social.submit_relationship_command" "authenticated_actor_ptid"
      "does not match the signed command actor")
  (station.submitTransaction call db).mapError (Failure.mapped "social.execute_relationship_transaction")

/-! ### Events -/

/-- `proto.Unmarshal` of an event. -/
class RelationshipEventDecoder where
  unmarshal : Bytes → Option SocialRelationshipEvent

/-- What is published after the commit: who sees that a relationship has changed. -/
structure RelationshipChanged where
  (viewerPTID actorPTID targetActorPTID : String)
  blocked : Bool

def FrameDiffers [Digest] (event : SocialRelationshipEvent) (frame : Frame) (localStationID : String) :
    Prop :=
  frame.payloadID ≠ event.eventID ∨ frame.sourceStationPeerID ≠ event.actorHomeStationPeerID ∨
    frame.targetStationPeerID ≠ localStationID ∨ event.targetHomeStationPeerID ≠ localStationID ∨
    frame.orderingSequence ≠ event.revision ∨ frame.opaquePayload ≠ event.marshal ∨
    frame.payloadSHA256 ≠ payloadSHA256 event.marshal
deriving Decidable

def validateRelationshipEventFrame [Digest] (event : SocialRelationshipEvent) (frame : Frame)
    (localStationID : String) : Except FederationError Unit := do
  validateSocialRelationshipEvent event
  failWhen (FrameDiffers event frame localStationID)
    (newFederationError .unauthorized "social.validate_relationship_event_frame" "frame"
      "does not bind the canonical Social relationship event")

/-- The checks of an event before the tables are touched, and the head after it. -/
def Station.admitRelationshipEvent [Digest] (station : Station) (event : SocialRelationshipEvent)
    (frame : Frame) (tables : Tables) : Except FederationError (DirectionalRelationshipState × Bool) := do
  let actorPTID := (getActor event.actor).ptid
  let targetPTID := (getActor event.targetActor).ptid
  validateRelationshipEventFrame event frame station.localStationID
  tables.validateRelationshipActorHome actorPTID event.actorHomeStationPeerID station.localStationID
  tables.validateRelationshipActorHome targetPTID station.localStationID station.localStationID
  applySocialRelationshipEvent (tables.relationships.find (actorPTID, targetPTID)) event

/-- The head after an event written into the tables. -/
def Station.storeRelationshipEvent (station : Station) (revoke : Option Revoker)
    (event : SocialRelationshipEvent) (next : DirectionalRelationshipState) (outbox : Outbox)
    (tables : Tables) : Except Failure (Handled Tables RelationshipChanged) := do
  let actorPTID := (getActor event.actor).ptid
  let targetPTID := (getActor event.targetActor).ptid
  let current := tables.relationships.find (actorPTID, targetPTID)
  let tables ← (tables.saveDirectionalRelationship next (current.map (·.revision))).mapError .federation
  let (outbox, tables) ← station.blockedEffects revoke next outbox tables
  return {
    result := .accepted, outbox := outbox, domain := tables
    afterCommit :=
      [{ viewerPTID := targetPTID, actorPTID := actorPTID, targetActorPTID := targetPTID
         blocked := event.blocked }] }

def Station.receiveRelationshipEvent [Digest] (station : Station) (revoke : Option Revoker)
    (event : SocialRelationshipEvent) (frame : Frame) (outbox : Outbox) (tables : Tables) :
    Except Failure (Handled Tables RelationshipChanged) :=
  let answer := fun result => .ok { result, outbox, domain := tables, afterCommit := [] }
  match station.admitRelationshipEvent event frame tables with
  | .error e => answer (deliveryResultForSocialError e)
  | .ok (_, true) => answer .duplicate
  | .ok (next, false) => station.storeRelationshipEvent revoke event next outbox tables

def Station.relationshipReceiver [Digest] [RelationshipEventDecoder] (station : Station)
    (revoke : Option Revoker) : Dispatch Tables RelationshipChanged := fun frame outbox tables =>
  let invalid := .ok { result := .terminal .invalidFrame, outbox, domain := tables, afterCommit := [] }
  match RelationshipEventDecoder.unmarshal frame.opaquePayload with
  | none => invalid
  | some event =>
    if event.unknown ≠ [] then invalid
    else (station.receiveRelationshipEvent revoke event frame outbox tables).mapError Failure.dispatched

end PeersTouch.Social
