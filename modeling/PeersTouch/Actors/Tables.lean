import PeersTouch.Actors.Relationship

/-!
# The tables of the social domain

The rows that the federated parts of the social domain read and write, and the reads that several of them share.
Follows are kept as pairs of actors, the follower first. A command of a relationship is kept with its result as a
message; the tables of private content are left out, since nothing here reads them.
-/

namespace PeersTouch.Social

open Lib Chat

structure DirectoryActor where
  (ptid origin homeStationPeerID : String)

structure SocialRelationshipCommandRecord where
  (actorPTID commandID : String)
  (commandBytes commandPayloadSHA256 : Bytes)
  result : SocialRelationshipCommandResult
  (createdAt resolvedAt : Time)

def SocialRelationshipCommandRecord.key (r : SocialRelationshipCommandRecord) : String × String :=
  (r.actorPTID, r.commandID)

def DirectionalRelationshipState.pair (s : DirectionalRelationshipState) : String × String :=
  (s.actorPTID, s.targetActorPTID)

inductive FriendshipStatus where
  | accepted | blocked
  | other (code : ℤ)
deriving DecidableEq

structure Friendship where
  (actorPTID peerPTID : String)
  status : FriendshipStatus
  (createdAt updatedAt : Time)

def Friendship.pair (f : Friendship) : String × String := (f.actorPTID, f.peerPTID)

/-- What a Station knows of a friend request; only the two actors and where they live are read here. -/
structure FriendRequestProjection where
  requestID : String
  (sender receiver : ActorRef)
  (senderHomeStationPeerID receiverHomeStationPeerID : String)

structure FriendRequestRelationshipProjection where
  (ownerPTID peerPTID requestID acceptedEventID : String)
  acceptedEventHash : Bytes
  acceptedAt : Time

def FriendRequestRelationshipProjection.pair (r : FriendRequestRelationshipProjection) : String × String :=
  (r.ownerPTID, r.peerPTID)

structure Tables where
  actors : KeyedTable DirectoryActor DirectoryActor.ptid
  relationshipCommands : KeyedTable SocialRelationshipCommandRecord SocialRelationshipCommandRecord.key
  relationships : KeyedTable DirectionalRelationshipState DirectionalRelationshipState.pair
  friendships : KeyedTable Friendship Friendship.pair
  follows : List (String × String)
  requests : KeyedTable FriendRequestProjection FriendRequestProjection.requestID
  accepted : KeyedTable FriendRequestRelationshipProjection FriendRequestRelationshipProjection.pair

/-- Why a transaction of the social domain fails: an error of this domain, or the text of another one. -/
inductive Failure where
  | federation (error : FederationError)
  | foreign (text : String)

namespace Failure

/-- The failure as the caller of a transaction sees it. -/
def mapped (operation : String) : Failure → FederationError
  | federation e => e
  | foreign text => persistenceError operation text

/-- The failure as the delivery layer passes it on. -/
def dispatched : Failure → Federation.Error
  | federation e => dispatchFailure e
  | foreign text => Federation.newError .domainDispatch "dispatch domain receiver" text

def ofDelivery (e : Federation.Error) : Failure := .foreign e.text

end Failure

/-- Whether a text can not be the PTID of an actor in a query. -/
def BadPTID (ptid : String) : Prop := ptid = "" ∨ ptid ≠ trimSpace ptid
deriving Decidable

namespace Tables

/-- Whether an actor lives at a Station, by the directory or, for an actor it does
not list, by a friend request. -/
def validateRelationshipActorHome (tables : Tables) (actorPTID expectedHome localStation : String) :
    Except FederationError Unit :=
  let refuse := fun code => newFederationError code "social.validate_relationship_actor_home"
  match tables.actors.find actorPTID with
  | none =>
    failWhen (∀ r ∈ tables.requests.rows, ¬(r.sender.ptid = actorPTID ∧ r.senderHomeStationPeerID = expectedHome ∨
      r.receiver.ptid = actorPTID ∧ r.receiverHomeStationPeerID = expectedHome))
      (refuse .identityUnavailable "actor_ptid" "is not present in the verified Actor directory")
  | some actor =>
    let listed := trimSpace actor.homeStationPeerID
    let actual := if listed = "" ∧ actor.origin ≠ "remote_cached" then localStation else listed
    failWhen (actual = "" ∨ actual ≠ expectedHome)
      (refuse .unauthorized "home_station_peer_id" "does not match the verified Actor directory")

/-- `relationshipProjectionWithDB`. -/
def relationshipProjection (tables : Tables) (actorPTID targetActorPTID : String) :
    Except FederationError SocialRelationshipProjection := do
  failWhen (BadPTID actorPTID ∨ BadPTID targetActorPTID ∨ actorPTID = targetActorPTID)
    (newFederationError .invalidArgument "social.load_relationship_projection" "actor_pair"
      "must contain distinct canonical PTIDs")
  let outgoing := tables.relationships.find (actorPTID, targetActorPTID)
  let incoming := tables.relationships.find (targetActorPTID, actorPTID)
  let home := (outgoing.map (·.targetHomeStationPeerID)).getD ""
  return socialRelationshipProjectionFromState { ptid := targetActorPTID, kind := .person }
    (if home = "" then (incoming.map (·.actorHomeStationPeerID)).getD "" else home)
    (decide ((actorPTID, targetActorPTID) ∈ tables.follows))
    (decide ((targetActorPTID, actorPTID) ∈ tables.follows))
    (blockedOf outgoing) (!blockedOf outgoing && !blockedOf incoming) (max 0 (revisionOf outgoing))

end Tables

end PeersTouch.Social
