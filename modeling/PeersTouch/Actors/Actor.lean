import PeersTouch.Federation.Inbox

/-!
# Actors and errors of the social domain

What the federated parts of `subserver/social` have in common: the typed errors, the references to actors and to
their devices with the checks of identifiers, and the frames in which a Station sends social messages.

A field of message type may be missing, and the getters of the source then return the empty message (`getActor` and
its like). Unknown fields are kept as the bytes they came in.
-/

namespace PeersTouch.Social

open Lib Protobuf Chat Federation

/-! ### Errors -/

inductive FederationErrorCode where
  | invalidArgument | unauthorized | invalidSignature | idempotencyConflict | stateConflict
  | notFound | blocked | alreadyFriends | identityUnavailable | persistence
deriving DecidableEq

structure FederationError where
  code : FederationErrorCode
  (operation field message : String)
deriving DecidableEq

def newFederationError (code : FederationErrorCode) (operation field message : String) :
    FederationError :=
  { code, operation, field, message }

/-- `mapFederatedFriendRequestPersistenceError`, for an error that is not of this domain. -/
def persistenceError (operation cause : String) : FederationError :=
  { code := .persistence, operation, field := "", message := cause }

def deliveryResultForSocialError (e : FederationError) : Result := match e.code with
  | .idempotencyConflict => .payloadHashConflict
  | .persistence | .identityUnavailable => .retryable .overloaded
  | .invalidArgument | .unauthorized | .invalidSignature | .stateConflict | .notFound | .blocked
  | .alreadyFriends => .terminal .domainRejected

def FederationError.text (e : FederationError) : String :=
  if e.field ≠ "" then e.operation ++ ": " ++ e.field ++ ": " ++ e.message
  else if e.operation ≠ "" then e.operation ++ ": " ++ e.message
  else e.message

/-- An error of this domain, as the delivery layer passes it on. -/
def dispatchFailure (e : FederationError) : Federation.Error := Federation.newError .domainDispatch e.operation e.text

/-! ### Actors -/

inductive ActorKind where
  | unspecified | person
  | other (code : ℤ)
deriving DecidableEq

def ActorKind.number : ActorKind → ℤ
  | unspecified => 0
  | person => 1
  | other code => code

structure ActorRef where
  ptid : String := ""
  acct : String := ""
  kind : ActorKind := .unspecified
  unknown : Bytes := []
deriving DecidableEq

def ActorRef.marshal (actor : ActorRef) : Bytes :=
  writeString 2 actor.ptid ++ writeString 3 actor.acct ++ writeInt 4 actor.kind.number ++ actor.unknown

/-- A field that refers to an actor, read through its getter. -/
def getActor (actor : Option ActorRef) : ActorRef := actor.getD {}

def writeActor (tag : ℕ) (actor : Option ActorRef) : Bytes := (actor.map fun a => writeDelimited tag a.marshal).getD []

structure ActorDeviceRef where
  actor : Option ActorRef := none
  deviceID : String := ""
  unknown : Bytes := []

def ActorDeviceRef.marshal (device : ActorDeviceRef) : Bytes :=
  writeActor 1 device.actor ++ writeString 2 device.deviceID ++ device.unknown

def maxIdentifierBytes : ℕ := 255

def BadIdentifier (value : String) : Prop :=
  value = "" ∨ value ≠ trimSpace value ∨ maxIdentifierBytes < value.utf8ByteSize
deriving Decidable

def validateFriendRequestIdentifier (operation field value : String) : Except FederationError Unit :=
  failWhen (BadIdentifier value ∨ Char.ofNat 0 ∈ value.toList)
    (newFederationError .invalidArgument operation field "is required and must be canonical")

def validateHumanActorRef (operation field : String) (actor : Option ActorRef) :
    Except FederationError Unit := do
  let actor ← orFail actor (newFederationError .invalidArgument operation field "is required")
  validateFriendRequestIdentifier operation (field ++ ".ptid") actor.ptid
  failWhen (actor.kind ≠ .person)
    (newFederationError .invalidArgument operation (field ++ ".kind") "must identify a Human actor")
  failWhen (actor.acct ≠ trimSpace actor.acct ∨ maxIdentifierBytes < actor.acct.utf8ByteSize)
    (newFederationError .invalidArgument operation (field ++ ".acct") "must be canonical")

lemma validateHumanActor_eq_ok {op field : String} {actor : Option ActorRef}
    (h : validateHumanActorRef op field actor = .ok ()) (op' field' : String) :
    validateHumanActorRef op' field' actor = .ok () := by
  simp only [validateHumanActorRef, validateFriendRequestIdentifier, ok_iff] at h ⊢
  exact h

/-! ### Times -/

def InvalidTimestamp (t : Option Timestamp) : Prop := ∀ t' ∈ t, t'.checkValid ≠ .ok ()
deriving Decidable

/-- The two times of a command that has both, or `none` if one of them is not valid. -/
def commandTimes (createdAt expiresAt : Option Timestamp) : Option (Timestamp × Timestamp) := do
  let createdAt ← createdAt
  let expiresAt ← expiresAt
  if createdAt.checkValid = .ok () ∧ expiresAt.checkValid = .ok () ∧ createdAt.unknown = [] ∧ expiresAt.unknown = [] then
    return (createdAt, expiresAt)
  else none

/-- Whether the times of a command do not fit the clock: it comes from the future, is over, or lives longer than a
day. -/
def OutsideLifetime (createdAt expiresAt now : Time) : Prop :=
  now + 30000000000 < createdAt ∨ expiresAt ≤ now ∨ expiresAt ≤ createdAt ∨ 86400000000000 < expiresAt - createdAt
deriving Decidable

def stableFrameIdentity [Digest] (parts : List String) : String :=
  hexEncode (hashBytes (parts.flatMap fun part => 0 :: bytesOf part)).bytes

def socialFrame [Digest] (kind : PayloadKind) (kindName source target payloadID orderingKey : String)
    (orderingSequence : ℤ) (payload : Bytes) (issuedAt expiresAt : Time) : Frame :=
  let identity := stableFrameIdentity [kindName, source, target, payloadID]
  { formatVersion := 1, frameID := "social-frame:" ++ identity, sourceStationPeerID := source
    targetStationPeerID := target, idempotencyKey := "social-idempotency:" ++ identity
    payloadKind := kind, payloadID := payloadID, orderingKey := orderingKey
    orderingSequence := orderingSequence, opaquePayload := payload, payloadSHA256 := []
    issuedAt := some (.ofTime issuedAt), expiresAt := some (.ofTime expiresAt), signingKeyID := ""
    stationSignature := [], traceID := "" }

end PeersTouch.Social
