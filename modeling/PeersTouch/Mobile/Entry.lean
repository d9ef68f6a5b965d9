import PeersTouch.Chat.ValueObject
import PeersTouch.Lib.Codec

/-!
# Durable commands of the mobile client

`mobile/src-tauri/src/runtime/command_ledger/{entry,error}.rs` and the messages of
`domain/mobile/reliability.proto`. A command is a signed social command in an envelope. The envelope
has a part that never changes after the admission (the identity, the payload and its hash, when the
command was created and when it expires) and a part that the ledger rewrites (`Envelope.fixed`
forgets it).

An enumeration of the wire is a number; a number that the schema does not declare is kept as
`unrecognized`.
-/

namespace PeersTouch.Mobile

open Lib Chat

/-! ### Errors -/

inductive LedgerCapacityExhaustionCause where
  | recordCount | byteCapacity
deriving DecidableEq

inductive LedgerErrorCode where
  | notInitialized | alreadyInitialized | invalidConfiguration | invalidEnvelope | invalidScope
  | schemaMismatch | keyMetadataMismatch | authenticationFailed | commandConflict | commandNotFound
  | stateConflict | capacityExceeded | payloadTooLarge | inflightLimit | legacyArchiveRetained
  | legacyQuarantineIncomplete | serialization | crypto | storage | io
deriving DecidableEq

structure LedgerError where
  code : LedgerErrorCode
  operation : String
  commandID : Option String := none
  capacityExhaustionCauses : List LedgerCapacityExhaustionCause := []
  detail : String
deriving DecidableEq

abbrev LedgerResult (α : Type) : Type := Except LedgerError α

namespace LedgerError

def new (code : LedgerErrorCode) (operation detail : String) : LedgerError := { code, operation, detail }

def forCommand (code : LedgerErrorCode) (operation commandID detail : String) : LedgerError :=
  { code, operation, commandID := some commandID, detail }

def capacityExceeded (operation commandID : String) (causes : List LedgerCapacityExhaustionCause)
    (detail : String) : LedgerError :=
  { code := .capacityExceeded, operation, commandID := some commandID, capacityExhaustionCauses := causes, detail }

end LedgerError

/-! ### Limits -/

def schemaRevision : ℕ := 2

def maxUnresolvedCommands : ℕ := 512

def maxPartitionBytes : ℕ := 16 * 1024 * 1024

def maxPayloadBytes : ℕ := 256 * 1024

def maxActiveOrderingKeys : ℕ := 4

def maxTransportAttempts : ℕ := 8

def retryBaseDelayMs : ℕ := 1000

def retryMaxDelayMs : ℕ := 60000

/-! ### Messages -/

/-- `MobileDurableCommandState`. -/
inductive CommandState where
  | unspecified | queued | dispatchFenced | submitting | acceptedPending | committed | retryWait
  | unknownOutcome | reconciling | unresolved | failedTerminal | checkpointing | cancelled
  | acknowledged | discarded
  | unrecognized (value : ℤ)
deriving DecidableEq

/-- `MobileDurableCommandErrorCode`. -/
inductive CommandErrorCode where
  | unspecified | invalid | unauthorized | policyRejected | localUnavailable | transport | deadline
  | responseDecode | resultMismatch | attemptExhausted | domainExpired | ledgerFull
  | unrecognized (value : ℤ)
deriving DecidableEq

inductive FriendRequestAction where
  | unspecified | send | accept | reject
  | unrecognized (value : ℤ)
deriving DecidableEq

inductive SocialRelationshipAction where
  | unspecified | block | unblock
  | unrecognized (value : ℤ)
deriving DecidableEq

structure Timestamp where
  (seconds nanos : ℤ)
deriving DecidableEq

structure ActorRef where
  ptid : String
  acct : String := ""
  kind : ℤ := 0
deriving DecidableEq

structure ActorDeviceRef where
  actor : Option ActorRef
  deviceID : String
deriving DecidableEq

structure FriendRequestCommandBody where
  formatVersion : ℕ
  (commandID requestID : String)
  action : FriendRequestAction
  (sender receiver : Option ActorRef)
  (senderHomeStationPeerID receiverHomeStationPeerID message : String)
  observedRequestState : ℤ
  (createdAt expiresAt : Option Timestamp)
  authorizingDevice : Option ActorDeviceRef
  federationID : String
deriving DecidableEq

structure FriendRequestCommand where
  body : Option FriendRequestCommandBody
  signingKeyID : String
  actorDeviceSignature : Bytes
deriving DecidableEq

structure SocialRelationshipCommandBody where
  formatVersion : ℕ
  commandID : String
  action : SocialRelationshipAction
  (actor targetActor : Option ActorRef)
  (actorHomeStationPeerID targetHomeStationPeerID : String)
  observedRevision : ℤ
  (createdAt expiresAt : Option Timestamp)
  authorizingDevice : Option ActorDeviceRef
deriving DecidableEq

structure SocialRelationshipCommand where
  body : Option SocialRelationshipCommandBody
  signingKeyID : String
  actorDeviceSignature : Bytes
deriving DecidableEq

inductive Payload where
  | friendRequest (command : FriendRequestCommand)
  | socialRelationship (command : SocialRelationshipCommand)
deriving DecidableEq

/-- `MobileDurableCommandEnvelopeV2`. -/
structure Envelope where
  schemaRevision : ℕ
  (commandID stationPeerID actorPTID : String)
  originGeneration : ℕ
  orderingKey : String
  payloadSHA256 : Bytes
  (createdAt updatedAt expiresAt : Option Timestamp)
  attemptCount : ℕ
  state : CommandState
  typedLastError : CommandErrorCode
  (dispatchStartedAt nextAttemptAt : Option Timestamp)
  payload : Option Payload
deriving DecidableEq

/-- How the generated code writes the messages that the ledger hashes and stores. -/
class LedgerFormat where
  envelope : Format Envelope
  friendRequest : FriendRequestCommand → Bytes
  socialRelationship : SocialRelationshipCommand → Bytes

structure CommandScope where
  (stationPeerID actorPTID : String)
deriving DecidableEq

structure ValidatedCommand where
  envelope : Envelope
  (encodedEnvelope payloadBytes : Bytes)
deriving DecidableEq

namespace ValidatedCommand

def commandID (command : ValidatedCommand) : String := command.envelope.commandID

def state (command : ValidatedCommand) : CommandState := command.envelope.state

def payloadSize (command : ValidatedCommand) : ℕ := command.payloadBytes.length

end ValidatedCommand

structure DispatchLease where
  envelope : Envelope
  (exactEnvelopeBytes exactPayloadBytes : Bytes)
  runtimeGeneration : ℕ
deriving DecidableEq

/-! ### States and retries -/

/-- The state is one that the schema declares, and not the default. -/
def stateOf (envelope : Envelope) : LedgerResult CommandState := match envelope.state with
  | .unrecognized _ =>
    .error (.forCommand .invalidEnvelope "read command state" envelope.commandID "generated command state is unknown")
  | .unspecified =>
    .error (.forCommand .invalidEnvelope "read command state" envelope.commandID "generated command state is unspecified")
  | state => .ok state

def errorOf (envelope : Envelope) : LedgerResult CommandErrorCode :=
  match envelope.typedLastError with
  | .unrecognized _ =>
    .error (.forCommand .invalidEnvelope "read command error" envelope.commandID "generated typed_last_error is unknown")
  | error => .ok error

def allowsTransition : CommandState → CommandState → Bool
  | .queued, .dispatchFenced
  | .queued, .cancelled
  | .queued, .failedTerminal
  | .retryWait, .dispatchFenced
  | .retryWait, .cancelled
  | .retryWait, .unresolved
  | .dispatchFenced, .submitting
  | .dispatchFenced, .unknownOutcome
  | .submitting, .acceptedPending
  | .submitting, .committed
  | .submitting, .failedTerminal
  | .submitting, .unknownOutcome
  | .submitting, .retryWait
  | .unknownOutcome, .reconciling
  | .reconciling, .acceptedPending
  | .reconciling, .committed
  | .reconciling, .failedTerminal
  | .reconciling, .retryWait
  | .reconciling, .unresolved
  | .unresolved, .reconciling
  | .unresolved, .discarded
  | .acceptedPending, .committed
  | .acceptedPending, .failedTerminal
  | .acceptedPending, .checkpointing
  | .committed, .checkpointing
  | .failedTerminal, .acknowledged => true
  | _, _ => false

inductive RetryDecision where
  | retryAt (ms : ℤ)
  | unresolved (error : CommandErrorCode)

def fullJitterDelayMs (attemptCount entropy : ℕ) : ℕ :=
  let exponent := min (attemptCount - 1) 31
  let ceiling := min (retryBaseDelayMs * 2 ^ exponent) retryMaxDelayMs
  entropy % (ceiling + 1)

def maximumI64 : ℤ := 2 ^ 63 - 1

def retryDecision (attemptCount : ℕ) (expiresAtMs nowMs : ℤ) (entropy : ℕ) : RetryDecision :=
  if expiresAtMs ≤ nowMs then .unresolved .domainExpired
  else if maxTransportAttempts ≤ attemptCount then .unresolved .attemptExhausted
  else .retryAt (min (nowMs + fullJitterDelayMs attemptCount entropy) maximumI64)

/-! ### Times -/

def timestampToMillis (timestamp : Option Timestamp) (field commandID : String) : LedgerResult ℤ := do
  let timestamp ← orFail timestamp
    (.forCommand .invalidEnvelope "validate command timestamp" commandID (field ++ " is required"))
  failWhen (timestamp.seconds < 0 ∨ ¬(0 ≤ timestamp.nanos ∧ timestamp.nanos < 1000000000))
    (.forCommand .invalidEnvelope "validate command timestamp" commandID
      (field ++ " is outside the supported timestamp range"))
  failWhen (maximumI64 < timestamp.seconds * 1000 + timestamp.nanos / 1000000)
    (.forCommand .invalidEnvelope "validate command timestamp" commandID (field ++ " overflows milliseconds"))
  return timestamp.seconds * 1000 + timestamp.nanos / 1000000

def millisToTimestamp (milliseconds : ℤ) : Timestamp where
  seconds := milliseconds / 1000
  nanos := milliseconds % 1000 * 1000000

def optionalMillis (timestamp : Option Timestamp) (field commandID : String) :
    LedgerResult (Option ℤ) :=
  match timestamp with
  | none => .ok none
  | some t => some <$> timestampToMillis (some t) field commandID

/-! ### Validation -/

def validateIdentifier (field value : String) : LedgerResult Unit :=
  failWhen (value = "" ∨ trimSpace value ≠ value) (.new .invalidEnvelope "validate command identifier"
    (field ++ " must be non-empty and canonical"))

def ptidOf (actor : Option ActorRef) : String := (actor.map ActorRef.ptid).getD ""

def devicePTID (device : Option ActorDeviceRef) : String := ptidOf (device.bind ActorDeviceRef.actor)

/-- The device is there and has an identifier. -/
def namesDevice (device : Option ActorDeviceRef) : Bool := device.any fun device => trimSpace device.deviceID ≠ ""

def validateSocialRelationship (command : SocialRelationshipCommand) (envelope : Envelope)
    (scope : CommandScope) : LedgerResult Unit := do
  let refuse (code : LedgerErrorCode) (detail : String) : LedgerError :=
    .forCommand code "validate Social relationship command" envelope.commandID detail
  let body ← orFail command.body (refuse .invalidEnvelope "Social relationship body is required")
  failWhen (body.commandID ≠ envelope.commandID) (refuse .commandConflict "outer and domain command IDs differ")
  failWhen (body.createdAt ≠ envelope.createdAt ∨ body.expiresAt ≠ envelope.expiresAt)
    (refuse .invalidEnvelope "outer timestamps do not match the signed domain command")
  validateIdentifier "signing_key_id" command.signingKeyID
  failWhen (command.actorDeviceSignature.length ≠ 64)
    (refuse .invalidEnvelope "actor-device signature must be an Ed25519 signature")
  match body.action with
  | .unrecognized _ => .error (refuse .invalidEnvelope "Social relationship action is unknown")
  | .unspecified => .error (refuse .invalidEnvelope "Social relationship action is unspecified")
  | .block | .unblock =>
    failWhen (ptidOf body.actor ≠ scope.actorPTID ∨ devicePTID body.authorizingDevice ≠ scope.actorPTID ∨
      body.actorHomeStationPeerID ≠ scope.stationPeerID ∨ ptidOf body.targetActor = "" ∨
      ptidOf body.targetActor = scope.actorPTID ∨ trimSpace body.targetHomeStationPeerID = "")
      (refuse .invalidScope "signed command authority or target does not match the exact scope")
    failWhen (¬namesDevice body.authorizingDevice) (refuse .invalidEnvelope "authorizing device is required")

def FriendRequestCommandBody.authority (body : FriendRequestCommandBody) :
    Option (Option ActorRef × String) :=
  match body.action with
  | .send => some (body.sender, body.senderHomeStationPeerID)
  | .accept | .reject => some (body.receiver, body.receiverHomeStationPeerID)
  | .unspecified | .unrecognized _ => none

def validateFriendRequest (command : FriendRequestCommand) (envelope : Envelope)
    (scope : CommandScope) : LedgerResult Unit := do
  let refuse (code : LedgerErrorCode) (detail : String) : LedgerError :=
    .forCommand code "validate Friend Request command" envelope.commandID detail
  let body ← orFail command.body (refuse .invalidEnvelope "Friend Request body is required")
  failWhen (body.commandID ≠ envelope.commandID) (refuse .commandConflict "outer and domain command IDs differ")
  failWhen (body.createdAt ≠ envelope.createdAt ∨ body.expiresAt ≠ envelope.expiresAt)
    (refuse .invalidEnvelope "outer timestamps do not match the signed domain command")
  validateIdentifier "signing_key_id" command.signingKeyID
  failWhen (command.actorDeviceSignature.length ≠ 64)
    (refuse .invalidEnvelope "actor-device signature must be an Ed25519 signature")
  let (authorizingActor, sourceStation) ← orFail body.authority (refuse .invalidEnvelope
    (if body.action = .unspecified then "Friend Request action is unspecified"
      else "Friend Request action is unknown"))
  failWhen (ptidOf authorizingActor ≠ scope.actorPTID ∨
    devicePTID body.authorizingDevice ≠ scope.actorPTID ∨ sourceStation ≠ scope.stationPeerID)
    (refuse .invalidScope "signed command authority does not match the exact Station/PTID scope")
  failWhen (¬namesDevice body.authorizingDevice) (refuse .invalidEnvelope "authorizing device is required")

section

variable [LedgerFormat]

def Envelope.encodePayload (envelope : Envelope) (scope : CommandScope) : LedgerResult Bytes :=
  match envelope.payload with
  | some (.friendRequest command) => do
    validateFriendRequest command envelope scope
    return LedgerFormat.friendRequest command
  | some (.socialRelationship command) => do
    validateSocialRelationship command envelope scope
    return LedgerFormat.socialRelationship command
  | none =>
    .error (.forCommand .invalidEnvelope "validate generated command envelope"
      envelope.commandID "generated command payload is required")

variable [Digest]

/-- The checks of `decode_and_validate` on the decoded envelope. The result is the payload. -/
def Envelope.validate (envelope : Envelope) (scope : CommandScope) : LedgerResult Bytes := do
  let refuse (code : LedgerErrorCode) (detail : String) : LedgerError :=
    .forCommand code "validate generated command envelope" envelope.commandID detail
  validateIdentifier "command_id" envelope.commandID
  validateIdentifier "ordering_key" envelope.orderingKey
  validateIdentifier "station_peer_id" envelope.stationPeerID
  validateIdentifier "actor_ptid" envelope.actorPTID
  failWhen (envelope.schemaRevision ≠ Mobile.schemaRevision)
    (refuse .schemaMismatch "unsupported reliability schema revision")
  failWhen (envelope.stationPeerID ≠ scope.stationPeerID ∨ envelope.actorPTID ≠ scope.actorPTID)
    (refuse .invalidScope "command scope does not match the activated Station/PTID partition")
  discard (stateOf envelope)
  discard (errorOf envelope)
  let createdAtMs ← timestampToMillis envelope.createdAt "created_at" envelope.commandID
  let updatedAtMs ← timestampToMillis envelope.updatedAt "updated_at" envelope.commandID
  let expiresAtMs ← timestampToMillis envelope.expiresAt "expires_at" envelope.commandID
  failWhen (updatedAtMs < createdAtMs ∨ expiresAtMs ≤ createdAtMs)
    (refuse .invalidEnvelope "command timestamps are not monotonic")
  discard (optionalMillis envelope.dispatchStartedAt "dispatch_started_at" envelope.commandID)
  discard (optionalMillis envelope.nextAttemptAt "next_attempt_at" envelope.commandID)
  let payloadBytes ← envelope.encodePayload scope
  failWhen (maxPayloadBytes < payloadBytes.length) (refuse .payloadTooLarge "serialized generated payload exceeds 256 KiB")
  failWhen (envelope.payloadSHA256 ≠ (hashBytes payloadBytes).bytes)
    (refuse .invalidEnvelope "payload_sha256 does not match the exact generated payload bytes")
  return payloadBytes

/-- `decode_and_validate`, which is also `decode_persisted`. -/
def decodeAndValidate (encodedEnvelope : Bytes) (scope : CommandScope) :
    LedgerResult ValidatedCommand := do
  let envelope ← orFail (LedgerFormat.envelope.unmarshal encodedEnvelope)
    (.new .serialization "decode generated command envelope" "failed to decode Protobuf message")
  let payloadBytes ← envelope.validate scope
  return { envelope, encodedEnvelope := LedgerFormat.envelope.marshal envelope, payloadBytes }

/-- A command that the ledger has not touched yet. -/
def Envelope.Untouched (envelope : Envelope) : Prop :=
  envelope.state = .queued ∧ envelope.attemptCount = 0 ∧ envelope.typedLastError = .unspecified ∧
    envelope.dispatchStartedAt = none ∧ envelope.nextAttemptAt = none
deriving Decidable

def decodeAdmission (encodedEnvelope : Bytes) (scope : CommandScope) (runtimeGeneration : ℕ) :
    LedgerResult ValidatedCommand := do
  let validated ← decodeAndValidate encodedEnvelope scope
  let refuse (detail : String) : LedgerError :=
    .forCommand .invalidEnvelope "decode admission" validated.commandID detail
  failWhen (validated.encodedEnvelope ≠ encodedEnvelope) (refuse "envelope bytes are not the canonical generated encoding")
  failWhen (validated.envelope.originGeneration ≠ runtimeGeneration)
    (refuse "origin_generation does not match the active runtime generation")
  failWhen (¬validated.envelope.Untouched) (refuse "new commands must enter as an untouched queued envelope")
  return validated

end

/-! ### What the ledger rewrites -/

namespace Envelope

/-- The part of an envelope that the ledger never rewrites; the rest has fixed values. -/
def fixed (envelope : Envelope) : Envelope := { envelope with
  updatedAt := none, attemptCount := 0, state := .unspecified, typedLastError := .unspecified
  dispatchStartedAt := none, nextAttemptAt := none }

def moved (envelope : Envelope) (state : CommandState) (error : CommandErrorCode) (nowMs : ℤ)
    (nextAttemptAtMs : Option ℤ) : Envelope :=
  { envelope with
    state, typedLastError := error, updatedAt := some (millisToTimestamp nowMs)
    nextAttemptAt := nextAttemptAtMs.map millisToTimestamp }

/-- The envelope of a lease. The count is below the limit, so it does not saturate. -/
def attempted (envelope : Envelope) (nowMs : ℤ) : Envelope := { envelope with
  attemptCount := envelope.attemptCount + 1
  dispatchStartedAt := some (millisToTimestamp nowMs), nextAttemptAt := none }

end Envelope

/-! ### What the checks accept -/

/-- The schema declares the state, and it is not the default. -/
def CommandState.Declared : CommandState → Prop
  | .unspecified | .unrecognized _ => False
  | _ => True

def CommandErrorCode.Declared : CommandErrorCode → Prop
  | .unrecognized _ => False
  | _ => True

variable {e : Envelope}

lemma stateOf_eq_ok {s : CommandState} : stateOf e = .ok s ↔ e.state = s ∧ s.Declared := by
  unfold stateOf
  cases h : e.state <;> cases s <;> simp [CommandState.Declared]

lemma errorOf_eq_ok {c : CommandErrorCode} : errorOf e = .ok c ↔ e.typedLastError = c ∧ c.Declared := by
  unfold errorOf
  cases h : e.typedLastError <;> cases c <;> simp [CommandErrorCode.Declared]

lemma declared_of_allowsTransition {s s' : CommandState} (h : allowsTransition s s' = true) : s'.Declared := by
  cases s' with
  | unspecified => cases s <;> simp [allowsTransition] at h
  | unrecognized value => cases s <;> simp [allowsTransition] at h
  | _ => trivial

lemma ne_queued_of_allowsTransition {s s' : CommandState} (h : allowsTransition s s' = true) : s' ≠ .queued := by
  rintro rfl
  cases s <;> simp [allowsTransition] at h

/-- The timestamp is there and stands for `ms` milliseconds. -/
def Reads (timestamp : Option Timestamp) (ms : ℤ) : Prop :=
  ∃ t, timestamp = some t ∧ 0 ≤ t.seconds ∧ (0 ≤ t.nanos ∧ t.nanos < 1000000000) ∧
    t.seconds * 1000 + t.nanos / 1000000 ≤ maximumI64 ∧ t.seconds * 1000 + t.nanos / 1000000 = ms

variable {timestamp : Option Timestamp} {ms : ℤ}

lemma timestampToMillis_eq_ok {field commandID : String} :
    timestampToMillis timestamp field commandID = .ok ms ↔ Reads timestamp ms := by
  unfold timestampToMillis Reads
  simp [and_assoc]

lemma reads_millisToTimestamp {now : ℤ} :
    Reads (some (millisToTimestamp now)) ms ↔ now = ms ∧ 0 ≤ now ∧ now ≤ maximumI64 := by
  unfold Reads millisToTimestamp
  constructor
  · rintro ⟨t, ht, hsec, hnanos, hmax, rfl⟩
    cases ht
    dsimp only at *
    omega
  · rintro ⟨rfl, hnow, hmax⟩
    refine ⟨_, rfl, ?_, ?_, ?_, ?_⟩ <;> dsimp only <;> omega

lemma Reads.unique {ms' : ℤ} (h : Reads timestamp ms) (h' : Reads timestamp ms') : ms = ms' := by
  obtain ⟨t, rfl, -, -, -, rfl⟩ := h
  obtain ⟨t', ht', -, -, -, rfl⟩ := h'
  cases ht'
  rfl

lemma Reads.nonneg (h : Reads timestamp ms) : 0 ≤ ms := by
  obtain ⟨t, rfl, hsec, hnanos, -, rfl⟩ := h
  omega

/-- A timestamp that may be missing and otherwise stands for some milliseconds. -/
def ReadsOptional (timestamp : Option Timestamp) : Option ℤ → Prop
  | none => timestamp = none
  | some ms => Reads timestamp ms

lemma optionalMillis_eq_ok {field commandID : String} {ms : Option ℤ} :
    optionalMillis timestamp field commandID = .ok ms ↔ ReadsOptional timestamp ms := by
  cases timestamp with
  | none => cases ms <;> simp [optionalMillis, ReadsOptional, Reads]
  | some t => cases ms <;> simp [optionalMillis, ReadsOptional, timestampToMillis_eq_ok]

section

variable [LedgerFormat] [Digest] {e : Envelope} {scope : CommandScope} {payload : Bytes}

/-- The checks on the part of an envelope that never changes. -/
structure Envelope.Sound (e : Envelope) (scope : CommandScope) (payload : Bytes) : Prop where
  commandID : validateIdentifier "command_id" e.commandID = .ok ()
  orderingKey : validateIdentifier "ordering_key" e.orderingKey = .ok ()
  stationPeerID : validateIdentifier "station_peer_id" e.stationPeerID = .ok ()
  actorPTID : validateIdentifier "actor_ptid" e.actorPTID = .ok ()
  revision : e.schemaRevision = Mobile.schemaRevision
  station : e.stationPeerID = scope.stationPeerID
  actor : e.actorPTID = scope.actorPTID
  encodes : e.encodePayload scope = .ok payload
  length : payload.length ≤ maxPayloadBytes
  hash : e.payloadSHA256 = (hashBytes payload).bytes

/-- The checks on the times: the command was created at `c`, updated at `u` and expires at `x`. -/
structure Envelope.Timed (e : Envelope) (c u x : ℤ) : Prop where
  created : Reads e.createdAt c
  updated : Reads e.updatedAt u
  expires : Reads e.expiresAt x
  created_le_updated : c ≤ u
  created_lt_expires : c < x
  dispatchStarted : ∃ ms, ReadsOptional e.dispatchStartedAt ms
  nextAttempt : ∃ ms, ReadsOptional e.nextAttemptAt ms

lemma validate_eq_ok : e.validate scope = .ok payload ↔
    e.fixed.Sound scope payload ∧ e.state.Declared ∧ e.typedLastError.Declared ∧ ∃ c u x, e.Timed c u x := by
  unfold Envelope.validate
  simp only [ok_iff, stateOf_eq_ok, errorOf_eq_ok, timestampToMillis_eq_ok, optionalMillis_eq_ok,
    not_or, not_not, not_lt, not_le]
  constructor
  · rintro ⟨hid, hkey, hstn, hac, hrev, ⟨hs, ha⟩, ⟨_, rfl, hst⟩, ⟨_, rfl, herr⟩, c, hc,
      u, hu, x, hx, ⟨hcu, hcx⟩, hd, hn, p, hp, hlen, hhash, rfl⟩
    exact ⟨⟨hid, hkey, hstn, hac, hrev, hs, ha, hp, hlen, hhash⟩, hst, herr, c, u, x,
      hc, hu, hx, hcu, hcx, hd, hn⟩
  · rintro ⟨h, hst, herr, c, u, x, ht⟩
    exact ⟨h.commandID, h.orderingKey, h.stationPeerID, h.actorPTID, h.revision,
      ⟨h.station, h.actor⟩, ⟨_, rfl, hst⟩, ⟨_, rfl, herr⟩, c, ht.created, u, ht.updated, x,
      ht.expires, ⟨ht.created_le_updated, ht.created_lt_expires⟩, ht.dispatchStarted,
      ht.nextAttempt, payload, h.encodes, h.length, h.hash, rfl⟩

variable {encoded : Bytes} {command : ValidatedCommand}

lemma decodeAndValidate_eq_ok : decodeAndValidate encoded scope = .ok command ↔
    LedgerFormat.envelope.unmarshal encoded = some command.envelope ∧ command.envelope.validate scope =
    .ok command.payloadBytes ∧ command.encodedEnvelope = LedgerFormat.envelope.marshal command.envelope := by
  unfold decodeAndValidate
  simp only [ok_iff]
  constructor
  · rintro ⟨e, he, p, hp, rfl⟩
    exact ⟨he, hp, rfl⟩
  · rintro ⟨he, hp, henc⟩
    exact ⟨_, he, _, hp, by rw [← henc]⟩

lemma decodeAdmission_eq_ok {generation : ℕ} : decodeAdmission encoded scope generation = .ok command ↔
    decodeAndValidate encoded scope = .ok command ∧ command.encodedEnvelope = encoded ∧
    command.envelope.originGeneration = generation ∧ command.envelope.Untouched := by
  unfold decodeAdmission
  simp only [ok_iff, not_not]
  constructor
  · rintro ⟨c, hc, henc, hgen, hnew, rfl⟩
    exact ⟨hc, henc, hgen, hnew⟩
  · rintro ⟨hc, henc, hgen, hnew⟩
    exact ⟨command, hc, henc, hgen, hnew, rfl⟩

/-- A transition to a declared state at a time that is not before the creation gives an envelope that
passes the checks again. -/
lemma validate_moved (h : e.validate scope = .ok payload) {state : CommandState}
    {error : CommandErrorCode} {now created : ℤ} {next : Option ℤ} (hst : state.Declared)
    (herr : error.Declared) (hcre : Reads e.createdAt created) (hnow : created ≤ now)
    (hupdated : Reads (some (millisToTimestamp now)) now)
    (hnext : ∃ ms, ReadsOptional (next.map millisToTimestamp) ms) :
    (e.moved state error now next).validate scope = .ok payload := by
  obtain ⟨hsound, -, -, c, u, x, ht⟩ := validate_eq_ok.1 h
  obtain rfl := ht.created.unique hcre
  exact validate_eq_ok.2 ⟨hsound, hst, herr, c, now, x, ht.created, hupdated, ht.expires, hnow,
    ht.created_lt_expires, ht.dispatchStarted, hnext⟩

lemma validate_attempted (h : e.validate scope = .ok payload) {now : ℤ}
    (hnow : Reads (some (millisToTimestamp now)) now) : (e.attempted now).validate scope = .ok payload := by
  obtain ⟨hsound, hst, herr, c, u, x, ht⟩ := validate_eq_ok.1 h
  exact validate_eq_ok.2 ⟨hsound, hst, herr, c, u, x, ht.created, ht.updated, ht.expires,
    ht.created_le_updated, ht.created_lt_expires, ⟨some now, hnow⟩, ⟨none, rfl⟩⟩

end

end PeersTouch.Mobile
