import PeersTouch.Chat.ValueObject
import PeersTouch.Lib.Protobuf

/-!
# Federation frames

A Station sends a domain message to another Station in a frame, which it signs. This module follows
`delivery/frame.go` and `delivery/errors.go`: the frame and its policy, the bytes that are signed, the
validation of a frame on both ends, and its identity in the tables of outbox and inbox.

A `Duration` is a number of nanoseconds, like a `Time`. Unknown fields of a message are kept as the bytes they
came in. The verification of a signature is the parameter `Verifier`.
-/

namespace PeersTouch.Federation

open Lib Protobuf Chat

/-! ### Errors -/

/-- A `FailureCode`. The empty text of the source is `unset`. -/
inductive FailureCode where
  | unset | invalidArgument | invalidFrame | unauthenticated | wrongTarget | unsupportedPayload
  | payloadHashConflict | expired | overloaded | domainRejected | domainDispatch | leaseFenced
  | transportUnavailable | invalidResult | persistence
deriving DecidableEq

def FailureCode.text : FailureCode → String
  | unset => ""
  | invalidArgument => "invalid_argument"
  | invalidFrame => "invalid_frame"
  | unauthenticated => "unauthenticated_source"
  | wrongTarget => "wrong_target"
  | unsupportedPayload => "unsupported_payload"
  | payloadHashConflict => "payload_hash_conflict"
  | expired => "expired"
  | overloaded => "overloaded"
  | domainRejected => "domain_rejected"
  | domainDispatch => "domain_dispatch"
  | leaseFenced => "lease_fenced"
  | transportUnavailable => "transport_unavailable"
  | invalidResult => "invalid_result"
  | persistence => "persistence"

structure Error where
  code : FailureCode
  (operation cause : String)
deriving DecidableEq

def Error.text (e : Error) : String := "federation delivery " ++ e.operation ++ ": " ++ e.code.text ++ ": " ++ e.cause

def newError (code : FailureCode) (operation cause : String) : Error := { code, operation, cause }

/-! ### Frames -/

inductive PayloadKind where
  | unspecified | conversationDeviceDelivery | conversationAuthorityCommand
  | conversationAuthorityResult | socialFriendRequestCommand | socialFriendRequestEvent
  | socialFriendRequestResult | conversationDeliveryReceipt | conversationTyping
  | conversationReadCursor | socialRelationshipEvent | realtimeCallSignal | socialPrivateResource
  | socialPrivateInvalidation | socialPrivateInteraction | socialPrivateResult
  | other (code : ℤ)
deriving DecidableEq

def PayloadKind.number : PayloadKind → ℤ
  | unspecified => 0
  | conversationDeviceDelivery => 1
  | conversationAuthorityCommand => 2
  | conversationAuthorityResult => 3
  | socialFriendRequestCommand => 4
  | socialFriendRequestEvent => 5
  | socialFriendRequestResult => 6
  | conversationDeliveryReceipt => 7
  | conversationTyping => 8
  | conversationReadCursor => 9
  | socialRelationshipEvent => 10
  | realtimeCallSignal => 11
  | socialPrivateResource => 12
  | socialPrivateInvalidation => 13
  | socialPrivateInteraction => 14
  | socialPrivateResult => 15
  | other code => code

structure Timestamp where
  (seconds nanos : ℤ)
  unknown : Bytes := []
deriving DecidableEq

namespace Timestamp

def asTime (t : Timestamp) : Time := (t.seconds + 62135596800) * 1000000000 + t.nanos

/-- `timestamppb.New`. -/
def ofTime (t : Time) : Timestamp where
  seconds := t / 1000000000 - 62135596800
  nanos := t % 1000000000

def checkValid (t : Timestamp) : Except String Unit := do
  failWhen (t.seconds < -62135596800) "timestamp before 0001-01-01"
  failWhen (253402300799 < t.seconds) "timestamp after 9999-12-31"
  failWhen (t.nanos < 0 ∨ 1000000000 ≤ t.nanos) "timestamp has out-of-range nanos"

def marshal (t : Timestamp) : Bytes := writeInt 1 t.seconds ++ writeInt 2 t.nanos ++ t.unknown

end Timestamp

structure Frame where
  formatVersion : ℕ
  (frameID sourceStationPeerID targetStationPeerID idempotencyKey : String)
  payloadKind : PayloadKind
  (payloadID orderingKey : String)
  orderingSequence : ℤ
  (opaquePayload payloadSHA256 : Bytes)
  (issuedAt expiresAt : Option Timestamp)
  signingKeyID : String
  stationSignature : Bytes
  traceID : String
  unknown : Bytes := []
deriving DecidableEq

/-- `PayloadSHA256`. -/
def payloadSHA256 [Digest] (payload : Bytes) : Bytes := (hashBytes payload).bytes

def writeTimestamp (tag : ℕ) (value : Option Timestamp) : Bytes :=
  (value.map fun t => writeDelimited tag t.marshal).getD []

namespace Frame

/-- The first fourteen fields, which the frame and its signing input have in common. -/
def marshalSigned (frame : Frame) : Bytes :=
  writeInt 1 frame.formatVersion ++ writeString 2 frame.frameID ++
    writeString 3 frame.sourceStationPeerID ++ writeString 4 frame.targetStationPeerID ++
    writeString 5 frame.idempotencyKey ++ writeInt 6 frame.payloadKind.number ++
    writeString 7 frame.payloadID ++ writeString 8 frame.orderingKey ++
    writeInt 9 frame.orderingSequence ++ writeBytes 10 frame.opaquePayload ++
    writeBytes 11 frame.payloadSHA256 ++ writeTimestamp 12 frame.issuedAt ++
    writeTimestamp 13 frame.expiresAt ++ writeString 14 frame.signingKeyID

/-- `proto.Marshal` of a frame. -/
def marshal (frame : Frame) : Bytes :=
  frame.marshalSigned ++ writeBytes 15 frame.stationSignature ++ writeString 16 frame.traceID ++ frame.unknown

/-- The bytes that the source Station signs. -/
def signingBytes (frame : Frame) : Except Error Bytes := do
  failWhen (frame.unknown ≠ []) (newError .invalidFrame "canonicalize frame" "unknown frame fields")
  return frame.marshalSigned ++ writeString 15 frame.traceID

/-- `CanonicalFrameSHA256`. -/
def canonicalSHA256 [Digest] (frame : Frame) : Except Error Bytes := do
  let canonical ← frame.signingBytes
  return (hashBytes canonical).bytes

end Frame

/-- `proto.Unmarshal` of a frame. -/
class FrameDecoder where
  unmarshal : Bytes → Option Frame

/-! ### Validation -/

structure FramePolicy where
  localStationPeerID : String
  formatVersion : ℕ
  (maxIdentifierBytes maxPayloadBytes maxSignatureBytes maxLifetime maxClockSkew : ℤ)

def defaultFramePolicy (localStationPeerID : String) : FramePolicy where
  localStationPeerID := localStationPeerID
  formatVersion := 1
  maxIdentifierBytes := 512
  maxPayloadBytes := 8388608
  maxSignatureBytes := 512
  maxLifetime := 86400000000000
  maxClockSkew := 30000000000

def validateFramePolicy (policy : FramePolicy) (requireLocalTarget : Bool) : Except Error Unit := do
  failWhen (requireLocalTarget ∧ (trimSpace policy.localStationPeerID = "" ∨
    policy.localStationPeerID ≠ trimSpace policy.localStationPeerID))
    (newError .invalidArgument "validate frame policy" "local station peer id is invalid")
  failWhen (policy.formatVersion = 0 ∨ policy.maxIdentifierBytes ≤ 0 ∨ policy.maxPayloadBytes ≤ 0 ∨
    policy.maxSignatureBytes ≤ 0 ∨ policy.maxLifetime ≤ 0 ∨ policy.maxClockSkew < 0)
    (newError .invalidArgument "validate frame policy" "frame policy bounds are invalid")

def invalidFrame (cause : String) : Error := newError .invalidFrame "validate frame" cause

def validateIdentifier (name value : String) (maximum : ℤ) : Except Error Unit := do
  failWhen (value = "" ∨ value ≠ trimSpace value) (invalidFrame (name ++ " is empty or not normalized"))
  failWhen (maximum < value.utf8ByteSize) (invalidFrame (name ++ " exceeds " ++ toString maximum ++ " bytes"))

def Frame.identifiers (frame : Frame) : List (String × String) :=
  [("frame_id", frame.frameID), ("source_station_peer_id", frame.sourceStationPeerID),
    ("target_station_peer_id", frame.targetStationPeerID), ("idempotency_key", frame.idempotencyKey),
    ("payload_id", frame.payloadID), ("ordering_key", frame.orderingKey), ("signing_key_id", frame.signingKeyID)]

def requireTimestamp (value : Option Timestamp) : Except Error Timestamp :=
  orFail value (invalidFrame "issued_at and expires_at are required")

def checkTimestamp (operation : String) (value : Timestamp) : Except Error Unit :=
  value.checkValid.mapError (newError .invalidFrame operation)

/-- The checks of the times of a frame; the clock is not compared when `now` is the zero time. -/
def validateLifetime (policy : FramePolicy) (issuedAt expiresAt now : Time) : Except Error Unit := do
  failWhen (expiresAt ≤ issuedAt) (invalidFrame "expiry must follow issue time")
  failWhen (policy.maxLifetime < expiresAt - issuedAt) (invalidFrame "frame lifetime exceeds policy")
  failWhen (now ≠ 0 ∧ now + policy.maxClockSkew < issuedAt) (invalidFrame "issue time is in the future")
  failWhen (now ≠ 0 ∧ expiresAt ≤ now) (newError .expired "validate frame" "immutable expiry reached")

def validateFrame [Digest] (frame : Frame) (policy : FramePolicy) (now : Time)
    (requireSignature requireLocalTarget : Bool) : Except Error Unit := do
  validateFramePolicy policy requireLocalTarget
  failWhen (frame.unknown ≠ []) (invalidFrame "unknown frame fields")
  failWhen (frame.formatVersion ≠ policy.formatVersion)
    (invalidFrame ("format version " ++ toString frame.formatVersion ++ " does not match " ++
      toString policy.formatVersion))
  frame.identifiers.forM fun p => validateIdentifier p.1 p.2 policy.maxIdentifierBytes
  (if frame.traceID = "" then .ok ()
    else validateIdentifier "trace_id" frame.traceID policy.maxIdentifierBytes)
  failWhen (requireLocalTarget ∧ frame.targetStationPeerID ≠ policy.localStationPeerID)
    (newError .wrongTarget "validate frame"
      ("target station " ++ frame.targetStationPeerID.quote ++ " does not match local station"))
  failWhen (frame.payloadKind.number = 0) (invalidFrame "payload kind is unspecified")
  failWhen (frame.orderingSequence < 0) (invalidFrame "ordering sequence is negative")
  failWhen (frame.opaquePayload = [] ∨ policy.maxPayloadBytes < frame.opaquePayload.length)
    (invalidFrame ("payload length " ++ toString frame.opaquePayload.length ++ " is outside 1.." ++
      toString policy.maxPayloadBytes))
  failWhen (frame.payloadSHA256.length ≠ 32 ∨ frame.payloadSHA256 ≠ payloadSHA256 frame.opaquePayload)
    (invalidFrame "payload SHA-256 mismatch")
  let issuedAt ← requireTimestamp frame.issuedAt
  let expiresAt ← requireTimestamp frame.expiresAt
  checkTimestamp "validate issued_at" issuedAt
  checkTimestamp "validate expires_at" expiresAt
  failWhen (issuedAt.unknown ≠ [] ∨ expiresAt.unknown ≠ []) (invalidFrame "unknown timestamp fields")
  validateLifetime policy issuedAt.asTime expiresAt.asTime now
  failWhen (requireSignature ∧ (frame.stationSignature = [] ∨ policy.maxSignatureBytes < frame.stationSignature.length))
    (newError .unauthenticated "validate frame" "station signature length is invalid")

/-- The key of a Station, and its signature of some bytes. -/
structure Signer where
  keyID : String
  sign : Bytes → Except String Bytes

/-- A frame as the signer finds it, with the name of the key and the hash of the payload. -/
def Frame.prepared [Digest] (frame : Frame) (signer : Signer) : Frame := { frame with
  signingKeyID := trimSpace signer.keyID
  payloadSHA256 := Federation.payloadSHA256 frame.opaquePayload, stationSignature := [] }

def Frame.signed [Digest] (frame : Frame) (signer : Signer) (signature : Bytes) : Frame :=
  { frame.prepared signer with stationSignature := signature }

def signFrame [Digest] (frame : Frame) (policy : FramePolicy) (signer : Signer) : Except Error Frame := do
  failWhen (trimSpace signer.keyID = "") (newError .invalidArgument "sign frame" "signing key id is empty")
  validateFrame (frame.prepared signer) policy 0 false false
  let canonical ← (frame.prepared signer).signingBytes
  let signature ← (signer.sign canonical).mapError (newError .unauthenticated "sign frame")
  failWhen (signature = []) (newError .unauthenticated "sign frame" "signer returned an empty signature")
  validateFrame (frame.signed signer signature) policy 0 true false
  return frame.signed signer signature

/-- Who checks that a Station has signed some bytes: the source, the key, the bytes and the signature. -/
abbrev Verifier := String → String → Bytes → Bytes → Bool

def verifyFrame [Digest] (frame : Frame) (policy : FramePolicy) (now : Time) (verifier : Verifier) :
    Except Error Unit := do
  validateFrame frame policy now true true
  let canonical ← frame.signingBytes
  failWhen (verifier frame.sourceStationPeerID frame.signingKeyID canonical
    frame.stationSignature = false)
    (newError .unauthenticated "verify frame signature" "signature is invalid")

/-! ### Identity -/

structure FrameIdentity where
  (sourceStationPeerID targetStationPeerID idempotencyKey frameID orderingKey : String)
  orderingSequence : ℤ
  (payloadSHA256 canonicalSHA256 : Bytes)

/-- Whether a text is empty or has blanks at its ends. -/
def Unnormalized (value : String) : Prop := trimSpace value = "" ∨ value ≠ trimSpace value
deriving Decidable

def newFrameIdentity [Digest] (frame : Frame) : Except Error FrameIdentity := do
  failWhen (Unnormalized frame.sourceStationPeerID ∨ Unnormalized frame.idempotencyKey ∨ Unnormalized frame.frameID)
    (newError .invalidFrame "identify frame" "frame identity is incomplete")
  failWhen (frame.payloadSHA256 ≠ payloadSHA256 frame.opaquePayload)
    (newError .invalidFrame "identify frame" "payload SHA-256 mismatch")
  let canonicalSHA256 ← frame.canonicalSHA256
  return {
    sourceStationPeerID := frame.sourceStationPeerID
    targetStationPeerID := frame.targetStationPeerID, idempotencyKey := frame.idempotencyKey
    frameID := frame.frameID, orderingKey := frame.orderingKey
    orderingSequence := frame.orderingSequence, payloadSHA256 := frame.payloadSHA256
    canonicalSHA256 }

lemma newFrameIdentity_eq_ok [Digest] {frame : Frame} {ident : FrameIdentity}
    (h : newFrameIdentity frame = .ok ident) : ident.sourceStationPeerID = frame.sourceStationPeerID ∧
    ident.idempotencyKey = frame.idempotencyKey ∧ ident.frameID = frame.frameID ∧
    ident.payloadSHA256 = frame.payloadSHA256 ∧ frame.canonicalSHA256 = .ok ident.canonicalSHA256 := by
  simp only [newFrameIdentity, ok_iff] at h
  obtain ⟨-, -, canonical, hcan, rfl⟩ := h
  exact ⟨rfl, rfl, rfl, rfl, hcan⟩

end PeersTouch.Federation
