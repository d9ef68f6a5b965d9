import PeersTouch.Client.Command

/-!
# Results that arrive in the inbox

`inbox/command_result.rs`: the authority's result of a command is delivered as an item of the device's
lane. `CommandResultProcessor.process` claims the item, checks that it is bound to a command of this
device, and hands the disposition of the command to the repository.
-/

namespace PeersTouch.Client

open Lib Protobuf Chat

/-! ### Enumerations -/

inductive ConversationCommandRejectCode where
  | unspecified | invalidProposal | invalidStationToken | inactiveFederationStation
  | actorKeyUnavailable | actorKeyRevoked | invalidActorSignature | commandHashMismatch
  | fieldBindingMismatch | notAuthority | permissionDenied | membershipEpochStale | mlsEpochMismatch
  | commandConflict | commandExpired | groupReadOnly | payloadTooLarge | tooManyRecipients
  | rateLimited | unsupportedCommand | staleDeliveryPlan | conversationState | senderUnauthorized
  | deliverySet | authorityPlanStale | authorityPlanExpired | targetNotMember | ownerProtected
  | authorityHeadStale | memberCommandExpired | memberMuted
deriving DecidableEq

/-- `try_from` of a number: the codes are numbered from 0 in the order above. -/
def ConversationCommandRejectCode.tryFrom (n : ℤ) : Option ConversationCommandRejectCode :=
  if 0 ≤ n ∧ n ≤ 30 then some (.ofNat n.toNat) else none

/-- The name of a code without `CONVERSATION_COMMAND_REJECT_CODE_`, in lower case. Every name starts
so, which is why `strip_prefix` does not fail. -/
def ConversationCommandRejectCode.errorCode : ConversationCommandRejectCode → String
  | .unspecified => "unspecified"
  | .invalidProposal => "invalid_proposal"
  | .invalidStationToken => "invalid_station_token"
  | .inactiveFederationStation => "inactive_federation_station"
  | .actorKeyUnavailable => "actor_key_unavailable"
  | .actorKeyRevoked => "actor_key_revoked"
  | .invalidActorSignature => "invalid_actor_signature"
  | .commandHashMismatch => "command_hash_mismatch"
  | .fieldBindingMismatch => "field_binding_mismatch"
  | .notAuthority => "not_authority"
  | .permissionDenied => "permission_denied"
  | .membershipEpochStale => "membership_epoch_stale"
  | .mlsEpochMismatch => "mls_epoch_mismatch"
  | .commandConflict => "command_conflict"
  | .commandExpired => "command_expired"
  | .groupReadOnly => "group_read_only"
  | .payloadTooLarge => "payload_too_large"
  | .tooManyRecipients => "too_many_recipients"
  | .rateLimited => "rate_limited"
  | .unsupportedCommand => "unsupported_command"
  | .staleDeliveryPlan => "stale_delivery_plan"
  | .conversationState => "conversation_state"
  | .senderUnauthorized => "sender_unauthorized"
  | .deliverySet => "delivery_set"
  | .authorityPlanStale => "authority_plan_stale"
  | .authorityPlanExpired => "authority_plan_expired"
  | .targetNotMember => "target_not_member"
  | .ownerProtected => "owner_protected"
  | .authorityHeadStale => "authority_head_stale"
  | .memberCommandExpired => "member_command_expired"
  | .memberMuted => "member_muted"

inductive ConversationCommandSubmissionState where
  | unspecified | homeAccepted | submitted | retryWait | accepted | terminalRejected
deriving DecidableEq

def ConversationCommandSubmissionState.number (state : ConversationCommandSubmissionState) : ℤ := state.ctorIdx

def ConversationCommandSubmissionState.tryFrom (n : ℤ) :
    Option ConversationCommandSubmissionState :=
  if 0 ≤ n ∧ n ≤ 5 then some (.ofNat n.toNat) else none

/-- `DEVICE_INBOX_PAYLOAD_TYPE_COMMAND_RESULT`. -/
def commandResultPayloadType : ℤ := 4

/-! ### Items and commits -/

/-- The fields of `DurableDeviceInboxItem` that are read here. -/
structure DurableDeviceInboxItem where
  itemID : String
  recipient : Option ActorDeviceRef
  laneSequence : ℤ
  eventID : EventID
  conversationID : ConversationID
  payloadType : ℤ
  (opaquePayload payloadSHA256 : Bytes)

inductive CommandResultDisposition where
  | accepted
  | failed (errorCode : String)
  | superseded (errorCode : String)
deriving DecidableEq

structure CommandResultReceiveCommit where
  itemID : String
  eventID : EventID
  conversationID : ConversationID
  commandID : CommandID
  laneSequence : ℤ
  consumerEpoch : ℕ
  payloadSHA256 : Bytes
  disposition : CommandResultDisposition
  consumedAtUnixMs : ℤ

/-- The trait `CommandResultRepository`, over a database of type `σ`. -/
structure CommandResultRepository (σ : Type) where
  persistClaimedItem : DurableDeviceInboxItem → ℕ → ℤ → σ → Except Error σ
  consumptionMarkerMatches : String → Bytes → σ → Except Error Bool
  commandBytes : ConversationID → CommandID → σ → Except Error Bytes
  commitCommandResult : CommandResultReceiveCommit → σ → Except Error σ

/-- The fields `command_result_item_id` hashes. -/
def commandResultItemFields (recipient : Endpoint) (conversationID : ConversationID)
    (commandID : CommandID) : List Bytes :=
  [bytesOf "peers-touch/conversation-command-result", [1], bytesOf recipient.actor,
    bytesOf recipient.device, bytesOf conversationID, bytesOf commandID]

def commandResultItemID [Digest] (recipient : Endpoint) (conversationID : ConversationID)
    (commandID : CommandID) : String :=
  hexEncode (hashBytes (canonicalTuple (commandResultItemFields recipient conversationID commandID))).bytes

/-! ### The local command -/

/-- What both kinds of command have. The transition is that of a membership command. -/
structure LocalCommandFields where
  commandID : CommandID
  conversationID : ConversationID
  authorityStationPeerID : StationID
  actor : Option CryptoEndpoint
  transitionID : Option TransitionID

/-- The command was submitted by this device. -/
def actorIs (actor : Option CryptoEndpoint) (endpoint : Endpoint) : Prop :=
  actor.map CryptoEndpoint.ptid = some endpoint.actor ∧ actor.map CryptoEndpoint.deviceID = some endpoint.device
deriving Decidable

namespace CommandResultProcessor

variable [Digest] [Payloads]

def localCommand (bytes : Bytes) : Except Error LocalCommandFields :=
  match Message.decode ChatCommand bytes with
  | .ok command => do
    failWhen (Message.encode command ≠ bytes) "messaging local command bytes are not canonical"
    return { command with
      actor := command.sender, transitionID := command.payload.bind Payloads.transitionID }
  | .error _ => do
    let command ← decodeAs ConversationMemberAuthorityCommand "decode local member-authority command: " bytes
    failWhen (Message.encode command ≠ bytes) "messaging local command bytes are not canonical"
    return { command with actor := command.operator, transitionID := none }

/-! ### Processing an item -/

def openDelivery (endpoint : Endpoint) (item : DurableDeviceInboxItem) :
    Except Error (ConversationCommandResultDelivery × ConversationCommandProposalResult) := do
  failWhen (item.payloadType ≠ commandResultPayloadType) "messaging command-result queue type is invalid"
  let recipient ← orFail item.recipient "messaging command-result recipient is missing"
  let ptid ← actorDevicePTID recipient
  failWhen (ptid ≠ endpoint.actor ∨ recipient.deviceID ≠ endpoint.device) "messaging command-result endpoint mismatch"
  failWhen (item.payloadSHA256.length ≠ 32 ∨ (hashBytes item.opaquePayload).bytes ≠ item.payloadSHA256)
    "messaging command-result payload hash mismatch"
  let delivery ← decodeAs ConversationCommandResultDelivery "decode messaging command result: "
    item.opaquePayload
  let result ← orFail delivery.result "messaging command result payload is missing"
  failWhen (delivery.conversationID ≠ item.conversationID ∨ blank delivery.commandID ∨
    result.commandID ≠ delivery.commandID)
    "messaging command result binding is invalid"
  failWhen (item.itemID ≠ commandResultItemID endpoint delivery.conversationID delivery.commandID)
    "messaging command result item identity is invalid"
  return (delivery, result)

def Invalid (command : LocalCommandFields) (item : DurableDeviceInboxItem)
    (result : ConversationCommandProposalResult) (rejectCode : ConversationCommandRejectCode)
    (event : ConversationEvent) : Prop :=
  result.accepted = false ∨ result.retryable = true ∨ rejectCode ≠ .unspecified ∨
    item.eventID ≠ event.eventID ∨ result.authoritySequence ≠ event.sequence ∨
    result.authorityEventHash ≠ event.eventHash ∨ event.commandID ≠ command.commandID ∨
    event.conversationID ≠ command.conversationID ∨ event.authorityStationPeerID ≠ command.authorityStationPeerID ∨
    event.actor ≠ command.actor ∨ event.sequence ≤ 0 ∨ event.eventHash.length ≠ 32
deriving Decidable

def supersedes (code : ConversationCommandRejectCode) : Bool :=
  code ∈ [ConversationCommandRejectCode.staleDeliveryPlan, .membershipEpochStale,
    .mlsEpochMismatch, .authorityPlanStale, .authorityPlanExpired]

def disposition (command : LocalCommandFields) (item : DurableDeviceInboxItem)
    (state : ConversationCommandSubmissionState) (result : ConversationCommandProposalResult)
    (rejectCode : ConversationCommandRejectCode) : Except Error CommandResultDisposition :=
  match state with
  | .accepted => do
    let event ← orFail result.event "messaging accepted command result has no authority event"
    failWhen (Invalid command item result rejectCode event) "messaging accepted command result is invalid"
    return .accepted
  | .terminalRejected => do
    failWhen (result.accepted = true ∨ result.retryable = true ∨ result.event.isSome ∨
      rejectCode = .unspecified ∨ item.eventID ≠ hexEncode item.payloadSHA256)
      "messaging rejected command result is invalid"
    return if supersedes rejectCode then .superseded rejectCode.errorCode
      else .failed rejectCode.errorCode
  | _ => .error "messaging command result is not terminal"

/-- The commit for an item, and the pending transition to be discarded after it. `commandBytes` looks
up the local command. -/
def receiveCommit (endpoint : Endpoint) (item : DurableDeviceInboxItem) (consumerEpoch : ℕ) (now : ℤ)
    (commandBytes : ConversationID → CommandID → Except Error Bytes) :
    Except Error (CommandResultReceiveCommit × Option TransitionID) := do
  let (delivery, result) ← openDelivery endpoint item
  let bytes ← commandBytes delivery.conversationID delivery.commandID
  let command ← localCommand bytes
  failWhen (command.commandID ≠ delivery.commandID ∨
    command.conversationID ≠ delivery.conversationID ∨ ¬actorIs command.actor endpoint)
    "messaging command result does not match local command"
  let state ← orFail (ConversationCommandSubmissionState.tryFrom delivery.state) "messaging command result state is invalid"
  let rejectCode ← orFail (ConversationCommandRejectCode.tryFrom result.rejectCode)
    "messaging command result reject code is invalid"
  let disposition ← disposition command item state result rejectCode
  return ({ item with
            conversationID := delivery.conversationID, commandID := delivery.commandID
            consumerEpoch, disposition, consumedAtUnixMs := now },
    if state = .terminalRejected then command.transitionID else none)

/-- The database after it, and the pending transition it discards. -/
def process {σ : Type} (repository : CommandResultRepository σ) (endpoint : Endpoint)
    (item : DurableDeviceInboxItem) (consumerEpoch : ℕ) (now : ℤ) (s : σ) :
    Except Error (σ × Option TransitionID) := do
  let s ← repository.persistClaimedItem item consumerEpoch now s
  if ← repository.consumptionMarkerMatches item.itemID item.payloadSHA256 s then
    return (s, none)
  let (commit, transition) ← receiveCommit endpoint item consumerEpoch now
    fun conversationID commandID => repository.commandBytes conversationID commandID s
  let s ← repository.commitCommandResult commit s
  return (s, transition)

end CommandResultProcessor

end PeersTouch.Client
