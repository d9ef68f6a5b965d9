import PeersTouch.Client.CommandResult

/-!
# Results that are fetched

`engine/reconciliation.rs`: a client asks its Station for the results of the commands it has submitted
and not settled yet. `validateResults` checks the answer and finds the disposition of each command;
`reconcileSubmittedCommands` is the round trip around it.
-/

namespace PeersTouch.Client

open Lib Protobuf Chat

def commandReconciliationBatchLimit : ℕ := 64
def commandReconciliationRetryDelayMs : ℤ := 1000

structure SubmittedCommand where
  commandID : CommandID
  conversationID : ConversationID
  (commandBytes commandSHA256 : Bytes)
deriving DecidableEq

def SubmittedCommand.identity (c : SubmittedCommand) : ConversationID × CommandID := (c.conversationID, c.commandID)

inductive CommandReconciliationDisposition where
  | homePending | accepted
  | failed (errorCode : String)
  | superseded (errorCode : String)
  | notFound
deriving DecidableEq

structure CommandReconciliation where
  commandID : CommandID
  conversationID : ConversationID
  (commandBytes commandSHA256 : Bytes)
  disposition : CommandReconciliationDisposition
deriving DecidableEq

inductive ConversationCommandResolutionState where
  | unspecified | homePending | accepted | terminalRejected | notFound
deriving DecidableEq

def ConversationCommandResolutionState.number (state : ConversationCommandResolutionState) : ℤ := state.ctorIdx

def ConversationCommandResolutionState.tryFrom (n : ℤ) :
    Option ConversationCommandResolutionState :=
  if 0 ≤ n ∧ n ≤ 4 then some (.ofNat n.toNat) else none

structure ConversationCommandResultRef where
  conversationID : ConversationID
  commandID : CommandID
  commandSHA256 : Bytes
deriving DecidableEq

/-- The part of a local command that a result is compared with. -/
structure DecodedSubmittedCommand where
  commandID : CommandID
  conversationID : ConversationID
  authorityStationPeerID : StationID
  actor : Option CryptoEndpoint
deriving DecidableEq

section

variable [Digest] [Payloads]

structure ResolvedConversationCommandResult where
  conversationID : ConversationID
  commandID : CommandID
  commandSHA256 : Bytes
  state : ℤ
  result : Option ConversationCommandProposalResult
  terminalErrorCode : ℤ

def ResolvedConversationCommandResult.identity (r : ResolvedConversationCommandResult) :
    ConversationID × CommandID :=
  (r.conversationID, r.commandID)

/-! ### Checking a result -/

def decodeSubmittedCommand (bytes : Bytes) : Except Error DecodedSubmittedCommand :=
  let memberAuthority : Except Error DecodedSubmittedCommand := do
    let command ← decodeAs ConversationMemberAuthorityCommand "decode submitted messaging command: " bytes
    failWhen (Message.encode command ≠ bytes) "submitted messaging command bytes are not canonical"
    return { command with actor := command.operator }
  match Message.decode ChatCommand bytes with
  | .ok command =>
    if Message.encode command = bytes then
      .ok { command with actor := command.sender }
    else memberAuthority
  | .error _ => memberAuthority

def requireEmptyResult (resolved : ResolvedConversationCommandResult)
    (terminalCode : ConversationCommandRejectCode) : Except Error Unit :=
  failWhen (resolved.result.isSome ∨ terminalCode ≠ .unspecified) "messaging nonterminal reconciliation carries a result"

def InvalidAccepted (command : DecodedSubmittedCommand) (result : ConversationCommandProposalResult)
    (rejectCode : ConversationCommandRejectCode) (event : ConversationEvent) : Prop :=
  result.commandID ≠ command.commandID ∨ result.accepted = false ∨ result.retryable = true ∨
    rejectCode ≠ .unspecified ∨ result.authoritySequence ≠ event.sequence ∨
    result.authorityEventHash ≠ event.eventHash ∨ event.commandID ≠ command.commandID ∨
    event.conversationID ≠ command.conversationID ∨ event.authorityStationPeerID ≠ command.authorityStationPeerID ∨
    event.actor ≠ command.actor ∨ event.sequence ≤ 0 ∨ event.eventHash.length ≠ 32
deriving Decidable

def validateAcceptedResult (command : DecodedSubmittedCommand)
    (result : ConversationCommandProposalResult) : Except Error Unit := do
  let rejectCode ← orFail (ConversationCommandRejectCode.tryFrom result.rejectCode)
    "messaging accepted reconciliation reject code is invalid"
  let event ← orFail result.event "messaging accepted reconciliation has no authority event"
  failWhen (InvalidAccepted command result rejectCode event) "messaging accepted reconciliation result is invalid"

def validateRejectedResult (command : DecodedSubmittedCommand)
    (result : ConversationCommandProposalResult) (terminalCode : ConversationCommandRejectCode) :
    Except Error Unit := do
  let rejectCode ← orFail (ConversationCommandRejectCode.tryFrom result.rejectCode)
    "messaging rejected reconciliation reject code is invalid"
  failWhen (result.commandID ≠ command.commandID ∨ result.accepted = true ∨
    result.retryable = true ∨ result.event.isSome ∨ rejectCode ≠ terminalCode)
    "messaging rejected reconciliation result is invalid"

def isSupersedingRejection (code : ConversationCommandRejectCode) : Bool :=
  code ∈ [ConversationCommandRejectCode.staleDeliveryPlan, .authorityHeadStale,
    .membershipEpochStale, .mlsEpochMismatch, .authorityPlanStale, .authorityPlanExpired]

def validateResult (command : DecodedSubmittedCommand) (resolved : ResolvedConversationCommandResult) :
    Except Error CommandReconciliationDisposition := do
  let state ← orFail (ConversationCommandResolutionState.tryFrom resolved.state)
    "messaging command reconciliation state is invalid"
  let terminalCode ← orFail (ConversationCommandRejectCode.tryFrom resolved.terminalErrorCode)
    "messaging command reconciliation reject code is invalid"
  match state with
  | .homePending =>
    requireEmptyResult resolved terminalCode
    return .homePending
  | .accepted =>
    failWhen (terminalCode ≠ .unspecified) "messaging accepted reconciliation has terminal error code"
    let result ← orFail resolved.result "messaging accepted reconciliation has no canonical result"
    validateAcceptedResult command result
    return .accepted
  | .terminalRejected =>
    failWhen (terminalCode = .unspecified) "messaging rejected reconciliation has no terminal error code"
    forM resolved.result.toList fun result => validateRejectedResult command result terminalCode
    return if isSupersedingRejection terminalCode then .superseded terminalCode.errorCode
      else .failed terminalCode.errorCode
  | .notFound =>
    requireEmptyResult resolved terminalCode
    return .notFound
  | .unspecified => .error "messaging command reconciliation state is unspecified"

def validateSubmitted (endpoint : Endpoint) (submitted : SubmittedCommand)
    (result : ResolvedConversationCommandResult) : Except Error CommandReconciliation := do
  failWhen (result.commandSHA256 ≠ submitted.commandSHA256 ∨ submitted.commandSHA256.length ≠ 32 ∨
    (hashBytes submitted.commandBytes).bytes ≠ submitted.commandSHA256)
    "messaging command reconciliation command hash mismatch"
  let command ← decodeSubmittedCommand submitted.commandBytes
  failWhen (command.commandID ≠ submitted.commandID ∨
    command.conversationID ≠ submitted.conversationID ∨ ¬actorIs command.actor endpoint)
    "messaging command reconciliation does not match local command"
  let disposition ← validateResult command result
  return { submitted with disposition }

/-! ### Checking a batch -/

def takeResults (endpoint : Endpoint) : List SubmittedCommand →
    KeyedTable ResolvedConversationCommandResult ResolvedConversationCommandResult.identity →
    Except Error (List CommandReconciliation)
  | [], _ => .ok []
  | submitted :: rest, byIdentity => do
    let result ← orFail (byIdentity.find submitted.identity) "messaging command reconciliation response identity mismatch"
    let reconciliation ← validateSubmitted endpoint submitted result
    let others ← takeResults endpoint rest (byIdentity.delete submitted.identity)
    return reconciliation :: others

def validateResults (endpoint : Endpoint) (submitted : List SubmittedCommand)
    (results : List ResolvedConversationCommandResult) :
    Except Error (List CommandReconciliation) := do
  failWhen (results.length ≠ submitted.length) "messaging command reconciliation response count mismatch"
  let byIdentity ← KeyedTable.empty.insertEach results "messaging command reconciliation response is duplicated"
  takeResults endpoint submitted byIdentity

/-! ### A round of reconciliation -/

/-- The trait `CommandReconciliationRepository`, over a database of type `σ`. -/
structure CommandReconciliationRepository (σ : Type) where
  submittedCommands : σ → Except Error (List SubmittedCommand)
  applyCommandReconciliations : List CommandReconciliation → ℤ → σ → Except Error σ

inductive CommandReconciliationProgress where
  | idle
  | reconciled (commandCount transitionCount retryCount : ℕ) (nextReconciliationAtUnixMs : Option ℤ)
      (terminalMembershipConversations : List ConversationID)
deriving DecidableEq

/-- The conversation of a membership command that was settled without success. -/
def CommandReconciliation.terminalMembership (r : CommandReconciliation) : Option ConversationID :=
  match r.disposition with
  | .failed _ | .superseded _ =>
    match Message.decode ChatCommand r.commandBytes with
    | .ok command => (command.payload.bind Payloads.transitionID).map fun _ => command.conversationID
    | .error _ => none
  | _ => none

def progressOf (reconciliations : List CommandReconciliation) (retryAt : ℤ) :
    CommandReconciliationProgress :=
  let pending := reconciliations.countP fun r => r.disposition = .homePending
  .reconciled reconciliations.length (reconciliations.length - pending)
    (reconciliations.countP fun r => r.disposition = .notFound) (if 0 < pending then some retryAt else none)
    (reconciliations.filterMap CommandReconciliation.terminalMembership)

def reconcileSubmittedCommands {σ : Type} (repository : CommandReconciliationRepository σ)
    (resolve : List ConversationCommandResultRef → Except Error (List ResolvedConversationCommandResult))
    (endpoint : Endpoint) (now : ℤ) (s : σ) : Except Error (σ × CommandReconciliationProgress) := do
  failWhen (blank endpoint.actor ∨ blank endpoint.device) "crypto endpoint requires PTID and device ID"
  failWhen (now ≤ 0) "messaging command reconciliation time is invalid"
  failWhen ((maximumI64 : ℤ) < now + commandReconciliationRetryDelayMs)
    "messaging command reconciliation retry time overflowed"
  let submitted ← repository.submittedCommands s
  if submitted = [] then
    return (s, .idle)
  failWhen (commandReconciliationBatchLimit < submitted.length) "messaging command reconciliation batch exceeds limit"
  let results ← resolve (submitted.map fun c => ⟨c.conversationID, c.commandID, c.commandSHA256⟩)
  let reconciliations ← validateResults endpoint submitted results
  let retryAt := now + commandReconciliationRetryDelayMs
  let s ← repository.applyCommandReconciliations reconciliations retryAt s
  return (s, progressOf reconciliations retryAt)

end

end PeersTouch.Client
