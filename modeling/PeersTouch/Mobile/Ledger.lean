import PeersTouch.Mobile.Checkpoint

/-!
# The mobile command ledger

`CommandLedger` of `command_ledger/mod.rs`, with the scheduler of `fairness.rs`. The database survives
a crash; the runtime generation and the key that the scheduler served last do not
(`Ledger.inner`), and without them every operation but an activation is refused.

A callback is an operation that first decides, from its arguments and the stored command, which
transactions to make (`Callback.plan`) and then makes them one after the other, so that a crash can
come between two of them. An `Operation` is a call of a method of `CommandLedger`; an `Action` is a
call that returns or one that a crash cuts short.
-/

namespace PeersTouch.Mobile

open Lib Chat

structure LedgerInner where
  runtimeGeneration : ℕ
  /-- The scheduler. -/
  lastServedKey : Option String := none

structure Ledger where
  database : Database
  inner : Option LedgerInner

/-- A new partition, not yet activated. -/
def Ledger.empty : Ledger where
  database := .empty
  inner := none

def Ledger.active (s : Ledger) : LedgerResult LedgerInner := orFail s.inner
    (.new .notInitialized "access command ledger" "no Station/PTID partition is active")

def verifyGeneration (inner : LedgerInner) (runtimeGeneration : ℕ) : LedgerResult Unit :=
  failWhen (runtimeGeneration ≠ inner.runtimeGeneration) (.new .stateConflict "verify command callback generation"
    "callback belongs to a stale runtime generation")

inductive CommandPayloadKind where
  | friendRequest | socialRelationship
deriving DecidableEq

def Payload.kind : Payload → CommandPayloadKind
  | .friendRequest _ => .friendRequest
  | .socialRelationship _ => .socialRelationship

/-- What a run of the ledger leaves behind: a lease that was handed out, or a lookup that was applied to
a command. -/
inductive Event where
  | leased (lease : DispatchLease)
  | applied (commandID : String) (lookup : AuthoritativeLookup)

/-! ### Callbacks -/

/-- The methods that move one command. Those with a second state or an error name the state they expect
and the error they record. -/
inductive Callback where
  | markSubmitting (commandID : String)
  | markUnknown (commandID : String) (typedError : CommandErrorCode)
  | markTerminalFailure (commandID : String) (expectedState : CommandState)
      (typedError : CommandErrorCode)
  | cancelBeforeDispatch (commandID : String) (expectedState : CommandState)
  | beginReconciliation (commandID : String) (expectedState : CommandState)
  | markReconciliationUnresolved (commandID : String) (typedError : CommandErrorCode)
  | transitionFromAuthoritativeLookup (commandID : String) (exactLookupBytes : Bytes)
      (retryEntropy : ℕ)
  | acknowledgeTerminalFailure (commandID : String)
  | discardUnresolvedTracking (commandID : String)

inductive Request where
  | transition (request : Transition) (lookup : Option AuthoritativeLookup := none)
  | purge (expectedState : CommandState)

/-- The errors after which the outcome of a command is open. -/
def CommandErrorCode.isInconclusive : CommandErrorCode → Bool
  | .transport | .deadline | .responseDecode | .localUnavailable | .resultMismatch => true
  | _ => false

def CommandErrorCode.isDeterministic : CommandErrorCode → Bool
  | .invalid | .unauthorized | .policyRejected | .domainExpired => true
  | _ => false

/-- The error that was recorded, or another one if the schema does not declare it. -/
def CommandErrorCode.orElse (error default : CommandErrorCode) : CommandErrorCode :=
  match error with
  | .unrecognized _ => default
  | error => error

def Callback.commandID : Callback → String
  | .markSubmitting id | .markUnknown id _ | .markTerminalFailure id _ _
  | .cancelBeforeDispatch id _ | .beginReconciliation id _ | .markReconciliationUnresolved id _
  | .transitionFromAuthoritativeLookup id _ _ | .acknowledgeTerminalFailure id
  | .discardUnresolvedTracking id => id

/-- What a callback checks before it looks at the ledger. -/
def Callback.arguments : Callback → LedgerResult Unit
  | .markUnknown id typedError =>
    failWhen (¬typedError.isInconclusive) (.forCommand .invalidEnvelope "mark command outcome unknown" id
      "unknown outcome requires a generated retry/reconciliation error code")
  | .markTerminalFailure id expectedState typedError =>
    failWhen ((expectedState ≠ .queued ∧ expectedState ≠ .submitting ∧
      expectedState ≠ .reconciling) ∨ ¬typedError.isDeterministic)
      (.forCommand .invalidEnvelope "mark command terminal failure" id
        "terminal failure requires an accepted source state and deterministic typed error")
  | .cancelBeforeDispatch id expectedState =>
    failWhen (expectedState ≠ .queued ∧ expectedState ≠ .retryWait)
      (.forCommand .stateConflict "cancel command before dispatch" id
        "cancellation requires queued or retry_wait expected state")
  | .beginReconciliation id expectedState =>
    failWhen (expectedState ≠ .unknownOutcome ∧ expectedState ≠ .unresolved)
      (.forCommand .stateConflict "begin authoritative reconciliation" id
        "reconciliation requires unknown_outcome or unresolved")
  | .markReconciliationUnresolved id typedError =>
    failWhen (¬typedError.isInconclusive) (.forCommand .invalidEnvelope "finish authoritative reconciliation" id
      "unresolved reconciliation requires a generated lookup error code")
  | _ => .ok ()

section

variable [LedgerFormat] [Digest] [ResultMessages]

def requireCommand (scope : CommandScope) (operation commandID : String) (t : CommandTable) :
    LedgerResult ValidatedCommand := do
  let command ← t.get scope commandID
  orFail command (.forCommand .commandNotFound operation commandID "command does not exist")

def notFoundPlan (current : ValidatedCommand) (lookup : AuthoritativeLookup) (commandID : String)
    (nowMs : ℤ) (retryEntropy : ℕ) : LedgerResult (List Request) := do
  failWhen (current.state ≠ .submitting ∧ current.state ≠ .reconciling)
    (.forCommand .stateConflict "apply authoritative command lookup" commandID
      "not_found requires submitting or reconciling")
  let expiresAtMs ← timestampToMillis current.envelope.expiresAt "expires_at" commandID
  return match retryDecision current.envelope.attemptCount expiresAtMs nowMs retryEntropy with
    | .retryAt retryAtMs =>
      [.transition
        { expectedStates := [current.state], nextState := .retryWait, typedError := .unspecified
          nextAttemptAtMs := some retryAtMs } lookup]
    | .unresolved error =>
      -- there is no transition from submitting to unresolved, so two are made
      if current.state = .submitting then
        [.transition
            { expectedStates := [.submitting], nextState := .retryWait, typedError := error
              nextAttemptAtMs := some nowMs } lookup,
          .transition
            { expectedStates := [.retryWait], nextState := .unresolved, typedError := error }
            lookup]
      else
        [.transition
          { expectedStates := [current.state], nextState := .unresolved, typedError := error }
          lookup]

/-- Where a lookup with another answer takes a command, and with which error. -/
def lookupTarget (current : ValidatedCommand) (lookup : AuthoritativeLookup) (commandID : String) :
    LedgerResult (CommandState × CommandErrorCode) :=
  let refuse (code : LedgerErrorCode) (detail : String) : LedgerError :=
    .forCommand code "apply authoritative command lookup" commandID detail
  match lookup.state with
  | .notFound | .acceptedPending => .ok (.acceptedPending, .unspecified)
  | .terminalResult =>
    match lookup.resultKind with
    | none => .error (refuse .invalidEnvelope "terminal lookup is missing its generated result")
    | some .committed | some .duplicate => .ok (.committed, .unspecified)
    | some .rejected | some .conflict => .ok (.failedTerminal, .policyRejected)
  | .unresolved =>
    match current.state with
    | .submitting => .ok (.unknownOutcome, .localUnavailable)
    | .reconciling => .ok (.unresolved, .localUnavailable)
    | _ => .error (refuse .stateConflict "unresolved lookup requires submitting or reconciling")

/-- Where a lookup about another command takes the command. -/
def mismatchTarget (current : ValidatedCommand) (commandID : String) : LedgerResult CommandState :=
  match current.state with
  | .reconciling => .ok .unresolved
  | .submitting => .ok .unknownOutcome
  | _ =>
    .error (.forCommand .commandConflict "apply authoritative command lookup" commandID
      "lookup identity differs outside a resolvable state")

/-- `transition_from_authoritative_lookup`. -/
def lookupPlan (scope : CommandScope) (commandID : String) (exactLookupBytes : Bytes) (nowMs : ℤ)
    (retryEntropy : ℕ) (t : CommandTable) : LedgerResult (List Request) := do
  let current ← requireCommand scope "apply authoritative command lookup" commandID t
  let lookup ← decodeLookup current exactLookupBytes
  if lookup.commandID ≠ current.envelope.commandID ∨ lookup.commandPayloadSHA256 ≠ current.envelope.payloadSHA256 then
    let target ← mismatchTarget current commandID
    return [.transition
      { expectedStates := [current.state], nextState := target, typedError := .resultMismatch }
      lookup]
  else if lookup.state = .notFound then
    notFoundPlan current lookup commandID nowMs retryEntropy
  else
    let (nextState, typedError) ← lookupTarget current lookup commandID
    return [.transition { expectedStates := [current.state], nextState, typedError } lookup]

def removalPlan (scope : CommandScope) (operation commandID : String)
    (settledState lastState : CommandState) (default : CommandErrorCode) (detail : String)
    (t : CommandTable) : LedgerResult (List Request) := do
  let current ← requireCommand scope operation commandID t
  if current.state = settledState then
    return [.transition
      { expectedStates := [settledState], nextState := lastState
        typedError := current.envelope.typedLastError.orElse default }, .purge lastState]
  else if current.state = lastState then return [.purge lastState]
  else
    .error (.forCommand .stateConflict operation commandID (detail ++ current.state.debug))

def Callback.plan (scope : CommandScope) (nowMs : ℤ) (t : CommandTable) :
    Callback → LedgerResult (List Request)
  | .markSubmitting _ =>
    .ok [.transition
      { expectedStates := [.dispatchFenced], nextState := .submitting, typedError := .unspecified }]
  | .markUnknown _ typedError =>
    .ok [.transition
      { expectedStates := [.dispatchFenced, .submitting], nextState := .unknownOutcome, typedError }]
  | .markTerminalFailure _ expectedState typedError =>
    .ok [.transition
      { expectedStates := [expectedState], nextState := .failedTerminal, typedError }]
  | .cancelBeforeDispatch _ expectedState =>
    .ok [.transition
      { expectedStates := [expectedState], nextState := .cancelled, typedError := .unspecified }]
  | .beginReconciliation _ expectedState =>
    .ok [.transition
      { expectedStates := [expectedState], nextState := .reconciling, typedError := .unspecified }]
  | .markReconciliationUnresolved _ typedError =>
    .ok [.transition
      { expectedStates := [.reconciling], nextState := .unresolved, typedError }]
  | .transitionFromAuthoritativeLookup commandID exactLookupBytes retryEntropy =>
    lookupPlan scope commandID exactLookupBytes nowMs retryEntropy t
  | .acknowledgeTerminalFailure commandID =>
    removalPlan scope "acknowledge terminal command" commandID .failedTerminal .acknowledged
      .policyRejected "expected failed_terminal or acknowledged, found " t
  | .discardUnresolvedTracking commandID =>
    removalPlan scope "discard unresolved command tracking" commandID .unresolved .discarded
      .localUnavailable "expected unresolved or discarded, found " t

omit [ResultMessages] in
def Request.perform (scope : CommandScope) (commandID : String) (nowMs : ℤ) (t : CommandTable) :
    Request → LedgerResult (Option Envelope × CommandTable)
  | .transition request _ => do
    let (command, t) ← t.transition scope commandID request nowMs
    return (some command.envelope, t)
  | .purge expectedState => do
    let t ← purgeTerminal commandID expectedState t
    return (none, t)

def Request.events (commandID : String) : Request → List Event
  | .transition _ (some lookup) => [.applied commandID lookup]
  | _ => []

omit [ResultMessages] in
/-- Make the transactions in order, up to the first that fails. The result is the last envelope that
was written. -/
def performAll (scope : CommandScope) (commandID : String) (nowMs : ℤ) :
    List Request → Option Envelope → CommandTable → LedgerResult (Option Envelope) × List Event × CommandTable
  | [], last, t => (.ok last, [], t)
  | request :: requests, last, t =>
    match request.perform scope commandID nowMs t with
    | .error e => (.error e, [], t)
    | .ok (envelope, t') =>
      let (result, events, t'') := performAll scope commandID nowMs requests (envelope.or last) t'
      (result, request.events commandID ++ events, t'')

/-! ### Dispatch -/

section

omit [LedgerFormat] [Digest] [ResultMessages]

/-- `FairScheduler::select`: the first candidate of the next key, in a round robin. -/
def select (lastServedKey : Option String) (candidates : List DispatchCandidate) :
    Option DispatchCandidate :=
  let ordered := orderBy (fun c : DispatchCandidate => toLex (c.orderingKey, toLex (c.createdAtMs, c.commandID)))
    candidates
  (lastServedKey.bind fun last => ordered.find? fun c => last < c.orderingKey).or ordered.head?

def dispatchLease (command : ValidatedCommand) (runtimeGeneration : ℕ) : DispatchLease where
  envelope := command.envelope
  exactEnvelopeBytes := command.encodedEnvelope
  exactPayloadBytes := command.payloadBytes
  runtimeGeneration := runtimeGeneration

end

omit [ResultMessages] in
def isWanted (scope : CommandScope) (payloadKind : Option CommandPayloadKind)
    (candidate : DispatchCandidate) (t : CommandTable) : LedgerResult Bool :=
  match payloadKind with
  | none => .ok true
  | some expectedKind => do
    match ← t.get scope candidate.commandID with
    | none => return false
    | some command =>
      let payload ← orFail command.envelope.payload (.forCommand .invalidEnvelope "select generated command for dispatch"
        candidate.commandID "generated command payload is missing")
      return payload.kind = expectedKind

omit [ResultMessages] in
/-- Fence the candidates in the order of the scheduler, up to the first that can be sent. A candidate is
tried once, so their number bounds the number of rounds. -/
def dispatchLoop (scope : CommandScope) (runtimeGeneration : ℕ) (nowMs : ℤ) (payloadKind : Option CommandPayloadKind) :
    ℕ → List DispatchCandidate → Option String → CommandTable →
      LedgerResult (Option DispatchLease) × Option String × CommandTable
  | 0, _, last, t => (.ok none, last, t)
  | rounds + 1, candidates, last, t =>
    match select last candidates with
    | none => (.ok none, last, t)
    | some candidate =>
      let last := some candidate.orderingKey
      let others := candidates.filter fun item => item.commandID ≠ candidate.commandID
      match isWanted scope payloadKind candidate t with
      | .error e => (.error e, last, t)
      | .ok false => dispatchLoop scope runtimeGeneration nowMs payloadKind rounds others last t
      | .ok true =>
        match fenceDispatch scope candidate.commandID candidate.expectedState nowMs t with
        | .ok (.dispatch command, t') => (.ok (some (dispatchLease command runtimeGeneration)), last, t')
        | .ok (.notDispatchable _, t') => dispatchLoop scope runtimeGeneration nowMs payloadKind rounds others last t'
        | .error e =>
          if e.code = .stateConflict then
            dispatchLoop scope runtimeGeneration nowMs payloadKind rounds others last t
          else (.error e, last, t)

/-! ### Operations -/

omit [LedgerFormat] [Digest] [ResultMessages] in
/-- The methods of `CommandLedger` that write. -/
inductive Operation where
  | activate (runtimeGeneration : ℕ) (nowMs : ℤ)
  | deactivate
  | rebindRuntimeGeneration (runtimeGeneration : ℕ)
  | admitGeneratedEnvelope (exactEnvelopeBytes : Bytes)
  | nextForDispatchKind (runtimeGeneration : ℕ) (nowMs : ℤ)
      (payloadKind : Option CommandPayloadKind)
  | compareAndSwapDispatchFence (commandID : String) (expectedState : CommandState)
      (runtimeGeneration : ℕ) (nowMs : ℤ)
  | callback (callback : Callback) (runtimeGeneration : ℕ) (nowMs : ℤ)
  | purgeCancelled (commandID : String)
  | persistProjectionCheckpointAndRemove (commandID : String) (exactLookupBytes : Bytes)
      (runtimeGeneration : ℕ) (nowMs : ℤ)
  | acknowledgeProjectionCheckpoint (commandID : String) (payloadSHA256 : Bytes)

inductive Reply where
  | done
  | admission (outcome : AdmissionOutcome)
  | lease (lease : Option DispatchLease)
  | notDispatchable (envelope : Envelope)
  | envelope (envelope : Option Envelope)
  | checkpoint (checkpoint : ProjectionCheckpoint)
deriving DecidableEq

structure Outcome where
  result : LedgerResult Reply
  /-- The lookups that were applied. -/
  events : List Event := []
  ledger : Ledger

namespace Ledger

/-- An operation of one transaction, which leaves the ledger as it was when it fails. -/
def transact (s : Ledger) (x : LedgerResult (Reply × Ledger)) : Outcome := match x with
  | .ok (reply, s') => { result := .ok reply, ledger := s' }
  | .error e => { result := .error e, ledger := s }

def withCommands (s : Ledger) (commands : CommandTable) : Ledger := { s with database := { s.database with commands } }

def activate (scope : CommandScope) (s : Ledger) (runtimeGeneration : ℕ) (nowMs : ℤ) :
    LedgerResult (Reply × Ledger) := do
  failWhen (s.inner ≠ none) (.new .alreadyInitialized "activate command ledger"
    "a Station/PTID partition is already active")
  let commands ← recoverFromCrash scope nowMs s.database.commands
  return (.done, { s.withCommands commands with inner := some { runtimeGeneration } })

def rebindRuntimeGeneration (s : Ledger) (runtimeGeneration : ℕ) :
    LedgerResult (Reply × Ledger) := do
  let inner ← s.active
  failWhen (runtimeGeneration < inner.runtimeGeneration) (.new .stateConflict "rebind command-ledger generation"
    "new runtime generation is older than the active generation")
  return (.done, { s with inner := some { inner with runtimeGeneration } })

def admitGeneratedEnvelope (scope : CommandScope) (s : Ledger) (exactEnvelopeBytes : Bytes) :
    LedgerResult (Reply × Ledger) := do
  let inner ← s.active
  let command ← decodeAdmission exactEnvelopeBytes scope inner.runtimeGeneration
  let (outcome, commands) ← admitCommand scope command s.database.commands
  return (.admission outcome, s.withCommands commands)

def compareAndSwapDispatchFence (scope : CommandScope) (s : Ledger) (commandID : String)
    (expectedState : CommandState) (runtimeGeneration : ℕ) (nowMs : ℤ) :
    LedgerResult (Reply × Ledger) := do
  let inner ← s.active
  verifyGeneration inner runtimeGeneration
  let (outcome, commands) ← fenceDispatch scope commandID expectedState nowMs s.database.commands
  return (match outcome with
    | .dispatch command => .lease (some (dispatchLease command runtimeGeneration))
    | .notDispatchable command => .notDispatchable command.envelope, s.withCommands commands)

def purgeCancelled (s : Ledger) (commandID : String) : LedgerResult (Reply × Ledger) := do
  discard s.active
  let commands ← purgeTerminal commandID .cancelled s.database.commands
  return (.done, s.withCommands commands)

def persistProjectionCheckpointAndRemove (scope : CommandScope) (s : Ledger)
    (commandID : String) (exactLookupBytes : Bytes) (runtimeGeneration : ℕ) (nowMs : ℤ) :
    LedgerResult (Reply × Ledger) := do
  let inner ← s.active
  verifyGeneration inner runtimeGeneration
  let (checkpoint, database) ←
    s.database.persistCheckpointAndRemove scope commandID exactLookupBytes nowMs
  return (.checkpoint checkpoint, { s with database })

def acknowledgeProjectionCheckpoint (s : Ledger) (commandID : String)
    (payloadSHA256 : Bytes) : LedgerResult (Reply × Ledger) := do
  discard s.active
  let database ← s.database.acknowledgeCheckpoint commandID payloadSHA256
  return (.done, { s with database })

def candidates (s : Ledger) (runtimeGeneration : ℕ) (nowMs : ℤ) :
    LedgerResult (LedgerInner × List DispatchCandidate) := do
  let inner ← s.active
  verifyGeneration inner runtimeGeneration
  let candidates ← dispatchCandidates nowMs s.database.commands
  return (inner, candidates)

/-- `next_for_dispatch_kind`, or its first rounds when there is a limit. -/
def nextForDispatchKind (scope : CommandScope) (s : Ledger) (limit : Option ℕ)
    (runtimeGeneration : ℕ) (nowMs : ℤ) (payloadKind : Option CommandPayloadKind) : Outcome :=
  match s.candidates runtimeGeneration nowMs with
  | .error e => { result := .error e, ledger := s }
  | .ok (inner, candidates) =>
    let (result, lastServedKey, commands) :=
      dispatchLoop scope runtimeGeneration nowMs payloadKind (limit.getD candidates.length)
        candidates inner.lastServedKey s.database.commands
    { result := Reply.lease <$> result
      ledger := { s.withCommands commands with inner := some { inner with lastServedKey } } }

/-- The transactions that a callback is going to make. -/
def requests (scope : CommandScope) (s : Ledger) (callback : Callback)
    (runtimeGeneration : ℕ) (nowMs : ℤ) : LedgerResult (List Request) := do
  callback.arguments
  let inner ← s.active
  verifyGeneration inner runtimeGeneration
  callback.plan scope nowMs s.database.commands

/-- A callback, or its first transactions when there is a limit. -/
def call (scope : CommandScope) (s : Ledger) (limit : Option ℕ) (callback : Callback)
    (runtimeGeneration : ℕ) (nowMs : ℤ) : Outcome :=
  match s.requests scope callback runtimeGeneration nowMs with
  | .error e => { result := .error e, ledger := s }
  | .ok requests =>
    let (result, events, commands) :=
      performAll scope callback.commandID nowMs (requests.take (limit.getD requests.length)) none
        s.database.commands
    { result := Reply.envelope <$> result, events, ledger := s.withCommands commands }

def execute (scope : CommandScope) (limit : Option ℕ) (s : Ledger) : Operation → Outcome
  | .activate generation now => s.transact (s.activate scope generation now)
  | .deactivate => { result := .ok .done, ledger := { s with inner := none } }
  | .rebindRuntimeGeneration generation => s.transact (s.rebindRuntimeGeneration generation)
  | .admitGeneratedEnvelope bytes => s.transact (s.admitGeneratedEnvelope scope bytes)
  | .nextForDispatchKind generation now kind => s.nextForDispatchKind scope limit generation now kind
  | .compareAndSwapDispatchFence id state generation now =>
    s.transact (s.compareAndSwapDispatchFence scope id state generation now)
  | .callback callback generation now => s.call scope limit callback generation now
  | .purgeCancelled id => s.transact (s.purgeCancelled id)
  | .persistProjectionCheckpointAndRemove id bytes generation now =>
    s.transact (s.persistProjectionCheckpointAndRemove scope id bytes generation now)
  | .acknowledgeProjectionCheckpoint id hash => s.transact (s.acknowledgeProjectionCheckpoint id hash)

end Ledger

def leasesOf : LedgerResult Reply → List Event
  | .ok (.lease (some lease)) => [.leased lease]
  | _ => []

omit [LedgerFormat] [Digest] [ResultMessages] in
/-- A call that returns, or one that a crash cuts short after a number of transactions (or rounds of a
dispatch) and that hands nothing out. -/
inductive Action where
  | run (operation : Operation)
  | crash (operation : Operation) (transactions : ℕ)

def Action.operation : Action → Operation
  | .run operation | .crash operation _ => operation

def Ledger.step (scope : CommandScope) (s : Ledger) : Action → List Event × Ledger
  | .run operation =>
    let outcome := s.execute scope none operation
    (outcome.events ++ leasesOf outcome.result, outcome.ledger)
  | .crash operation transactions =>
    let outcome := s.execute scope (some transactions) operation
    (outcome.events, { outcome.ledger with inner := none })

/-- `get` and `list` of the ledger. -/
def Ledger.get (scope : CommandScope) (s : Ledger) (commandID : String) :
    LedgerResult (Option Envelope) := do
  discard s.active
  let command ← s.database.commands.get scope commandID
  return command.map ValidatedCommand.envelope

def Ledger.list (scope : CommandScope) (s : Ledger) : LedgerResult (List Envelope) := do
  discard s.active
  let commands ← s.database.commands.list scope
  return commands.map ValidatedCommand.envelope

def Ledger.listProjectionCheckpoints (scope : CommandScope) (s : Ledger) :
    LedgerResult (List ProjectionCheckpoint) := do
  discard s.active
  s.database.listCheckpoints scope

end

end PeersTouch.Mobile
