import PeersTouch.Lib.OrderBy
import PeersTouch.Mobile.Entry

/-!
# The command table of the mobile ledger

The part of `command_ledger/storage.rs` that works on `command_entries`. A row has the columns that
the queries use, in the clear, and the sealed envelope they were taken from. The columns are the
associated data of the seal, and whoever opens it compares them with the envelope again
(`decryptCommand`).

Each function is one transaction: when it fails the table stays as it was.
-/

namespace PeersTouch.Mobile

open Lib Chat

/-! ### Rows -/

/-- A text under AES-256-GCM, which opens only with the associated data it was sealed with. -/
structure Sealed (α : Type) where
  aad : α
  plaintext : Bytes

def openSealed {α : Type} [DecidableEq α] (box : Sealed α) (aad : α) (operation : String) :
    LedgerResult Bytes := do
  failWhen (box.aad ≠ aad) (.new .authenticationFailed operation "AES-256-GCM authentication failed")
  return box.plaintext

structure RowColumns where
  (commandID orderingKey : String)
  state : CommandState
  attemptCount : ℕ
  payloadSHA256 : Bytes
  payloadSize : ℕ
  (createdAtMs updatedAtMs expiresAtMs : ℤ)
  (dispatchStartedAtMs nextAttemptAtMs : Option ℤ)
deriving DecidableEq

structure RawCommandRow extends RowColumns where
  envelopeCiphertext : Sealed (CommandScope × RowColumns)

/-- `command_entries`. -/
abbrev CommandTable : Type := KeyedTable RawCommandRow fun row => row.commandID

/-- The order in which the commands of an ordering key are served. -/
def RowColumns.Precedes (row row' : RowColumns) : Prop := row.createdAtMs < row'.createdAtMs ∨
    row.createdAtMs = row'.createdAtMs ∧ row.commandID < row'.commandID
deriving Decidable

/-- The columns of a command. The identifier goes into the errors only. -/
def ValidatedCommand.columns (command : ValidatedCommand) (commandID : String) :
    LedgerResult RowColumns := do
  let envelope := command.envelope
  let state ← stateOf envelope
  let createdAtMs ← timestampToMillis envelope.createdAt "created_at" commandID
  let updatedAtMs ← timestampToMillis envelope.updatedAt "updated_at" commandID
  let expiresAtMs ← timestampToMillis envelope.expiresAt "expires_at" commandID
  let dispatchStartedAtMs ←
    optionalMillis envelope.dispatchStartedAt "dispatch_started_at" commandID
  let nextAttemptAtMs ← optionalMillis envelope.nextAttemptAt "next_attempt_at" commandID
  return {
    commandID := envelope.commandID, orderingKey := envelope.orderingKey, state
    attemptCount := envelope.attemptCount, payloadSHA256 := envelope.payloadSHA256
    payloadSize := command.payloadSize, createdAtMs, updatedAtMs, expiresAtMs
    dispatchStartedAtMs, nextAttemptAtMs }

def decodeState (state : CommandState) (commandID : String) : LedgerResult CommandState :=
  match state with
  | .unrecognized _ =>
    .error (.forCommand .authenticationFailed "decode indexed command state" commandID "indexed state is not generated")
  | state => .ok state

/-- The states in which a command occupies its ordering key. -/
def CommandState.isActive : CommandState → Bool
  | .dispatchFenced | .submitting | .reconciling => true
  | _ => false

def CommandState.debug : CommandState → String
  | .unspecified => "Unspecified"
  | .queued => "Queued"
  | .dispatchFenced => "DispatchFenced"
  | .submitting => "Submitting"
  | .acceptedPending => "AcceptedPending"
  | .committed => "Committed"
  | .retryWait => "RetryWait"
  | .unknownOutcome => "UnknownOutcome"
  | .reconciling => "Reconciling"
  | .unresolved => "Unresolved"
  | .failedTerminal => "FailedTerminal"
  | .checkpointing => "Checkpointing"
  | .cancelled => "Cancelled"
  | .acknowledged => "Acknowledged"
  | .discarded => "Discarded"
  | .unrecognized value => toString value

def stateConflict (operation commandID : String) (expected actual : CommandState) : LedgerError :=
  .forCommand .stateConflict operation commandID ("expected " ++ expected.debug ++ ", found " ++ actual.debug)

def activeOrderingKeyCount (t : CommandTable) : ℕ :=
  ((t.rows.filter fun row => row.state.isActive).map fun row => row.orderingKey).dedup.length

inductive AdmissionOutcome where
  | inserted | alreadyPresent
deriving DecidableEq

structure DispatchCandidate where
  (commandID orderingKey : String)
  createdAtMs : ℤ
  expectedState : CommandState

inductive FenceOutcome where
  | dispatch (command : ValidatedCommand)
  | notDispatchable (command : ValidatedCommand)

structure Transition where
  expectedStates : List CommandState
  nextState : CommandState
  typedError : CommandErrorCode
  nextAttemptAtMs : Option ℤ := none

section

variable [LedgerFormat] [Digest]

def sealCommand (scope : CommandScope) (command : ValidatedCommand) :
    LedgerResult RawCommandRow := do
  let columns ← command.columns command.commandID
  return {
    columns with
    envelopeCiphertext := { aad := (scope, columns), plaintext := LedgerFormat.envelope.marshal command.envelope } }

def decryptCommand (scope : CommandScope) (raw : RawCommandRow) : LedgerResult ValidatedCommand := do
  let encoded ← openSealed raw.envelopeCiphertext (scope, raw.toRowColumns) "decrypt generated command"
  let command ← decodeAndValidate encoded scope
  let columns ← command.columns raw.commandID
  failWhen (columns ≠ raw.toRowColumns)
    (.forCommand .authenticationFailed "authenticate generated command row" raw.commandID
      "authenticated envelope and indexed row metadata differ")
  return command

/-! ### Admission and reading -/

def exhaustionCauses (command : ValidatedCommand) (t : CommandTable) :
    List LedgerCapacityExhaustionCause :=
  (if maxUnresolvedCommands ≤ t.rows.length then [.recordCount] else []) ++
    if maxPartitionBytes < (t.rows.map fun row => row.payloadSize).sum + command.payloadSize then
      [.byteCapacity]
    else []

def exhaustionDetail : List LedgerCapacityExhaustionCause → String
  | [.recordCount] => "exact Station/PTID record-count capacity is exhausted"
  | [.byteCapacity] => "exact Station/PTID byte capacity is exhausted"
  | _ => "exact Station/PTID record-count and byte capacity are exhausted"

def admitCommand (scope : CommandScope) (command : ValidatedCommand) (t : CommandTable) :
    LedgerResult (AdmissionOutcome × CommandTable) :=
  match t.find command.commandID with
  | some existing => do
    let existing ← decryptCommand scope existing
    failWhen (existing.envelope.payloadSHA256 ≠ command.envelope.payloadSHA256 ∨
      existing.payloadBytes ≠ command.payloadBytes)
      (.forCommand .commandConflict "admit generated command" command.commandID
        "command ID is already bound to different generated bytes")
    return (.alreadyPresent, t)
  | none => do
    let causes := exhaustionCauses command t
    failWhen (causes ≠ []) (.capacityExceeded "admit generated command" command.commandID causes (exhaustionDetail causes))
    let row ← sealCommand scope command
    return (.inserted, t.insertOrIgnore row)

def CommandTable.get (scope : CommandScope) (commandID : String) (t : CommandTable) :
    LedgerResult (Option ValidatedCommand) :=
  match t.find commandID with
  | none => .ok none
  | some raw => some <$> decryptCommand scope raw

def loadAllRawCommands (t : CommandTable) : List RawCommandRow :=
  orderBy (fun row => toLex (row.createdAtMs, row.commandID)) t.rows

def CommandTable.list (scope : CommandScope) (t : CommandTable) :
    LedgerResult (List ValidatedCommand) :=
  (loadAllRawCommands t).mapM (decryptCommand scope)

/-! ### Transitions -/

def writeCommandCas (scope : CommandScope) (command : ValidatedCommand)
    (expectedState : CommandState) (expectedAttemptCount : ℕ) (t : CommandTable) :
    LedgerResult CommandTable := do
  let row ← sealCommand scope command
  failWhen ((t.find row.commandID).all fun stored =>
      ¬(stored.state = expectedState ∧ stored.attemptCount = expectedAttemptCount))
    (.forCommand .stateConflict "compare-and-swap command state" row.commandID
      "command changed before the state transaction committed")
  return t.upsert row

def transitionInTransaction (scope : CommandScope) (raw : RawCommandRow) (request : Transition)
    (nowMs : ℤ) (t : CommandTable) : LedgerResult (ValidatedCommand × CommandTable) := do
  let refuse (code : LedgerErrorCode) (detail : String) : LedgerError :=
    .forCommand code "compare-and-swap command state" raw.commandID detail
  let currentState ← decodeState raw.state raw.commandID
  failWhen (currentState ∉ request.expectedStates)
    (refuse .stateConflict "persisted state does not match the expected state")
  failWhen (¬allowsTransition currentState request.nextState)
    (refuse .stateConflict "requested state transition is not accepted by MS-D15")
  failWhen (request.nextState = .retryWait ∧ request.nextAttemptAtMs = none)
    (refuse .invalidConfiguration "retry_wait requires next_attempt_at")
  let command ← decryptCommand scope raw
  let envelope := command.envelope.moved request.nextState request.typedError nowMs
    request.nextAttemptAtMs
  let command : ValidatedCommand := { command with envelope, encodedEnvelope := LedgerFormat.envelope.marshal envelope }
  let t ← writeCommandCas scope command currentState raw.attemptCount t
  return (command, t)

def CommandTable.transition (scope : CommandScope) (commandID : String) (request : Transition)
    (nowMs : ℤ) (t : CommandTable) : LedgerResult (ValidatedCommand × CommandTable) := do
  let raw ← orFail (t.find commandID) (.forCommand .commandNotFound "transition command" commandID "command does not exist")
  transitionInTransaction scope raw request nowMs t

/-! ### Dispatch -/

def RowColumns.eligible (row : RowColumns) (nowMs : ℤ) : Bool := row.state = .queued ||
    (row.state = .retryWait && row.nextAttemptAtMs.any fun next => next ≤ nowMs)

/-- The first row of each ordering key, if it can be sent. -/
def collectCandidates (nowMs : ℤ) :
    List String → List RawCommandRow → LedgerResult (List DispatchCandidate)
  | _, [] => .ok []
  | seenKeys, row :: rows =>
    if row.orderingKey ∈ seenKeys then collectCandidates nowMs seenKeys rows
    else do
      let state ← decodeState row.state row.commandID
      let rest ← collectCandidates nowMs (row.orderingKey :: seenKeys) rows
      return if row.eligible nowMs then
          { row with expectedState := state } :: rest
        else rest

def dispatchCandidates (nowMs : ℤ) (t : CommandTable) : LedgerResult (List DispatchCandidate) :=
  if maxActiveOrderingKeys ≤ activeOrderingKeyCount t then .ok []
  else
    collectCandidates nowMs [] (orderBy (fun row => toLex (row.orderingKey, toLex (row.createdAtMs, row.commandID))) t.rows)

def fenceDispatch (scope : CommandScope) (commandID : String) (expectedState : CommandState)
    (nowMs : ℤ) (t : CommandTable) : LedgerResult (FenceOutcome × CommandTable) := do
  let refuse (code : LedgerErrorCode) (detail : String) : LedgerError :=
    .forCommand code "fence command dispatch" commandID detail
  failWhen (expectedState ≠ .queued ∧ expectedState ≠ .retryWait)
    (refuse .stateConflict "dispatch fence requires queued or retry_wait expected state")
  let raw ← orFail (t.find commandID) (refuse .commandNotFound "command does not exist")
  let currentState ← decodeState raw.state commandID
  failWhen (currentState ≠ expectedState) (stateConflict "fence command dispatch" commandID expectedState currentState)
  failWhen (maxActiveOrderingKeys ≤ activeOrderingKeyCount t)
    (refuse .inflightLimit "four ordering keys are already active")
  failWhen (0 < t.count fun row => row.orderingKey = raw.orderingKey ∧ row.Precedes raw.toRowColumns)
    (refuse .stateConflict "an earlier command still owns the ordering key")
  failWhen (0 < t.count fun row => row.orderingKey = raw.orderingKey ∧ row.state.isActive)
    (refuse .stateConflict "ordering key already has an active command")
  failWhen (expectedState = .retryWait ∧ raw.nextAttemptAtMs.all fun next => nowMs < next)
    (refuse .stateConflict "retry_wait command is not due")
  let command ← decryptCommand scope raw
  let expiresAtMs ← timestampToMillis command.envelope.expiresAt "expires_at" commandID
  if maxTransportAttempts ≤ command.envelope.attemptCount ∨ expiresAtMs ≤ nowMs then
    let (command, t) ← transitionInTransaction scope raw
      { expectedStates := [expectedState]
        nextState := if expectedState = .queued then .failedTerminal else .unresolved
        typedError := if expiresAtMs ≤ nowMs then .domainExpired else .attemptExhausted } nowMs t
    return (.notDispatchable command, t)
  else
    let (fenced, t) ← transitionInTransaction scope raw
      { expectedStates := [expectedState], nextState := .dispatchFenced, typedError := .unspecified } nowMs t
    -- the second write of the transaction; the encoded envelope is still that of the first
    let fenced := { fenced with envelope := fenced.envelope.attempted nowMs }
    let t ← writeCommandCas scope fenced .dispatchFenced (fenced.envelope.attemptCount - 1) t
    return (.dispatch fenced, t)

/-! ### Removal and recovery -/

def purgeTerminal (commandID : String) (expectedState : CommandState) (t : CommandTable) :
    LedgerResult CommandTable := do
  failWhen (expectedState ≠ .cancelled ∧ expectedState ≠ .acknowledged ∧ expectedState ≠ .discarded)
    (.forCommand .stateConflict "purge terminal command" commandID "state is not locally purgeable")
  failWhen (t.count (fun row => row.commandID = commandID ∧ row.state = expectedState) ≠ 1)
    (.forCommand .stateConflict "purge terminal command" commandID "command is missing or no longer has the expected state")
  return t.deleteWhere fun row => row.commandID = commandID ∧ row.state = expectedState

def recovery (state : CommandState) : Transition := if state = .reconciling then
    { expectedStates := [state], nextState := .unresolved, typedError := .localUnavailable }
  else
    { expectedStates := [state], nextState := .unknownOutcome, typedError := .transport }

def recoverRow (scope : CommandScope) (nowMs : ℤ) (t : CommandTable) (raw : RawCommandRow) :
    LedgerResult CommandTable := do
  let state ← decodeState raw.state raw.commandID
  if state.isActive then
    let (_, t) ← transitionInTransaction scope raw (recovery state) nowMs t
    return t
  else return t

def recoverFromCrash (scope : CommandScope) (nowMs : ℤ) (t : CommandTable) :
    LedgerResult CommandTable :=
  (loadAllRawCommands t).foldlM (recoverRow scope nowMs) t

end

end PeersTouch.Mobile
