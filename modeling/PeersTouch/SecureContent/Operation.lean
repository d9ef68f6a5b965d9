import PeersTouch.Chat.ValueObject

/-!
# Operations of secure content

The record of an operation that is dispatched to a Station (`operation/state.rs`) and what an authoritative
readback decides about it (`operation/reconciliation.rs`). A dispatch takes the next lease generation; the
fence of the lease must be shown with its completion. When the outcome of a dispatch is not known, the
operation waits for a readback.

The functions take a record to the next one, or to a failure; the caller keeps the old record when it gets a
failure.
-/

namespace PeersTouch.SecureContent

open Lib Chat

inductive OperationErrorCode where
  | invalidRecord | invalidTransition | staleSessionGeneration | lostLease | cancelled
  | storeUnavailable | transportUnavailable | keyMaterialUnavailable | integrityFailed | rejected
deriving DecidableEq

structure OperationFailure where
  code : OperationErrorCode
  retryAfterUnixMs : Option ℤ
  detail : String
deriving DecidableEq

/-- `OperationFailure::terminal`. -/
def OperationFailure.final (code : OperationErrorCode) (detail : String) : OperationFailure :=
  { code, retryAfterUnixMs := none, detail }

def invalidRecord (detail : String) : OperationFailure := .final .invalidRecord detail

def invalidTransition (detail : String) : OperationFailure := .final .invalidTransition detail

inductive OperationKind where
  | contentPreKeyPublication | ownerSubmission | recoveryContinuation | objectTransferCheckpoint
deriving DecidableEq

inductive OperationState where
  | prepared | pending | inFlight | unknownOutcome | committedPendingReadback | committed
  | retryWait | terminal | cancelled
deriving DecidableEq

structure OperationRecord where
  (operationID commandID : String)
  kind : OperationKind
  state : OperationState
  commandSHA256 : Hash
  (sessionGeneration leaseGeneration attemptCount : ℕ)
  (nextAttemptAtUnixMs updatedAtUnixMs : ℤ)
deriving DecidableEq

structure OperationLease where
  record : OperationRecord
  reconcilesUnknownOutcome : Bool

structure OperationFence where
  operationID : String
  (sessionGeneration leaseGeneration : ℕ)

def validIdentifier (value : String) : Prop :=
  value ≠ "" ∧ trimSpace value = value ∧ 0 ∉ bytesOf value ∧ value.utf8ByteSize ≤ 255
deriving Decidable

namespace OperationRecord

def fence (record : OperationRecord) : OperationFence where
  operationID := record.operationID
  sessionGeneration := record.sessionGeneration
  leaseGeneration := record.leaseGeneration

def validateState (record : OperationRecord) : Except OperationFailure Unit :=
  match record.state with
  | .prepared | .pending =>
    failWhen (record.leaseGeneration ≠ 0 ∨ record.attemptCount ≠ 0)
      (invalidRecord "undispatched operation cannot hold a lease or attempt")
  | .inFlight | .unknownOutcome | .committedPendingReadback | .committed | .retryWait | .terminal
  | .cancelled =>
    failWhen (record.sessionGeneration = 0 ∨ record.leaseGeneration = 0)
      (invalidRecord "dispatched operation must retain its generation fence")

def validate (record : OperationRecord) : Except OperationFailure Unit := do
  failWhen (¬validIdentifier record.operationID ∨ ¬validIdentifier record.commandID ∨
    (∀ byte ∈ record.commandSHA256.bytes, byte = 0) ∨ record.nextAttemptAtUnixMs < 0 ∨ record.updatedAtUnixMs ≤ 0)
    (invalidRecord "secure content operation record is incomplete")
  record.validateState
  failWhen (record.state = .retryWait ∧ record.nextAttemptAtUnixMs = 0)
    (invalidRecord "retry-wait operation requires a retry deadline")

def validateCommandBytes [Digest] (record : OperationRecord) (commandBytes : Bytes) :
    Except OperationFailure Unit := do
  record.validate
  failWhen (commandBytes = [] ∨ hashBytes commandBytes ≠ record.commandSHA256)
    (.final .integrityFailed "secure content operation command bytes changed")

def new [Digest] (operationID commandID : String) (kind : OperationKind) (state : OperationState)
    (commandBytes : Bytes) (nowUnixMs : ℤ) : Except OperationFailure OperationRecord := do
  failWhen (state ≠ .prepared ∧ state ≠ .pending)
    (invalidRecord "new secure content operations must be prepared or pending")
  let record : OperationRecord :=
    { operationID, commandID, kind, state, commandSHA256 := hashBytes commandBytes
      sessionGeneration := 0, leaseGeneration := 0, attemptCount := 0, nextAttemptAtUnixMs := 0
      updatedAtUnixMs := nowUnixMs }
  record.validateCommandBytes commandBytes
  return record

def validated (record : OperationRecord) : Except OperationFailure OperationRecord := do
  record.validate
  return record

end OperationRecord

inductive DispatchCause where
  | explicitUserAction | initialReconciliation | readbackAuthorizedRetry | retryDeadlineReached
deriving DecidableEq

inductive OperationCompletion where
  | unknownOutcome | committedPendingReadback | committed
  | retryAt (retryAtUnixMs : ℤ)
  | terminal | cancelled

/-- `checked_add` of one, for an unsigned integer of so many bits. -/
def checkedSucc (bits n : ℕ) : Option ℕ := if n + 1 < 2 ^ bits then some (n + 1) else none

def OperationRecord.allows (record : OperationRecord) (cause : DispatchCause) (nowUnixMs : ℤ) : Bool :=
  match record.state with
  | .prepared => cause = .explicitUserAction
  | .pending => cause = .explicitUserAction || cause = .initialReconciliation
  | .unknownOutcome => cause = .readbackAuthorizedRetry
  | .retryWait => cause = .retryDeadlineReached && record.nextAttemptAtUnixMs ≤ nowUnixMs
  | _ => false

def acquireOperation (record : OperationRecord) (sessionGeneration : ℕ) (cause : DispatchCause)
    (nowUnixMs : ℤ) : Except OperationFailure OperationLease := do
  record.validate
  failWhen (sessionGeneration = 0 ∨ nowUnixMs ≤ 0)
    (invalidRecord "operation acquisition requires a current session and clock")
  failWhen (record.allows cause nowUnixMs = false)
    (invalidTransition "secure content operation is not dispatchable for this cause")
  let leaseGeneration ← orFail (checkedSucc 64 record.leaseGeneration)
    (invalidRecord "operation lease generation is exhausted")
  let attemptCount ← orFail (checkedSucc 32 record.attemptCount) (invalidRecord "operation attempt count is exhausted")
  let acquired ← OperationRecord.validated { record with
    state := .inFlight, sessionGeneration, leaseGeneration, attemptCount, nextAttemptAtUnixMs := 0
    updatedAtUnixMs := nowUnixMs }
  return { record := acquired, reconcilesUnknownOutcome := record.state = .unknownOutcome }

def validateFence (current : OperationRecord) (fence : OperationFence) :
    Except OperationFailure Unit := do
  failWhen (current.operationID ≠ fence.operationID) (.final .lostLease "operation identity does not match its lease")
  failWhen (current.sessionGeneration ≠ fence.sessionGeneration)
    (.final .staleSessionGeneration "operation session generation is stale")
  failWhen (current.leaseGeneration ≠ fence.leaseGeneration) (.final .lostLease "operation lease generation is stale")

def OperationCompletion.outcome (completion : OperationCompletion) (nowUnixMs : ℤ) :
    Except OperationFailure (OperationState × ℤ) :=
  match completion with
  | .unknownOutcome => .ok (.unknownOutcome, 0)
  | .committedPendingReadback => .ok (.committedPendingReadback, 0)
  | .committed => .ok (.committed, 0)
  | .retryAt deadline =>
    if nowUnixMs < deadline then .ok (.retryWait, deadline)
    else .error (invalidTransition "operation retry deadline must be in the future")
  | .terminal => .ok (.terminal, 0)
  | .cancelled => .ok (.cancelled, 0)

def completeOperation (current : OperationRecord) (fence : OperationFence)
    (completion : OperationCompletion) (nowUnixMs : ℤ) :
    Except OperationFailure OperationRecord := do
  current.validate
  validateFence current fence
  failWhen (current.state ≠ .inFlight ∨ nowUnixMs ≤ 0) (invalidTransition "only an in-flight operation can complete")
  let (state, deadline) ← completion.outcome nowUnixMs
  OperationRecord.validated
    { current with state, nextAttemptAtUnixMs := deadline, updatedAtUnixMs := nowUnixMs }

def recoverInterruptedOperation (record : OperationRecord) (nowUnixMs : ℤ) :
    Except OperationFailure OperationRecord := do
  record.validate
  if record.state ≠ .inFlight then
    return record
  else
    OperationRecord.validated { record with state := .unknownOutcome, updatedAtUnixMs := nowUnixMs }

/-! ### Readback -/

inductive ReadbackDecision where
  | commitFromReadback (receiptSHA256 : Hash)
  | retryExactCommand
  | keepUnknown (retryAfterUnixMs : Option ℤ)
  | keepCommittedPendingReadback (retryAfterUnixMs : Option ℤ)
  | terminalIntegrityFailure (detail : String)

def keepUntil (operation : OperationRecord) (state : OperationState) (wrongState pastDeadline : String)
    (retryAfterUnixMs : Option ℤ) (nowUnixMs : ℤ) : Except OperationFailure OperationRecord := do
  failWhen (operation.state ≠ state) (invalidTransition wrongState)
  failWhen (retryAfterUnixMs.any fun deadline => deadline ≤ nowUnixMs) (invalidTransition pastDeadline)
  return { operation with nextAttemptAtUnixMs := retryAfterUnixMs.getD 0 }

/-- The record that a decision leads to, without its time. -/
def ReadbackDecision.advance (decision : ReadbackDecision) (operation : OperationRecord)
    (nowUnixMs : ℤ) : Except OperationFailure OperationRecord :=
  match decision with
  | .commitFromReadback _ => .ok { operation with state := .committed, nextAttemptAtUnixMs := 0 }
  | .retryExactCommand => do
    failWhen (operation.state ≠ .unknownOutcome) (invalidTransition "committed operation cannot retry its submit command")
    return { operation with nextAttemptAtUnixMs := 0 }
  | .keepUnknown retryAfter =>
    keepUntil operation .unknownOutcome "committed operation cannot become unknown"
      "readback retry deadline must be in the future" retryAfter nowUnixMs
  | .keepCommittedPendingReadback retryAfter =>
    keepUntil operation .committedPendingReadback "unknown operation cannot claim a committed response"
      "committed readback retry deadline must be in the future" retryAfter nowUnixMs
  | .terminalIntegrityFailure _ => .ok { operation with state := .terminal, nextAttemptAtUnixMs := 0 }

def applyReadbackDecision (operation : OperationRecord) (fence : OperationFence)
    (decision : ReadbackDecision) (nowUnixMs : ℤ) : Except OperationFailure OperationRecord := do
  operation.validate
  validateFence operation fence
  failWhen ((operation.state ≠ .unknownOutcome ∧ operation.state ≠ .committedPendingReadback) ∨ nowUnixMs ≤ 0)
    (invalidTransition "readback decision cannot advance this operation")
  let advanced ← decision.advance operation nowUnixMs
  OperationRecord.validated { advanced with updatedAtUnixMs := nowUnixMs }

end PeersTouch.SecureContent
