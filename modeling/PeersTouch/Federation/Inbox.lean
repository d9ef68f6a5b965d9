import PeersTouch.Federation.Outbox

/-!
# The federation inbox

What a Station does with a frame from another Station: `delivery/service.go`, `delivery/receiver.go` and
`delivery/gorm_unit_of_work.go`. A frame is verified and handed to the receiver that is registered for its payload
kind. The receiver of a durable kind runs in a transaction that also writes the receipt of the frame; the receipt
answers every later delivery of it.

* **Receivers.**  A receiver of a durable kind reads and writes the tables of its domain, of any type `δ`, and the
  outbox; it registers callbacks, of any type `κ`, for the time after the commit. What the receivers do may change
  from one frame to the next, so the registry is an argument of the call.
* **Transactions.**  Nothing of a transaction stays when it is rolled back, which is what happens on every error and
  on a retryable outcome.
-/

namespace PeersTouch.Federation

open Lib Chat

/-! ### Results -/

inductive Disposition where
  | unspecified | accepted | duplicate | retryable | terminal | payloadHashConflict
deriving DecidableEq

inductive FrameErrorCode where
  | unspecified | invalidFrame | unauthenticated | wrongTarget | unsupportedPayload
  | payloadHashConflict | expired | overloaded | domainRejected
deriving DecidableEq

structure Result where
  disposition : Disposition
  errorCode : FrameErrorCode
deriving DecidableEq

namespace Result

def accepted : Result := { disposition := .accepted, errorCode := .unspecified }

def duplicate : Result := { disposition := .duplicate, errorCode := .unspecified }

def retryable (code : FrameErrorCode) : Result := { disposition := .retryable, errorCode := code }

def terminal (code : FrameErrorCode) : Result := { disposition := .terminal, errorCode := code }

def payloadHashConflict : Result := { disposition := .payloadHashConflict, errorCode := .payloadHashConflict }

end Result

def invalidResult (cause : String) : Error := newError .invalidResult "validate receiver result" cause

def validateResult (result : Result) : Except Error Unit := match result.disposition with
  | .accepted | .duplicate =>
    failWhen (result.errorCode ≠ .unspecified) (invalidResult "successful result has an error code")
  | .retryable | .terminal | .payloadHashConflict =>
    failWhen (result.errorCode = .unspecified) (invalidResult "failure result has no error code")
  | .unspecified => .error (invalidResult "disposition is unspecified")

def resultForVerificationError (e : Error) : Result := match e.code with
  | .expired => .terminal .expired
  | .wrongTarget => .terminal .wrongTarget
  | .unauthenticated => .terminal .unauthenticated
  | _ => .terminal .invalidFrame

/-! ### Receipts -/

structure InboxRecord where
  (sourceStationPeerID idempotencyKey frameID : String)
  payloadKind : PayloadKind
  payloadID : String
  (payloadSHA256 canonicalSHA256 : Bytes)
  disposition : Disposition
  errorCode : FrameErrorCode
  (receivedAt completedAt : Time)

def InboxRecord.key (r : InboxRecord) : String × String := (r.sourceStationPeerID, r.idempotencyKey)

abbrev Inbox := KeyedTable InboxRecord InboxRecord.key

namespace InboxRecord

/-- The receipt of a frame before its outcome is known. -/
def ofFrame (frame : Frame) (identity : FrameIdentity) (receivedAt : Time) : InboxRecord :=
  { identity with
    payloadKind := frame.payloadKind, payloadID := frame.payloadID, disposition := .unspecified
    errorCode := .unspecified, receivedAt, completedAt := receivedAt }

/-- `inboxIdentityMatches`. -/
def Matches (record : InboxRecord) (identity : FrameIdentity) : Prop :=
  record.sourceStationPeerID = identity.sourceStationPeerID ∧
    record.idempotencyKey = identity.idempotencyKey ∧ record.frameID = identity.frameID ∧
    record.payloadSHA256 = identity.payloadSHA256 ∧ record.canonicalSHA256 = identity.canonicalSHA256
deriving Decidable

/-- Whether a unique index does not allow the receipt of a frame beside this one. -/
def Conflicts (record : InboxRecord) (identity : FrameIdentity) : Prop :=
  record.key = (identity.sourceStationPeerID, identity.idempotencyKey) ∨ record.frameID = identity.frameID
deriving Decidable

end InboxRecord

def replayResult (record : InboxRecord) (identity : FrameIdentity) : Except Error Result :=
  if ¬record.Matches identity then .ok .payloadHashConflict
  else
    match record.disposition with
    | .accepted | .duplicate => .ok .duplicate
    | .terminal => .ok (.terminal record.errorCode)
    | .payloadHashConflict => .ok .payloadHashConflict
    | .unspecified | .retryable =>
      .error (newError .persistence "classify inbox replay" "stored receipt has a nonterminal disposition")

def classifyInboxConflict (inbox : Inbox) (identity : FrameIdentity) : Except Error Result :=
  match inbox.find (identity.sourceStationPeerID, identity.idempotencyKey) with
  | some byIdempotency => replayResult byIdempotency identity
  | none =>
    match inbox.rows.find? fun r => r.frameID = identity.frameID with
    | some byFrame => replayResult byFrame identity
    | none => .error (newError .persistence "classify inbox conflict" "conflicting row was not found")

/-! ### The unit of work -/

/-- The tables of a Station, with those of its domains in one. -/
structure Store (δ : Type) where
  inbox : Inbox
  outbox : Outbox
  domain : δ

/-- What the receiver of a durable kind has done. -/
structure Handled (δ κ : Type) where
  result : Result
  outbox : Outbox
  domain : δ
  afterCommit : List κ

abbrev Dispatch (δ κ : Type) := Frame → Outbox → δ → Except Error (Handled δ κ)

inductive Rollback where
  | retryable (outcome : Result)
  | failed (error : Error)

/-- What a transaction leaves when it commits; `dispatched` says that a receiver ran in it. -/
structure Committed (δ κ : Type) where
  outcome : Result
  store : Store δ
  afterCommit : List κ
  dispatched : Bool

variable {δ κ : Type}

def completeReceipt (inbox : Inbox) (identity : FrameIdentity) (outcome : Result) (receivedAt : Time) :
    Except Error Inbox :=
  inbox.updateOne (·.key = (identity.sourceStationPeerID, identity.idempotencyKey))
    (fun r => { r with
      disposition := outcome.disposition, errorCode := outcome.errorCode, completedAt := receivedAt })
    (fun _ => rfl) (newError .persistence "complete inbox receipt" "receipt disappeared")

def dispatchFrame (store : Store δ) (frame : Frame) (identity : FrameIdentity) (receivedAt : Time)
    (dispatch : Dispatch δ κ) : Except Rollback (Committed δ κ) := do
  let inbox := store.inbox.insertOrIgnore (.ofFrame frame identity receivedAt)
  let handled ← (dispatch frame store.outbox store.domain).mapError .failed
  (validateResult handled.result).mapError .failed
  failWhen (handled.result.disposition = .retryable) (.retryable handled.result)
  let inbox ← (completeReceipt inbox identity handled.result receivedAt).mapError .failed
  return {
    outcome := handled.result
    store := { inbox, outbox := handled.outbox, domain := handled.domain }
    afterCommit := handled.afterCommit
    dispatched := true }

def receiveTransaction (store : Store δ) (frame : Frame) (identity : FrameIdentity) (receivedAt : Time)
    (dispatch : Dispatch δ κ) : Except Rollback (Committed δ κ) :=
  if ∃ r ∈ store.inbox.rows, r.Conflicts identity then do
    let outcome ← (classifyInboxConflict store.inbox identity).mapError .failed
    return { outcome, store, afterCommit := [], dispatched := false }
  else
    dispatchFrame store frame identity receivedAt dispatch

/-- What a call of `Receive` does: its transaction if it commits, with the callbacks that run after that, and its
answer. -/
structure Reply (δ κ : Type) where
  committed : Option (Committed δ κ)
  response : Except Error Result

def Committed.response (commit : Committed δ κ) (fails : κ → Bool) : Except Error Result :=
  if commit.afterCommit.any fails then
    .error (newError .domainDispatch "run post-commit callback" "callback failed")
  else .ok commit.outcome

/-- `Receive` of the unit of work. -/
def unitOfWorkReceive [Digest] (store : Store δ) (frame : Frame) (receivedAt : Time)
    (dispatch : Dispatch δ κ) (fails : κ → Bool) : Reply δ κ :=
  if receivedAt = 0 then
    ⟨none, .error (newError .invalidArgument "receive frame transaction" "receive time is required")⟩
  else
    match newFrameIdentity frame with
    | .error e => ⟨none, .error e⟩
    | .ok identity =>
      match receiveTransaction store frame identity receivedAt dispatch with
      | .error (.retryable outcome) => ⟨none, .ok outcome⟩
      | .error (.failed e) => ⟨none, .error e⟩
      | .ok commit => ⟨some commit, commit.response fails⟩

/-! ### The receiver -/

inductive Registration (δ κ : Type) where
  | durable (receiver : Dispatch δ κ)
  | ephemeral (receiver : Frame → Except Error Result)

structure ReceiverConfig where
  policy : FramePolicy
  verifier : Verifier

/-- A frame that arrives, with what the Station does at that time: its clock, the registered receivers, whether all
places for ephemeral frames are taken, and the callbacks that fail. -/
structure Reception (δ κ : Type) where
  frame : Frame
  now : Time
  registry : PayloadKind → Option (Registration δ κ)
  overloaded : Bool
  fails : κ → Bool

def dispatchError (operation : String) (e : Error) : Error := newError .domainDispatch operation e.cause

def receiveEphemeral (overloaded : Bool) (receiver : Frame → Except Error Result) (frame : Frame) :
    Except Error Result :=
  if overloaded then .ok (.terminal .overloaded)
  else do
    let result ← (receiver frame).mapError (dispatchError "dispatch ephemeral domain receiver")
    validateResult result
    return result

/-- The function that `Receive` hands to the unit of work. -/
def Reception.dispatch (reception : Reception δ κ) : Dispatch δ κ := fun received outbox domain =>
  match reception.registry received.payloadKind with
  | none => .ok { result := .terminal .unsupportedPayload, outbox, domain, afterCommit := [] }
  | some (.ephemeral _) =>
    .error (newError .invalidResult "dispatch domain receiver" "ephemeral receiver entered durable unit of work")
  | some (.durable receiver) => do
    let handled ← (receiver received outbox domain).mapError (dispatchError "dispatch domain receiver")
    validateResult handled.result
    return handled

def checkedResult (response : Except Error Result) : Except Error Result := do
  let result ← response
  validateResult result
  return result

/-- `Receive` of the delivery receiver. -/
def receive [Digest] (config : ReceiverConfig) (reception : Reception δ κ) (store : Store δ) :
    Reply δ κ :=
  match verifyFrame reception.frame config.policy reception.now config.verifier with
  | .error e => ⟨none, .ok (resultForVerificationError e)⟩
  | .ok () =>
    match reception.registry reception.frame.payloadKind with
    | some (.ephemeral receiver) => ⟨none, receiveEphemeral reception.overloaded receiver reception.frame⟩
    | _ =>
      let reply := unitOfWorkReceive store reception.frame reception.now reception.dispatch reception.fails
      ⟨reply.committed, checkedResult reply.response⟩

end PeersTouch.Federation
