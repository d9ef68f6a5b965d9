import PeersTouch.Federation.Frame
import PeersTouch.Lib.KeyedTable
import PeersTouch.Lib.OrderBy

/-!
# The federation outbox

The table of frames that wait to be delivered to other Stations, and the six operations on it of
`delivery/gorm_repository.go`. `enqueueFrame` stores a frame, `claim` leases frames to a worker, and a worker that
holds a lease ends it with `markDelivered`, `scheduleRetry`, `markTerminal` or `markExpired`.

* **Rows.**  The primary key is the frame id. The other two unique indexes, of the idempotency key of a source and
  of the place in an ordered lane, are checked on insertion, which does nothing when one of them is taken.
* **Transactions.**  Each operation is one transaction: it returns the table after it, or an error, and then the
  table is as it was.
* **Clocks.**  Every reading of a clock is an argument, so that no two readings are related.
-/

namespace PeersTouch.Federation

open Lib Chat

inductive OutboxState where
  | pending | leased | retryWait | delivered | terminal | expired
deriving DecidableEq

/-- The states in which a frame is not delivered any more. -/
def OutboxState.isClosed : OutboxState → Bool
  | delivered | terminal | expired => true
  | pending | leased | retryWait => false

structure OutboxRecord where
  (frameID sourceStationPeerID targetStationPeerID idempotencyKey : String)
  payloadKind : PayloadKind
  (payloadID orderingKey : String)
  orderingSequence : ℤ
  (frameBytes payloadSHA256 canonicalSHA256 : Bytes)
  state : OutboxState
  attemptCount : ℕ
  nextAttemptAt : Time
  leaseOwner : String
  leaseGeneration : ℕ
  leaseExpiresAt : Option Time
  (expiresAt createdAt : Time)
  (deliveredAt terminalAt : Option Time)
  lastFailure : FailureCode

abbrev Outbox := KeyedTable OutboxRecord OutboxRecord.frameID

/-! ### Enqueueing -/

structure EnqueueResult where
  duplicate : Bool

namespace OutboxRecord

/-- Two rows with the same place in an ordered lane. -/
def SameSlot (r r' : OutboxRecord) : Prop :=
  0 < r.orderingSequence ∧ r.sourceStationPeerID = r'.sourceStationPeerID ∧
    r.targetStationPeerID = r'.targetStationPeerID ∧ r.orderingKey = r'.orderingKey ∧
    r.orderingSequence = r'.orderingSequence
deriving Decidable

/-- The rows that a unique index does not allow side by side. -/
def Conflicts (r r' : OutboxRecord) : Prop := r.frameID = r'.frameID ∨
    r.sourceStationPeerID = r'.sourceStationPeerID ∧ r.idempotencyKey = r'.idempotencyKey ∨ r.SameSlot r'
deriving Decidable

/-- `outboxIdentityMatches`. -/
def Matches (record : OutboxRecord) (identity : FrameIdentity) : Prop :=
  record.sourceStationPeerID = identity.sourceStationPeerID ∧
    record.idempotencyKey = identity.idempotencyKey ∧ record.frameID = identity.frameID ∧
    record.payloadSHA256 = identity.payloadSHA256 ∧ record.canonicalSHA256 = identity.canonicalSHA256
deriving Decidable

def ofFrame (frame : Frame) (identity : FrameIdentity) (expiresAt now : Time) : OutboxRecord :=
  { identity with
    targetStationPeerID := frame.targetStationPeerID, payloadKind := frame.payloadKind
    payloadID := frame.payloadID, orderingKey := frame.orderingKey
    orderingSequence := frame.orderingSequence, frameBytes := frame.marshal, state := .pending
    attemptCount := 0, nextAttemptAt := now, leaseOwner := "", leaseGeneration := 0
    leaseExpiresAt := none, expiresAt, createdAt := now, deliveredAt := none, terminalAt := none
    lastFailure := .unset }

end OutboxRecord

def classifyOutboxConflict (outbox : Outbox) (identity : FrameIdentity) : Except Error Bool :=
  match outbox.rows.find? fun r => r.sourceStationPeerID = identity.sourceStationPeerID ∧
      r.idempotencyKey = identity.idempotencyKey with
  | some byIdempotency => .ok (byIdempotency.Matches identity)
  | none =>
    match outbox.find identity.frameID with
    | some byFrame => .ok (byFrame.Matches identity)
    | none =>
      if 0 < identity.orderingSequence ∧ ∃ candidate ∈ outbox.rows,
          candidate.sourceStationPeerID = identity.sourceStationPeerID ∧
            candidate.targetStationPeerID = identity.targetStationPeerID ∧ candidate.orderingKey = identity.orderingKey ∧
            candidate.orderingSequence = identity.orderingSequence then
        .ok false
      else
        .error (newError .persistence "classify outbox conflict" "conflicting row was not found")

def validateEnqueueFrame [Digest] (frame : Frame) (now : Time) : Except Error Unit :=
  validateFrame frame (defaultFramePolicy frame.targetStationPeerID) now true true

/-- The row that `enqueueFrame` offers to the table. -/
def outboxRecordOf [Digest] (frame : Frame) (now : Time) : Except Error (FrameIdentity × OutboxRecord) := do
  failWhen (now = 0) (newError .invalidArgument "enqueue frame" "enqueue time is required")
  validateEnqueueFrame frame now
  let identity ← newFrameIdentity frame
  let expiresAt ← orFail frame.expiresAt (newError .invalidFrame "enqueue frame" "valid expiry is required")
  expiresAt.checkValid.mapError (newError .invalidFrame "enqueue frame")
  return (identity, .ofFrame frame identity expiresAt.asTime now)

def enqueueFrame [Digest] (outbox : Outbox) (frame : Frame) (now : Time) :
    Except Error (Outbox × EnqueueResult) := do
  let (identity, record) ← outboxRecordOf frame now
  if ∀ r ∈ outbox.rows, ¬record.Conflicts r then
    return (outbox.insertOrIgnore record, { duplicate := false })
  else
    let exact ← classifyOutboxConflict outbox identity
    failWhen (exact = false) (newError .payloadHashConflict "enqueue frame" "frame identity reused with different bytes")
    return (outbox, { duplicate := true })

/-! ### Claiming -/

def maxClaimBatchSize : ℤ := 100

structure ClaimRequest where
  workerID : String
  limit : ℤ
  now : Time
  leaseDuration : ℤ

structure Lease where
  (frameID owner : String)
  generation : ℕ
  expiresAt : Time

structure Claim where
  frame : Frame
  lease : Lease
  attemptCount : ℕ
  enqueuedAt : Time

def validateClaimRequest (request : ClaimRequest) : Except Error Unit :=
  failWhen (Unnormalized request.workerID ∨ request.limit ≤ 0 ∨ maxClaimBatchSize < request.limit ∨
    request.now = 0 ∨ request.leaseDuration ≤ 0)
    (newError .invalidArgument "validate claim request" "claim bounds are invalid")

def OutboxRecord.release (record : OutboxRecord) (state : OutboxState) (failure : FailureCode) :
    OutboxRecord :=
  { record with state, lastFailure := failure, leaseOwner := "", leaseExpiresAt := none }

/-- The row that is given up at a time. -/
def OutboxRecord.close (record : OutboxRecord) (state : OutboxState) (failure : FailureCode)
    (terminalAt : Time) : OutboxRecord :=
  { record.release state failure with terminalAt := some terminalAt }

def expireDueRows (outbox : Outbox) (now : Time) : Outbox :=
  outbox.updateWhere (fun r => r.state.isClosed = false ∧ r.expiresAt ≤ now) (·.close .expired .expired now) fun _ => rfl

def markCorruptRecord (outbox : Outbox) (frameID : String) (now : Time) : Except Error Outbox :=
  outbox.updateOne (·.frameID = frameID) (·.close .terminal .invalidFrame now) (fun _ => rfl)
    (newError .persistence "mark corrupt outbox frame" "outbox row disappeared")

/-- Whether a row waits for an attempt, or its lease is over. -/
def OutboxRecord.Due (record : OutboxRecord) (now : Time) : Prop :=
  (record.state = .pending ∨ record.state = .retryWait) ∧ record.nextAttemptAt ≤ now ∨
    record.state = .leased ∧ ∃ expiresAt ∈ record.leaseExpiresAt, expiresAt ≤ now
deriving Decidable

/-- A row before another one in the same ordered lane. -/
def OutboxRecord.Precedes (predecessor record : OutboxRecord) : Prop :=
  predecessor.sourceStationPeerID = record.sourceStationPeerID ∧
    predecessor.targetStationPeerID = record.targetStationPeerID ∧
    predecessor.orderingKey = record.orderingKey ∧ 0 < predecessor.orderingSequence ∧
    predecessor.orderingSequence < record.orderingSequence
deriving Decidable

def Claimable (outbox : Outbox) (now : Time) (record : OutboxRecord) : Prop :=
  record.Due now ∧ now < record.expiresAt ∧ (record.orderingSequence ≤ 0 ∨
    ∀ predecessor ∈ outbox.rows, predecessor.Precedes record → predecessor.state.isClosed = true)
deriving Decidable

def OutboxRecord.claimOrder (r : OutboxRecord) : Time ×ₗ Time ×ₗ String ×ₗ String ×ₗ ℤ ×ₗ String :=
  toLex (r.nextAttemptAt, toLex (r.createdAt, toLex (r.targetStationPeerID, toLex (r.orderingKey,
    toLex (r.orderingSequence, r.frameID)))))

def claimCandidates (outbox : Outbox) (request : ClaimRequest) : List OutboxRecord :=
  (orderBy OutboxRecord.claimOrder (outbox.rows.filter fun r => Claimable outbox request.now r)).take request.limit.toNat

/-- `decodeOutboxRecord`, which reports that a row is corrupt. -/
def decodeOutboxRecord [Digest] [FrameDecoder] (record : OutboxRecord) : Except Error Frame := do
  let frame ← orFail (FrameDecoder.unmarshal record.frameBytes)
    (newError .invalidFrame "decode outbox frame" "cannot parse invalid wire-format data")
  let identity ← newFrameIdentity frame
  failWhen (¬record.Matches identity) (newError .invalidFrame "decode outbox frame" "persisted frame identity mismatch")
  return frame

def Claim.ofRecord (request : ClaimRequest) (record : OutboxRecord) (frame : Frame) : Claim where
  frame := frame
  lease :=
    { frameID := record.frameID, owner := request.workerID, generation := record.leaseGeneration + 1
      expiresAt := min record.expiresAt (request.now + request.leaseDuration) }
  attemptCount := min (record.attemptCount + 1) (2 ^ 32 - 1)
  enqueuedAt := record.createdAt

def OutboxRecord.lease (record : OutboxRecord) (claim : Claim) : OutboxRecord := { record with
  state := .leased, attemptCount := claim.attemptCount, leaseOwner := claim.lease.owner
  leaseGeneration := claim.lease.generation, leaseExpiresAt := some claim.lease.expiresAt }

def claimRecord [Digest] [FrameDecoder] (request : ClaimRequest) (acc : Outbox × List Claim)
    (record : OutboxRecord) : Except Error (Outbox × List Claim) :=
  match decodeOutboxRecord record with
  | .error _ => do
    let outbox ← markCorruptRecord acc.1 record.frameID request.now
    return (outbox, acc.2)
  | .ok frame => do
    failWhen (record.leaseGeneration = 2 ^ 64 - 1) (newError .persistence "lease outbox frame" "lease generation exhausted")
    let claim := Claim.ofRecord request record frame
    let holds := fun r : OutboxRecord =>
      r.frameID = record.frameID ∧ r.leaseGeneration = record.leaseGeneration ∧ r.Due request.now
    if acc.1.count holds = 0 then
      return acc
    else
      return (acc.1.updateWhere holds (·.lease claim) fun _ => rfl, acc.2 ++ [claim])

def claim [Digest] [FrameDecoder] (outbox : Outbox) (request : ClaimRequest) :
    Except Error (Outbox × List Claim) := do
  validateClaimRequest request
  let outbox := expireDueRows outbox request.now
  (claimCandidates outbox request).foldlM (claimRecord request) (outbox, [])

/-! ### The end of a lease -/

def validateLease (lease : Lease) : Except Error Unit :=
  failWhen (trimSpace lease.frameID = "" ∨ trimSpace lease.owner = "" ∨ lease.generation = 0 ∨ lease.expiresAt = 0)
    (newError .invalidArgument "validate lease" "lease is incomplete")

def Lease.Holds (lease : Lease) (record : OutboxRecord) : Prop :=
  record.frameID = lease.frameID ∧ record.state = .leased ∧ record.leaseOwner = lease.owner ∧
    record.leaseGeneration = lease.generation
deriving Decidable

/-- `clockNow` is the reading of the repository's own clock. -/
def updateLeased (outbox : Outbox) (lease : Lease) (transitionAt clockNow : Time)
    (update : OutboxRecord → OutboxRecord) (hupdate : ∀ r, (update r).frameID = r.frameID) :
    Except Error Outbox := do
  validateLease lease
  failWhen (lease.expiresAt ≤ max transitionAt clockNow)
    (newError .leaseFenced "update leased outbox frame" "lease expired")
  outbox.updateOne lease.Holds update hupdate
    (newError .leaseFenced "update leased outbox frame" "lease no longer owns frame")

def markDelivered (outbox : Outbox) (lease : Lease) (deliveredAt clockNow : Time) :
    Except Error Outbox := do
  failWhen (deliveredAt = 0) (newError .invalidArgument "mark outbox delivered" "delivery time is required")
  updateLeased outbox lease deliveredAt clockNow
    (fun r => { r.release .delivered .unset with deliveredAt := some deliveredAt }) fun _ => rfl

/-- The clock of the repository is read twice. -/
def scheduleRetry (outbox : Outbox) (lease : Lease) (nextAttemptAt : Time) (failure : FailureCode)
    (transitionAt clockNow : Time) : Except Error Outbox := do
  failWhen (nextAttemptAt = 0 ∨ failure = .unset)
    (newError .invalidArgument "schedule outbox retry" "retry time and failure are required")
  updateLeased outbox lease transitionAt clockNow
    (fun r => { r.release .retryWait failure with nextAttemptAt }) fun _ => rfl

def markTerminal (outbox : Outbox) (lease : Lease) (terminalAt : Time) (failure : FailureCode)
    (clockNow : Time) : Except Error Outbox := do
  failWhen (terminalAt = 0 ∨ failure = .unset)
    (newError .invalidArgument "mark outbox terminal" "terminal time and failure are required")
  updateLeased outbox lease terminalAt clockNow (·.close .terminal failure terminalAt) fun _ => rfl

def markExpired (outbox : Outbox) (lease : Lease) (expiredAt : Time) : Except Error Outbox := do
  validateLease lease
  failWhen (expiredAt = 0) (newError .invalidArgument "mark outbox expired" "expiry time is required")
  outbox.updateOne (fun r => lease.Holds r ∧ r.expiresAt ≤ expiredAt) (·.close .expired .expired expiredAt) (fun _ => rfl)
    (newError .leaseFenced "mark outbox expired" "lease no longer owns frame")

end PeersTouch.Federation
