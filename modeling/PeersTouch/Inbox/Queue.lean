import PeersTouch.Chat.ValueObject
import PeersTouch.Lib.Registry

/-!
# The device inbox of a Station

What a Station holds for a device until the device has consumed it: the lanes and items of
`infrastructure/delivery/repository.go`, with the four transactions that change them. `enqueue`
appends an item to the lane of its recipient, `claim` leases the items at the head of the lane,
`acknowledge` moves the head past one item, and `reject` schedules another attempt or gives the item
up.

* **Lanes.**  A lane that is not stored is created with zeros before it is read, so lanes are a
  function that is zero where nothing was written.
* **Items.**  Items are stored under their `item_id`, which is unique over all lanes. The other two
  unique indexes, of the sequence and of the idempotency key within a lane, are checked on creation.
* **Transactions.**  A transaction that fails leaves nothing behind. `claim` and `acknowledge` may
  commit and return an error all the same, when they find a payload that does not match its hash.
* **The device.**  Whether the recipient is an active device is decided by another component and is
  an argument of each call.
-/

namespace PeersTouch.Inbox

open Lib Method Chat

/-! ### Errors -/

inductive ErrorCode where
  | invalidArgument | unauthorized | consumerFenced | itemNotFound | itemOwnerMismatch | itemNotHead
  | itemNotClaimed | payloadHashMismatch | quotaExceeded | idempotencyConflict | leaseExpired
  | persistence

structure Error where
  code : ErrorCode
  (operation field message : String)

def newError (code : ErrorCode) (operation field message : String) : Error := { code, operation, field, message }

/-- An error of the database. -/
def wrapError (operation cause : String) : Error := { code := .persistence, operation, field := "", message := cause }

/-! ### Rows -/

inductive PayloadType where
  | conversationEvent | directSessionInit | mlsTransition | commandResult | deviceReceipt
  | other (code : ℤ)
deriving DecidableEq

/-- `validPayloadType`. -/
def PayloadType.Valid : PayloadType → Prop
  | other _ => False
  | _ => True

instance (t : PayloadType) : Decidable t.Valid := match t with
  | .other _ => isFalse id
  | .conversationEvent | .directSessionInit | .mlsTransition | .commandResult
  | .deviceReceipt => isTrue trivial

inductive ItemState where
  | pending | claimed | retryWait | consumed | acked | deadLetter
deriving DecidableEq

inductive RejectCode where
  | payloadInvalid | cryptoStateUnavailable | integrityFailed | recipientMismatch | retryLater
  | other (text : String)
deriving DecidableEq

def RejectCode.retryable : RejectCode → Bool
  | cryptoStateUnavailable | retryLater => true
  | payloadInvalid | integrityFailed | recipientMismatch | other _ => false

def RejectCode.valid : RejectCode → Bool
  | other _ => false
  | _ => true

/-- `DeviceQueueLaneModel`, without its key. -/
structure Lane where
  (nextSequence ackedThrough : ℕ)
  activeConsumerID : String
  activeConsumerEpoch : ℕ

/-- The lane of a device for which nothing was ever queued or claimed. -/
def Lane.zero : Lane := { nextSequence := 0, ackedThrough := 0, activeConsumerID := "", activeConsumerEpoch := 0 }

/-- `DeviceQueueItemModel`. -/
structure ItemModel where
  itemID : String
  recipient : Endpoint
  laneSequence : ℕ
  idempotencyKey : String
  eventID : EventID
  eventSequence : ℕ
  conversationID : ConversationID
  payloadType : PayloadType
  opaquePayload : Bytes
  payloadSHA256 : Hash
  state : ItemState
  attemptCount : ℕ
  leaseConsumerID : String
  leaseConsumerEpoch : ℕ
  leaseExpiresAt : Option Time
  (firstQueuedAt nextAttemptAt : Time)
  (expiresAt consumedAt ackedAt : Option Time)
  lastErrorCode : Option RejectCode
  lastRejectConsumerEpoch : ℕ
deriving DecidableEq

structure Lease where
  consumerID : String
  consumerEpoch : ℕ
  expiresAt : Time

structure Item where
  itemID : String
  recipient : Endpoint
  laneSequence : ℕ
  eventID : EventID
  eventSequence : ℕ
  conversationID : ConversationID
  idempotencyKey : String
  payloadType : PayloadType
  opaquePayload : Bytes
  payloadHash : Hash
  state : ItemState
  attemptCount : ℕ
  lease : Option Lease
  (firstQueuedAt nextAttemptAt : Time)
  (expiresAt consumedAt ackedAt : Option Time)
  lastRejectCode : Option RejectCode

structure Queue where
  lanes : Endpoint → Lane
  items : Registry ItemModel ItemModel.itemID

namespace Queue

def empty : Queue := { lanes := fun _ => .zero, items := ∅ }

/-- `tx.Save` of a lane. -/
def saveLane (q : Queue) (device : Endpoint) (lane : Lane) : Queue :=
  { q with lanes := fun e => if e = device then lane else q.lanes e }

/-- `tx.Save` of an item. -/
def saveItem (q : Queue) (item : ItemModel) : Queue := { q with items := q.items.insert item }

def itemsOf (q : Queue) (device : Endpoint) : List ItemModel := q.items.values.filter fun item => item.recipient = device

end Queue

/-! ### Requests -/

structure EnqueueRequest where
  itemID : String
  recipient : Endpoint
  eventID : EventID
  eventSequence : ℕ
  conversationID : ConversationID
  idempotencyKey : String
  payloadType : PayloadType
  opaquePayload : Bytes
  payloadHash : Hash
  createdAt : Time

structure ClaimRequest where
  recipient : Endpoint
  consumerID : String
  expectedConsumerEpoch : ℕ
  (afterLaneSequence limit : ℤ)
  now : Time
  leaseDuration : ℤ

structure ClaimResult where
  consumerEpoch : ℕ
  items : List Item
  (laneHead ackedThrough : ℕ)

structure AcknowledgeRequest where
  recipient : Endpoint
  itemID : String
  laneSequence : ℤ
  consumerEpoch : ℕ
  payloadHash : Hash
  now : Time

structure RejectRequest where
  recipient : Endpoint
  itemID : String
  laneSequence : ℤ
  consumerEpoch : ℕ
  code : RejectCode
  retryable : Bool
  maxAttempts : ℕ
  (baseRetryDelay maxRetryDelay : ℤ)
  now : Time

structure RejectResult where
  state : ItemState
  nextAttemptAt : Option Time

structure QueueLimits where
  (maxUnackedItems maxUnackedBytes : ℕ)

/-- What the component that knows the devices says about the recipient. -/
inductive DeviceCheck where
  | active | unauthorized
  | failed (cause : String)

/-- `requireActiveDeviceForMutation`. -/
def requireActiveDevice (operation : String) : DeviceCheck → Except Error Unit
  | .active => .ok ()
  | .unauthorized => .error (newError .unauthorized operation "device" "is not an active verified actor device")
  | .failed cause => .error (wrapError (operation ++ ".authorize_device") cause)

def transact {α : Type} (operation : String) (device : DeviceCheck)
    (body : Method Queue Error (Except Error α)) : Method Queue Error α := do
  let outcome ← onClone do
    requireActiveDevice operation device
    body
  liftM outcome

/-! ### Checking a request -/

def ValidEndpoint (e : Endpoint) : Prop :=
  e.validate = .ok () ∧ trimSpace e.actor = e.actor ∧ trimSpace e.device = e.device
deriving Decidable

def isHexDigit (c : Char) : Bool := ('0' ≤ c && c ≤ '9') || ('a' ≤ c && c ≤ 'f') || ('A' ≤ c && c ≤ 'F')

/-- `validSHA256Hex`: 32 bytes in hexadecimal. -/
def ValidSHA256Hex (value : String) : Prop := value.toList.length = 64 ∧ value.toList.all isHexDigit = true
deriving Decidable

def maximumClaimBatchSize : ℤ := 100

def maximumRetryAttempts : ℕ := 100

/-- 24 hours, in nanoseconds. -/
def maximumLeaseDuration : ℤ := 86400000000000

section

variable [Digest]

def validateEnqueueRequest (request : EnqueueRequest) : Except Error Unit := do
  failWhen (¬ValidEndpoint request.recipient) (newError .invalidArgument "delivery_repository.enqueue" "recipient"
    "must contain a PTID and device ID")
  failWhen (trimSpace request.itemID = "") (newError .invalidArgument "delivery_repository.enqueue" "item_id" "is required")
  failWhen (request.eventID = "" ∨ request.eventSequence = 0 ∨ request.conversationID = "")
    (newError .invalidArgument "delivery_repository.enqueue" "event" "requires event and conversation identities")
  failWhen (¬request.payloadType.Valid)
    (newError .invalidArgument "delivery_repository.enqueue" "payload_type" "is not supported")
  failWhen (¬ValidSHA256Hex request.idempotencyKey)
    (newError .invalidArgument "delivery_repository.enqueue" "idempotency_key" "must be a complete SHA-256 hex digest")
  failWhen (request.createdAt = 0) (newError .invalidArgument "delivery_repository.enqueue" "created_at" "is required")
  failWhen (hashBytes request.opaquePayload ≠ request.payloadHash)
    (newError .payloadHashMismatch "delivery_repository.enqueue" "payload_sha256" "does not match the opaque payload")

end

def validateClaimRequest (request : ClaimRequest) : Except Error Unit := do
  failWhen (¬ValidEndpoint request.recipient) (newError .invalidArgument "delivery_repository.claim" "recipient"
    "must contain a PTID and device ID")
  failWhen (trimSpace request.consumerID = "" ∨ request.limit ≤ 0 ∨
    request.limit > maximumClaimBatchSize ∨ request.afterLaneSequence < 0 ∨ request.now = 0 ∨
    request.leaseDuration ≤ 0 ∨ request.leaseDuration > maximumLeaseDuration)
    (newError .invalidArgument "delivery_repository.claim" "claim"
      "contains an invalid consumer, cursor, limit, time, or lease")

def validateAcknowledgeRequest (request : AcknowledgeRequest) : Except Error Unit := do
  failWhen (¬ValidEndpoint request.recipient) (newError .invalidArgument "delivery_repository.acknowledge" "recipient"
    "must contain a PTID and device ID")
  failWhen (trimSpace request.itemID = "" ∨ request.laneSequence ≤ 0 ∨
    request.consumerEpoch = 0 ∨ request.payloadHash = 0 ∨ request.now = 0)
    (newError .invalidArgument "delivery_repository.acknowledge" "acknowledgement"
      "contains an invalid item, sequence, epoch, hash, or time")

def validateRejectRequest (request : RejectRequest) : Except Error Unit := do
  failWhen (¬ValidEndpoint request.recipient) (newError .invalidArgument "delivery_repository.reject" "recipient"
    "must contain a PTID and device ID")
  failWhen (trimSpace request.itemID = "" ∨ request.laneSequence ≤ 0 ∨
    request.consumerEpoch = 0 ∨ request.code.valid = false ∨
    request.retryable ≠ request.code.retryable ∨ request.maxAttempts = 0 ∨
    request.maxAttempts > maximumRetryAttempts ∨ request.now = 0)
    (newError .invalidArgument "delivery_repository.reject" "rejection"
      "contains an invalid item, sequence, epoch, code, retry bound, or time")
  failWhen (request.retryable = true ∧ (request.baseRetryDelay ≤ 0 ∨ request.maxRetryDelay < request.baseRetryDelay))
    (newError .invalidArgument "delivery_repository.reject" "retry_delay" "must define positive ordered bounds")

/-! ### Reading rows -/

/-- The row as it is handed out, if it is one that can be. -/
def modelToItem (model : ItemModel) : Except Error Item := do
  failWhen (¬ValidEndpoint model.recipient ∨ model.laneSequence = 0 ∨ model.eventSequence = 0 ∨
    ¬model.payloadType.Valid ∨ model.firstQueuedAt = 0 ∨ model.nextAttemptAt = 0)
    (newError .persistence "delivery_repository.model_to_item" "item" "violates the canonical durable item contract")
  failWhen (∃ code ∈ model.lastErrorCode, code.valid = false)
    (newError .persistence "delivery_repository.model_to_item" "last_error_code" "is not supported")
  failWhen (model.state = .claimed ∧ (model.leaseConsumerID = "" ∨
    model.leaseConsumerEpoch = 0 ∨ model.leaseExpiresAt = none))
    (newError .persistence "delivery_repository.model_to_item" "lease" "is incomplete for a claimed item")
  return { model with
         payloadHash := model.payloadSHA256, lease := model.leaseExpiresAt.map fun expiresAt =>
    { consumerID := model.leaseConsumerID, consumerEpoch := model.leaseConsumerEpoch, expiresAt }
         lastRejectCode := model.lastErrorCode }

def PayloadMatches [Digest] (model : ItemModel) : Prop := hashBytes model.opaquePayload = model.payloadSHA256
deriving Decidable

def ItemModel.withoutLease (model : ItemModel) : ItemModel :=
  { model with leaseConsumerID := "", leaseConsumerEpoch := 0, leaseExpiresAt := none }

def markDeadLetter (model : ItemModel) (code : RejectCode) : ItemModel :=
  { model.withoutLease with state := .deadLetter, lastErrorCode := some code }

def lockItem (q : Queue) (itemID : String) : Except Error ItemModel := orFail (q.items.find itemID)
    (newError .itemNotFound "delivery_repository.lock_item" "item_id" "was not found")

def findIdempotentItem (q : Queue) (recipient : Endpoint) (idempotencyKey : String) :
    Option ItemModel :=
  (q.itemsOf recipient).find? fun item => item.idempotencyKey = idempotencyKey

/-! ### Enqueue -/

def MatchesEnqueueRequest (model : ItemModel) (request : EnqueueRequest) : Prop :=
  model.itemID = request.itemID ∧ model.eventID = request.eventID ∧
    model.eventSequence = request.eventSequence ∧ model.conversationID = request.conversationID ∧
    model.payloadType = request.payloadType ∧ model.opaquePayload = request.opaquePayload ∧
    model.payloadSHA256 = request.payloadHash
deriving Decidable

def checkQuota (limits : QueueLimits) (q : Queue) (recipient : Endpoint) (incomingBytes : ℕ) :
    Except Error Unit :=
  let unacked := (q.itemsOf recipient).filter fun item => item.state ≠ .acked
  failWhen (unacked.length + 1 > limits.maxUnackedItems ∨
    (unacked.map fun item => item.opaquePayload.length).sum + incomingBytes >
      limits.maxUnackedBytes)
    (newError .quotaExceeded "delivery_repository.enqueue" "queue" "would exceed the per-device unacknowledged quota")

def newItem (request : EnqueueRequest) (laneSequence : ℕ) : ItemModel := { request with
  laneSequence, payloadSHA256 := request.payloadHash, state := .pending, attemptCount := 0
  leaseConsumerID := "", leaseConsumerEpoch := 0, leaseExpiresAt := none
  firstQueuedAt := request.createdAt, nextAttemptAt := request.createdAt, expiresAt := none
  consumedAt := none, ackedAt := none, lastErrorCode := none, lastRejectConsumerEpoch := 0 }

/-- `tx.Create`, with the three unique indexes. -/
def createItem (model : ItemModel) : Method Queue Error Unit := do
  let q ← receiver
  failWhen ((q.items.find model.itemID).isSome = true ∨ ∃ item ∈ q.itemsOf model.recipient,
    item.laneSequence = model.laneSequence ∨ item.idempotencyKey = model.idempotencyKey)
    (wrapError "delivery_repository.enqueue" "unique constraint failed")
  assign (q.saveItem model)

def enqueueItem (limits : QueueLimits) (request : EnqueueRequest) : Method Queue Error Item := do
  let q ← receiver
  let lane := q.lanes request.recipient
  match findIdempotentItem q request.recipient request.idempotencyKey with
  | some existing =>
    failWhen (¬MatchesEnqueueRequest existing request)
      (newError .idempotencyConflict "delivery_repository.enqueue" "idempotency_key"
        "already identifies a different delivery")
    modelToItem existing
  | none =>
    checkQuota limits q request.recipient request.opaquePayload.length
    failWhen (lane.nextSequence = 2 ^ 63 - 1)
      (newError .persistence "delivery_repository.enqueue" "lane_sequence" "is exhausted")
    assign (q.saveLane request.recipient { lane with nextSequence := lane.nextSequence + 1 })
    let model := newItem request (lane.nextSequence + 1)
    createItem model
    modelToItem model

def enqueue [Digest] (limits : QueueLimits) (device : DeviceCheck) (request : EnqueueRequest) :
    Method Queue Error Item := do
  validateEnqueueRequest request
  transact "delivery_repository.enqueue" device do
    return .ok (← enqueueItem limits request)

/-! ### Claim -/

def advanceConsumerEpoch (lane : Lane) (consumerID : String) : Except Error Lane := do
  failWhen (lane.activeConsumerEpoch = 2 ^ 64 - 1)
    (newError .persistence "delivery_repository.claim" "consumer_epoch" "is exhausted")
  return { lane with
    activeConsumerID := consumerID, activeConsumerEpoch := lane.activeConsumerEpoch + 1 }

def advanceWhen (needed : Bool) (lane : Lane) (consumerID : String) : Except Error Lane :=
  if needed then advanceConsumerEpoch lane consumerID else .ok lane

def Claimable (item : ItemModel) (now : Time) : Prop :=
  item.state = .pending ∨ item.state = .retryWait ∧ item.nextAttemptAt ≤ now ∨
    item.state = .claimed ∧ ∃ expiresAt ∈ item.leaseExpiresAt, expiresAt ≤ now
deriving Decidable

/-- The first claimable items beyond what was acknowledged, in the order of the lane. -/
def claimCandidates (q : Queue) (request : ClaimRequest) : List ItemModel :=
  (((q.itemsOf request.recipient).filter fun item =>
      (q.lanes request.recipient).ackedThrough < item.laneSequence ∧ Claimable item request.now).insertionSort
    fun a b => a.laneSequence ≤ b.laneSequence).take request.limit.toNat

def contiguous : List ItemModel → List ItemModel
  | [] => []
  | [item] => [item]
  | item :: next :: rest =>
    if next.laneSequence = item.laneSequence + 1 then item :: contiguous (next :: rest)
    else [item]

def leaseItem (request : ClaimRequest) (epoch : ℕ) (model : ItemModel) : ItemModel := { model with
  state := .claimed, leaseConsumerID := request.consumerID, leaseConsumerEpoch := epoch
  leaseExpiresAt := some (request.now + request.leaseDuration)
  attemptCount := (model.attemptCount + 1) % 2 ^ 32 }

def emptyClaim (lane : Lane) : ClaimResult :=
  { consumerEpoch := lane.activeConsumerEpoch, items := [], laneHead := lane.nextSequence
    ackedThrough := lane.ackedThrough }

section

variable [Digest]

/-- The second half of `Claim`: the lease itself. `initialized` says that the epoch was advanced
already, with the first claim of the lane. -/
def grantLease (request : ClaimRequest) (initialized : Bool) :
    Method Queue Error (Except Error ClaimResult) := do
  let q ← receiver
  let lane := q.lanes request.recipient
  let run := contiguous (claimCandidates q request)
  if (run.head?.map ItemModel.laneSequence) ≠ some (lane.ackedThrough + 1) then
    return .ok (emptyClaim lane)
  match run.find? fun item => ¬PayloadMatches item with
  | some item =>
    assign (q.saveItem (markDeadLetter item .integrityFailed))
    return .error (newError .payloadHashMismatch "delivery_repository.claim" "payload_sha256"
      "does not match the persisted opaque payload")
  | none =>
    let lane ← advanceWhen (!initialized) lane request.consumerID
    let leased := run.map (leaseItem request lane.activeConsumerEpoch)
    assign (leased.foldl Queue.saveItem (q.saveLane request.recipient lane))
    let items ← (leased.mapM modelToItem : Except Error (List Item))
    return .ok { emptyClaim lane with items }

def claimItems (request : ClaimRequest) : Method Queue Error (Except Error ClaimResult) := do
  let q ← receiver
  let lane := q.lanes request.recipient
  let recoveringEpoch := request.expectedConsumerEpoch ≠ 0 ∧ request.expectedConsumerEpoch ≠ lane.activeConsumerEpoch
  failWhen (recoveringEpoch ∧ (request.expectedConsumerEpoch > lane.activeConsumerEpoch ∨
    request.consumerID ≠ lane.activeConsumerID))
    (newError .consumerFenced "delivery_repository.claim" "expected_consumer_epoch" "does not match the active lane epoch")
  failWhen (request.afterLaneSequence > lane.ackedThrough)
    (newError .itemNotHead "delivery_repository.claim" "after_lane_sequence" "would skip the unacknowledged lane head")
  let initialized := decide (lane.activeConsumerEpoch = 0)
  let lane ← advanceWhen initialized lane request.consumerID
  assign (q.saveLane request.recipient lane)
  -- a consumer whose claim response was lost learns the epoch, and no lease changes
  if recoveringEpoch then return .ok (emptyClaim lane)
  grantLease request initialized

def claim (device : DeviceCheck) (request : ClaimRequest) : Method Queue Error ClaimResult := do
  validateClaimRequest request
  transact "delivery_repository.claim" device (claimItems request)

/-! ### Acknowledge -/

def acknowledged (model : ItemModel) (now : Time) : ItemModel := { model.withoutLease with
  state := .acked, consumedAt := some (model.consumedAt.getD now), ackedAt := some now }

def checkHeadLease (lane : Lane) (item : ItemModel) (request : AcknowledgeRequest) :
    Except Error Unit := do
  failWhen (item.laneSequence ≠ lane.ackedThrough + 1)
    (newError .itemNotHead "delivery_repository.acknowledge" "lane_sequence" "is not the exact unacknowledged lane head")
  failWhen (item.state ≠ .claimed ∧ item.state ≠ .consumed)
    (newError .itemNotClaimed "delivery_repository.acknowledge" "state" "is not claimed")
  failWhen (item.leaseConsumerEpoch ≠ request.consumerEpoch ∨ item.leaseConsumerID = "" ∨
    item.leaseConsumerID ≠ lane.activeConsumerID)
    (newError .consumerFenced "delivery_repository.acknowledge" "consumer_epoch" "does not own the item lease")
  failWhen (item.leaseExpiresAt = none ∨ item.state = .claimed ∧ ∃ expiresAt ∈ item.leaseExpiresAt, expiresAt ≤ request.now)
    (newError .leaseExpired "delivery_repository.acknowledge" "lease" "has expired")

def acknowledgeItem (request : AcknowledgeRequest) : Method Queue Error (Except Error ℕ) := do
  let q ← receiver
  let lane := q.lanes request.recipient
  failWhen (request.consumerEpoch ≠ lane.activeConsumerEpoch)
    (newError .consumerFenced "delivery_repository.acknowledge" "consumer_epoch" "does not match the active lane epoch")
  let item ← lockItem q request.itemID
  failWhen (item.recipient ≠ request.recipient)
    (newError .itemOwnerMismatch "delivery_repository.acknowledge" "device" "does not own the item")
  failWhen (item.laneSequence ≠ request.laneSequence)
    (newError .itemNotHead "delivery_repository.acknowledge" "lane_sequence" "does not identify the requested item")
  if ¬PayloadMatches item then
    assign (q.saveItem (markDeadLetter item .integrityFailed))
    return .error (newError .payloadHashMismatch "delivery_repository.acknowledge"
      "payload_sha256" "does not match the persisted opaque payload")
  failWhen (item.payloadSHA256 ≠ request.payloadHash)
    (newError .payloadHashMismatch "delivery_repository.acknowledge" "payload_sha256" "does not match the claimed item")
  if item.state = .acked then
    failWhen (item.laneSequence > lane.ackedThrough)
      (newError .persistence "delivery_repository.acknowledge" "acked_through" "is behind an acknowledged item")
    return .ok lane.ackedThrough
  checkHeadLease lane item request
  assign ((q.saveItem (acknowledged item request.now)).saveLane request.recipient
    { lane with ackedThrough := item.laneSequence })
  return .ok item.laneSequence

def acknowledge (device : DeviceCheck) (request : AcknowledgeRequest) : Method Queue Error ℕ := do
  validateAcknowledgeRequest request
  transact "delivery_repository.acknowledge" device (acknowledgeItem request)

end

/-! ### Reject -/

/-- The loop of `retryDelay`: the delay doubles with each attempt, up to the maximum. -/
def doubledDelay (maximum : ℤ) : ℕ → ℤ → ℤ
  | 0, delay => if delay > maximum then maximum else delay
  | n + 1, delay => if delay ≥ maximum.tdiv 2 then maximum else doubledDelay maximum n (delay * 2)

def retryDelay (attempt : ℕ) (base maximum : ℤ) : ℤ := doubledDelay maximum (attempt - 1) base

/-- The outcome of a rejection that was stored before. -/
def replayRejectResult (item : ItemModel) (request : RejectRequest) :
    Except Error RejectResult := do
  failWhen (item.lastRejectConsumerEpoch ≠ request.consumerEpoch ∨ item.lastErrorCode ≠ some request.code)
    (newError .idempotencyConflict "delivery_repository.reject" "rejection"
      "conflicts with the persisted rejection outcome")
  match item.state with
  | .retryWait => return { state := .retryWait, nextAttemptAt := some item.nextAttemptAt }
  | .deadLetter => return { state := .deadLetter, nextAttemptAt := none }
  | _ => throw (newError .persistence "delivery_repository.reject" "state" "is not a persisted rejection outcome")

def rejected (item : ItemModel) (request : RejectRequest) : ItemModel :=
  let item := { item.withoutLease with
    lastErrorCode := some request.code, lastRejectConsumerEpoch := request.consumerEpoch }
  if request.retryable = true ∧ item.attemptCount < request.maxAttempts then
    { item with
      state := .retryWait, nextAttemptAt := request.now +
        retryDelay item.attemptCount request.baseRetryDelay request.maxRetryDelay }
  else { item with state := .deadLetter }

def rejectItem (request : RejectRequest) : Method Queue Error RejectResult := do
  let q ← receiver
  let lane := q.lanes request.recipient
  let item ← lockItem q request.itemID
  failWhen (item.recipient ≠ request.recipient)
    (newError .itemOwnerMismatch "delivery_repository.reject" "device" "does not own the item")
  failWhen (item.laneSequence ≠ request.laneSequence ∨ item.laneSequence ≠ lane.ackedThrough + 1)
    (newError .itemNotHead "delivery_repository.reject" "lane_sequence" "is not the exact unacknowledged lane head")
  if item.state = .retryWait ∨ item.state = .deadLetter then
    liftM (replayRejectResult item request)
  else do
    failWhen (request.consumerEpoch ≠ lane.activeConsumerEpoch)
      (newError .consumerFenced "delivery_repository.reject" "consumer_epoch" "does not match the active lane epoch")
    failWhen (item.state ≠ .claimed) (newError .itemNotClaimed "delivery_repository.reject" "state" "is not claimed")
    failWhen (item.leaseConsumerEpoch ≠ request.consumerEpoch ∨ item.leaseConsumerID = "" ∨
      item.leaseConsumerID ≠ lane.activeConsumerID)
      (newError .consumerFenced "delivery_repository.reject" "consumer_epoch" "does not own the item lease")
    failWhen (∀ expiresAt ∈ item.leaseExpiresAt, expiresAt ≤ request.now)
      (newError .leaseExpired "delivery_repository.reject" "lease" "has expired")
    let rejected := rejected item request
    assign (q.saveItem rejected)
    return { state := rejected.state
             nextAttemptAt := if rejected.state = .retryWait then some rejected.nextAttemptAt else none }

def reject (device : DeviceCheck) (request : RejectRequest) : Method Queue Error RejectResult := do
  validateRejectRequest request
  transact "delivery_repository.reject" device do
    return .ok (← rejectItem request)

end PeersTouch.Inbox
