import PeersTouch.Client.Redaction

/-!
# The commits of the lane

The functions of `messaging/store.rs` through which an item of the lane reaches the store. Most of
them are `commit_receive_core` with a closure of their own:

* `commitDirectReceive`, `commitMlsReceive` and `commitServicePlaintextReceive` project a message,
  and `commitPublicEvent` turns a message that the device sent into one that was accepted;
* `commitInteractionEvent` and `commitDirectEdit` change a message that is projected already;
* `commitSkippedEndpointPayload` settles an event without applying it.

`commitDeliveryReceipt` is not about an event of the authority. It makes the checks and writes of
the lane by itself and queues no receipt.
-/

namespace PeersTouch.Client

open Lib Chat
open Ratchet (DrSkippedMessageKey)

/-! ### Inputs -/

structure EventReceive extends LaneItem where
  (eventHash previousEventHash : Bytes)
  receiptID : String
  receiptBytes : Bytes
  consumedAtUnixMs : ℤ

def EventReceive.core (input : EventReceive) (eventSequence : ℤ)
    (projection : Option MessageProjection) : ReceiveCommitCore where
  toLaneItem := input.toLaneItem
  eventHash := input.eventHash
  previousEventHash := input.previousEventHash
  eventSequence := eventSequence
  allowJoinCheckpoint := false
  projection := projection
  receiptID := input.receiptID
  receiptBytes := input.receiptBytes
  consumedAtUnixMs := input.consumedAtUnixMs

structure SessionAdvance where
  session : DirectSession
  newSkipped : List (DrSkippedMessageKey Bytes)
  consumedSkipped : Option (Bytes × ℕ)
  consumedOneTimePrekeyID : Option ℤ

structure DirectReceiveCommit extends EventReceive, SessionAdvance where
  projection : MessageProjection

structure MlsReceiveCommit extends EventReceive where
  sessionState : Bytes
  (membershipEpoch mlsEpoch : ℤ)
  projection : MessageProjection

structure DirectEditCommit extends EventReceive, SessionAdvance where
  eventSequence : ℤ
  messageID : MessageID
  editedText : String
  editedAtUnixMs : ℤ

structure PublicEventReceiveCommit extends EventReceive where
  commandID : CommandID
  messageID : MessageID
  eventSequence : ℤ
  senderPTID : PTID
  senderDeviceID : DeviceID
  attachments : List ObjectDescriptor
  (replyToMessageID threadRootMessageID : Option MessageID)
  committedAtUnixMs : ℤ

structure ServiceMessageCommit where
  sourceNamespace : String
  (contentBytes sourceContextBytes : Bytes)

structure ServicePlaintextReceiveCommit extends EventReceive where
  eventSequence : ℤ
  messageID : MessageID
  senderPTID : PTID
  senderDeviceID : DeviceID
  fallbackText : String
  serviceMessage : ServiceMessageCommit
  committedAtUnixMs : ℤ

structure SkippedEndpointReceiveCommit extends EventReceive where
  eventSequence : ℤ

inductive InteractionMutation where
  | observeOnly
  | edit (editedText : String) (editedAtUnixMs : ℤ)
  | retract | hideForActor
  | moderate (moderatorPTID : PTID) (reasonCode : String) (moderatedAtUnixMs : ℤ)
  | reaction (actorPTID : PTID) (reaction : String) (removed : Bool) (createdAtUnixMs : ℤ)
  | pin (actorPTID : PTID) (removed : Bool) (pinnedAtUnixMs : ℤ)
deriving DecidableEq

def InteractionMutation.redactionKind : InteractionMutation → Option MessageRedactionKind
  | retract => some .retracted
  | hideForActor => some .hiddenForActor
  | _ => none

structure InteractionReceiveCommit extends EventReceive where
  commandID : CommandID
  eventSequence : ℤ
  messageID : MessageID
  mutation : InteractionMutation
  mlsSessionState : Option Bytes
  (membershipEpoch mlsEpoch : ℤ)

structure DeliveryReceiptReceiveCommit where
  itemID : String
  messageID : MessageID
  conversationID : ConversationID
  consumerPTID : PTID
  consumerDeviceID : DeviceID
  laneSequence : ℤ
  consumerEpoch : ℕ
  payloadSHA256 : Bytes
  deliveryState : String
  consumedAtUnixMs : ℤ

/-! ### Sessions and groups -/

def DirectSessionKey.validate (key : DirectSessionKey) : Except Error Unit := do
  failWhen (blank key.conversationID) "direct session requires a conversation ID"
  failWhen (blank key.self.actor ∨ blank key.self.device) "direct session local endpoint is incomplete"
  failWhen (blank key.peer.actor ∨ blank key.peer.device) "direct session peer endpoint is incomplete"
  failWhen (key.self = key.peer) "direct-session endpoints must differ"
  failWhen (key.generation = 0) "direct-session generation must be positive"

namespace Background

/-- The second unique index of the table is the key of the session. -/
def upsertDirectSession (session : DirectSession) (b : Background) : Except Error Background := do
  session.key.validate
  discard <| i64TryFrom session.key.generation "session generation exceeds i64"
  failWhen (∃ other ∈ b.sessions.rows, other.key = session.key ∧ other.sessionID ≠ session.sessionID)
    "UNIQUE constraint failed: direct_sessions.conversation_id, direct_sessions.self_ptid, direct_sessions.self_device_id, direct_sessions.peer_ptid, direct_sessions.peer_device_id, direct_sessions.generation"
  return { b with sessions := b.sessions.upsert session }

def consumeOneTimePrekey (prekeyID : Option ℤ) (b : Background) : Except Error Background :=
  match prekeyID with
  | none => return b
  | some prekeyID => do
    let oneTimePrekeys ← b.oneTimePrekeys.updateOne (fun k => k.prekeyID = prekeyID ∧
      (k.state = .available ∨ k.state = .awaitingReplenishment))
      (fun k => { k with state := .consumed }) (fun _ => rfl)
      "messaging one-time prekey was not consumed"
    return { b with oneTimePrekeys }

def advanceSession (advance : SessionAdvance) (b : Background) : Except Error Background := do
  let b ← b.consumeOneTimePrekey advance.consumedOneTimePrekeyID
  let b ← b.upsertDirectSession advance.session
  let inserted := b.skippedKeys.insertAll advance.newSkipped
  return { b with
    skippedKeys := match advance.consumedSkipped with
      | none => inserted
      | some (peerPublic, counter) => inserted.delete (advance.session.sessionID, peerPublic, counter) }

/-- The group of a conversation after a message was decrypted in it. -/
def storeGroup (input : EventReceive) (sessionState : Bytes) (membershipEpoch mlsEpoch : ℤ)
    (b : Background) : Background :=
  { b with
    mlsGroups := b.mlsGroups.upsert
      { conversationID := input.conversationID, sessionState, membershipEpoch, mlsEpoch
        updatedAtUnixMs := input.consumedAtUnixMs } }

end Background

/-! ### Messages that are projected -/

namespace Messages

def loadAttachmentMetadata (messageID : MessageID) (m : Messages) :
    List AttachmentPlaintextMetadata :=
  (orderBy (fun a => a.metadata.attachmentID)
    (m.attachments.rows.filter fun a => a.messageID = messageID)).map AttachmentRow.metadata

def withoutSearch (conversationID : ConversationID) (messageID : MessageID) (m : Messages) :
    Messages :=
  { m with
    search := m.search.filter fun r => ¬(r.conversationID = conversationID ∧ r.messageID = messageID) }

def edit (conversationID : ConversationID) (messageID : MessageID) (editedText : String)
    (editedAtUnixMs : ℤ) (m : Messages) : Messages :=
  { m with
    projections := m.projections.updateWhere (fun r => r.conversationID = conversationID ∧ r.messageID = messageID)
      (fun r => { r with
        editedText := some editedText, editedAtUnixMs := some editedAtUnixMs }) fun _ => rfl }

section

variable [Content]

def refreshMessageSearchIndex (conversationID : ConversationID) (messageID : MessageID)
    (m : Messages) : Messages :=
  let cleared := m.withoutSearch conversationID messageID
  match m.projectionOf conversationID messageID with
  | some row =>
    if row.retracted = false ∧ row.hiddenForActor = false ∧ row.moderated = false then
      cleared.index conversationID messageID (row.editedText.getD row.plaintext) (m.loadAttachmentMetadata messageID)
    else cleared
  | none => cleared

/-- One attachment of a message that the device sent. A row that is there already must agree. -/
def persistSenderAttachment (messageID : MessageID) (m : Messages)
    (attachment : AttachmentPlaintextMetadata) : Except Error Messages := do
  discard <| orFail attachment.object "messaging attachment descriptor is missing"
  discard <| i64TryFrom attachment.plaintextSize "attachment plaintext size exceeds i64"
  match m.attachments.find (messageID, attachment.attachmentID) with
  | some row => do
    failWhen (row.metadata ≠ attachment) "messaging sender attachment projection conflicts"
    return m
  | none =>
    return { m with
      attachments := m.attachments.insertOrIgnore
        { messageID, metadata := attachment, availabilityState := .here, localCachePath := none } }

def persistSenderContent (conversationID : ConversationID) (messageID : MessageID)
    (plaintext : String) (attachments : List AttachmentPlaintextMetadata) (privateContent : Bytes)
    (m : Messages) : Except Error Messages := do
  let decoded ← Content.decodeMessagePrivateContent privateContent
  failWhen (decoded.1 ≠ plaintext ∨ decoded.2 ≠ attachments) "messaging sender private content does not match projection"
  let m ← attachments.foldlM (persistSenderAttachment messageID) m
  failWhen (m.attachments.count (fun a => a.messageID = messageID) ≠ attachments.length)
    "messaging sender attachment set conflicts"
  return (m.withoutSearch conversationID messageID).index conversationID messageID plaintext
    attachments

end

end Messages

/-! ### Interactions -/

namespace Messages

/-- `INSERT OR IGNORE` or `DELETE` of a reaction. -/
def react (messageID : MessageID) (actorPTID : PTID) (reaction : String) (removed : Bool)
    (createdAtUnixMs : ℤ) (m : Messages) : Messages :=
  { m with
    reactions := if removed = true then m.reactions.delete (messageID, actorPTID, reaction)
      else m.reactions.insertOrIgnore { messageID, actorPTID, reaction, createdAtUnixMs } }

/-- `INSERT OR REPLACE` or `DELETE` of a pin. -/
def pin (conversationID : ConversationID) (messageID : MessageID) (actorPTID : PTID)
    (removed : Bool) (pinnedAtUnixMs : ℤ) (m : Messages) : Messages :=
  { m with
    pins := if removed = true then m.pins.delete (conversationID, messageID)
      else m.pins.upsert { conversationID, messageID, actorPTID, pinnedAtUnixMs } }

def moderate (conversationID : ConversationID) (messageID : MessageID) (reasonCode : String)
    (m : Messages) : Except Error Messages := do
  let projections ← m.projections.updateOne (fun r => r.conversationID = conversationID ∧ r.messageID = messageID)
    (fun r => { r with moderated := true, moderationReasonCode := some reasonCode }) (fun _ => rfl)
    "messaging moderation target message not found"
  return { m with projections }.withoutSearch conversationID messageID

end Messages

namespace Background

def durableEditedText (commandID : CommandID) (editedText : String) (b : Background) :
    Except Error String :=
  if editedText = "" then
    orFail (((b.interactionIntents.find commandID).filter fun i => i.interactionKind = .edit).bind
      InteractionIntent.editedText) "messaging sender edit content is unavailable"
  else return editedText

/-- The command of the device that the event answers is committed, if there is one. -/
def commitInteractionCommand (commandID : CommandID) (b : Background) : Except Error Background :=
  if b.interactionIntents.hasKey commandID = true then do
    let localCommands ← b.localCommands.updateOne (fun r => r.commandID = commandID)
      (fun r => { r with state := .committed }) (fun _ => rfl)
      "messaging interaction command transition mismatch"
    let outbox ← b.outbox.updateOne (fun r => r.commandID = commandID)
      (fun r => { r with state := .committed }) (fun _ => rfl)
      "messaging interaction command transition mismatch"
    let attempts ← b.attempts.updateOne (fun r => r.commandID = commandID)
      (fun r => { r with state := .committed }) (fun _ => rfl)
      "messaging interaction command transition mismatch"
    let interactionIntents ← b.interactionIntents.updateOne (fun r => r.commandID = commandID)
      (fun r => { r with state := .committed }) (fun _ => rfl)
      "messaging interaction command transition mismatch"
    return { b with localCommands, outbox, attempts, interactionIntents }
  else return b

/-- The group of the conversation, if the interaction was encrypted in it. -/
def storeInteractionGroup (input : InteractionReceiveCommit) (b : Background) :
    Except Error Background :=
  match input.mlsSessionState with
  | none => return b
  | some sessionState => do
    failWhen (sessionState = [] ∨ input.membershipEpoch < 0 ∨ input.mlsEpoch < 0)
      "messaging interaction MLS state is incomplete"
    return b.storeGroup input.toEventReceive sessionState input.membershipEpoch input.mlsEpoch

end Background

def InteractionReceiveCommit.redactionInput (input : InteractionReceiveCommit)
    (kind : MessageRedactionKind) : MessageRedactionInput :=
  { input with
    kind, authoritySequence := input.eventSequence, authorityEventHash := input.eventHash
    appliedAtUnixMs := input.consumedAtUnixMs }

section

variable [Content] [Digest]

def Body.applyMutation (input : InteractionReceiveCommit)
    (redaction : Option (MessageRedactionPlan × PreparedMessageRedactionCleanup)) (b : Body) :
    Except Error Body :=
  match input.mutation with
  | .observeOnly => return b
  | .edit editedText editedAtUnixMs => do
    failWhen (editedAtUnixMs ≤ 0) "messaging edit timestamp is invalid"
    let editedText ← b.background.durableEditedText input.commandID editedText
    let messages := b.messages.edit input.conversationID input.messageID editedText editedAtUnixMs
    return { b with
      messages := messages.refreshMessageSearchIndex input.conversationID input.messageID }
  | .retract | .hideForActor => do
    let (plan, prepared) ← orFail redaction "messaging redaction plan is missing"
    applyMessageRedaction plan prepared b
  | .moderate moderatorPTID reasonCode moderatedAtUnixMs => do
    failWhen (blank moderatorPTID ∨ blank reasonCode ∨ moderatedAtUnixMs ≤ 0) "messaging moderation event is incomplete"
    let messages ← b.messages.moderate input.conversationID input.messageID reasonCode
    return { b with messages }
  | .reaction actorPTID reaction removed createdAtUnixMs => do
    failWhen (blank actorPTID ∨ blank reaction ∨ createdAtUnixMs ≤ 0) "messaging reaction is incomplete"
    return { b with
      messages := b.messages.react input.messageID actorPTID reaction removed createdAtUnixMs }
  | .pin actorPTID removed pinnedAtUnixMs => do
    failWhen (blank actorPTID ∨ pinnedAtUnixMs ≤ 0) "messaging pin is incomplete"
    return { b with
      messages := b.messages.pin input.conversationID input.messageID actorPTID removed
        pinnedAtUnixMs }

def Body.applyInteraction (input : InteractionReceiveCommit)
    (redaction : Option (MessageRedactionPlan × PreparedMessageRedactionCleanup)) (b : Body) :
    Except Error Body := do
  let background ← b.background.storeInteractionGroup input
  failWhen (b.messages.projectionOf input.conversationID input.messageID = none ∧
    redaction = none ∧ input.mutation ≠ .observeOnly)
    "messaging interaction target message not found"
  let b ← { b with background }.applyMutation input redaction
  let background ← b.background.commitInteractionCommand input.commandID
  return { b with background }

def InteractionReceiveCommit.prepare (input : InteractionReceiveCommit) (files : FileSystem) (m : Messages) :
    Except Error (Option (MessageRedactionPlan × PreparedMessageRedactionCleanup)) :=
  match input.mutation.redactionKind with
  | none => return none
  | some kind => do
    let plan ← prepareMessageRedaction (input.redactionInput kind)
    return some (plan, prepareMessageRedactionCleanup files plan m)

def commitInteractionEvent (files : FileSystem) (input : InteractionReceiveCommit) (s : Store) :
    Except Error (ReceiveCommitResult × Store) := do
  failWhen (blank input.messageID) "messaging interaction target message is required"
  let redaction ← input.prepare files s.body.messages
  commitReceiveCore (input.core input.eventSequence none) .none (Body.applyInteraction input redaction) s

/-! ### Direct and group messages -/

omit [Digest]

def Body.applyDirectMessage (advance : SessionAdvance) (b : Body) : Except Error Body := do
  let background ← b.background.advanceSession advance
  return { b with background }

/-- `commit_direct_receive_inner`. -/
def commitDirectReceive (input : DirectReceiveCommit) (failPoint : ReceiveFailPoint) (s : Store) :
    Except Error (ReceiveCommitResult × Store) := do
  validateReceiveCore (input.core input.projection.eventSequence (some input.projection))
  input.session.key.validate
  failWhen (input.session.key.conversationID ≠ input.conversationID) "messaging direct session conversation mismatch"
  commitReceiveCore (input.core input.projection.eventSequence (some input.projection)) failPoint
    (Body.applyDirectMessage input.toSessionAdvance) s

def Body.applyMlsMessage (input : MlsReceiveCommit) (b : Body) : Except Error Body := .ok { b with
  background := b.background.storeGroup input.toEventReceive input.sessionState
    input.membershipEpoch input.mlsEpoch }

/-- `commit_mls_receive_inner`. -/
def commitMlsReceive (input : MlsReceiveCommit) (failPoint : ReceiveFailPoint) (s : Store) :
    Except Error (ReceiveCommitResult × Store) := do
  validateReceiveCore (input.core input.projection.eventSequence (some input.projection))
  failWhen (input.sessionState = [] ∨ input.membershipEpoch < 0 ∨ input.mlsEpoch < 0)
    "messaging MLS receive state is incomplete"
  commitReceiveCore (input.core input.projection.eventSequence (some input.projection)) failPoint
    (Body.applyMlsMessage input) s

def Body.applyDirectEdit (input : DirectEditCommit) (b : Body) : Except Error Body := do
  let background ← b.background.advanceSession input.toSessionAdvance
  failWhen (b.messages.projectionOf input.conversationID input.messageID = none)
    "messaging direct edit target message not found"
  let messages := b.messages.edit input.conversationID input.messageID input.editedText
    input.editedAtUnixMs
  return { b with
    background
    messages := messages.refreshMessageSearchIndex input.conversationID input.messageID }

def commitDirectEdit (input : DirectEditCommit) (s : Store) :
    Except Error (ReceiveCommitResult × Store) := do
  failWhen (blank input.messageID ∨ input.editedAtUnixMs ≤ 0)
    "messaging direct edit requires message_id and valid timestamp"
  commitReceiveCore (input.core input.eventSequence none) .none (Body.applyDirectEdit input) s

def commitSkippedEndpointPayload (input : SkippedEndpointReceiveCommit) (s : Store) :
    Except Error (ReceiveCommitResult × Store) :=
  commitReceiveCore (input.core input.eventSequence none) .none .ok s

/-! ### Messages of the device itself and of a service -/

def Background.pendingMessageOf (commandID : CommandID) (b : Background) : Option PendingMessage :=
  (b.attempts.find commandID).bind fun a => b.pendingMessages.find (a.conversationID, a.messageID)

/-- The row of a message that the authority accepted from this device. -/
def ProjectionRow.ofAccepted (input : PublicEventReceiveCommit) (plaintext : String) :
    ProjectionRow :=
  { input with
    plaintext, deliveryState := .accepted, editedText := none, editedAtUnixMs := none
    retracted := false, hiddenForActor := false, moderated := false, moderationReasonCode := none }

def Background.commitPublicCommand (input : PublicEventReceiveCommit) (b : Background) :
    Except Error Background := do
  failWhen (b.pendingMessages.count (fun p =>
      p.conversationID = input.conversationID ∧ p.messageID = input.messageID) ≠ 1)
    "messaging public-event command transition mismatch"
  let attempts ← b.attempts.updateOne (fun r => r.commandID = input.commandID)
    (fun r => { r with state := .committed }) (fun _ => rfl)
    "messaging public-event command transition mismatch"
  let localCommands ← b.localCommands.updateOne (fun r => r.commandID = input.commandID ∧
    r.state ∈ [CommandState.prepared, .submitted, .failed, .superseded, .committed])
    (fun r => { r with state := .committed }) (fun _ => rfl)
    "messaging public-event command transition mismatch"
  let outbox ← b.outbox.updateOne (fun r => r.commandID = input.commandID ∧
    r.state ∈ [CommandState.pending, .retryWait, .submitted, .failed, .superseded, .committed])
    (fun r => { r with state := .committed, lastErrorCode := "" }) (fun _ => rfl)
    "messaging public-event command transition mismatch"
  return { b with
    attempts, localCommands, outbox
    pendingMessages := b.pendingMessages.deleteWhere fun p =>
      p.conversationID = input.conversationID ∧ p.messageID = input.messageID }

def Body.applyPublicEvent (input : PublicEventReceiveCommit) (b : Body) : Except Error Body := do
  let pending ← orFail (b.background.pendingMessageOf input.commandID) "messaging pending sender projection is unavailable"
  failWhen (pending.conversationID ≠ input.conversationID ∨ pending.messageID ≠ input.messageID ∨
    pending.senderPTID ≠ input.senderPTID ∨ pending.senderDeviceID ≠ input.senderDeviceID)
    "messaging public-event pending projection mismatch"
  let metadata := b.messages.loadAttachmentMetadata input.messageID
  let descriptors ← orFail (metadata.mapM AttachmentPlaintextMetadata.object)
    "messaging sender attachment descriptor is missing"
  failWhen (descriptors ≠ input.attachments) "messaging public-event attachment descriptor mismatch"
  let privateContent ← Content.encodeMessagePrivateContent pending.plaintext metadata
  let messages ← b.messages.persistSenderContent input.conversationID input.messageID
    pending.plaintext metadata privateContent
  let messages ← messages.insertProjection (.ofAccepted input pending.plaintext)
    "UNIQUE constraint failed: messaging_message_projections.conversation_id, messaging_message_projections.event_id"
  let background ← b.background.commitPublicCommand input
  return { b with messages, background }

def commitPublicEvent (input : PublicEventReceiveCommit) (s : Store) :
    Except Error (ReceiveCommitResult × Store) := do
  validateReceiveCore (input.core input.eventSequence none)
  failWhen (blank input.commandID ∨ blank input.messageID ∨ blank input.senderPTID ∨
    blank input.senderDeviceID ∨ input.committedAtUnixMs ≤ 0)
    "messaging public-event receive input is incomplete"
  commitReceiveCore (input.core input.eventSequence none) .none (Body.applyPublicEvent input) s

def ServicePlaintextReceiveCommit.projection (input : ServicePlaintextReceiveCommit) :
    MessageProjection :=
  { input with
    plaintext := input.fallbackText, attachments := [], replyToMessageID := none, threadRootMessageID := none }

def ServicePlaintextReceiveCommit.row (input : ServicePlaintextReceiveCommit) :
    ServiceMessage :=
  { input with
    sourceNamespace := input.serviceMessage.sourceNamespace, contentBytes := input.serviceMessage.contentBytes
    sourceContextBytes := input.serviceMessage.sourceContextBytes }

def Body.applyServiceMessage (input : ServicePlaintextReceiveCommit) (b : Body) :
    Except Error Body := do
  let serviceMessages ← b.messages.serviceMessages.insert input.row
    "UNIQUE constraint failed: messaging_service_messages.conversation_id, messaging_service_messages.event_id"
  return { b with messages := { b.messages with serviceMessages } }

def commitServicePlaintextReceive (input : ServicePlaintextReceiveCommit) (s : Store) :
    Except Error (ReceiveCommitResult × Store) := do
  validateReceiveCore (input.core input.eventSequence (some input.projection))
  failWhen (blank input.messageID ∨ blank input.senderPTID ∨ blank input.senderDeviceID ∨
    blank input.fallbackText ∨ input.committedAtUnixMs ≤ 0)
    "messaging service-plaintext receive input is incomplete"
  failWhen (blank input.serviceMessage.sourceNamespace ∨ input.serviceMessage.contentBytes = [])
    "messaging service content is incomplete"
  commitReceiveCore (input.core input.eventSequence (some input.projection)) .none (Body.applyServiceMessage input) s

end

/-! ### Delivery receipts -/

/-- The state that a receipt reports, and its rank. -/
def deliveryTarget : String → Except Error (DeliveryState × ℕ)
  | "delivered" => .ok (.delivered, 1)
  | "read" => .ok (.read, 2)
  | _ => .error "messaging delivery state is invalid"

def DeliveryState.rank : DeliveryState → ℕ
  | read => 2
  | delivered => 1
  | _ => 0

namespace DeliveryReceiptReceiveCommit

/-- The item of a receipt, which is claimed under the identifier of the message. -/
def laneItem (input : DeliveryReceiptReceiveCommit) : LaneItem := { input with eventID := input.messageID }

def Incomplete (input : DeliveryReceiptReceiveCommit) : Prop :=
  blank input.itemID ∨ blank input.messageID ∨ blank input.conversationID ∨
    blank input.consumerPTID ∨ blank input.consumerDeviceID ∨ input.laneSequence ≤ 0 ∨
    input.consumerEpoch = 0 ∨ input.payloadSHA256.length ≠ 32 ∨ input.consumedAtUnixMs ≤ 0
deriving Decidable

def device (input : DeliveryReceiptReceiveCommit) : DeliveryDevice :=
  { input with deliveredAtUnixMs := input.consumedAtUnixMs }

end DeliveryReceiptReceiveCommit

def Messages.deliver (input : DeliveryReceiptReceiveCommit) (state : DeliveryState) (rank : ℕ)
    (m : Messages) : Messages :=
  { m with
    projections := m.projections.updateWhere
      (fun r => r.conversationID = input.conversationID ∧ r.messageID = input.messageID ∧ r.deliveryState.rank < rank)
      (fun r => { r with deliveryState := state }) fun _ => rfl
    deliveryDevices := m.deliveryDevices.insertOrIgnore input.device }

def commitDeliveryReceipt (input : DeliveryReceiptReceiveCommit) (s : Store) :
    Except Error (ReceiveCommitResult × Store) := do
  let (state, rank) ← deliveryTarget input.deliveryState
  failWhen input.Incomplete "messaging delivery receipt commit is incomplete"
  if ← s.lane.fence input.laneItem then
    return (.alreadyCommitted, s)
  failWhen (s.body.messages.projectionOf input.conversationID input.messageID = none)
    "messaging delivery receipt references an unknown message"
  let lane ← s.lane.consume input.laneItem input.consumedAtUnixMs
  return (.committed,
    { s with lane, body := { s.body with messages := s.body.messages.deliver input state rank } })

/-! ### Examples -/

def emptyFiles : FileSystem where
  cleanupItem _ := .ok none
  physicalIdentity _ := .ok none
  physicalBytes := .ok 0

/-- A payload that the device does not understand. -/
def skippedPayload (event : ReceiveCommitCore) : SkippedEndpointReceiveCommit where
  toLaneItem := event.toLaneItem
  eventHash := event.eventHash
  previousEventHash := event.previousEventHash
  receiptID := event.receiptID
  receiptBytes := event.receiptBytes
  consumedAtUnixMs := event.consumedAtUnixMs
  eventSequence := event.eventSequence

def Store.claim (item : LaneItem) (s : Store) : Except Error Store := do
  let lane ← s.lane.persistClaimedItem item [0] 1
  return { s with lane }

end PeersTouch.Client
