import PeersTouch.Chat.ValueObject
import PeersTouch.Ratchet.DoubleRatchet

/-!
# The message store of a client device

The tables of `messaging-core/src/store/schema.rs` that the functions of `messaging/store.rs` modelled
here read or write. A table is a `KeyedTable` under its primary key; the second unique index that
some tables have is checked where a row is inserted.

The database is split in three parts, along what the functions of the store may write.

* `Lane` is the inbox of the device: claimed items, consumption markers, the lane cursor and the
  receipts to be sent.
* `Chain` is what the device has accepted of the authority's event chains.
* `Body` is everything an accepted event is applied to. It is split again into the content of
  messages, the state behind it (groups, sessions and local commands), and the bookkeeping of
  storage.

Numbers of type `i64` are integers and `u64` are natural numbers; a `u64` that does not fit into a
column is refused by `i64TryFrom`. Hashes and keys are byte strings whose length is checked where the
source checks it.
-/

namespace PeersTouch.Client

open Lib Chat
open Ratchet (DrSessionState DrSkippedMessageKey SkippedStore)

/-- Every function of the store returns `Result<_, String>`. -/
abbrev Error := String

/-- `value.trim().is_empty()`. -/
def blank (value : String) : Prop := trimSpace value = ""
deriving Decidable

/-- `i64::MAX`. -/
def maximumI64 : ℕ := 2 ^ 63 - 1

/-- `i64::try_from` of a `u64`. -/
def i64TryFrom (value : ℕ) (e : Error) : Except Error ℤ := if value ≤ maximumI64 then .ok value else .error e

@[simp] lemma i64TryFrom_eq_ok {value : ℕ} {e : Error} {n : ℤ} :
    i64TryFrom value e = .ok n ↔ value ≤ maximumI64 ∧ (value : ℤ) = n := by
  unfold i64TryFrom
  split <;> simp [*]

/-! ### Devices -/

structure ActorDeviceRef where
  actor : Option PTID
  deviceID : DeviceID
deriving DecidableEq

def actorDevicePTID (device : ActorDeviceRef) : Except Error PTID :=
  orFail (device.actor.filter fun ptid => ¬blank ptid) "actor device reference requires PTID"

/-! ### The lane -/

inductive InboxState where
  | claimed | consumed
deriving DecidableEq

/-- `messaging_inbox_items`. -/
structure InboxItem where
  itemID : String
  eventID : EventID
  conversationID : ConversationID
  (laneSequence consumerEpoch : ℤ)
  (payloadSHA256 payload : Bytes)
  state : InboxState
  claimedAtUnixMs : ℤ

def InboxItem.asConsumed (row : InboxItem) : InboxItem := { row with state := .consumed }

/-- `messaging_consumption_markers`. -/
structure ConsumptionMarker where
  itemID : String
  eventID : EventID
  conversationID : ConversationID
  payloadSHA256 : Bytes
  consumedAtUnixMs : ℤ

/-- `messaging_lane_cursor`, which has at most one row. -/
structure LaneCursor where
  (laneSequence consumerEpoch updatedAtUnixMs : ℤ)

inductive ReceiptState where
  | pending | submitted | rejected
deriving DecidableEq

/-- `messaging_receipt_outbox`. -/
structure Receipt where
  receiptID : String
  eventID : EventID
  receiptBytes : Bytes
  state : ReceiptState
  createdAtUnixMs : ℤ
deriving DecidableEq

structure Lane where
  inboxItems : KeyedTable InboxItem InboxItem.itemID
  markers : KeyedTable ConsumptionMarker ConsumptionMarker.itemID
  cursor : Option LaneCursor
  receipts : KeyedTable Receipt Receipt.receiptID

def Lane.empty : Lane where
  inboxItems := .empty
  markers := .empty
  cursor := none
  receipts := .empty

/-! ### The authority's chains -/

/-- `messaging_authority_heads`. -/
structure AuthorityHead where
  conversationID : ConversationID
  eventSequence : ℤ
  eventHash : Bytes
  updatedAtUnixMs : ℤ

/-- `messaging_authority_events`. -/
structure AuthorityEvent where
  conversationID : ConversationID
  eventID : EventID
  eventSequence : ℤ
  eventHash : Bytes
  committedAtUnixMs : ℤ

def AuthorityEvent.key (e : AuthorityEvent) : ConversationID × ℤ := (e.conversationID, e.eventSequence)

structure Chain where
  heads : KeyedTable AuthorityHead AuthorityHead.conversationID
  events : KeyedTable AuthorityEvent AuthorityEvent.key

def Chain.empty : Chain where
  heads := .empty
  events := .empty

/-! ### The content of messages -/

/-- `EncryptedObjectDescriptor`: the two fields that have columns of their own, and the encoding of the
whole message. -/
structure ObjectDescriptor where
  (objectID storageRef : String)
  encoded : Bytes
deriving DecidableEq

structure AttachmentPlaintextMetadata where
  (attachmentID filename mimeType : String)
  plaintextSize : ℕ
  (plaintextSHA256 objectKey baseNonce : Bytes)
  object : Option ObjectDescriptor
  contentKind : ℤ
  durationMs : ℕ
deriving DecidableEq

/-- What the store asks of the content codec and of the search tokenizer. -/
class Content where
  /-- `validate_attachment_plaintext_metadata`. -/
  validateAttachmentPlaintextMetadata : AttachmentPlaintextMetadata → Except Error Unit
  /-- `encode_message_private_content`. -/
  encodeMessagePrivateContent : String → List AttachmentPlaintextMetadata → Except Error Bytes
  /-- `decode_message_private_content`. -/
  decodeMessagePrivateContent : Bytes → Except Error (String × List AttachmentPlaintextMetadata)
  encodeAttachmentPlaintextMetadata : AttachmentPlaintextMetadata → Bytes
  /-- `AttachmentPlaintextMetadata::decode`. -/
  decodeAttachmentPlaintextMetadata : Bytes → Option AttachmentPlaintextMetadata
  /-- `search_core::build_index_text`. -/
  buildIndexText : String → String

inductive DeliveryState where
  | consumed | accepted | delivered | read | restored | failed
deriving DecidableEq

/-- `messaging_message_projections`. -/
structure ProjectionRow where
  conversationID : ConversationID
  eventID : EventID
  eventSequence : ℤ
  messageID : MessageID
  senderPTID : PTID
  senderDeviceID : DeviceID
  plaintext : String
  deliveryState : DeliveryState
  committedAtUnixMs : ℤ
  (replyToMessageID threadRootMessageID : Option MessageID)
  editedText : Option String
  editedAtUnixMs : Option ℤ
  (retracted hiddenForActor moderated : Bool)
  moderationReasonCode : Option String
deriving DecidableEq

def ProjectionRow.key (r : ProjectionRow) : ConversationID × EventID := (r.conversationID, r.eventID)

/-- The second unique index of the table. -/
def ProjectionRow.messageKey (r : ProjectionRow) : ConversationID × MessageID := (r.conversationID, r.messageID)

inductive AvailabilityState where
  | remote | here

/-- `messaging_attachment_projections`. -/
structure AttachmentRow where
  messageID : MessageID
  metadata : AttachmentPlaintextMetadata
  availabilityState : AvailabilityState
  localCachePath : Option String

def AttachmentRow.key (r : AttachmentRow) : MessageID × String := (r.messageID, r.metadata.attachmentID)

/-- `messaging_message_search_fts`, a table without a key. -/
structure SearchRow where
  conversationID : ConversationID
  messageID : MessageID
  (plaintext attachmentFilenames : String)

/-- `message_reactions`. -/
structure Reaction where
  messageID : MessageID
  actorPTID : PTID
  reaction : String
  createdAtUnixMs : ℤ

def Reaction.key (r : Reaction) : MessageID × PTID × String := (r.messageID, r.actorPTID, r.reaction)

/-- `message_pins`. -/
structure Pin where
  conversationID : ConversationID
  messageID : MessageID
  actorPTID : PTID
  pinnedAtUnixMs : ℤ

def Pin.key (p : Pin) : ConversationID × MessageID := (p.conversationID, p.messageID)

inductive MessageRedactionKind where
  | hiddenForActor | retracted
deriving DecidableEq

/-- `message_redaction_tombstones`. -/
structure RedactionTombstone where
  conversationID : ConversationID
  messageID : MessageID
  kind : MessageRedactionKind
  authoritySequence : ℤ
  authorityEventHash : Bytes
  appliedAtUnixMs : ℤ

def RedactionTombstone.key (t : RedactionTombstone) :
    ConversationID × MessageID × MessageRedactionKind :=
  (t.conversationID, t.messageID, t.kind)

/-- `messaging_service_messages`. -/
structure ServiceMessage where
  conversationID : ConversationID
  eventID : EventID
  eventSequence : ℤ
  messageID : MessageID
  senderPTID : PTID
  senderDeviceID : DeviceID
  (fallbackText sourceNamespace : String)
  (contentBytes sourceContextBytes : Bytes)
  committedAtUnixMs : ℤ

def ServiceMessage.key (m : ServiceMessage) : ConversationID × EventID := (m.conversationID, m.eventID)

/-- `messaging_message_delivery_devices`. -/
structure DeliveryDevice where
  conversationID : ConversationID
  messageID : MessageID
  consumerPTID : PTID
  consumerDeviceID : DeviceID
  deliveredAtUnixMs : ℤ

def DeliveryDevice.key (d : DeliveryDevice) : ConversationID × MessageID × PTID × DeviceID :=
  (d.conversationID, d.messageID, d.consumerPTID, d.consumerDeviceID)

/-- `read_cursors`. -/
structure ReadCursor where
  conversationID : ConversationID
  actorPTID : PTID
  (lastReadSequence updatedAtUnixMs : ℤ)

def ReadCursor.key (c : ReadCursor) : ConversationID × PTID := (c.conversationID, c.actorPTID)

inductive AttachmentTransferState where
  | queued | transferring | verifying | complete | retryWait | cancelled | terminal
deriving DecidableEq

/-- The states after which a transfer needs its local files no longer. -/
def AttachmentTransferState.Finished (s : AttachmentTransferState) : Prop := s = complete ∨ s = cancelled ∨ s = terminal
deriving Decidable

/-- `messaging_attachment_transfers`, the columns that say which message and files it is about. -/
structure AttachmentTransfer where
  attachmentID : String
  conversationID : ConversationID
  messageID : MessageID
  state : AttachmentTransferState
  (sourceLocalRef partialLocalRef : String)

/-- `messaging_attachment_drafts`, the columns that say which message it is about. -/
structure AttachmentDraft where
  attachmentID : String
  conversationID : ConversationID
  messageID : MessageID

structure Messages where
  projections : KeyedTable ProjectionRow ProjectionRow.key
  attachments : KeyedTable AttachmentRow AttachmentRow.key
  search : List SearchRow
  reactions : KeyedTable Reaction Reaction.key
  pins : KeyedTable Pin Pin.key
  tombstones : KeyedTable RedactionTombstone RedactionTombstone.key
  serviceMessages : KeyedTable ServiceMessage ServiceMessage.key
  deliveryDevices : KeyedTable DeliveryDevice DeliveryDevice.key
  readCursors : KeyedTable ReadCursor ReadCursor.key
  transfers : KeyedTable AttachmentTransfer AttachmentTransfer.attachmentID
  drafts : KeyedTable AttachmentDraft AttachmentDraft.attachmentID

def Messages.empty : Messages where
  projections := .empty
  attachments := .empty
  search := []
  reactions := .empty
  pins := .empty
  tombstones := .empty
  serviceMessages := .empty
  deliveryDevices := .empty
  readCursors := .empty
  transfers := .empty
  drafts := .empty

/-- The message `messageID` of a conversation, under the second unique index of its table. -/
def Messages.projectionOf (m : Messages) (conversationID : ConversationID) (messageID : MessageID) :
    Option ProjectionRow :=
  m.projections.rows.find? fun r => r.conversationID = conversationID ∧ r.messageID = messageID

/-! ### Groups, sessions and local commands -/

/-- `messaging_conversations`. -/
structure ConversationRow where
  conversationID : ConversationID
  authorityStationID : StationID
  federationID : String
  kind : ℤ
  (name description avatarObjectID : String)
  ownerPTID : PTID
  (membershipEpoch mlsEpoch : ℤ)
  active : Bool
  updatedAtUnixMs : ℤ
  recoveryReady : Bool

/-- `messaging_conversation_members`, the columns a recovery archive carries. -/
structure MemberRow where
  conversationID : ConversationID
  ptid : PTID
  role : ℤ
  active : Bool

def MemberRow.key (m : MemberRow) : ConversationID × PTID := (m.conversationID, m.ptid)

/-- `messaging_mls_groups`. -/
structure MlsGroup where
  conversationID : ConversationID
  sessionState : Bytes
  (membershipEpoch mlsEpoch updatedAtUnixMs : ℤ)

/-- `messaging_mls_retired_checkpoints`. -/
structure RetiredCheckpoint where
  conversationID : ConversationID
  transitionID : TransitionID
  eventID : EventID
  retirementSequence : ℤ
  retirementHash : Bytes
  endpointPTID : PTID
  endpointDeviceID : DeviceID
  (membershipEpoch mlsEpoch retiredAtUnixMs : ℤ)

/-- `messaging_mls_actor_identity`, which has at most one row. -/
structure MlsActorIdentity where
  ptid : PTID
  deviceID : DeviceID
  identityState : Bytes

/-- `messaging_mls_join_provider_pool`, which has at most one row. -/
structure MlsJoinProviderPool where
  providerPoolState : Bytes
  updatedAtUnixMs : ℤ

inductive KeyPackageState where
  | awaitingPublication | published

/-- `messaging_mls_key_packages`. -/
structure MlsKeyPackage where
  packageID : String
  data : Bytes
  state : KeyPackageState
  createdAtUnixMs : ℤ

/-- `messaging_prekey_bundle`, which has at most one row. -/
structure PrekeyBundle where
  signedPrekeyID : ℤ
  signedPrekeyPrivate : Bytes
  state : KeyPackageState
  (createdAtUnixMs oneTimePrekeyHighWatermark : ℤ)

inductive PrekeyState where
  | awaitingPublication | available | awaitingReplenishment | consumed
deriving DecidableEq

/-- `messaging_one_time_prekeys`. -/
structure OneTimePrekey where
  prekeyID : ℤ
  privateKey : Bytes
  state : PrekeyState

structure DirectSessionKey where
  conversationID : ConversationID
  (self peer : Endpoint)
  generation : ℕ
deriving DecidableEq

/-- `DirectSession`, which is also the row of `direct_sessions`. -/
structure DirectSession where
  sessionID : String
  key : DirectSessionKey
  protocolVersion : ℕ
  established : Bool
  peerIdentityKey : Bytes
  ratchet : DrSessionState Bytes
  updatedAtUnixMs : ℤ

/-- `messaging_trust`. -/
structure TrustRecord where
  peerPTID : PTID
  fingerprint : String
  verifiedAtUnixMs : ℤ

/-- The states of the tables that follow a local command. -/
inductive CommandState where
  | pending | prepared | retryWait | submitted | draft | accepted | failed | superseded | committed
deriving DecidableEq

/-- `messaging_local_commands`. -/
structure LocalCommand where
  commandID : CommandID
  conversationID : ConversationID
  state : CommandState

/-- `messaging_command_attempts`. -/
structure CommandAttempt where
  commandID : CommandID
  conversationID : ConversationID
  messageID : MessageID
  state : CommandState

/-- `messaging_command_outbox`. -/
structure OutboxCommand where
  commandID : CommandID
  state : CommandState
  lastErrorCode : String

/-- `messaging_pending_messages`. -/
structure PendingMessage where
  conversationID : ConversationID
  messageID : MessageID
  senderPTID : PTID
  senderDeviceID : DeviceID
  plaintext : String
  state : CommandState
  lastErrorCode : String

def PendingMessage.key (m : PendingMessage) : ConversationID × MessageID := (m.conversationID, m.messageID)

inductive InteractionKind where
  | edit
  | other (text : String)
deriving DecidableEq

/-- `messaging_interaction_intents`. -/
structure InteractionIntent where
  commandID : CommandID
  interactionKind : InteractionKind
  editedText : Option String
  state : CommandState

structure Background where
  conversations : KeyedTable ConversationRow ConversationRow.conversationID
  members : KeyedTable MemberRow MemberRow.key
  mlsGroups : KeyedTable MlsGroup MlsGroup.conversationID
  retiredCheckpoints : KeyedTable RetiredCheckpoint RetiredCheckpoint.conversationID
  mlsActorIdentity : Option MlsActorIdentity
  mlsJoinProviderPool : Option MlsJoinProviderPool
  mlsKeyPackages : KeyedTable MlsKeyPackage MlsKeyPackage.packageID
  prekeyBundle : Option PrekeyBundle
  oneTimePrekeys : KeyedTable OneTimePrekey OneTimePrekey.prekeyID
  sessions : KeyedTable DirectSession DirectSession.sessionID
  skippedKeys : SkippedStore Bytes
  trust : KeyedTable TrustRecord TrustRecord.peerPTID
  localCommands : KeyedTable LocalCommand LocalCommand.commandID
  attempts : KeyedTable CommandAttempt CommandAttempt.commandID
  outbox : KeyedTable OutboxCommand OutboxCommand.commandID
  pendingMessages : KeyedTable PendingMessage PendingMessage.key
  interactionIntents : KeyedTable InteractionIntent InteractionIntent.commandID

def Background.empty : Background where
  conversations := .empty
  members := .empty
  mlsGroups := .empty
  retiredCheckpoints := .empty
  mlsActorIdentity := none
  mlsJoinProviderPool := none
  mlsKeyPackages := .empty
  prekeyBundle := none
  oneTimePrekeys := .empty
  sessions := .empty
  skippedKeys := .empty
  trust := .empty
  localCommands := .empty
  attempts := .empty
  outbox := .empty
  pendingMessages := .empty
  interactionIntents := .empty

/-! ### The bookkeeping of storage -/

inductive FloorReason where
  | policy | manualClear

/-- `chat_retention_floor`. -/
structure RetentionFloorRow where
  stationPeerID : StationID
  actorPTID : PTID
  deviceID : DeviceID
  conversationID : ConversationID
  prunedThroughSequence : ℤ
  authorityEventHash : Bytes
  policyCutoffUnixMs : Option ℤ
  reason : FloorReason
  updatedAtUnixMs : ℤ

def RetentionFloorRow.key (f : RetentionFloorRow) : StationID × PTID × DeviceID × ConversationID :=
  (f.stationPeerID, f.actorPTID, f.deviceID, f.conversationID)

inductive CleanupScope where
  | cache | conversation | retention | actorHide | retract
deriving DecidableEq

inductive CleanupState where
  | planned | deletingRows | deletingFiles | compacting | compactionPending | pausedScopeInactive
  | succeeded | failedRetryable | failedTerminal | cancelled
deriving DecidableEq

/-- `chat_cleanup_journal`. -/
structure CleanupOperation where
  operationID : String
  scopeKind : CleanupScope
  conversationID : ConversationID
  scopeRevision : String
  state : CleanupState
  (estimatedReclaimableBytes physicalBytesBefore : ℕ)
  physicalBytesAfter : Option ℕ
  lastErrorCode : Option String
  (createdAtUnixMs updatedAtUnixMs : ℤ)

inductive CleanupItemState where
  | pending | deleted | skippedProtected | failedRetryable | failedTerminal
deriving DecidableEq

/-- `chat_cleanup_items`. -/
structure CleanupItem where
  (operationID itemID targetRef : String)
  expectedSizeBytes : ℕ
  state : CleanupItemState
  lastErrorCode : Option String

def CleanupItem.key (i : CleanupItem) : String × String := (i.operationID, i.itemID)

/-- `messaging_device_identity`, which has at most one row. -/
structure DeviceIdentity where
  ptid : PTID
  deviceID : DeviceID
  (deviceSigningSeed actorIdentityPublicKey actorIdentityKeyFingerprint : Bytes)
  (deviceSigningPublicKey actorCrossSignature : Bytes)
  signingKeyID : String
  profileVersion : ℤ

inductive EnrollmentStatus where
  | awaitingDeviceEnrollment | active
  | other (text : String)
deriving DecidableEq

structure Storage where
  identity : Option DeviceIdentity
  recoveryStatus : Option EnrollmentStatus
  floors : KeyedTable RetentionFloorRow RetentionFloorRow.key
  journal : KeyedTable CleanupOperation CleanupOperation.operationID
  cleanupItems : KeyedTable CleanupItem CleanupItem.key

def Storage.empty : Storage where
  identity := none
  recoveryStatus := none
  floors := .empty
  journal := .empty
  cleanupItems := .empty

/-! ### The database -/

structure Body where
  messages : Messages
  background : Background
  storage : Storage

def Body.empty : Body where
  messages := .empty
  background := .empty
  storage := .empty

structure Store where
  lane : Lane
  chain : Chain
  body : Body

def Store.empty : Store where
  lane := .empty
  chain := .empty
  body := .empty

end PeersTouch.Client
