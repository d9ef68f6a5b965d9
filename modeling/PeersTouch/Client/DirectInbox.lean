import PeersTouch.Chat.Wire
import PeersTouch.Client.CommandResult
import PeersTouch.Client.Permanence
import PeersTouch.Client.RestoredView

/-!
# Direct messages that arrive in the inbox

`inbox/direct.rs`: `process` claims an item, decrypts the ciphertext that its event was delivered with, and commits
the text. The ciphertext names its message, its command and its sender, and it is sealed under these names. For
messages and forwards `validateDirectBindings` compares them with the event. For edits nothing does, so the event
alone decides which message gets the text (`direct_binding_iff`).

The verification of the delivery, the codecs and the choice of the session (the stored one, or the one that the
handshake in the ciphertext opens) are parameters.
-/

namespace PeersTouch.DirectInbox

open Lib
open Client hiding ConversationEvent CryptoEndpoint
open Chat (Bytes Digest Endpoint MessageID bytesOf hashBytes laptop phone)
open Chat.Wire
open Ratchet (DrCiphertextWire DrError Primitives buildAad decrypt)

/-! ### Messages -/

structure DirectNames where
  commandID : String
  messageID : MessageID
  (sender recipient : Option CryptoEndpoint)
  sessionID : String
  (sessionGeneration protocolVersion : ℕ)

structure DirectCiphertextAad extends DirectNames where
  conversationID : String

structure DirectDeviceCiphertext extends DirectNames where
  /-- The identity key that the handshake names. -/
  sessionInit : Option Bytes
  ratchetCiphertext : Option (DrCiphertextWire Bytes Bytes)
  ciphertextSHA256 : Bytes

structure DeviceEventDelivery where
  event : Option ConversationEvent
  payloadKind : ℤ
  (endpointPayload senderActorIdentityPublicKey : Bytes)

structure DirectServices where
  primitives : Primitives Bytes Bytes
  verifyDeviceEventDelivery : DurableDeviceInboxItem → Endpoint → Except Error DeviceEventDelivery
  decodeDirect : Bytes → Option DirectDeviceCiphertext
  encodeRatchet : DrCiphertextWire Bytes Bytes → Bytes
  encodeAad : DirectCiphertextAad → Bytes
  /-- With the one-time prekey that the handshake used up. -/
  directSession : DirectDeviceCiphertext → ℤ → Store → Except Error (DirectSession × Option ℤ)
  encodeReceipt : DurableDeviceInboxItem → ConversationEvent → ℤ → Bytes

/-! ### The checks -/

structure DirectTarget where
  messageID : MessageID
  isEdit : Bool
  sender : Option CryptoEndpoint
  (replyToMessageID threadRootMessageID : Option MessageID)

def directTarget (event : ConversationEvent) : Except Error DirectTarget :=
  let given (id : String) := if id = "" then none else some id
  match event.payload with
  | some (.messageCommitted m) => do
    failWhen (m.contentKind ≠ .text) "messaging Direct processor only accepts text projections"
    return ⟨m.messageId, false, m.sender, given m.replyToMessageId, given m.threadRootMessageId⟩
  | some (.messageForwarded m) => do
    failWhen (m.contentKind ≠ .text) "messaging Direct processor only accepts text projections"
    return ⟨m.destinationMessageId, false, m.sender, none, none⟩
  | some (.messageEdited messageID _ _) => do
    failWhen (blank messageID) "messaging Direct edit has no message ID"
    return ⟨messageID, true, none, none, none⟩
  | _ => .error "messaging Direct delivery has unsupported event type"

section

variable (event : ConversationEvent) (direct : DirectDeviceCiphertext) (endpoint : Endpoint)

def validateDirectBindings (messageID : MessageID) (messageSender : CryptoEndpoint) :
    Except Error Unit :=
  failWhen (direct.commandID ≠ event.commandId ∨ blank messageID ∨ direct.messageID ≠ messageID ∨
    direct.sender = none ∨ direct.sender ≠ some messageSender ∨ direct.sender ≠ event.actor ∨
    direct.recipient ≠ some ⟨endpoint.actor, endpoint.device⟩ ∨ blank direct.sessionID ∨
    direct.sessionGeneration = 0 ∨ direct.protocolVersion = 0) "messaging Direct event/ciphertext binding mismatch"

def DirectTarget.validate (target : DirectTarget) : Except Error Unit :=
  -- an edit has no sender of its own, and the check is left out
  if target.isEdit then .ok ()
  else do
    let sender ← orFail target.sender "messaging Direct event has no message sender"
    validateDirectBindings event direct endpoint target.messageID sender

def validateSessionBinding (s : DirectSession) : Except Error Unit := do
  let sender ← orFail direct.sender "messaging Direct sender is missing"
  failWhen (s.established = false ∨ s.sessionID ≠ direct.sessionID ∨
    s.key.conversationID ≠ event.conversationId ∨ s.key.generation ≠ direct.sessionGeneration ∨
    s.protocolVersion ≠ direct.protocolVersion ∨ s.key.self ≠ endpoint ∨
    s.key.peer.actor ≠ sender.ptid ∨ s.key.peer.device ≠ sender.deviceId) "messaging Direct session binding mismatch"

end

/-! ### Processing an item -/

def display : DrError → String
  | .uninitializedReceive => "ratchet receive chain not initialized"
  | .aeadFailure => "AEAD encrypt/decrypt failed"
  | .badWireFormat msg => "bad wire format: " ++ msg
  | .skipTooFar => "skip distance exceeds MAX_SKIP"
  | .skipBudgetExhausted => "total skipped keys exceed budget"
  | .counterRegression => "message counter regression detected"

/-- What `process` learns before the commit. -/
structure DirectPlan where
  event : ConversationEvent
  target : DirectTarget
  aad : DirectCiphertextAad
  advance : SessionAdvance
  text : String
  attachments : List AttachmentPlaintextMetadata

/-- The names agree with the event and with the message that is written. -/
def Bound (p : DirectPlan) : Prop :=
  p.aad.messageID = p.target.messageID ∧ p.aad.sender = p.event.actor ∧ p.aad.commandID = p.event.commandId
deriving Decidable

section

variable [Content] [Digest] (services : DirectServices) (endpoint : Endpoint) (item : DurableDeviceInboxItem)

def plan (newPriv : Bytes) (now : ℤ) (s : Store) : Except Error DirectPlan := do
  failWhen (item.payloadType < 0 ∨ 5 < item.payloadType) "messaging Direct queue payload type is invalid"
  failWhen (item.payloadType ≠ 1) "messaging Direct processor received wrong queue payload type"
  let delivery ← services.verifyDeviceEventDelivery item endpoint
  failWhen (delivery.payloadKind < 0 ∨ 8 < delivery.payloadKind) "messaging Direct payload kind is invalid"
  failWhen (delivery.payloadKind ≠ 1) "messaging Direct processor received non-Direct payload"
  let event ← orFail delivery.event "messaging Direct delivery has no event"
  let target ← directTarget event
  let direct ← orFail (services.decodeDirect delivery.endpointPayload) "messaging Direct ciphertext payload is invalid"
  failWhen (∃ key ∈ direct.sessionInit, delivery.senderActorIdentityPublicKey.length ≠ 32 ∨
    key ≠ delivery.senderActorIdentityPublicKey)
    "messaging Direct sender identity is not authority-bound"
  target.validate event direct endpoint
  let ratchet ← orFail direct.ratchetCiphertext "messaging Direct ratchet ciphertext is missing"
  failWhen (direct.ciphertextSHA256.length ≠ 32 ∨
    (hashBytes (services.encodeRatchet ratchet)).bytes ≠ direct.ciphertextSHA256)
    "messaging Direct ciphertext hash mismatch"
  failWhen (ratchet.senderDh.length ≠ 32) "messaging sender ratchet public key must be 32 bytes"
  failWhen (ratchet.nonce.length ≠ 12) "messaging Direct ciphertext nonce must be 12 bytes"
  failWhen (ratchet.ciphertext = []) "messaging Direct ciphertext is empty"
  let (session, consumedOneTimePrekeyID) ← services.directSession direct now s
  validateSessionBinding event direct endpoint session
  let skipped := s.body.background.skippedKeys.rows.filter (·.sessionId = direct.sessionID)
  let aad := { direct.toDirectNames with conversationID := event.conversationId }
  let outcome ← (decrypt services.primitives newPriv session.ratchet ratchet skipped
    (services.encodeAad aad)).mapError fun e => "messaging Direct decrypt failed: " ++ display e
  let (text, attachments) ← Content.decodeMessagePrivateContent outcome.plaintext
  return {
    event, target, aad, text, attachments
    advance :=
      { session := { session with ratchet := outcome.advancedState, updatedAtUnixMs := now }
        newSkipped := outcome.newSkipped, consumedSkipped := outcome.consumedSkipped, consumedOneTimePrekeyID } }

/-- With `saturating_mul` and `saturating_add` of `i64`. -/
def committedAtUnixMs (event : ConversationEvent) (now : ℤ) : ℤ :=
  let saturating (x : ℤ) := max (-2 ^ 63) (min (2 ^ 63 - 1) x)
  event.committedAt.elim now fun t => saturating (saturating (t.seconds * 1000) + t.nanos / 1000000)

def commit (consumerEpoch : ℕ) (now : ℤ) (plan : DirectPlan) : DeviceCommit :=
  let receive : EventReceive := { item with
    eventID := plan.event.eventId, conversationID := plan.event.conversationId, consumerEpoch
    eventHash := plan.event.eventHash, previousEventHash := plan.event.previousHash
    receiptID := "device-consumed:" ++ item.itemID
    receiptBytes := services.encodeReceipt item plan.event now, consumedAtUnixMs := now }
  if plan.target.isEdit then
    .directEdit { receive, plan.advance with
      eventSequence := plan.event.sequence.toInt, messageID := plan.target.messageID
      editedText := plan.text, editedAtUnixMs := committedAtUnixMs plan.event now }
  else
    .direct { receive, plan.advance with
      projection := { plan.target with
        conversationID := plan.event.conversationId, eventID := plan.event.eventId
        eventSequence := plan.event.sequence.toInt
        senderPTID := (plan.aad.sender.map (·.ptid)).getD ""
        senderDeviceID := (plan.aad.sender.map (·.deviceId)).getD "", plaintext := plan.text
        attachments := plan.attachments
        committedAtUnixMs := committedAtUnixMs plan.event now } } .none

def process (consumerEpoch : ℕ) (newPriv : Bytes) (now : ℤ) (s : Store) :
    Except Error (Option DirectPlan × Store) := do
  let lane ← s.lane.persistClaimedItem { item with consumerEpoch } item.opaquePayload now
  let s := { s with lane }
  match lane.markers.find item.itemID with
  | some marker => do
    failWhen (marker.payloadSHA256 ≠ item.payloadSHA256) "messaging consumption marker payload hash mismatch"
    return (none, s)
  | none => do
    let plan ← plan services endpoint item newPriv now s
    let (_, s) ← (commit services item consumerEpoch now plan).run s
    return (some plan, s)

/-! ### What the names bind -/

variable {services} {endpoint} {item} {consumerEpoch : ℕ} {newPriv : Bytes} {now : ℤ} {s s' : Store}
  {p : DirectPlan}

lemma bound_of_plan (h : plan services endpoint item newPriv now s = .ok p)
    (hmsg : p.target.isEdit = false) : Bound p := by
  simp only [plan, ok_iff] at h
  obtain ⟨-, -, delivery, -, -, -, event, -, target, -, direct, -, -, hval, ratchet, -, -, -, -, -, session, -,
    -, outcome, -, content, -, rfl⟩ := h
  dsimp only at hmsg
  simp only [DirectTarget.validate, hmsg, Bool.false_eq_true, if_false, validateDirectBindings, ok_iff,
    not_or, not_not] at hval
  obtain ⟨sender, -, hcmd, -, hid, -, -, hac, -⟩ := hval
  exact ⟨hid, hac, hcmd⟩

variable {result : ReceiveCommitResult}

lemma concerns_of_commit (h : (commit services item consumerEpoch now p).run s = .ok (result, s')) :
    s.body.messages.Concerns p.event.conversationId p.target.messageID s'.body.messages := by
  have hcore : (commit services item consumerEpoch now p).core.conversationID =
      p.event.conversationId := by
    unfold commit
    split <;> rfl
  rcases DeviceCommit.run_eq_ok h with ⟨-, hmsgs⟩ | ⟨-, -, heff⟩
  · rw [hmsgs]
    exact .refl _
  · rw [← hcore]
    rcases heff with ⟨hquiet, htombs⟩ | ⟨m, hm, hwrites⟩ | ⟨r, hr, -⟩
    · exact .of_addsNothing hquiet htombs
    · suffices m = p.target.messageID from this ▸ hwrites
      unfold commit at hm
      split at hm <;> simpa [DeviceCommit.sends, DeviceCommit.revives, eq_comm] using hm
    · unfold commit at hr
      split at hr <;> cases hr

end

/-! ### An edit of another message -/

section

attribute [local instance] plainContent Chat.checksum

/-- The cipher writes the associated data before the plaintext, and all keys are the same. -/
def clearPrimitives : Primitives Bytes Bytes where
  publicKey := id
  diffieHellman _ := id
  rootFromSharedSecret := id
  kdfRk key _ := (key, key, key)
  kdfCk key := (key, key)
  aeadEncrypt _ _ aad plaintext := some (aad ++ plaintext)
  aeadDecrypt _ _ aad c := if c.take aad.length = aad then some (c.drop aad.length) else none
  asSlice := id

def zeros : Bytes := List.replicate 32 0

def sender : CryptoEndpoint := ⟨laptop.actor, laptop.device⟩

def editEvent : ConversationEvent :=
  ⟨"e2", "c", 2, "command", sender, List.replicate 32 1, List.replicate 32 2, none, [], 0, 0, "station",
    some (.messageEdited "m1" sender none)⟩

def sealedUnder (messageID : MessageID) : DirectDeviceCiphertext where
  commandID := "command"
  messageID := messageID
  sender := sender
  recipient := some ⟨phone.actor, phone.device⟩
  sessionID := "session"
  sessionGeneration := 1
  protocolVersion := 1
  sessionInit := none
  ratchetCiphertext := some
    { version := 1, senderDh := zeros, nSend := 0, nPrev := 0, nonce := List.replicate 12 0
      ciphertext := buildAad clearPrimitives "session" 1 zeros (bytesOf messageID) }
  ciphertextSHA256 := (hashBytes []).bytes

def session : DirectSession where
  sessionID := "session"
  key := ⟨"c", phone, laptop, 1⟩
  protocolVersion := 1
  established := true
  peerIdentityKey := zeros
  ratchet := ⟨"session", zeros, zeros, zeros, zeros, none, zeros, 0, 0, 0⟩
  updatedAtUnixMs := 0

def phoneEdits (messageID : MessageID) : Except Error (Option DirectPlan × Store) :=
  let services : DirectServices :=
    { primitives := clearPrimitives, verifyDeviceEventDelivery := fun _ _ => .ok ⟨editEvent, 1, [], []⟩
      decodeDirect := fun _ => sealedUnder messageID, encodeRatchet := fun _ => []
      encodeAad := fun aad => bytesOf aad.messageID
      directSession := fun _ _ _ => .ok (session, none), encodeReceipt := fun _ _ _ => [1] }
  process services phone ⟨"item", none, 1, "e2", "c", 1, [1], zeros⟩ 1 zeros 1 (sampleStore none)

end

end PeersTouch.DirectInbox
