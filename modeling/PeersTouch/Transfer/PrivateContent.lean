import PeersTouch.Transfer.Object

/-!
# Private content

The private body of a message (`codec/private_content.rs`), its text and its attachments, which is checked
before it is encoded and after it is decoded. The generated protocol buffer code is the parameter
`ContentFormat`. The decoder takes only what the encoder writes, so the contents that pass the check
and the bytes that decode correspond one to one.
-/

namespace PeersTouch.Transfer

open Lib Chat

/-! ### The messages -/

structure EncryptedObjectDescriptor where
  (objectID storageRef : String)
  ciphertextSize : ℕ
  ciphertextSHA256 : Bytes
  mediaType : String
  (chunkSize chunkCount : ℕ)
  encryptionSuite : ℤ
  tagSize : ℕ
  nonceStrategy : ℤ
  chunkCiphertextSHA256 : List Bytes

structure VoiceNoteMetadata where
  durationMs : ℕ
  codec : String
  waveform : List ℕ

structure AttachmentPlaintextMetadata where
  (attachmentID filename mimeType : String)
  plaintextSize : ℕ
  (plaintextSHA256 objectKey baseNonce : Bytes)
  object : Option EncryptedObjectDescriptor
  contentKind : ℤ
  durationMs : ℕ
  voiceNote : Option VoiceNoteMetadata

structure MessagePrivateContent where
  formatVersion : ℕ
  text : String
  attachments : List AttachmentPlaintextMetadata

/-- `Message::encode_to_vec` and `Message::decode`. -/
class ContentFormat where
  encodeToVec : MessagePrivateContent → Bytes
  decode : Bytes → Option MessagePrivateContent

/-! ### The checks -/

/-- With `chat_upload_spec_to_core`. Suite 1 is AES-256-GCM in chunks, strategy 1 the counter. -/
def chatDescriptorToCore (d : EncryptedObjectDescriptor) : Except String ObjectDescriptor := do
  failWhen (d.mediaType ≠ "application/octet-stream" ∨ d.encryptionSuite ≠ 1 ∨ d.nonceStrategy ≠ 1)
    "messaging attachment descriptor is invalid"
  return { d with commitment := { d with mediaType := some d.mediaType } }

def chatValidationError (error : String) : String :=
  if error = "secure content object exceeds policy" then "messaging attachment exceeds policy"
  else (error.replace "secure content object" "messaging attachment").replace "secure content" "messaging attachment"

def validateChatEncryptedObjectDescriptor (d : EncryptedObjectDescriptor) : Except String Unit := do
  let core ← chatDescriptorToCore d
  (validateObjectDescriptor core).mapError chatValidationError

def isAudio (mimeType : String) : Bool := mimeType.toLower.startsWith "audio/"

/-- `char::is_control`. -/
def isControl (c : Char) : Bool := c.toNat < 32 || (127 ≤ c.toNat && c.toNat < 160)

def validateVoiceNoteMetadata (mimeType : String) : Option VoiceNoteMetadata → Except String Unit
  | none => return ()
  | some note =>
    failWhen (isAudio mimeType = false ∨ note.durationMs = 0 ∨ 60 * 60 * 1000 < note.durationMs ∨
      trimSpace note.codec = "" ∨ 127 < note.codec.utf8ByteSize ∨ note.codec.toList.any isControl ∨
      256 < note.waveform.length ∨ ∃ sample ∈ note.waveform, 255 < sample)
      "messaging voice note metadata is invalid"

def validateAttachmentPlaintextMetadata (a : AttachmentPlaintextMetadata) : Except String Unit := do
  let object ← orFail a.object "messaging attachment object descriptor is missing"
  failWhen (trimSpace a.attachmentID = "" ∨ trimSpace a.filename = "" ∨
    1024 < a.filename.utf8ByteSize ∨ trimSpace a.mimeType = "" ∨ 255 < a.mimeType.utf8ByteSize ∨
    a.plaintextSize = 0 ∨ objectMaxPlaintextSize < a.plaintextSize ∨
    a.plaintextSHA256.length ≠ 32 ∨ a.objectKey.length ≠ 32 ∨ a.baseNonce.length ≠ 12 ∨ a.baseNonce.drop 8 ≠ [0, 0, 0, 0])
    "messaging attachment private metadata is invalid"
  -- The kinds are 0 for unspecified, 1 for a file and 2 for a voice note.
  failWhen (¬((a.contentKind = 0 ∨ a.contentKind = 1) ∧ a.durationMs = 0 ∨
    a.contentKind = 2 ∧ 0 < a.durationMs ∧ isAudio a.mimeType))
    "messaging attachment private media metadata is invalid"
  validateVoiceNoteMetadata a.mimeType a.voiceNote
  validateChatEncryptedObjectDescriptor object
  failWhen (a.plaintextSize ⌈/⌉ object.chunkSize ≠ object.chunkCount ∨ object.ciphertextSize ≠
    min (2 ^ 64 - 1) (a.plaintextSize + object.tagSize * object.chunkCount))
    "messaging attachment private metadata does not match descriptor"

/-- The loop over the attachments, with the IDs so far, the last of them and the total size. -/
def validateAttachments : List AttachmentPlaintextMetadata → List String → Option String → ℕ → Except String ℕ
  | [], _, _, total => return total
  | a :: rest, attachmentIDs, previous, total => do
    validateAttachmentPlaintextMetadata a
    failWhen (previous.any (a.attachmentID ≤ ·)) "messaging private content attachments are not strictly sorted"
    failWhen (a.attachmentID ∈ attachmentIDs) "messaging private content has duplicate attachment ID"
    failWhen (2 ^ 64 ≤ total + a.plaintextSize) "messaging attachment aggregate size exceeds policy"
    validateAttachments rest (a.attachmentID :: attachmentIDs) (some a.attachmentID) (total + a.plaintextSize)

def validateMessagePrivateContent (content : MessagePrivateContent) : Except String Unit := do
  failWhen (content.formatVersion ≠ 1) "messaging private content format version is unsupported"
  failWhen (content.text = "" ∧ content.attachments = []) "messaging private content is empty"
  failWhen (10 < content.attachments.length) "messaging private content attachment count exceeds policy"
  let totalPlaintextSize ← validateAttachments content.attachments [] none 0
  failWhen (objectMaxPlaintextSize < totalPlaintextSize) "messaging attachment aggregate size exceeds policy"

/-! ### The codec -/

section

variable [ContentFormat]

def encodeMessagePrivateContent (text : String) (attachments : List AttachmentPlaintextMetadata) :
    Except String Bytes := do
  let content := { formatVersion := 1, text, attachments }
  validateMessagePrivateContent content
  return ContentFormat.encodeToVec content

def decodeMessagePrivateContent (bytes : Bytes) : Except String MessagePrivateContent := do
  let content ← orFail (ContentFormat.decode bytes) "messaging private content protobuf is invalid"
  validateMessagePrivateContent content
  failWhen (ContentFormat.encodeToVec content ≠ bytes) "messaging private content protobuf is not canonical"
  return content

variable {content : MessagePrivateContent} {text : String}
  {attachments : List AttachmentPlaintextMetadata} {bytes : Bytes}

end

def greeting : MessagePrivateContent := ⟨1, "hi", []⟩

/-- A format for this content. -/
local instance greetingFormat : ContentFormat where
  encodeToVec content := bytesOf content.text
  decode bytes := if bytes = bytesOf "hi" then some greeting else none

end PeersTouch.Transfer
