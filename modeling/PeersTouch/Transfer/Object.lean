import PeersTouch.Chat.ValueObject

/-!
# Encrypted objects

The descriptor of an encrypted object and its chunks (`object/validation.rs`, `object/crypto.rs`, `aad.rs`)
and the bitmap of the chunks that a transfer has (`object/transfer.rs`). An object is cut into chunks
of equal size up to the last one, each of which is encrypted on its own. The cipher is the parameter
`ObjectCipher`.
-/

namespace PeersTouch.Transfer

open Lib Chat

/-! ### Descriptors -/

def objectChunkSize : ℕ := 1024 * 1024

def objectTagSize : ℕ := 16

def objectMaxChunkCount : ℕ := 2048

def objectMaxPlaintextSize : ℕ := 2 * 1024 * 1024 * 1024

structure ObjectUploadSpec where
  ciphertextSize : ℕ
  ciphertextSHA256 : Bytes
  mediaType : Option String
  (chunkSize chunkCount tagSize : ℕ)
  chunkCiphertextSHA256 : List Bytes

structure ObjectDescriptor where
  (objectID storageRef : String)
  commitment : ObjectUploadSpec

def validateObjectUploadSpec (spec : ObjectUploadSpec) : Except String Unit := do
  failWhen (spec.ciphertextSHA256.length ≠ 32 ∨
    (spec.mediaType.any fun value => trimSpace value = "" ∨ 255 < value.utf8ByteSize) ∨
    spec.chunkSize ≠ objectChunkSize ∨ spec.chunkCount = 0 ∨ spec.tagSize ≠ objectTagSize ∨
    spec.chunkCiphertextSHA256.length ≠ spec.chunkCount ∨ ∃ hash ∈ spec.chunkCiphertextSHA256, hash.length ≠ 32)
    "secure content object descriptor is invalid"
  failWhen (objectMaxChunkCount < spec.chunkCount) "secure content object exceeds policy"
  let minimumSize := (spec.chunkCount - 1) * (spec.chunkSize + spec.tagSize) + (spec.tagSize + 1)
  let maximumSize := spec.chunkCount * (spec.chunkSize + spec.tagSize)
  let maximumPolicySize := objectMaxPlaintextSize + objectMaxChunkCount * objectTagSize
  failWhen (spec.ciphertextSize < minimumSize ∨ maximumSize < spec.ciphertextSize)
    "secure content object descriptor is invalid"
  failWhen (maximumPolicySize < spec.ciphertextSize) "secure content object exceeds policy"

def validateObjectDescriptor (descriptor : ObjectDescriptor) : Except String Unit := do
  failWhen (trimSpace descriptor.objectID = "" ∨ trimSpace descriptor.storageRef = "")
    "secure content object descriptor is invalid"
  validateObjectUploadSpec descriptor.commitment

/-! ### Chunks -/

/-- AES-256-GCM: the plaintext under a key, a nonce and associated data, if it authenticates. -/
class ObjectCipher where
  decrypt : Bytes → Bytes → Bytes → Bytes → Option Bytes

structure ObjectCryptoMaterial where
  (objectKey baseNonce : Bytes)
  (plaintextSize chunkSize : ℕ)

/-- `ObjectCryptoMaterial::from_parts`, for a key and a nonce that have their lengths. -/
def ObjectCryptoMaterial.fromParts (objectKey baseNonce : Bytes) (plaintextSize chunkSize : ℕ) :
    Except String ObjectCryptoMaterial := do
  failWhen (plaintextSize = 0 ∨ objectMaxPlaintextSize < plaintextSize ∨ chunkSize = 0 ∨ objectChunkSize < chunkSize)
    "secure content object crypto material is invalid"
  failWhen (baseNonce.drop 8 ≠ [0, 0, 0, 0]) "secure content object base nonce counter must be zero"
  return { objectKey, baseNonce, plaintextSize, chunkSize }

namespace ObjectCryptoMaterial

variable (material : ObjectCryptoMaterial)

def chunkCount : ℕ := material.plaintextSize ⌈/⌉ material.chunkSize

def expectedPlaintextChunkSize (index : ℕ) : Except String ℕ := do
  failWhen (material.chunkCount ≤ index) "secure content object chunk index exceeds policy"
  return min (material.plaintextSize - index * material.chunkSize) material.chunkSize

def expectedCiphertextChunkSize (index : ℕ) : Except String ℕ := do
  let size ← material.expectedPlaintextChunkSize index
  return size + objectTagSize

def ciphertextChunkOffset (index : ℕ) : ℕ := index * (material.chunkSize + objectTagSize)

end ObjectCryptoMaterial

def objectChunkNonce (baseNonce : Bytes) (chunkIndex : ℕ) : Bytes := baseNonce.take 8 ++ bigEndian 4 chunkIndex

def objectChunkAAD (chunkIndex plaintextSize chunkSize : ℕ) : Bytes :=
  bytesOf ("peers-touch:attachment:aes-256-gcm-chunked:1:" ++ toString chunkIndex ++ ":" ++
    toString plaintextSize ++ ":" ++ toString chunkSize)

structure EncryptedObjectChunk where
  chunkIndex : ℕ
  (ciphertext ciphertextSHA256 : Bytes)

def decryptObjectChunk [Digest] [ObjectCipher] (material : ObjectCryptoMaterial)
    (chunk : EncryptedObjectChunk) : Except String Bytes := do
  failWhen ((hashBytes chunk.ciphertext).bytes ≠ chunk.ciphertextSHA256) "secure content object chunk hash mismatch"
  let expectedPlaintextSize ← material.expectedPlaintextChunkSize chunk.chunkIndex
  failWhen (chunk.ciphertext.length ≠ expectedPlaintextSize + objectTagSize) "secure content object chunk size mismatch"
  orFail (ObjectCipher.decrypt material.objectKey (objectChunkNonce material.baseNonce chunk.chunkIndex)
    (objectChunkAAD chunk.chunkIndex material.plaintextSize material.chunkSize)
    chunk.ciphertext)
    "secure content object chunk authentication failed"

/-! ### The bitmap of the chunks -/

def chunkComplete (bitmap : Bytes) (index : ℕ) : Bool :=
  bitmap[index / 8]?.any fun byte => byte.toNat.testBit (index % 8)

def setChunkComplete (bitmap : Bytes) (index : ℕ) : Bytes :=
  bitmap.modify (index / 8) fun byte => UInt8.ofNat (byte.toNat ||| 2 ^ (index % 8))

def validateBitmap (bitmap : Bytes) (chunks : ℕ) : Except String Unit := do
  failWhen (bitmap.length ≠ chunks ⌈/⌉ 8) "secure content object checkpoint bitmap mismatch"
  failWhen (chunks % 8 ≠ 0 ∧ bitmap.getLast?.any fun byte => 2 ^ (chunks % 8) ≤ byte.toNat)
    "secure content object checkpoint bitmap is invalid"

end PeersTouch.Transfer
