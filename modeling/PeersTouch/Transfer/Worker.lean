import PeersTouch.Transfer.World

/-!
# The download worker

The download part of `ObjectTransferWorker` (`object/transfer.rs`): a program over the operations of the
ports for each of its functions. A `?` of the source is a bind of `ExceptT`; where the source turns the
error of a port into a failure of its own, the call is wrapped in `mapError`.

The bytes of a chunk go to the partial file and then its bit into the record; when all bits are set, the
chunks are decrypted into the staging file, the record becomes complete, and the staging file is renamed
to the cache file.
-/

namespace PeersTouch.Transfer

open Lib Chat

abbrev Task (ε α : Type) : Type := ExceptT ε (Program Op Op.Answer) α

abbrev Worker (α : Type) : Type := Task ObjectTransferFailure α

namespace Task

variable {δ ε α : Type}

def mapError (f : δ → ε) (x : Task δ α) : Task ε α := ExceptT.mk (Except.mapError f <$> x.run)

def ofExcept (x : Except ε α) : Task ε α := ExceptT.mk (pure x)

def failWhen (p : Prop) [Decidable p] (e : ε) : Task ε Unit := ofExcept (Lib.failWhen p e)

/-- The result of a task, which may be an error. -/
def attempt (x : Task δ α) : Task ε (Except δ α) := ExceptT.lift x.run

end Task

def store (op : StoreOp) : Worker op.Answer := ExceptT.mk (Program.call (Op.store op))

/-- A file operation whose error stays a text. -/
def blobText (op : BlobOp) : Task String op.Answer := ExceptT.mk (Program.call (Op.blob op))

def blob (op : BlobOp) : Worker op.Answer := (blobText op).mapError .ofString

def checkTransferRunning : Worker Unit := ExceptT.mk (Program.call Op.checkTransferRunning)

def tryAdmit : Task AdmissionError Unit := ExceptT.mk (Program.call Op.tryAdmit)

def getDownloadChunk (chunkIndex start stop : ℕ) : Worker Bytes :=
  ExceptT.mk (Program.call (Op.getDownloadChunk chunkIndex start stop))

/-- The hash of a descriptor that is pinned in the record. -/
class ObjectCommitmentCodec where
  descriptorCommitment : ObjectDescriptor → Except ObjectTransferFailure Hash

structure ObjectRetryPolicy where
  (initialDelayMs maximumDelayMs : ℤ)

inductive ObjectTransferProgress where
  | complete
  | deferred (nextAttemptAtUnixMs : ℤ)
  | retryScheduled (nextAttemptAtUnixMs : ℤ)
  | terminal (code : ObjectTransferErrorCode)
deriving DecidableEq

inductive DownloadAttemptError where
  | beforeCompletion (failure : ObjectTransferFailure)
  | finalization (failure : ObjectTransferFailure)

/-- What the calls for one download have in common. -/
structure Download where
  transferID : String
  descriptor : ObjectDescriptor
  expectedPlaintextSHA256 : Hash
  cacheRef : String
  retryPolicy : ObjectRetryPolicy

def plaintextStagingRef (cacheRef : String) : String := cacheRef ++ ".decrypting"

def Download.stagingRef (d : Download) : String := plaintextStagingRef d.cacheRef

/-! ### The record -/

def requiredTransfer : Worker ObjectTransferRecord := do
  match ← store .objectTransfer with
  | some transfer => return transfer
  | none => throw (.final .descriptorMismatch "secure content object transfer is unavailable")

def ObjectTransferRecord.ended (transfer : ObjectTransferRecord) : ObjectTransferFailure :=
  .final (transfer.lastError.getD .descriptorMismatch) "secure content object transfer is terminal"

/-- Whether there is something to do: the rest of `preflight`, after the record is read. -/
def ObjectTransferRecord.preflight (transfer : ObjectTransferRecord) (nowUnixMs : ℤ) :
    Except ObjectTransferFailure (Option ObjectTransferProgress) :=
  if transfer.state = .complete then .ok (some .complete)
  else if transfer.state = .cancelled ∨ transfer.state = .terminal then .error transfer.ended
  else if transfer.state = .retryWait ∧ nowUnixMs < transfer.nextAttemptAtUnixMs then
    .ok (some (.deferred transfer.nextAttemptAtUnixMs))
  else .ok none

def preflight (nowUnixMs : ℤ) : Worker (Option ObjectTransferProgress) := do
  let transfer ← requiredTransfer
  Task.ofExcept (transfer.preflight nowUnixMs)

def maximumI64 : ℤ := 2 ^ 63 - 1

def retryDelayMs [Digest] (transferID : String) (attemptCount : ℕ) (initialDelayMs maximumDelayMs : ℤ) :
    ℤ :=
  let exponent := min (attemptCount - 1) 30
  let base := min (min (initialDelayMs * 2 ^ exponent) maximumI64) maximumDelayMs
  let digest := (hashBytes (Chat.bytesOf transferID ++ Chat.bigEndian 4 attemptCount)).bytes
  let jitterPercent : ℤ := 75 + (digest.headD 0).toNat % 51
  min (min (base * jitterPercent) maximumI64 / 100) maximumDelayMs

def ObjectTransferRecord.failed (transfer : ObjectTransferRecord) (state : ObjectTransferState)
    (nextAttemptAtUnixMs : ℤ) (code : ObjectTransferErrorCode) (nowUnixMs : ℤ) :
    TransferProgress :=
  { transfer with
    state, attemptCount := min (transfer.attemptCount + 1) (2 ^ 32 - 1), nextAttemptAtUnixMs
    lastError := some code, updatedAtUnixMs := nowUnixMs }

def persistFailure [Digest] (d : Download) (nowUnixMs : ℤ) (failure : ObjectTransferFailure) :
    Worker ObjectTransferProgress := do
  let transfer ← requiredTransfer
  if transfer.state = .complete then return .complete
  else if transfer.state = .cancelled ∨ transfer.state = .terminal then throw transfer.ended
  else if failure.retryable then
    let policyDelay := retryDelayMs d.transferID (min (transfer.attemptCount + 1) (2 ^ 32 - 1))
      d.retryPolicy.initialDelayMs d.retryPolicy.maximumDelayMs
    let delay := min (max (failure.retryAfterMs.getD 0) policyDelay) d.retryPolicy.maximumDelayMs
    let nextAttemptAtUnixMs := min (nowUnixMs + delay) maximumI64
    store (.updateTransferProgress (transfer.failed .retryWait nextAttemptAtUnixMs failure.code nowUnixMs))
    return .retryScheduled nextAttemptAtUnixMs
  else
    store (.updateTransferProgress (transfer.failed .terminal 0 failure.code nowUnixMs))
    return .terminal failure.code

/-! ### Artifacts -/

/-- Remove the partial file if there is no other attempt. -/
def cleanupPartial (failure : ObjectTransferFailure) (partialLocalRef : String) :
    Program Op Op.Answer (Except String Unit) :=
  if failure.retryable then pure (.ok ()) else (blobText (.remove partialLocalRef)).run

/-- Remove what a failed attempt leaves. -/
def cleanupDownloadFailure (failure : ObjectTransferFailure) (cacheRef plaintextStagingRef partialLocalRef : String) :
    Program Op Op.Answer ObjectTransferFailure := do
  let cache ← (blobText (.remove cacheRef)).run
  let staging ← (blobText (.remove plaintextStagingRef)).run
  let partialFile ← cleanupPartial failure partialLocalRef
  return if cache.isOk && staging.isOk && partialFile.isOk then failure
    else integrityFailure "secure content object failure cleanup failed"

def failAfterCleanup {ε α : Type} (wrap : ObjectTransferFailure → ε)
    (failure : ObjectTransferFailure) (cacheRef plaintextStagingRef partialLocalRef : String) :
    Task ε α := do
  throw (wrap (← ExceptT.lift (cleanupDownloadFailure failure cacheRef plaintextStagingRef partialLocalRef)))

/-- Whether the file exists with the hash. -/
def hasSHA256 (ref : String) (expected : Hash) : Worker Bool := do
  if ← blob (.exists ref) then return (← blob (.sha256 ref)) = expected
  else return false

/-- The part of `finalize_completed_download_artifacts` for a cache file that is not valid. -/
def promoteStaging (cacheRef plaintextStagingRef partialLocalRef : String)
    (expectedPlaintextSHA256 : Hash) : Worker Unit := do
  blob (.remove cacheRef)
  if ← hasSHA256 plaintextStagingRef expectedPlaintextSHA256 then
    blob (.promote plaintextStagingRef cacheRef)
    if ← hasSHA256 cacheRef expectedPlaintextSHA256 then pure ()
    else
      failAfterCleanup id (integrityFailure "secure content promoted object cache is invalid")
        cacheRef plaintextStagingRef partialLocalRef
  else
    failAfterCleanup id (integrityFailure "secure content completed object has no verified plaintext artifact")
      cacheRef plaintextStagingRef partialLocalRef

/-- The cache file is valid, or the staging file is and takes its place. -/
def ensureCache (cacheRef plaintextStagingRef partialLocalRef : String)
    (expectedPlaintextSHA256 : Hash) : Worker Unit := do
  if ← hasSHA256 cacheRef expectedPlaintextSHA256 then return ()
  else promoteStaging cacheRef plaintextStagingRef partialLocalRef expectedPlaintextSHA256

def finalizeCompletedDownloadArtifacts (cacheRef plaintextStagingRef partialLocalRef : String)
    (expectedPlaintextSHA256 : Hash) : Worker Unit := do
  ensureCache cacheRef plaintextStagingRef partialLocalRef expectedPlaintextSHA256
  blob (.remove plaintextStagingRef)
  blob (.remove partialLocalRef)

/-! ### Descriptor and partial file -/

def materialFromTransfer (transfer : ObjectTransferRecord) : Except String ObjectCryptoMaterial := do
  failWhen (transfer.objectKey.length ≠ 32) "secure content object key is invalid"
  failWhen (transfer.baseNonce.length ≠ 12) "secure content object base nonce is invalid"
  ObjectCryptoMaterial.fromParts transfer.objectKey transfer.baseNonce transfer.plaintextSize
    transfer.chunkSize

def validateDownloadDescriptor [ObjectCommitmentCodec] (transfer : ObjectTransferRecord) (descriptor : ObjectDescriptor) :
    Except ObjectTransferFailure (ObjectCryptoMaterial × Hash) := do
  (validateObjectDescriptor descriptor).mapError integrityFailure
  let material ← (materialFromTransfer transfer).mapError integrityFailure
  let expectedCiphertextSize := material.plaintextSize + material.chunkCount * objectTagSize
  failWhen (descriptor.commitment.chunkCount ≠ material.chunkCount ∨ descriptor.commitment.chunkSize ≠ material.chunkSize ∨
    descriptor.commitment.ciphertextSize ≠ expectedCiphertextSize)
    (integrityFailure "secure content object descriptor/material mismatch")
  let descriptorHash ← ObjectCommitmentCodec.descriptorCommitment descriptor
  failWhen (transfer.descriptorSHA256 ≠ List.replicate 32 0 ∧ transfer.descriptorSHA256 ≠ descriptorHash.bytes)
    (.final .descriptorMismatch "secure content object descriptor commitment changed")
  return (material, descriptorHash)

/-- The length of the chunks that are complete, which come before all others. -/
def completedPrefix (bitmap : Bytes) (chunks : ℕ) : Except String ℕ :=
  let completed := ((List.range chunks).takeWhile fun index => chunkComplete bitmap index).length
  if ((List.range chunks).drop completed).any fun index => chunkComplete bitmap index then
    .error "secure content partial object checkpoint is non-contiguous"
  else .ok completed

def validateChunk [Digest] (descriptor : ObjectDescriptor) (material : ObjectCryptoMaterial)
    (partialLocalRef : String) (chunkIndex : ℕ) : Task String Unit := do
  let size ← Task.ofExcept (material.expectedCiphertextChunkSize chunkIndex)
  let ciphertext ← blobText (.readChunk partialLocalRef (material.ciphertextChunkOffset chunkIndex) size)
  Task.failWhen (descriptor.commitment.chunkCiphertextSHA256[chunkIndex]? ≠
    some (hashBytes ciphertext).bytes)
    "secure content partial object integrity mismatch"

/-- How long the partial file must be. -/
def ObjectCryptoMaterial.prefixLength (material : ObjectCryptoMaterial) (completed : ℕ) :
    Except String ℕ :=
  if completed = 0 then .ok 0
  else do
    let size ← material.expectedCiphertextChunkSize (completed - 1)
    return material.ciphertextChunkOffset (completed - 1) + size

/-- Cut off what is behind the complete chunks. -/
def cutPartial (partialLocalRef : String) (expectedLength actualLength : ℕ) : Task String Unit :=
  if expectedLength < actualLength then blobText (.truncate partialLocalRef expectedLength)
  else pure ()

def validatePartialCiphertext [Digest] (transfer : ObjectTransferRecord)
    (material : ObjectCryptoMaterial) (descriptor : ObjectDescriptor) : Task String Unit := do
  if ← blobText (.exists transfer.partialLocalRef) then
    let completed ← Task.ofExcept (completedPrefix transfer.completedChunkBitmap material.chunkCount)
    let expectedLength ← Task.ofExcept (material.prefixLength completed)
    let actualLength ← blobText (.len transfer.partialLocalRef)
    Task.failWhen (actualLength < expectedLength) "secure content partial object checkpoint mismatch"
    cutPartial transfer.partialLocalRef expectedLength actualLength
    (List.range completed).foldlM (fun _ index => validateChunk descriptor material transfer.partialLocalRef index) ()
  else
    Task.failWhen (transfer.completedChunkBitmap.any (· ≠ 0)) "secure content partial object is missing"

/-! ### The attempt -/

section

variable [Digest] [ObjectCipher] [ObjectCommitmentCodec]

def ObjectTransferRecord.advance (transfer : ObjectTransferRecord) (state : ObjectTransferState)
    (nowUnixMs : ℤ) : TransferProgress :=
  { transfer with
    state, nextAttemptAtUnixMs := 0, lastError := none, updatedAtUnixMs := nowUnixMs }

/-- Fetch one chunk, unless it is there. -/
def downloadChunk (d : Download) (material : ObjectCryptoMaterial) (nowUnixMs : ℤ)
    (transfer : ObjectTransferRecord) (chunkIndex : ℕ) : Worker ObjectTransferRecord := do
  checkTransferRunning
  if chunkComplete transfer.completedChunkBitmap chunkIndex then return transfer
  else
    let ciphertextSize ← Task.ofExcept ((material.expectedCiphertextChunkSize chunkIndex).mapError .ofString)
    let start := material.ciphertextChunkOffset chunkIndex
    let ciphertext ← getDownloadChunk chunkIndex start (start + ciphertextSize - 1)
    checkTransferRunning
    Task.failWhen (ciphertext.length ≠ ciphertextSize) (integrityFailure "secure content downloaded chunk size mismatch")
    Task.failWhen (d.descriptor.commitment.chunkCiphertextSHA256[chunkIndex]? ≠
      some (hashBytes ciphertext).bytes)
      (integrityFailure "secure content downloaded chunk hash mismatch")
    blob (.writeChunk transfer.partialLocalRef start ciphertext)
    let transfer := { transfer with
      completedChunkBitmap := setChunkComplete transfer.completedChunkBitmap chunkIndex }
    store (.updateTransferProgress (transfer.advance .transferring nowUnixMs))
    return transfer

/-- Decrypt one chunk into the staging file. -/
def stageChunk (d : Download) (material : ObjectCryptoMaterial) (partialLocalRef : String)
    (chunkIndex : ℕ) : Worker Unit := do
  checkTransferRunning
  let expectedHash ← Task.ofExcept (orFail
    (d.descriptor.commitment.chunkCiphertextSHA256[chunkIndex]?.filter fun hash => hash.length = 32)
    (integrityFailure "secure content object chunk commitment is invalid"))
  let size ← Task.ofExcept ((material.expectedCiphertextChunkSize chunkIndex).mapError .ofString)
  let ciphertext ← blob (.readChunk partialLocalRef (material.ciphertextChunkOffset chunkIndex) size)
  let plaintext ← Task.ofExcept ((decryptObjectChunk material
    { chunkIndex, ciphertext, ciphertextSHA256 := expectedHash }).mapError integrityFailure)
  blob (.writeChunk d.stagingRef (chunkIndex * material.chunkSize) plaintext)

def verifyCiphertext (d : Download) (partialLocalRef : String) : Worker Unit := do
  blob (.truncate partialLocalRef d.descriptor.commitment.ciphertextSize)
  Task.failWhen (d.descriptor.commitment.ciphertextSHA256.length ≠ 32)
    (integrityFailure "secure content object ciphertext commitment is invalid")
  let ciphertextSHA256 ← blob (.sha256 partialLocalRef)
  Task.failWhen (ciphertextSHA256.bytes ≠ d.descriptor.commitment.ciphertextSHA256)
    (integrityFailure "secure content object ciphertext hash mismatch")

def verifyPlaintext (d : Download) (material : ObjectCryptoMaterial) : Worker Unit := do
  blob (.truncate d.stagingRef material.plaintextSize)
  let plaintextSHA256 ← blob (.sha256 d.stagingRef)
  Task.failWhen (plaintextSHA256 ≠ d.expectedPlaintextSHA256)
    (integrityFailure "secure content object plaintext hash mismatch")

def stagePlaintext (d : Download) (material : ObjectCryptoMaterial)
    (transfer : ObjectTransferRecord) (nowUnixMs : ℤ) : Worker Unit := do
  checkTransferRunning
  store (.updateTransferProgress (transfer.advance .verifying nowUnixMs))
  verifyCiphertext d transfer.partialLocalRef
  (List.range d.descriptor.commitment.chunkCount).foldlM
    (fun _ index => stageChunk d material transfer.partialLocalRef index) ()
  verifyPlaintext d material

/-- Whether all chunks were fetched and the cache file has the plaintext. -/
def cacheIsVerified (d : Download) (transfer : ObjectTransferRecord) : Worker Bool :=
  if (List.range d.descriptor.commitment.chunkCount).all fun index =>
      chunkComplete transfer.completedChunkBitmap index then do
    let sha256 ← blob (.sha256 d.cacheRef)
    return sha256 = d.expectedPlaintextSHA256
  else pure false

/-- Remove a cache file that is not the verified plaintext. The answer is whether it is. -/
def keepVerifiedCache (d : Download) (transfer : ObjectTransferRecord) : Worker Bool := do
  if ← blob (.exists d.cacheRef) then
    if ← cacheIsVerified d transfer then
      blob (.remove d.stagingRef)
      return true
    else
      blob (.remove d.cacheRef)
      return false
  else return false

/-- The closure `materialization`: afterwards the plaintext is in the staging file, or it was in the
cache file all along. -/
def materialize (d : Download) (transfer : ObjectTransferRecord) (nowUnixMs : ℤ) :
    Worker ObjectTransferRecord := do
  let (material, descriptorHash) ← Task.ofExcept (validateDownloadDescriptor transfer d.descriptor)
  store (.updateTransferPrepared descriptorHash.bytes transfer.partialLocalRef)
  let transfer ← requiredTransfer
  Task.ofExcept ((validateBitmap transfer.completedChunkBitmap
    d.descriptor.commitment.chunkCount).mapError integrityFailure)
  if ← keepVerifiedCache d transfer then return transfer
  else
    blob (.remove d.stagingRef)
    (validatePartialCiphertext transfer material d.descriptor).mapError integrityFailure
    let transfer ← (List.range d.descriptor.commitment.chunkCount).foldlM (downloadChunk d material nowUnixMs) transfer
    stagePlaintext d material transfer nowUnixMs
    return transfer

/-- The partial file must be a file of its own. -/
def Download.overlaps (d : Download) (transfer : ObjectTransferRecord) : Bool :=
  transfer.partialLocalRef = d.cacheRef || transfer.partialLocalRef = d.stagingRef

def orCleanUp {α : Type} (d : Download) (transfer : ObjectTransferRecord)
    (wrap : ObjectTransferFailure → DownloadAttemptError) (x : Worker α) :
    Task DownloadAttemptError α := do
  match ← x.attempt with
  | .ok a => return a
  | .error failure => failAfterCleanup wrap failure d.cacheRef d.stagingRef transfer.partialLocalRef

def downloadOnce (d : Download) (nowUnixMs : ℤ) : Task DownloadAttemptError Bool := do
  let transfer ← requiredTransfer.mapError .beforeCompletion
  if d.overlaps transfer then
    failAfterCleanup .beforeCompletion (integrityFailure "secure content download artifact paths overlap")
      d.cacheRef d.stagingRef transfer.partialLocalRef
  else
    orCleanUp d transfer .beforeCompletion checkTransferRunning
    let transfer ← orCleanUp d transfer .beforeCompletion (materialize d transfer nowUnixMs)
    orCleanUp d transfer .beforeCompletion checkTransferRunning
    orCleanUp d transfer .finalization (store (.completeDownload transfer nowUnixMs))
    (finalizeCompletedDownloadArtifacts d.cacheRef d.stagingRef transfer.partialLocalRef
      d.expectedPlaintextSHA256).mapError .finalization
    return true

/-! ### The calls -/

/-- The record of a completed download whose plaintext is gone. -/
def ObjectTransferRecord.restart (transfer : ObjectTransferRecord) (chunkCount : ℕ)
    (nowUnixMs : ℤ) : TransferProgress :=
  { transfer with
    state := .queued, completedChunkBitmap := List.replicate (chunkCount ⌈/⌉ 8) 0, attemptCount := 0
    nextAttemptAtUnixMs := nowUnixMs, lastError := none, updatedAtUnixMs := nowUnixMs }

/-- Whether the cache file or the staging file exists. -/
def hasPlaintext (d : Download) : Worker Bool := do
  if ← blob (.exists d.cacheRef) then return true
  else blob (.exists d.stagingRef)

/-- The closure `validation` of `restore_completed_download`. -/
def restoreArtifacts (d : Download) (transfer : ObjectTransferRecord) (nowUnixMs : ℤ) :
    Worker Bool := do
  Task.failWhen (d.overlaps transfer) (integrityFailure "secure content download artifact paths overlap")
  let (_, descriptorHash) ← Task.ofExcept (validateDownloadDescriptor transfer d.descriptor)
  Task.failWhen (transfer.descriptorSHA256 ≠ descriptorHash.bytes) (.final .descriptorMismatch
    "secure content completed object descriptor commitment changed")
  if ← hasPlaintext d then
    finalizeCompletedDownloadArtifacts d.cacheRef d.stagingRef transfer.partialLocalRef
      d.expectedPlaintextSHA256
    return true
  else
    blob (.remove transfer.partialLocalRef)
    store (.updateTransferProgress (transfer.restart d.descriptor.commitment.chunkCount nowUnixMs))
    return false

def restoreCompletedDownload (d : Download) (transfer : ObjectTransferRecord) (nowUnixMs : ℤ) :
    Worker Bool := do
  match ← (restoreArtifacts d transfer nowUnixMs).attempt with
  | .ok restored => return restored
  | .error failure =>
    if failure.retryable then throw failure
    else
      failAfterCleanup id failure d.cacheRef d.stagingRef transfer.partialLocalRef

/-- A caller that is not admitted because of a failure. -/
def refuseAdmission (d : Download) (nowUnixMs : ℤ) (failure : ObjectTransferFailure) :
    Worker ObjectTransferProgress := do
  match ← preflight nowUnixMs with
  | some .complete => return .deferred nowUnixMs
  | some progress => return progress
  | none =>
    let existing ← requiredTransfer
    let failure ← ExceptT.lift (cleanupDownloadFailure failure d.cacheRef d.stagingRef
      existing.partialLocalRef)
    persistFailure d nowUnixMs failure

/-- Whether the transfer was complete and its plaintext is still there. -/
def restoreExisting (d : Download) (existing : ObjectTransferRecord) (nowUnixMs : ℤ) : Worker Bool :=
  if existing.state = .complete then restoreCompletedDownload d existing nowUnixMs else pure false

/-- The attempt, if it is time for one. -/
def attemptDownload (d : Download) (nowUnixMs : ℤ) : Worker ObjectTransferProgress := do
  match ← preflight nowUnixMs with
  | some progress => return progress
  | none =>
    match ← (downloadOnce d nowUnixMs).attempt with
    | .ok true => return .complete
    | .ok false => throw (integrityFailure "secure content object download made no progress")
    | .error (.beforeCompletion failure) => persistFailure d nowUnixMs failure
    | .error (.finalization failure) => throw failure

def runAdmitted (d : Download) (nowUnixMs : ℤ) : Worker ObjectTransferProgress := do
  let existing ← requiredTransfer
  if ← restoreExisting d existing nowUnixMs then return .complete
  else attemptDownload d nowUnixMs

def runDownloadOnce (d : Download) (nowUnixMs : ℤ) : Worker ObjectTransferProgress := do
  match ← preflight nowUnixMs with
  | some .complete | none =>
    match ← tryAdmit.attempt with
    | .ok () => runAdmitted d nowUnixMs
    | .error .alreadyActive => return .deferred nowUnixMs
    | .error (.failure failure) => refuseAdmission d nowUnixMs failure
  | some progress => return progress

/-- The permit of `restore_download_cache` and `retry`. -/
def acquirePermit : Worker Unit := tryAdmit.mapError fun
    | .alreadyActive => .ofString "transfer is active"
    | .failure failure => failure

def restoreDownloadCache (d : Download) (nowUnixMs : ℤ) : Worker Unit := do
  acquirePermit
  let transfer ← requiredTransfer
  if transfer.direction ≠ .download ∨ transfer.state ≠ .complete then
    throw (.final .descriptorMismatch "cache restoration requires a completed download")
  else discard (restoreCompletedDownload d transfer nowUnixMs)

/-- `retry`, when no cancellation is pending. -/
def retry (nowUnixMs : ℤ) : Worker Unit := do
  acquirePermit
  let transfer ← requiredTransfer
  if transfer.state ≠ .cancelled ∧ transfer.state ≠ .retryWait then
    throw (.final .descriptorMismatch "transfer cannot be retried in its current state")
  else
    let cancelled : Bool := transfer.state = .cancelled
    store (.updateTransferProgress
      { state := .queued, uploadID := if cancelled then "" else transfer.uploadID
        generation := if cancelled then 0 else transfer.generation
        completedChunkBitmap :=
          if cancelled then List.replicate transfer.completedChunkBitmap.length 0
          else transfer.completedChunkBitmap
        attemptCount := transfer.attemptCount, nextAttemptAtUnixMs := nowUnixMs, lastError := none
        updatedAtUnixMs := nowUnixMs })

end

end PeersTouch.Transfer
