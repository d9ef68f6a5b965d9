import PeersTouch.Lib.Program
import PeersTouch.Transfer.Object

/-!
# What a transfer worker works on

The ports of `object/transfer.rs`: the record of a transfer in the store (`ObjectTransferRepository`, as
`SecureContentStore` implements it), the files (`ObjectBlob`, as `FilesystemObjectBlob` implements it),
the transport and the control of the worker. Every call of a port is one operation of the worker, and
what it does is a function of the record and the files; the answers of the transport and of the control
come from outside.

Of `secure_content_object_transfers` the model has the one row of the transfer, without the columns that
a download only copies. The session generation is the one the store is bound to.
-/

namespace PeersTouch.Transfer

open Lib Chat

inductive ObjectTransferDirection where
  | upload | download
deriving DecidableEq

inductive ObjectTransferState where
  | queued | transferring | verifying | complete | retryWait | cancelled | terminal
deriving DecidableEq

inductive ObjectTransferErrorCode where
  | uploadExpired | partConflict | rangeInvalid | descriptorMismatch | integrityFailed | notGranted
  | quotaExceeded | retryLater
deriving DecidableEq

structure ObjectTransferFailure where
  code : ObjectTransferErrorCode
  retryAfterMs : Option ℤ
  retryable : Bool
  detail : String
deriving DecidableEq

namespace ObjectTransferFailure

/-- `ObjectTransferFailure::retryable`, without a delay of its own. -/
def retry (code : ObjectTransferErrorCode) (detail : String) : ObjectTransferFailure :=
  { code, retryAfterMs := none, retryable := true, detail }

def final (code : ObjectTransferErrorCode) (detail : String) : ObjectTransferFailure :=
  { code, retryAfterMs := none, retryable := false, detail }

/-- `From<String>`. -/
def ofString (detail : String) : ObjectTransferFailure := retry .retryLater detail

end ObjectTransferFailure

def integrityFailure (detail : String) : ObjectTransferFailure := .final .integrityFailed detail

/-! ### The store -/

structure ObjectTransferRecord where
  direction : ObjectTransferDirection
  state : ObjectTransferState
  uploadID : String
  generation : ℕ
  (descriptorSHA256 completedChunkBitmap : Bytes)
  partialLocalRef : String
  (objectKey baseNonce : Bytes)
  (plaintextSize chunkSize attemptCount : ℕ)
  nextAttemptAtUnixMs : ℤ
  lastError : Option ObjectTransferErrorCode
deriving DecidableEq

/-- The arguments of `update_transfer_progress`. -/
structure TransferProgress where
  state : ObjectTransferState
  uploadID : String
  generation : ℕ
  completedChunkBitmap : Bytes
  attemptCount : ℕ
  nextAttemptAtUnixMs : ℤ
  lastError : Option ObjectTransferErrorCode
  updatedAtUnixMs : ℤ
deriving DecidableEq

/-- A completed download may be started again, with nothing done. -/
def TransferProgress.restartsCompletedDownload (progress : TransferProgress) : Bool :=
  progress.state = .queued && progress.completedChunkBitmap.all (· = 0) &&
    progress.attemptCount = 0 && progress.nextAttemptAtUnixMs = progress.updatedAtUnixMs &&
    progress.lastError.isNone

inductive StoreOp where
  | objectTransfer
  | updateTransferPrepared (descriptorSHA256 : Bytes) (partialLocalRef : String)
  | updateTransferProgress (progress : TransferProgress)
  | completeDownload (transfer : ObjectTransferRecord) (updatedAtUnixMs : ℤ)
deriving DecidableEq

@[reducible]
def StoreOp.Answer : StoreOp → Type
  | .objectTransfer => Option ObjectTransferRecord
  | _ => Unit

def stale : ObjectTransferFailure := .retry .retryLater "secure content object transfer generation is stale"

/-- The row that an `UPDATE` finds. -/
def TransferProgress.matchesRow (progress : TransferProgress) (row : ObjectTransferRecord) : Bool :=
  (progress.state = .cancelled && row.state ≠ .cancelled && row.state ≠ .terminal) ||
    (progress.state ≠ .cancelled && row.state ≠ .cancelled && row.state ≠ .terminal &&
      row.state ≠ .complete) ||
    (progress.restartsCompletedDownload && row.direction = .download && row.state = .complete)

def TransferProgress.apply (progress : TransferProgress) (row : ObjectTransferRecord) :
    ObjectTransferRecord :=
  { row with
    state := progress.state, uploadID := progress.uploadID, generation := progress.generation
    completedChunkBitmap := progress.completedChunkBitmap, attemptCount := progress.attemptCount
    nextAttemptAtUnixMs := progress.nextAttemptAtUnixMs, lastError := progress.lastError }

def updateTransferProgress (progress : TransferProgress) (row : Option ObjectTransferRecord) :
    Except ObjectTransferFailure Unit × Option ObjectTransferRecord :=
  match row with
  | none => (.error stale, none)
  | some row =>
    if progress.matchesRow row then (.ok (), some (progress.apply row))
    else (.error stale, some row)

def updateTransferPrepared (descriptorSHA256 : Bytes) (partialLocalRef : String) (row : Option ObjectTransferRecord) :
    Except ObjectTransferFailure Unit × Option ObjectTransferRecord :=
  match row with
  | none => (.error (.retry .retryLater "Query returned no rows"), none)
  | some row =>
    if row.descriptorSHA256 ≠ List.replicate 32 0 ∧ row.descriptorSHA256 ≠ descriptorSHA256 then
      (.error (.final .descriptorMismatch "secure content object descriptor changed"), some row)
    else if row.state = .cancelled ∨ row.state = .terminal ∨ row.state = .complete then
      (.error stale, some row)
    else (.ok (), some { row with descriptorSHA256, partialLocalRef })

def ObjectTransferRecord.completion (transfer : ObjectTransferRecord) (updatedAtUnixMs : ℤ) :
    TransferProgress :=
  { transfer with
    state := .complete, nextAttemptAtUnixMs := 0, lastError := none, updatedAtUnixMs }

def StoreOp.exec : (op : StoreOp) → Option ObjectTransferRecord →
    Except ObjectTransferFailure op.Answer × Option ObjectTransferRecord
  | .objectTransfer, row => (.ok row, row)
  | .updateTransferPrepared hash partialRef, row => Transfer.updateTransferPrepared hash partialRef row
  | .updateTransferProgress progress, row => Transfer.updateTransferProgress progress row
  | .completeDownload transfer now, row => Transfer.updateTransferProgress (transfer.completion now) row

/-! ### The files -/

abbrev Files : Type := String → Option Bytes

inductive BlobOp where
  | exists (ref : String)
  | len (ref : String)
  | readChunk (ref : String) (offset length : ℕ)
  | writeChunk (ref : String) (offset : ℕ) (data : Bytes)
  | truncate (ref : String) (length : ℕ)
  | sha256 (ref : String)
  | promote (sourceRef targetRef : String)
  | remove (ref : String)
deriving DecidableEq

@[reducible]
def BlobOp.Answer : BlobOp → Type
  | .exists _ => Bool
  | .len _ => ℕ
  | .readChunk _ _ _ => Bytes
  | .sha256 _ => Hash
  | _ => Unit

def fileNotFound : String := "No such file or directory (os error 2)"

/-- Cut the file, or fill it up with zeros. -/
def setLen (bytes : Bytes) (length : ℕ) : Bytes := (bytes ++ List.replicate (length - bytes.length) 0).take length

def writeAt (bytes : Bytes) (offset : ℕ) (data : Bytes) : Bytes :=
  setLen bytes offset ++ data ++ bytes.drop (offset + data.length)

/-- The bytes of a chunk, fewer at the end of the file. -/
def slice (bytes : Bytes) (offset length : ℕ) : Bytes := (bytes.drop offset).take length

def BlobOp.exec [Digest] : (op : BlobOp) → Files → Except String op.Answer × Files
  | .exists ref, files => (.ok (files ref).isSome, files)
  | .len ref, files =>
    match files ref with
    | none => (.error fileNotFound, files)
    | some bytes => (.ok bytes.length, files)
  | .readChunk ref offset length, files =>
    match files ref with
    | none => (.error fileNotFound, files)
    | some bytes =>
      if (slice bytes offset length).length = length then (.ok (slice bytes offset length), files)
      else (.error "failed to fill whole buffer", files)
  | .writeChunk ref offset data, files =>
    (.ok (), Function.update files ref (some (writeAt ((files ref).getD []) offset data)))
  | .truncate ref length, files =>
    match files ref with
    | none => (.error fileNotFound, files)
    | some bytes => (.ok (), Function.update files ref (some (setLen bytes length)))
  | .sha256 ref, files =>
    match files ref with
    | none => (.error fileNotFound, files)
    | some bytes => (.ok (hashBytes bytes), files)
  | .promote sourceRef targetRef, files =>
    match files sourceRef with
    | none => (.error fileNotFound, files)
    | some bytes => (.ok (), Function.update (Function.update files sourceRef none) targetRef (some bytes))
  | .remove ref, files => (.ok (), Function.update files ref none)

/-! ### Operations -/

inductive AdmissionError where
  | alreadyActive
  | failure (failure : ObjectTransferFailure)

inductive Op where
  | store (op : StoreOp)
  | blob (op : BlobOp)
  | getDownloadChunk (chunkIndex start stop : ℕ)
  | checkTransferRunning | tryAdmit
deriving DecidableEq

@[reducible]
def Op.Answer : Op → Type
  | .store op => Except ObjectTransferFailure op.Answer
  | .blob op => Except String op.Answer
  | .getDownloadChunk _ _ _ => Except ObjectTransferFailure Bytes
  | .checkTransferRunning => Except ObjectTransferFailure Unit
  | .tryAdmit => Except AdmissionError Unit

structure World where
  transfer : Option ObjectTransferRecord
  files : Files
  /-- The partial file was removed after the last update of the record. Nothing reads this: it is
  there to say when a crash happens. -/
  removedPartial : Bool := false

def World.state (w : World) : Option ObjectTransferState := w.transfer.map ObjectTransferRecord.state

/-- The file is the partial file of the transfer. -/
def World.isPartial (w : World) (ref : String) : Bool := w.transfer.any fun transfer => transfer.partialLocalRef = ref

def World.execStore (op : StoreOp) (w : World) : Except ObjectTransferFailure op.Answer × World :=
  ((op.exec w.transfer).1, { w with
    transfer := (op.exec w.transfer).2
    removedPartial := if op ≠ .objectTransfer ∧ (op.exec w.transfer).1.isOk then false else w.removedPartial })

def World.execBlob [Digest] (op : BlobOp) (w : World) : Except String op.Answer × World :=
  ((op.exec w.files).1, { w with
    files := (op.exec w.files).2
    removedPartial := match op with
      | .remove ref => w.removedPartial || w.isPartial ref
      | _ => w.removedPartial })

def shuttingDown : ObjectTransferFailure := .retry .retryLater "secure content object transfer is shutting down"

def cancellationRequested : ObjectTransferFailure := .ofString "secure content transfer cancellation requested"

def admissionFull : ObjectTransferFailure := .retry .retryLater "secure content object transfer admission is full"

/-- What happens outside of the worker. -/
structure Environment where
  /-- The cache file may be evicted before the operation. -/
  evicts : Op → World → Prop
  /-- What the transport may answer to a request for a chunk. -/
  delivers : ℕ → Except ObjectTransferFailure Bytes → Prop
  /-- The worker may be stopped in this state. -/
  crashes : World → Prop

/-- Anything may happen. -/
def Environment.any : Environment where
  evicts _ _ := True
  delivers _ _ := True
  crashes _ := True

variable [Digest]

def Performs (env : Environment) : (op : Op) → World → op.Answer → World → Prop
  | .store op, w, answer, w' => w.execStore op = (answer, w')
  | .blob op, w, answer, w' => w.execBlob op = (answer, w')
  | .getDownloadChunk index _ _, w, answer, w' => env.delivers index answer ∧ w' = w
  | .checkTransferRunning, w, answer, w' =>
    (answer = .ok () ∨ answer = .error shuttingDown ∨ answer = .error cancellationRequested) ∧ w' = w
  | .tryAdmit, w, answer, w' =>
    (answer = .ok () ∨ answer = .error .alreadyActive ∨ answer = .error (.failure shuttingDown) ∨
      answer = .error (.failure admissionFull)) ∧ w' = w

def World.evict (w : World) (cacheRef : String) : World := { w with files := Function.update w.files cacheRef none }

/-- One operation, after which the cache file may be gone because it was evicted before. -/
def Step (env : Environment) (cacheRef : String) (op : Op) (w : World) (answer : op.Answer)
    (w' : World) : Prop :=
  Performs env op w answer w' ∨ env.evicts op w ∧ Performs env op (w.evict cacheRef) answer w'

end PeersTouch.Transfer
