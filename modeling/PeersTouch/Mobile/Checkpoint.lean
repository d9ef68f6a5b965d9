import PeersTouch.Mobile.Lookup
import PeersTouch.Mobile.Storage

/-!
# Projection checkpoints

The part of `command_ledger/storage.rs` that works on `projection_checkpoints`. When a command is
accepted or committed, its lookup is stored as a checkpoint in the transaction that removes the
command. A checkpoint does not say of which kind the command was: the reader finds out by decoding
the stored bytes as one kind of lookup and then as the other (`decodeStoredCheckpointLookup`).
-/

namespace PeersTouch.Mobile

open Lib Lib.Protobuf
open Chat (Bytes Digest)
open Client (decodeErrorText)

structure RawCheckpointRow where
  commandID : String
  payloadSHA256 : Bytes
  createdAtMs : ℤ
  lookupCiphertext : Sealed (CommandScope × String × Bytes × ℤ)

structure Database where
  commands : CommandTable
  /-- `projection_checkpoints`. -/
  checkpoints : KeyedTable RawCheckpointRow RawCheckpointRow.commandID

def Database.empty : Database where
  commands := .empty
  checkpoints := .empty

section

variable [ResultMessages]

structure ProjectionCheckpoint where
  commandID : String
  payloadSHA256 : Bytes
  authoritativeLookup : LookupFriendRequestCommandResultResponse
  socialRelationshipLookup : Option LookupSocialRelationshipCommandResultResponse
  exactLookupBytes : Bytes
  createdAtMs : ℤ
deriving DecidableEq

def sealCheckpoint (scope : CommandScope) (checkpoint : ProjectionCheckpoint) :
    RawCheckpointRow :=
  { checkpoint with
    lookupCiphertext :=
      { aad := (scope, checkpoint.commandID, checkpoint.payloadSHA256, checkpoint.createdAtMs)
        plaintext := checkpoint.exactLookupBytes } }

def decodeStoredAs (R : Type) [Message R] (commandID : String) (payloadSHA256 bytes : Bytes) :
    Option (LookupResponse R) :=
  match Message.decode (LookupResponse R) bytes with
  | .error _ => none
  | .ok lookup =>
    if Message.encode lookup = bytes ∧ lookup.commandID = commandID ∧ lookup.commandPayloadSHA256 = payloadSHA256 then
      some lookup
    else none

def decodeStoredCheckpointLookup (commandID : String) (payloadSHA256 bytes : Bytes) :
    LedgerResult (LookupFriendRequestCommandResultResponse ×
      Option LookupSocialRelationshipCommandResultResponse) :=
  match decodeStoredAs FriendRequestCommandResult commandID payloadSHA256 bytes with
  | some lookup => .ok (lookup, none)
  | none =>
    match decodeStoredAs SocialRelationshipCommandResult commandID payloadSHA256 bytes with
    | some lookup => .ok (Message.empty, some lookup)
    | none =>
      .error (.forCommand .authenticationFailed "authenticate projection checkpoint" commandID
        "checkpoint metadata differs from its generated lookup bytes")

def decryptCheckpoint (scope : CommandScope) (raw : RawCheckpointRow) :
    LedgerResult ProjectionCheckpoint := do
  let bytes ← openSealed raw.lookupCiphertext
    (scope, raw.commandID, raw.payloadSHA256, raw.createdAtMs) "decrypt projection checkpoint"
  let (lookup, socialRelationshipLookup) ←
    decodeStoredCheckpointLookup raw.commandID raw.payloadSHA256 bytes
  return {
    commandID := raw.commandID, payloadSHA256 := raw.payloadSHA256, authoritativeLookup := lookup
    socialRelationshipLookup, exactLookupBytes := bytes, createdAtMs := raw.createdAtMs }

def decodeTypedCheckpointLookup (command : ValidatedCommand) (bytes : Bytes) :
    LedgerResult (LookupFriendRequestCommandResultResponse ×
      Option LookupSocialRelationshipCommandResultResponse) :=
  match command.envelope.payload with
  | some (.friendRequest _) => do
    let lookup ← decodeCanonical FriendRequestCommandResult
      "decode Friend Request projection checkpoint" command.commandID "lookup bytes are not canonical" bytes
    return (lookup, none)
  | some (.socialRelationship _) => do
    let lookup ← decodeCanonical SocialRelationshipCommandResult
      "decode Social relationship projection checkpoint" command.commandID "lookup bytes are not canonical" bytes
    return (Message.empty, some lookup)
  | none =>
    .error (.forCommand .invalidEnvelope "decode projection checkpoint" command.commandID
      "generated command payload is missing")

/-- Whether a lookup settles a command that is in the given state. -/
def AuthoritativeLookup.authorizes (lookup : AuthoritativeLookup) (state : CommandState) : Bool :=
  match state, lookup.state with
  | .acceptedPending, .acceptedPending => lookup.resultKind = none
  | .committed, .terminalResult => lookup.resultKind = some .committed || lookup.resultKind = some .duplicate
  | .checkpointing, _ => true
  | _, _ => false

def validateCheckpointLookup (lookup : AuthoritativeLookup) (command : ValidatedCommand)
    (state : CommandState) : LedgerResult Unit := do
  failWhen (lookup.commandID ≠ command.envelope.commandID ∨ lookup.commandPayloadSHA256 ≠ command.envelope.payloadSHA256)
    (.forCommand .commandConflict "validate projection checkpoint" command.commandID
      "authoritative lookup identity or payload hash differs")
  failWhen (¬lookup.authorizes state) (.forCommand .stateConflict "validate projection checkpoint" command.commandID
    "lookup result does not authorize checkpointing this state")

def Database.listCheckpoints (scope : CommandScope) (db : Database) :
    LedgerResult (List ProjectionCheckpoint) :=
  (orderBy (fun raw => toLex (raw.createdAtMs, raw.commandID)) db.checkpoints.rows).mapM (decryptCheckpoint scope)

omit [ResultMessages] in
def Database.acknowledgeCheckpoint (commandID : String) (payloadSHA256 : Bytes) (db : Database) :
    LedgerResult Database := do
  failWhen (db.checkpoints.count (fun raw => raw.commandID = commandID ∧ raw.payloadSHA256 = payloadSHA256) ≠ 1)
    (.forCommand .commandNotFound "acknowledge projection checkpoint" commandID
      "matching projection checkpoint does not exist")
  return {
    db with
    checkpoints := db.checkpoints.deleteWhere fun raw => raw.commandID = commandID ∧ raw.payloadSHA256 = payloadSHA256 }

variable [LedgerFormat] [Digest]

/-- Store the first checkpoint of a command and remove the command. -/
def Database.checkpoint (scope : CommandScope) (commandID : String) (exactLookupBytes : Bytes)
    (nowMs : ℤ) (db : Database) : LedgerResult (ProjectionCheckpoint × Database) := do
  let refuse (code : LedgerErrorCode) (detail : String) : LedgerError :=
    .forCommand code "persist projection checkpoint" commandID detail
  let raw ← orFail (db.commands.find commandID) (refuse .commandNotFound "accepted or committed command does not exist")
  let command ← decryptCommand scope raw
  failWhen (command.state ≠ .acceptedPending ∧ command.state ≠ .committed ∧ command.state ≠ .checkpointing)
    (refuse .stateConflict "only accepted or committed commands can create a checkpoint")
  let lookup ← decodeLookup command exactLookupBytes
  validateCheckpointLookup lookup command command.state
  let (friendRequestLookup, socialRelationshipLookup) ←
    decodeTypedCheckpointLookup command exactLookupBytes
  let checkpoint : ProjectionCheckpoint :=
    { commandID, payloadSHA256 := command.envelope.payloadSHA256
      authoritativeLookup := friendRequestLookup, socialRelationshipLookup, exactLookupBytes, createdAtMs := nowMs }
  let checkpoints ← db.checkpoints.insert (sealCheckpoint scope checkpoint) (.new .storage "insert projection checkpoint"
    "UNIQUE constraint failed: projection_checkpoints.command_id")
  failWhen (db.commands.count (fun row => row.commandID = commandID ∧ row.state = raw.state) ≠ 1)
    (refuse .stateConflict "command changed while checkpointing")
  return (checkpoint,
    { commands := db.commands.deleteWhere fun row => row.commandID = commandID ∧
        row.state = raw.state
      checkpoints })

def Database.persistCheckpointAndRemove (scope : CommandScope) (commandID : String)
    (exactLookupBytes : Bytes) (nowMs : ℤ) (db : Database) :
    LedgerResult (ProjectionCheckpoint × Database) :=
  match db.checkpoints.find commandID with
  | some existing => do
    let checkpoint ← decryptCheckpoint scope existing
    failWhen (checkpoint.exactLookupBytes ≠ exactLookupBytes)
      (.forCommand .commandConflict "persist projection checkpoint" commandID
        "checkpoint ID is bound to different authoritative bytes")
    return (checkpoint, db)
  | none => db.checkpoint scope commandID exactLookupBytes nowMs

end

end PeersTouch.Mobile
