import PeersTouch.Client.Command
import PeersTouch.Mobile.Entry

/-!
# Authoritative lookups

A Station answers the question what became of a command with a lookup (`domain/social/relationship.proto`).
The two kinds of commands have lookups of their own. They have the same fields up to the terminal
result, so `LookupResponse` is generic in it; `decode_friend_request_lookup` and
`decode_social_relationship_lookup` of `command_ledger/mod.rs` are `decodeLookupAs` for the two
results.
-/

namespace PeersTouch.Mobile

open Lib Lib.Protobuf Chat Client

/-! ### Messages -/

/-- The messages in a terminal result that the ledger does not look into. -/
class ResultMessages where
  FriendRequestEvent : Type
  SocialRelationshipEvent : Type
  SocialRelationshipProjection : Type
  [friendRequestEvent : Message FriendRequestEvent]
  [socialRelationshipEvent : Message SocialRelationshipEvent]
  [socialRelationshipProjection : Message SocialRelationshipProjection]
  [decidableEqFriendRequestEvent : DecidableEq FriendRequestEvent]
  [decidableEqSocialRelationshipEvent : DecidableEq SocialRelationshipEvent]
  [decidableEqSocialRelationshipProjection : DecidableEq SocialRelationshipProjection]

instance [ResultMessages] : Message ResultMessages.FriendRequestEvent := ResultMessages.friendRequestEvent

instance [ResultMessages] : Message ResultMessages.SocialRelationshipEvent := ResultMessages.socialRelationshipEvent

instance [ResultMessages] : Message ResultMessages.SocialRelationshipProjection :=
  ResultMessages.socialRelationshipProjection

instance [ResultMessages] : DecidableEq ResultMessages.FriendRequestEvent := ResultMessages.decidableEqFriendRequestEvent

instance [ResultMessages] : DecidableEq ResultMessages.SocialRelationshipEvent :=
  ResultMessages.decidableEqSocialRelationshipEvent

instance [ResultMessages] : DecidableEq ResultMessages.SocialRelationshipProjection :=
  ResultMessages.decidableEqSocialRelationshipProjection

section

variable [ResultMessages]

structure FriendRequestCommandResult where
  (commandID requestID : String)
  commandPayloadSHA256 : Bytes
  kind : ℤ
  event : Option ResultMessages.FriendRequestEvent
  errorCode : ℤ
  retryable : Bool
deriving DecidableEq

instance : Message FriendRequestCommandResult where
  empty :=
    { commandID := "", requestID := "", commandPayloadSHA256 := [], kind := 0, event := none
      errorCode := 0, retryable := false }
  fields
    | 1 => some (.string fun v m => { m with commandID := v })
    | 2 => some (.string fun v m => { m with requestID := v })
    | 3 => some (.bytes fun v m => { m with commandPayloadSHA256 := v })
    | 4 => some (.enumeration fun v m => { m with kind := v })
    | 5 => some (.message FriendRequestCommandResult.event fun v m => { m with event := some v })
    | 6 => some (.enumeration fun v m => { m with errorCode := v })
    | 7 => some (.bool fun v m => { m with retryable := v })
    | _ => none
  encode m :=
    writeString 1 m.commandID ++ writeString 2 m.requestID ++ writeBytes 3 m.commandPayloadSHA256 ++
      writeInt 4 m.kind ++ writeMessage 5 m.event ++ writeInt 6 m.errorCode ++ writeBool 7 m.retryable

structure SocialRelationshipCommandResult where
  commandID : String
  commandPayloadSHA256 : Bytes
  kind : ℤ
  event : Option ResultMessages.SocialRelationshipEvent
  projection : Option ResultMessages.SocialRelationshipProjection
  errorCode : ℤ
  retryable : Bool
deriving DecidableEq

instance : Message SocialRelationshipCommandResult where
  empty :=
    { commandID := "", commandPayloadSHA256 := [], kind := 0, event := none, projection := none
      errorCode := 0, retryable := false }
  fields
    | 1 => some (.string fun v m => { m with commandID := v })
    | 2 => some (.bytes fun v m => { m with commandPayloadSHA256 := v })
    | 3 => some (.enumeration fun v m => { m with kind := v })
    | 4 => some (.message SocialRelationshipCommandResult.event fun v m => { m with event := some v })
    | 5 => some (.message SocialRelationshipCommandResult.projection fun v m => { m with projection := some v })
    | 6 => some (.enumeration fun v m => { m with errorCode := v })
    | 7 => some (.bool fun v m => { m with retryable := v })
    | _ => none
  encode m :=
    writeString 1 m.commandID ++ writeBytes 2 m.commandPayloadSHA256 ++ writeInt 3 m.kind ++
      writeMessage 4 m.event ++ writeMessage 5 m.projection ++ writeInt 6 m.errorCode ++ writeBool 7 m.retryable

end

/-- What a lookup uses of a terminal result. -/
class CommandResult (R : Type) where
  commandID : R → String
  commandPayloadSHA256 : R → Bytes
  kind : R → ℤ

instance [ResultMessages] : CommandResult FriendRequestCommandResult where
  commandID := FriendRequestCommandResult.commandID
  commandPayloadSHA256 := FriendRequestCommandResult.commandPayloadSHA256
  kind := FriendRequestCommandResult.kind

instance [ResultMessages] : CommandResult SocialRelationshipCommandResult where
  commandID := SocialRelationshipCommandResult.commandID
  commandPayloadSHA256 := SocialRelationshipCommandResult.commandPayloadSHA256
  kind := SocialRelationshipCommandResult.kind

structure LookupResponse (R : Type) where
  state : ℤ
  commandID : String
  commandPayloadSHA256 : Bytes
  terminalResult : Option R
deriving DecidableEq

instance {R : Type} [Message R] : Message (LookupResponse R) where
  empty := { state := 0, commandID := "", commandPayloadSHA256 := [], terminalResult := none }
  fields
    | 1 => some (.enumeration fun v m => { m with state := v })
    | 2 => some (.string fun v m => { m with commandID := v })
    | 3 => some (.bytes fun v m => { m with commandPayloadSHA256 := v })
    | 4 => some (.message LookupResponse.terminalResult fun v m => { m with terminalResult := some v })
    | _ => none
  encode m :=
    writeInt 1 m.state ++ writeString 2 m.commandID ++ writeBytes 3 m.commandPayloadSHA256 ++
      writeMessage 4 m.terminalResult

abbrev LookupFriendRequestCommandResultResponse [ResultMessages] : Type := LookupResponse FriendRequestCommandResult

abbrev LookupSocialRelationshipCommandResultResponse [ResultMessages] : Type :=
  LookupResponse SocialRelationshipCommandResult

/-! ### Decoding -/

inductive AuthoritativeLookupState where
  | notFound | acceptedPending | terminalResult | unresolved
deriving DecidableEq

inductive AuthoritativeResultKind where
  | committed | duplicate | rejected | conflict
deriving DecidableEq

structure AuthoritativeLookup where
  state : AuthoritativeLookupState
  commandID : String
  commandPayloadSHA256 : Bytes
  resultKind : Option AuthoritativeResultKind

def lookupState : ℤ → Except String AuthoritativeLookupState
  | 1 => .ok .notFound
  | 2 => .ok .acceptedPending
  | 3 => .ok .terminalResult
  | 4 => .ok .unresolved
  | 0 => .error "lookup state is unspecified"
  | _ => .error "lookup state is unknown"

def lookupResultKind : ℤ → Except String AuthoritativeResultKind
  | 1 => .ok .committed
  | 2 => .ok .duplicate
  | 3 => .ok .rejected
  | 4 => .ok .conflict
  | 0 => .error "terminal result kind is unspecified"
  | _ => .error "terminal result kind is unknown"

section

variable (R : Type) [Message R]

/-- Decode a lookup whose bytes are the ones the generated code writes. -/
def decodeCanonical (operation commandID detail : String) (bytes : Bytes) :
    LedgerResult (LookupResponse R) := do
  let lookup ← (Message.decode (LookupResponse R) bytes).mapError fun e =>
    .forCommand .serialization operation commandID (decodeErrorText e)
  failWhen (Message.encode lookup ≠ bytes) (.forCommand .invalidEnvelope operation commandID detail)
  return lookup

def LookupResponse.resultKind {R : Type} [CommandResult R] (lookup : LookupResponse R)
    (operation commandID : String) : LedgerResult (Option AuthoritativeResultKind) :=
  match lookup.terminalResult with
  | none => .ok none
  | some result => do
    failWhen (CommandResult.commandID result ≠ lookup.commandID ∨
      CommandResult.commandPayloadSHA256 result ≠ lookup.commandPayloadSHA256)
      (.forCommand .commandConflict operation commandID "terminal result identity or hash differs")
    some <$> (lookupResultKind (CommandResult.kind result)).mapError (.forCommand .invalidEnvelope operation commandID)

def decodeLookupAs [CommandResult R] (operation commandID : String) (exactLookupBytes : Bytes) :
    LedgerResult AuthoritativeLookup := do
  let lookup ← decodeCanonical R operation commandID
    "lookup bytes are not the canonical generated encoding" exactLookupBytes
  let state ← (lookupState lookup.state).mapError (.forCommand .invalidEnvelope operation commandID)
  let resultKind ← lookup.resultKind operation commandID
  return {
    state, commandID := lookup.commandID, commandPayloadSHA256 := lookup.commandPayloadSHA256
    resultKind }

end

variable [ResultMessages]

def decodeFriendRequestLookup (commandID : String) (exactLookupBytes : Bytes) :
    LedgerResult AuthoritativeLookup :=
  decodeLookupAs FriendRequestCommandResult "decode authoritative command lookup" commandID
    exactLookupBytes

def decodeSocialRelationshipLookup (commandID : String) (exactLookupBytes : Bytes) :
    LedgerResult AuthoritativeLookup :=
  decodeLookupAs SocialRelationshipCommandResult "decode authoritative relationship lookup"
    commandID exactLookupBytes

def decodeLookup (command : ValidatedCommand) (exactLookupBytes : Bytes) :
    LedgerResult AuthoritativeLookup :=
  match command.envelope.payload with
  | some (.friendRequest _) => decodeFriendRequestLookup command.commandID exactLookupBytes
  | some (.socialRelationship _) => decodeSocialRelationshipLookup command.commandID exactLookupBytes
  | none =>
    .error (.forCommand .invalidEnvelope "decode authoritative command lookup" command.commandID
      "generated command payload is missing")

end PeersTouch.Mobile
