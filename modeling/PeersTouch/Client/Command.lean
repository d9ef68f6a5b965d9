import PeersTouch.Client.Store
import PeersTouch.Lib.Protobuf

/-!
# Commands and their results on the wire

The protocol buffer messages a client reads to settle a command it has submitted: the two kinds of
command (`command.proto`), the authority's result and the event in it (`event.proto`), and the
enumerations of `conversation.proto` and `conversation_api.proto`.

The messages inside the `payload` of a command and of an event are a parameter (`Payloads`): the
functions modelled here read only the transition of a membership command from them, and otherwise
decode them and write them back.

The bytes of a local command do not say which kind of command they are. `not_chatCommand` is why
this does no harm: a member authority command with an operator is never read as a chat command,
because field 4 is a message in the one and a number in the other.
-/

namespace PeersTouch.Client

open Lib Protobuf Chat Field

/-- The messages in the `payload` of commands (fields 20 to 30) and of events (fields 20 to 32). A
record is merged into the payload that was read before it. -/
class Payloads where
  Intent : Type
  [decidableEqIntent : DecidableEq Intent]
  mergeIntent : ℕ → Bytes → Option Intent → Except DecodeError Intent
  encodeIntent : Intent → Bytes
  /-- `transition_id` of a `MembershipTransitionIntent`. -/
  transitionID : Intent → Option TransitionID
  Fact : Type
  [decidableEqFact : DecidableEq Fact]
  mergeFact : ℕ → Bytes → Option Fact → Except DecodeError Fact
  encodeFact : Fact → Bytes

instance [Payloads] : DecidableEq Payloads.Intent := Payloads.decidableEqIntent

instance [Payloads] : DecidableEq Payloads.Fact := Payloads.decidableEqFact

def decodeErrorText (e : DecodeError) : Error :=
  "failed to decode Protobuf message: " ++ match e with
    | .invalidVarint => "invalid varint"
    | .invalidKey => "invalid key value"
    | .invalidWireType => "invalid wire type value"
    | .invalidTag => "invalid tag value: 0"
    | .invalidString => "invalid string value: data is not UTF-8 encoded"
    | .unexpectedWireType _ _ => "invalid wire type"
    | .unexpectedEndGroup => "unexpected end group tag"
    | .recursionLimit => "recursion limit reached"
    | .bufferUnderflow => "buffer underflow"

/-- `M::decode(bytes).map_err(..)`. -/
def decodeAs (M : Type) [Message M] (context : String) (bytes : Bytes) : Except Error M :=
  match Message.decode M bytes with
  | .ok m => .ok m
  | .error e => .error (context ++ decodeErrorText e)

@[simp] lemma decodeAs_eq_ok {M : Type} [Message M] {context : String} {bytes : Bytes} {m : M} :
    decodeAs M context bytes = .ok m ↔ Message.decode M bytes = .ok m := by
  unfold decodeAs
  split <;> simp [*]

/-! ### Endpoints and times -/

structure CryptoEndpoint where
  ptid : PTID
  deviceID : DeviceID
deriving DecidableEq

instance : Message CryptoEndpoint where
  empty := { ptid := "", deviceID := "" }
  fields
    | 1 => some (.string fun v m => { m with ptid := v })
    | 2 => some (.string fun v m => { m with deviceID := v })
    | _ => none
  encode m := writeString 1 m.ptid ++ writeString 2 m.deviceID

structure Timestamp where
  (seconds nanos : ℤ)
deriving DecidableEq

instance : Message Timestamp where
  empty := { seconds := 0, nanos := 0 }
  fields
    | 1 => some (.int64 fun v m => { m with seconds := v })
    | 2 => some (.enumeration fun v m => { m with nanos := v })
    | _ => none
  encode m := writeInt 1 m.seconds ++ writeInt 2 m.nanos

/-! ### Commands -/

section

variable [Payloads]

structure ChatCommand where
  commandID : CommandID
  conversationID : ConversationID
  sender : Option CryptoEndpoint
  (observedMembershipEpoch observedMLSEpoch : ℤ)
  clientTimestamp : Option Timestamp
  deliveryPlanSHA256 : Bytes
  authorityStationPeerID : StationID
  payload : Option Payloads.Intent

instance : Message ChatCommand where
  empty :=
    { commandID := "", conversationID := "", sender := none, observedMembershipEpoch := 0
      observedMLSEpoch := 0, clientTimestamp := none, deliveryPlanSHA256 := []
      authorityStationPeerID := "", payload := none }
  fields
    | 1 => some (.string fun v m => { m with commandID := v })
    | 2 => some (.string fun v m => { m with conversationID := v })
    | 3 => some (.message ChatCommand.sender fun v m => { m with sender := some v })
    | 4 => some (.int64 fun v m => { m with observedMembershipEpoch := v })
    | 5 => some (.int64 fun v m => { m with observedMLSEpoch := v })
    | 6 => some (.message ChatCommand.clientTimestamp fun v m => { m with clientTimestamp := some v })
    | 7 => some (.bytes fun v m => { m with deliveryPlanSHA256 := v })
    | 8 => some (.string fun v m => { m with authorityStationPeerID := v })
    | tag =>
      if 20 ≤ tag ∧ tag ≤ 30 then
        some (.delimited fun v m => do
          let intent ← Payloads.mergeIntent tag v m.payload
          return { m with payload := some intent })
      else none
  encode m :=
    writeString 1 m.commandID ++ writeString 2 m.conversationID ++ writeMessage 3 m.sender ++
      writeInt 4 m.observedMembershipEpoch ++ writeInt 5 m.observedMLSEpoch ++
      writeMessage 6 m.clientTimestamp ++ writeBytes 7 m.deliveryPlanSHA256 ++
      writeString 8 m.authorityStationPeerID ++ (m.payload.map Payloads.encodeIntent).getD []

structure ConversationMemberAuthorityCommand where
  version : ℕ
  commandID : CommandID
  conversationID : ConversationID
  operator : Option CryptoEndpoint
  targetPTID : PTID
  action : ℤ
  role : Option ℤ
  muted : Option Bool
  mutedUntil : Option Timestamp
  federationID : String
  authorityStationPeerID : StationID
  (authorityEpoch authoritySequence : ℤ)
  authorityHash : Bytes
  (observedMembershipEpoch observedMLSEpoch : ℤ)
  (clientTimestamp deadline : Option Timestamp)

instance : Message ConversationMemberAuthorityCommand where
  empty :=
    { version := 0, commandID := "", conversationID := "", operator := none, targetPTID := ""
      action := 0, role := none, muted := none, mutedUntil := none, federationID := ""
      authorityStationPeerID := "", authorityEpoch := 0, authoritySequence := 0
      authorityHash := [], observedMembershipEpoch := 0, observedMLSEpoch := 0
      clientTimestamp := none, deadline := none }
  fields
    | 1 => some (.uint32 fun v m => { m with version := v })
    | 2 => some (.string fun v m => { m with commandID := v })
    | 3 => some (.string fun v m => { m with conversationID := v })
    | 4 => some (.message ConversationMemberAuthorityCommand.operator fun v m => { m with operator := some v })
    | 5 => some (.string fun v m => { m with targetPTID := v })
    | 6 => some (.enumeration fun v m => { m with action := v })
    | 7 => some (.enumeration fun v m => { m with role := some v })
    | 8 => some (.bool fun v m => { m with muted := some v })
    | 9 => some (.message ConversationMemberAuthorityCommand.mutedUntil fun v m => { m with mutedUntil := some v })
    | 10 => some (.string fun v m => { m with federationID := v })
    | 11 => some (.string fun v m => { m with authorityStationPeerID := v })
    | 12 => some (.int64 fun v m => { m with authorityEpoch := v })
    | 13 => some (.int64 fun v m => { m with authoritySequence := v })
    | 14 => some (.bytes fun v m => { m with authorityHash := v })
    | 15 => some (.int64 fun v m => { m with observedMembershipEpoch := v })
    | 16 => some (.int64 fun v m => { m with observedMLSEpoch := v })
    | 17 => some (.message ConversationMemberAuthorityCommand.clientTimestamp fun v m =>
      { m with clientTimestamp := some v })
    | 18 => some (.message ConversationMemberAuthorityCommand.deadline fun v m => { m with deadline := some v })
    | _ => none
  encode m :=
    writeInt 1 m.version ++ writeString 2 m.commandID ++ writeString 3 m.conversationID ++
      writeMessage 4 m.operator ++ writeString 5 m.targetPTID ++ writeInt 6 m.action ++
      (m.role.map (writeAlways 7)).getD [] ++ (m.muted.map fun muted => writeAlways 8 muted.toNat).getD [] ++
      writeMessage 9 m.mutedUntil ++ writeString 10 m.federationID ++
      writeString 11 m.authorityStationPeerID ++ writeInt 12 m.authorityEpoch ++
      writeInt 13 m.authoritySequence ++ writeBytes 14 m.authorityHash ++
      writeInt 15 m.observedMembershipEpoch ++ writeInt 16 m.observedMLSEpoch ++
      writeMessage 17 m.clientTimestamp ++ writeMessage 18 m.deadline

/-! ### Results -/

structure ConversationEvent where
  eventID : EventID
  conversationID : ConversationID
  sequence : ℤ
  commandID : CommandID
  actor : Option CryptoEndpoint
  (previousHash eventHash : Bytes)
  committedAt : Option Timestamp
  deliveryCommitments : List Bytes
  (membershipEpoch mlsEpoch : ℤ)
  authorityStationPeerID : StationID
  payload : Option Payloads.Fact
deriving DecidableEq

instance : Message ConversationEvent where
  empty :=
    { eventID := "", conversationID := "", sequence := 0, commandID := "", actor := none
      previousHash := [], eventHash := [], committedAt := none, deliveryCommitments := []
      membershipEpoch := 0, mlsEpoch := 0, authorityStationPeerID := "", payload := none }
  fields
    | 1 => some (.string fun v m => { m with eventID := v })
    | 2 => some (.string fun v m => { m with conversationID := v })
    | 3 => some (.int64 fun v m => { m with sequence := v })
    | 4 => some (.string fun v m => { m with commandID := v })
    | 5 => some (.message ConversationEvent.actor fun v m => { m with actor := some v })
    | 6 => some (.bytes fun v m => { m with previousHash := v })
    | 7 => some (.bytes fun v m => { m with eventHash := v })
    | 8 => some (.message ConversationEvent.committedAt fun v m => { m with committedAt := some v })
    | 9 => some (.bytes fun v m => { m with deliveryCommitments := m.deliveryCommitments ++ [v] })
    | 10 => some (.int64 fun v m => { m with membershipEpoch := v })
    | 11 => some (.int64 fun v m => { m with mlsEpoch := v })
    | 12 => some (.string fun v m => { m with authorityStationPeerID := v })
    | tag =>
      if 20 ≤ tag ∧ tag ≤ 32 then
        some (.delimited fun v m => do
          let fact ← Payloads.mergeFact tag v m.payload
          return { m with payload := some fact })
      else none
  encode m :=
    writeString 1 m.eventID ++ writeString 2 m.conversationID ++ writeInt 3 m.sequence ++
      writeString 4 m.commandID ++ writeMessage 5 m.actor ++ writeBytes 6 m.previousHash ++
      writeBytes 7 m.eventHash ++ writeMessage 8 m.committedAt ++
      m.deliveryCommitments.flatMap (writeDelimited 9) ++ writeInt 10 m.membershipEpoch ++
      writeInt 11 m.mlsEpoch ++ writeString 12 m.authorityStationPeerID ++ (m.payload.map Payloads.encodeFact).getD []

structure ConversationCommandProposalResult where
  commandID : CommandID
  accepted : Bool
  event : Option ConversationEvent
  rejectCode : ℤ
  retryable : Bool
  (retryAfterUnixMs requiredMembershipEpoch requiredMLSEpoch authoritySequence : ℤ)
  authorityEventHash : Bytes
deriving DecidableEq

instance : Message ConversationCommandProposalResult where
  empty :=
    { commandID := "", accepted := false, event := none, rejectCode := 0, retryable := false
      retryAfterUnixMs := 0, requiredMembershipEpoch := 0, requiredMLSEpoch := 0
      authoritySequence := 0, authorityEventHash := [] }
  fields
    | 1 => some (.string fun v m => { m with commandID := v })
    | 2 => some (.bool fun v m => { m with accepted := v })
    | 3 => some (.message ConversationCommandProposalResult.event fun v m => { m with event := some v })
    | 4 => some (.enumeration fun v m => { m with rejectCode := v })
    | 5 => some (.bool fun v m => { m with retryable := v })
    | 6 => some (.int64 fun v m => { m with retryAfterUnixMs := v })
    | 7 => some (.int64 fun v m => { m with requiredMembershipEpoch := v })
    | 8 => some (.int64 fun v m => { m with requiredMLSEpoch := v })
    | 9 => some (.int64 fun v m => { m with authoritySequence := v })
    | 10 => some (.bytes fun v m => { m with authorityEventHash := v })
    | _ => none
  encode m :=
    writeString 1 m.commandID ++ writeBool 2 m.accepted ++ writeMessage 3 m.event ++
      writeInt 4 m.rejectCode ++ writeBool 5 m.retryable ++ writeInt 6 m.retryAfterUnixMs ++
      writeInt 7 m.requiredMembershipEpoch ++ writeInt 8 m.requiredMLSEpoch ++
      writeInt 9 m.authoritySequence ++ writeBytes 10 m.authorityEventHash

structure ConversationCommandResultDelivery where
  conversationID : ConversationID
  commandID : CommandID
  state : ℤ
  result : Option ConversationCommandProposalResult
deriving DecidableEq

instance : Message ConversationCommandResultDelivery where
  empty := { conversationID := "", commandID := "", state := 0, result := none }
  fields
    | 1 => some (.string fun v m => { m with conversationID := v })
    | 2 => some (.string fun v m => { m with commandID := v })
    | 3 => some (.enumeration fun v m => { m with state := v })
    | 4 => some (.message ConversationCommandResultDelivery.result fun v m => { m with result := some v })
    | _ => none
  encode m := writeString 1 m.conversationID ++ writeString 2 m.commandID ++ writeInt 3 m.state ++ writeMessage 4 m.result

/-! ### Which kind of command -/

omit [Payloads] in
lemma keeps_operator {tag : ℕ} {field : Protobuf.Field ConversationMemberAuthorityCommand}
    (hfld : Message.fields tag = some field) (htag : tag ≠ 4) : field.Keeps fun m => m.operator = none := by
  simp only [Message.fields] at hfld
  split at hfld
  case h_4 => exact absurd rfl htag
  all_goals cases hfld
  all_goals
    first
    | exact keeps_varint fun _ _ h => h
    | exact keeps_bytes fun _ _ h => h
    | exact keeps_string fun _ _ h => h
    | exact keeps_message fun _ _ h => h

lemma not_chatCommand {bytes : Bytes} {cmd : ConversationMemberAuthorityCommand}
    (h : Message.decode ConversationMemberAuthorityCommand bytes = .ok cmd)
    (hoperator : cmd.operator ≠ none) (chat : ChatCommand) : Message.decode ChatCommand bytes ≠ .ok chat := by
  intro hchat
  apply hoperator
  refine mergeLoop_invariant (P := fun m => m.operator = none) h ?_ rfl
  intro key hkey field hfld
  exact keeps_operator hfld (tag_ne_of_wire_ne h hchat hkey rfl rfl nofun)

end

end PeersTouch.Client
