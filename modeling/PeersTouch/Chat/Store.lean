import PeersTouch.Chat.Operations

/-!
# The tables of a Station

What a Station keeps in its database, from `infrastructure/persistence`. A row is kept as the value
it was written from: the indexed columns of an event are read off the event, and a JSON column is the
value it encodes. The unique indexes of a table are checked where a row is added to it.
-/

namespace PeersTouch.Chat

open Lib Method

/-! ### Rows -/

inductive FollowerStatus where
  | active | resyncRequired | degraded | readOnly
deriving DecidableEq

/-- `ConversationFollowerHeadModel`. -/
structure FollowerHead where
  conversationID : ConversationID
  federationID : FederationID
  authorityStation : StationID
  (authorityEpoch sequence : ℕ)
  eventHash : Hash
  (membershipEpoch mlsEpoch : ℕ)
  snapshot : Snapshot
  updatedAt : Time

/-- `ConversationFollowerStateModel`. -/
structure FollowerState where
  conversationID : ConversationID
  status : FollowerStatus

/-- `ConversationFollowerMemberModel`. -/
structure FollowerMember where
  conversationID : ConversationID
  ptid : PTID
  status : MemberStatus

structure Station where
  /-- The conversations of which the Station is the authority. -/
  conversations : Registry Snapshot Snapshot.id
  events : List Record
  followerHeads : Registry FollowerHead FollowerHead.conversationID
  followerStates : Registry FollowerState FollowerState.conversationID
  followerMembers : List FollowerMember
  /-- The events that arrived at a follower before their turn. -/
  pendingEvents : List Record

def Station.empty : Station :=
  { conversations := ∅, events := [], followerHeads := ∅, followerStates := ∅
    followerMembers := [], pendingEvents := [] }

def notFound (operation : String) : Error := newError .notFound ("persistence." ++ operation) "record" "was not found"

def Error.IsCode (e : Error) (code : ErrorCode) : Prop := e.code = some code
deriving Decidable

/-- A value that may be missing: only an error other than `notFound` is passed on. -/
def ifFound {α : Type} : Except Error α → Except Error (Option α)
  | .ok a => .ok (some a)
  | .error e => if e.IsCode .notFound then .ok none else .error e

lemma ifFound_eq_some {α : Type} {x : Except Error α} {a : α} : ifFound x = .ok (some a) ↔ x = .ok a := by
  cases x with
  | ok b => simp [ifFound]
  | error e => by_cases h : e.IsCode .notFound <;> simp [ifFound, h]

/-! ### The events table -/

def Record.indexedMessageID (r : Record) : Option MessageID :=
  if r.fact.kind = .messageCommitted ∨ r.fact.kind = .messageForwarded then some r.fact.messageID
  else none

/-- The two events cannot be in the table together: one of its unique indexes forbids it. -/
def Record.Clashes (row event : Record) : Prop := row.id = event.id ∨ row.conversationID = event.conversationID ∧
      (row.sequence = event.sequence ∨ row.commandID = event.commandID ∨
        row.indexedMessageID ≠ none ∧ row.indexedMessageID = event.indexedMessageID)
deriving Decidable

section

variable [Digest] (sealer : Sealer)

/-- `eventRepository.Append`, as a function of the rows. -/
def appendEvent (events : List Record) (event : Record) : Except Error (List Record) := do
  let rehydrated ← event.verify sealer
  failWhen (∃ row ∈ events, row.Clashes rehydrated) (uncodedError "unique constraint failed")
  return events ++ [rehydrated]

def eventFromModel (row : Record) : Except Error Record := do
  let rehydrated ← row.rehydrate
  rehydrated.verify sealer

namespace Station

def append (event : Record) : Method Station Error Unit := do
  let s ← receiver
  let events ← appendEvent sealer s.events event
  assign { s with events }

def getBySequence (s : Station) (conversationID : ConversationID) (sequence : ℕ) :
    Except Error Record := do
  let row ← orFail (s.events.find? fun row => row.conversationID = conversationID ∧ row.sequence = sequence)
    (notFound "get event by sequence")
  eventFromModel sealer row

end Station

end

end PeersTouch.Chat
