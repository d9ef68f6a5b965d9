import PeersTouch.Chat.Invariant
import PeersTouch.Chat.Store

/-!
# The messages in the events of a conversation

`validateMessageCommand` of `application/command/service.go`, which every ordinary command passes
before it reaches the aggregate. It looks messages up in the table of events, where only the events
of new and forwarded messages are indexed by their message.

What it means for the events that a conversation accepts (`MessageLog`): no message is sent twice, and
an event about a message comes after the event of that message. Whether the message was retracted in
the meantime is not asked. Only the author edits or retracts a message.
-/

namespace PeersTouch.Chat

open Lib Method List
open Conversation

/-! ### The check -/

structure MessageIdentity where
  conversationID : ConversationID
  messageID : MessageID
  author : PTID
  eventID : EventID
  sequence : ℕ

def messageEvent (events : List Record) (conversationID : ConversationID) (messageID : MessageID) :
    Option Record :=
  events.find? fun row => row.conversationID = conversationID ∧ row.indexedMessageID = some messageID

/-- `eventRepository.GetMessageIdentity`, as a function of the rows. -/
def getMessageIdentity (events : List Record) (conversationID : ConversationID)
    (messageID : MessageID) : Except Error MessageIdentity := do
  let row ← orFail (messageEvent events conversationID messageID) (notFound "get message identity")
  return { row with messageID, author := row.actor.actor, eventID := row.id }

def messageRequired : Error := invalid "application.validate_message_command" "message_id" "is required"

def validateMessageCommand (events : List Record) (command : Command) : Except Error Unit :=
  let requireMessage := getMessageIdentity events command.conversationID
  match command.kind with
  | .messageCommitted | .messageForwarded => do
    failWhen (command.messageID = "") messageRequired
    let existing ← ifFound (requireMessage command.messageID)
    failWhen (existing ≠ none) (newError .commandConflict "application.validate_message_command" "message_id"
      "already exists in the conversation")
    forM [command.replyToMessageID, command.threadRootMessageID] fun target =>
      if target = "" then return () else discard (requireMessage target)
  | .messageEdited | .messageRetracted => do
    failWhen (command.messageID = "") messageRequired
    let identity ← requireMessage command.messageID
    failWhen (identity.author ≠ command.sender.actor)
      (newError .unauthorized "application.validate_message_command" "identity"
        "only the original message author may edit or retract it")
  | .messageHiddenForActor | .messageModerated => do
    failWhen (command.messageID = "") messageRequired
    discard (requireMessage command.messageID)
  | .reactionCommitted => do
    failWhen (command.messageID = "" ∨ command.reaction = "") (invalid "application.validate_message_command" "reaction"
      "message identity and reaction are required")
    discard (requireMessage command.messageID)
  | .messagePinCommitted => do
    failWhen (command.messageID = "") messageRequired
    discard (requireMessage command.messageID)
  | _ => return ()

def Kind.SendsMessage (k : Kind) : Prop := k = .messageCommitted ∨ k = .messageForwarded

def Kind.ConcernsMessage (k : Kind) : Prop := k.Ordinary ∧ ¬k.SendsMessage

variable {m : MessageID} {events : List Record} {c : ConversationID} {command : Command}

lemma Record.indexedMessageID_eq_some {r : Record} :
    r.indexedMessageID = some m ↔ r.fact.kind.SendsMessage ∧ r.fact.messageID = m := by
  unfold Record.indexedMessageID Kind.SendsMessage
  split <;> simp [*]

lemma getMessageIdentity_eq_ok {ident : MessageIdentity} (h : getMessageIdentity events c m = .ok ident) :
    ∃ r ∈ events, r.indexedMessageID = some m := by
  unfold getMessageIdentity at h
  simp only [ok_iff] at h
  obtain ⟨r, hr, -⟩ := h
  have hp := find?_some hr
  exact ⟨r, mem_of_find?_eq_some hr, (of_decide_eq_true hp).2⟩

lemma messageEvent_of_ifFound
    (h : ifFound (getMessageIdentity events c m) = .ok none) : messageEvent events c m = none := by
  unfold getMessageIdentity at h
  cases hr : messageEvent events c m with
  | none => rfl
  | some r =>
    rw [hr] at h
    cases h

lemma messageEvent_of_sends (hkind : command.kind.SendsMessage) (h : validateMessageCommand events command = .ok ()) :
    messageEvent events command.conversationID command.messageID = none := by
  unfold validateMessageCommand at h
  rcases hkind with hkind | hkind <;>
  · simp only [hkind, ok_iff, not_not] at h
    obtain ⟨-, existing, hexisting, rfl, -⟩ := h
    exact messageEvent_of_ifFound hexisting

lemma exists_message_of_concerns
    (hkind : command.kind.ConcernsMessage) (h : validateMessageCommand events command = .ok ()) :
    ∃ r ∈ events, r.indexedMessageID = some command.messageID := by
  obtain ⟨hord, hsends⟩ := hkind
  unfold validateMessageCommand at h
  cases hk : command.kind <;> rw [hk] at hord hsends
  case messageCommitted => exact absurd (.inl rfl) hsends
  case messageForwarded => exact absurd (.inr rfl) hsends
  case messageEdited | messageRetracted =>
    simp only [hk, ok_iff] at h
    obtain ⟨-, ident, hident, -⟩ := h
    exact getMessageIdentity_eq_ok hident
  case messageHiddenForActor | messageModerated | reactionCommitted | messagePinCommitted =>
    simp only [hk, ok_iff] at h
    obtain ⟨-, ident, hident⟩ := h
    exact getMessageIdentity_eq_ok hident
  all_goals exact hord.elim

/-! ### The events of a conversation -/

section

variable [Digest]

inductive MessageHistory : List Record → Conversation → Prop
  | created {creation : Creation} {c : Conversation} {t : Transition} :
      creation.run = .ok (c, t) → MessageHistory [t.event] c
  | accepted {events : List Record} {op : Operation} {c c' : Conversation} {t : Transition} :
      MessageHistory events c →
      (∀ command, op = .command command → validateMessageCommand events command = .ok ()) →
      op.run.call c = (.ok t, c') → MessageHistory (events ++ [t.event]) c'
  | refused {events : List Record} {op : Operation} {c c' : Conversation} {e : Error} :
      MessageHistory events c → op.run.call c = (.error e, c') → MessageHistory events c'

lemma MessageHistory.history {c : Conversation} (h : MessageHistory events c) : History events c := by
  induction h with
  | created hrun => exact .created hrun
  | accepted _ _ hrun ih => exact .accepted ih hrun
  | refused _ hrun ih => exact .refused ih hrun

structure MessageLog (events : List Record) (c : Conversation) : Prop where
  conversation : ∀ r ∈ events, r.conversationID = c.id
  once : ∀ r ∈ events, ∀ r' ∈ events, ∀ m,
    r.indexedMessageID = some m → r'.indexedMessageID = some m → r = r'
  /-- An event about a message comes after the message. -/
  concerns : ∀ r ∈ events, r.fact.kind.ConcernsMessage →
    ∃ sent ∈ events, sent.sequence < r.sequence ∧ sent.indexedMessageID = some r.fact.messageID

variable {op : Operation} {t : Transition}

lemma Operation.fact_of_run {c c' : Conversation} (h : op.run.call c = (.ok t, c')) :
    (∃ command, op = .command command ∧ command.conversationID = c.id ∧
    t.event.fact = Fact.newCommandCommitted command.kind command.messageID command.payload) ∨
    ¬t.event.fact.kind.Ordinary := by
  cases op with
  | command command =>
    obtain ⟨-, hval, -, hcom⟩ := applyCommand_returns.1 h
    refine .inl ⟨command, rfl, ?_, (committed_of_commit hcom).fact_eq⟩
    simp only [validateCommand, validateCommandBase, ok_iff, not_or, not_not] at hval
    exact hval.1.1.2.1
  | membership transition =>
    obtain ⟨-, cand, -, -, -, hcom⟩ := applyMembershipTransition_returns.1 h
    rw [(committed_of_commit hcom).fact_eq]
    exact .inr id
  | memberAuthority command =>
    obtain ⟨-, mutation, -, cand, -, -, -, hcom⟩ := applyMemberAuthority_returns.1 h
    rw [(committed_of_commit hcom).fact_eq]
    exact .inr id
  | settings command =>
    obtain ⟨-, -, -, hcom⟩ := updateSettings_returns.1 h
    rw [(committed_of_commit hcom).fact_eq]
    exact .inr id
  | dissolve command =>
    obtain ⟨-, -, -, hcom⟩ := dissolve_returns.1 h
    rw [(committed_of_commit hcom).fact_eq]
    exact .inr id
  | systemServiceMessage input =>
    obtain ⟨-, hcom⟩ := commitSystemServiceMessage_returns.1 h
    rw [(committed_of_commit hcom).fact_eq]
    exact .inr id

lemma Committed.conversation {c c' : Conversation} {fact : Fact} {time : Time} {sealer : Option Sealer}
    (h : Committed c fact time sealer t c') : t.event.conversationID = c.id ∧ c'.id = c.id := by
  obtain ⟨_, _, _, -, e⟩ := h.input
  rw [h.state, e]
  exact ⟨rfl, rfl⟩

omit [Digest] in
lemma Kind.SendsMessage.ordinary {k : Kind} (h : k.SendsMessage) : k.Ordinary := by rcases h with rfl | rfl <;> trivial

lemma MessageLog.accepted {c c' : Conversation} (hlog : MessageLog events c) (hlinked : Linked events c)
    (hchk : ∀ command, op = .command command → validateMessageCommand events command = .ok ())
    (h : op.run.call c = (.ok t, c')) : MessageLog (events ++ [t.event]) c' := by
  obtain ⟨cand, fact, hprepared, -, -, hcom⟩ := op.run_returns h
  obtain ⟨hconv, hid⟩ := hcom.conversation
  rw [hprepared.id] at hconv hid
  -- the new event comes after all others
  have hlast : ∀ r ∈ events, r.sequence < t.event.sequence := by
    intro r hr
    have hlinked' := hlinked.accepted h
    obtain ⟨k, hk, rfl⟩ := getElem_of_mem hr
    have hnew := hlinked'.sequence_getElem events.length (by simp)
    rw [getElem_concat_length rfl] at hnew
    rw [hlinked.sequence_getElem k hk]
    omega
  -- a message that it sends is new
  have hfresh : ∀ m, t.event.indexedMessageID = some m → ∀ r ∈ events, r.indexedMessageID ≠ some m := by
    intro m hm r hr
    obtain ⟨hsends, rfl⟩ := Record.indexedMessageID_eq_some.1 hm
    rcases op.fact_of_run h with ⟨command, rfl, hcmd, hfact⟩ | hord
    · rw [hfact] at hsends ⊢
      have hnone := messageEvent_of_sends hsends (hchk command rfl)
      simp only [messageEvent, List.find?_eq_none, decide_eq_true_eq, not_and] at hnone
      refine hnone r hr ?_
      rw [hlog.conversation r hr, hcmd]
    · exact absurd hsends.ordinary hord
  constructor
  case conversation =>
    intro r hr
    rcases mem_append.1 hr with hr | hr
    · rw [hlog.conversation r hr, hid]
    · rw [mem_singleton.1 hr, hconv, hid]
  case once =>
    intro r hr r' hr' m hm hm'
    rcases mem_append.1 hr with hr | hr <;> rcases mem_append.1 hr' with hr' | hr'
    · exact hlog.once r hr r' hr' m hm hm'
    · rw [mem_singleton.1 hr'] at hm'
      exact absurd hm (hfresh m hm' r hr)
    · rw [mem_singleton.1 hr] at hm
      exact absurd hm' (hfresh m hm r' hr')
    · rw [mem_singleton.1 hr, mem_singleton.1 hr']
  case concerns =>
    intro r hr hkind
    rcases mem_append.1 hr with hr | hr
    · obtain ⟨sent, hsent, hlt, hm⟩ := hlog.concerns r hr hkind
      exact ⟨sent, mem_append_left _ hsent, hlt, hm⟩
    · obtain rfl := mem_singleton.1 hr
      rcases op.fact_of_run h with ⟨command, rfl, hcmd, hfact⟩ | hord
      · rw [hfact] at hkind ⊢
        obtain ⟨sent, hsent, hm⟩ := exists_message_of_concerns hkind (hchk command rfl)
        exact ⟨sent, mem_append_left _ hsent, hlast sent hsent, hm⟩
      · exact absurd hkind.1 hord

lemma MessageHistory.messageLog {c : Conversation} (h : MessageHistory events c) : MessageLog events c := by
  induction h with
  | created hrun =>
    rename_i creation c t
    obtain ⟨c₀, fact, hgen, hcom⟩ := creation.run_returns hrun
    obtain ⟨hconv, hid⟩ := hcom.conversation
    have hord : ¬t.event.fact.kind.Ordinary := by
      rw [hcom.fact_eq, hgen.kind]
      exact id
    refine ⟨?_, ?_, ?_⟩
    · intro r hr
      rw [mem_singleton.1 hr, hconv, hid]
    · intro r hr r' hr' _ _ _
      rw [mem_singleton.1 hr, mem_singleton.1 hr']
    · intro r hr hkind
      rw [mem_singleton.1 hr] at hkind
      exact absurd hkind.1 hord
  | accepted hprior hchk hrun ih => exact ih.accepted hprior.history.linked hchk hrun
  | refused _ hrun ih =>
    rw [Operation.run_atomic _ _ _ _ hrun]
    exact ih

/-! ### Authors -/

def Kind.RewritesMessage (k : Kind) : Prop := k = .messageEdited ∨ k = .messageRetracted

omit [Digest] in
lemma author_of_rewrites (hkind : command.kind.RewritesMessage) (h : validateMessageCommand events command = .ok ()) :
    ∃ sent ∈ events, sent.indexedMessageID = some command.messageID ∧ sent.actor.actor = command.sender.actor := by
  unfold validateMessageCommand at h
  rcases hkind with hkind | hkind <;>
  · simp only [hkind, getMessageIdentity, ok_iff, not_not] at h
    obtain ⟨-, _, ⟨sent, hsent, rfl⟩, hauthor⟩ := h
    have hm := find?_some hsent
    exact ⟨sent, mem_of_find?_eq_some hsent, (of_decide_eq_true hm).2, hauthor⟩

lemma MessageHistory.exists_author {c : Conversation} (h : MessageHistory events c) :
    ∀ r ∈ events, r.fact.kind.RewritesMessage →
    ∃ sent ∈ events, sent.indexedMessageID = some r.fact.messageID ∧ sent.actor.actor = r.actor.actor := by
  induction h with
  | created hrun =>
    obtain ⟨c₀, fact, hgen, hcom⟩ := Creation.run_returns hrun
    intro r hr hkind
    rw [mem_singleton.1 hr, hcom.fact_eq, hgen.kind] at hkind
    rcases hkind with hkind | hkind <;> cases hkind
  | accepted _ hchk hrun ih =>
    intro r hr hkind
    rcases mem_append.1 hr with hr | hr
    · obtain ⟨sent, hsent, hauthor⟩ := ih r hr hkind
      exact ⟨sent, mem_append_left _ hsent, hauthor⟩
    · obtain rfl := mem_singleton.1 hr
      rcases Operation.fact_of_run hrun with ⟨command, rfl, -, hfact⟩ | hord
      · obtain ⟨-, -, -, hcom⟩ := applyCommand_returns.1 hrun
        rw [hfact] at hkind ⊢
        rw [actor_of_commit hcom]
        obtain ⟨sent, hsent, hauthor⟩ := author_of_rewrites hkind (hchk command rfl)
        exact ⟨sent, mem_append_left _ hsent, hauthor⟩
      · refine absurd ?_ hord
        rcases hkind with hkind | hkind <;> rw [hkind] <;> trivial
  | refused _ _ ih => exact ih

/-- **Only the author** of a message edits or retracts it, and only after it was sent. -/
def OnlyAuthorsRewrite (events : List Record) : Prop :=
  ∀ r ∈ events, r.fact.kind.RewritesMessage → ∃ sent ∈ events, sent.sequence < r.sequence ∧
    sent.indexedMessageID = some r.fact.messageID ∧ sent.actor.actor = r.actor.actor

end

section

attribute [local instance] checksum

end

end PeersTouch.Chat
