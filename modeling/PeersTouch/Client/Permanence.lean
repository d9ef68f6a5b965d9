import PeersTouch.Chat.Membership
import PeersTouch.Chat.MessageLog
import PeersTouch.Client.AuthorityChain
import PeersTouch.Client.MessageContent

/-!
# Whether a redaction is permanent

A conversation of the Station and a device that consumes its events. The Station accepts a message
once and an event about a message only after it (`MessageLog`), and a device applies an event only
above the head, so the event of a redacted message cannot come again. Nothing keeps the other writes
away from a redacted message: neither the Station nor the commits of the device ask whether the message
of an edit, a reaction or a pin was retracted.

The main theorem says that these writes are all that is needed to undo a redaction: in every run
without them, what was redacted stays bare.
-/

namespace PeersTouch.Client

open Lib Chat Messages Option Store Body KeyedTable Prod

/-! ### The commits of a device -/

inductive DeviceCommit where
  | direct (input : DirectReceiveCommit) (failPoint : ReceiveFailPoint)
  | group (input : MlsReceiveCommit) (failPoint : ReceiveFailPoint)
  | publicEvent (input : PublicEventReceiveCommit)
  | service (input : ServicePlaintextReceiveCommit)
  | interaction (files : FileSystem) (input : InteractionReceiveCommit)
  | directEdit (input : DirectEditCommit)
  | skipped (input : SkippedEndpointReceiveCommit)
  /-- Any other event. It carries no message, and its closure does not write the messages. -/
  | other (input : EventReceive) (eventSequence : ℤ)
      (applyCrypto : Background → Except Error Background)

open DeviceCommit

def Body.applyBackground (applyCrypto : Background → Except Error Background) (b : Body) :
    Except Error Body := do
  let background ← applyCrypto b.background
  return { b with background }

namespace DeviceCommit

def core : DeviceCommit → ReceiveCommitCore
  | direct input _ => input.core input.projection.eventSequence (some input.projection)
  | group input _ => input.core input.projection.eventSequence (some input.projection)
  | publicEvent input => input.core input.eventSequence none
  | service input => input.core input.eventSequence (some input.projection)
  | interaction _ input => input.core input.eventSequence none
  | directEdit input => input.core input.eventSequence none
  | skipped input => input.core input.eventSequence none
  | other input eventSequence _ => input.core eventSequence none

def sends : DeviceCommit → Option MessageID
  | direct input _ => some input.projection.messageID
  | group input _ => some input.projection.messageID
  | publicEvent input => some input.messageID
  | _ => none

/-- The message to which a commit adds without bringing its event: an edit, a reaction, a pin, or a
message of a service, whose identifier the Station does not check. -/
def revives : DeviceCommit → Option MessageID
  | service input => some input.messageID
  | interaction _ input =>
    match input.mutation with
    | .edit _ _ | .reaction _ _ false _ | .pin _ false _ => some input.messageID
    | _ => none
  | directEdit input => some input.messageID
  | _ => none

def redacts : DeviceCommit → Option (MessageID × MessageRedactionPlan)
  | interaction _ input =>
    input.mutation.redactionKind.map fun kind => (input.messageID, (input.redactionInput kind).plan)
  | _ => none

structure Brings (d : DeviceCommit) (r : Record) : Prop where
  conversation : d.core.conversationID = r.conversationID
  sequence : d.core.eventSequence = r.sequence
  sends : ∀ m ∈ d.sends, r.indexedMessageID = some m
  redacts : ∀ p ∈ d.redacts, r.fact.kind.ConcernsMessage ∧ r.fact.messageID = p.1

structure Gentle (c : ConversationID) (d : DeviceCommit) (s : Store) : Prop where
  revives : ∀ m ∈ d.revives, ¬s.body.messages.Redacted c m
  redacts : ∀ p ∈ d.redacts, trimSpace p.1 = p.1

variable [Content] [Digest]

def run : DeviceCommit → Store → Except Error (ReceiveCommitResult × Store)
  | direct input failPoint => commitDirectReceive input failPoint
  | group input failPoint => commitMlsReceive input failPoint
  | publicEvent input => commitPublicEvent input
  | service input => commitServicePlaintextReceive input
  | interaction files input => commitInteractionEvent files input
  | directEdit input => commitDirectEdit input
  | skipped input => commitSkippedEndpointPayload input
  | other input eventSequence applyCrypto =>
    commitReceiveCore (input.core eventSequence none) .none (Body.applyBackground applyCrypto)

omit [Content] [Digest] in
/-- What the commit of an event that becomes the head does to the messages. -/
inductive Effect (d : DeviceCommit) (t t' : Messages) : Prop
  | quiet (h : ∀ m, t.AddsNothing d.core.conversationID m t')
      (htombstones : t'.tombstones = t.tombstones)
  | writes (m : MessageID) (hm : m ∈ d.sends ∨ m ∈ d.revives)
      (h : t.Concerns d.core.conversationID m t')
  | redacts (p : MessageID × MessageRedactionPlan) (hp : p ∈ d.redacts) (h : t' = t.redact p.2)

omit [Content] [Digest] in
lemma Effect.of_eq {d : DeviceCommit} {t t' : Messages} (h : t' = t) : d.Effect t t' := by
  subst h
  exact .quiet (fun _ => .refl _) rfl

end DeviceCommit

/-! ### The closures -/

variable {m : MessageID}

section

variable [Content]
  {b b' : Body}

lemma concerns_of_applyDirectEdit {input : DirectEditCommit} (h : b.applyDirectEdit input = .ok b') :
    b.messages.Concerns input.conversationID input.messageID b'.messages := by
  unfold applyDirectEdit at h
  simp only [ok_iff] at h
  obtain ⟨background, -, -, rfl⟩ := h
  exact (concerns_edit _ _).trans (concerns_refreshIndex _)

variable {c : ConversationID}

lemma concerns_of_applyPublicEvent {input : PublicEventReceiveCommit} (h : b.applyPublicEvent input = .ok b') :
    b.messages.Concerns c input.messageID b'.messages := by
  unfold applyPublicEvent at h
  simp only [ok_iff] at h
  obtain ⟨pending, -, -, descriptors, -, -, privateContent, -, persisted, hpers, projected,
    hproj, background, -, rfl⟩ := h
  have hnew : ¬(ProjectionRow.ofAccepted input pending.plaintext).Marked := by rintro (hmark | hmark) <;> cases hmark
  exact (concerns_senderContent hpers).trans (concerns_insertProjection hnew hproj)

omit [Content] in
lemma concerns_of_applyServiceMessage {input : ServicePlaintextReceiveCommit}
    (h : b.applyServiceMessage input = .ok b') : b.messages.Concerns c m b'.messages := by
  unfold applyServiceMessage at h
  simp only [ok_iff] at h
  obtain ⟨serviceMessages, -, rfl⟩ := h
  exact concerns_of_rows_eq rfl (fun _ h => .inl h) (fun _ h => .inl h) (fun _ h => .inl h) (fun _ h => .inl h) rfl

variable [Digest]
  {redaction : Option (MessageRedactionPlan × PreparedMessageRedactionCleanup)}
  {input : InteractionReceiveCommit} {files : FileSystem}
  {t : Messages}

lemma effect_of_applyMutation (hprep : input.prepare files t = .ok redaction)
    (h : b.applyMutation input redaction = .ok b') : (interaction files input).Effect b.messages b'.messages := by
  -- the plan of a redaction is the one that the interaction asks for
  have hplan : ∀ kind, input.mutation.redactionKind = some kind →
      redaction.map fst = some (input.redactionInput kind).plan := by
    intro kind hkind
    unfold InteractionReceiveCommit.prepare at hprep
    rw [hkind] at hprep
    simp only [ok_iff] at hprep
    obtain ⟨plan, hplan, rfl⟩ := hprep
    simp only [prepareMessageRedaction, ok_iff] at hplan
    rw [← hplan.2.2.2.2]
    rfl
  unfold applyMutation at h
  cases hmut : input.mutation with
  | observeOnly =>
    simp only [hmut, pure_eq_ok] at h
    subst h
    exact .of_eq rfl
  | edit text time =>
    simp only [hmut, ok_iff] at h
    obtain ⟨-, edited, -, rfl⟩ := h
    refine .writes input.messageID (.inr ?_) ((concerns_edit _ _).trans (concerns_refreshIndex _))
    simp [revives, hmut]
  | retract | hideForActor =>
    simp only [hmut, ok_iff] at h
    obtain ⟨⟨plan, prepared⟩, rfl, h⟩ := h
    have hplan := hplan _ (by rw [hmut]; rfl)
    unfold applyMessageRedaction at h
    simp only [ok_iff] at h
    obtain ⟨-, -, -, journal, -, cleanupItems, -, rfl⟩ := h
    refine .redacts (input.messageID, plan) ?_ rfl
    rw [map_some, some.injEq] at hplan
    simp only [redacts, hmut, InteractionMutation.redactionKind, map_some, mem_some_iff]
    rw [← hplan]
  | moderate moderator reason time =>
    simp only [hmut, ok_iff] at h
    obtain ⟨-, messages, hmsgs, rfl⟩ := h
    obtain ⟨hquiet, htombs⟩ := moderate_eq_ok hmsgs
    exact .quiet hquiet htombs
  | reaction actor text removed time =>
    simp only [hmut, ok_iff] at h
    obtain ⟨-, rfl⟩ := h
    cases removed with
    | true => exact .quiet (fun m => { AddsNothing.refl (m := m) b.messages with
      reactions := fun r hr hm => ⟨r, (mem_delete.1 hr).1, hm⟩ }) rfl
    | false =>
      refine .writes input.messageID (.inr ?_) (concerns_react _ _ _ _)
      simp [revives, hmut]
  | pin actor removed time =>
    simp only [hmut, ok_iff] at h
    obtain ⟨-, rfl⟩ := h
    cases removed with
    | true => exact .quiet (fun m => { AddsNothing.refl (m := m) b.messages with
      pins := fun p hp hk => ⟨p, (mem_delete.1 hp).1, hk⟩ }) rfl
    | false =>
      refine .writes input.messageID (.inr ?_) (concerns_pin _ _ _ _)
      simp [revives, hmut]

lemma effect_of_applyInteraction (hprep : input.prepare files t = .ok redaction)
    (h : b.applyInteraction input redaction = .ok b') : (interaction files input).Effect b.messages b'.messages := by
  unfold applyInteraction at h
  simp only [ok_iff] at h
  obtain ⟨background, -, -, mutated, hmutated, background', -, rfl⟩ := h
  have heff := effect_of_applyMutation hprep hmutated
  exact heff

namespace DeviceCommit

variable {d : DeviceCommit} {result : ReceiveCommitResult}

lemma exists_receive {s s' : Store} (h : d.run s = .ok (result, s')) : ∃ failPoint applyCrypto,
    commitReceiveCore d.core failPoint applyCrypto s = .ok (result, s') ∧ ∀ b t, applyCrypto s.body = .ok b →
    b.messages.project d.core.projection failPoint = .ok t → d.Effect s.body.messages t := by
  cases d with
  | direct input failPoint =>
    unfold run commitDirectReceive at h
    simp only [ok_iff] at h
    refine ⟨failPoint, _, h.2.2.2, ?_⟩
    intro b t hb ht
    unfold applyDirectMessage at hb
    simp only [ok_iff] at hb
    obtain ⟨background, -, rfl⟩ := hb
    exact .writes _ (.inl rfl) (concerns_project ht)
  | group input failPoint =>
    unfold run commitMlsReceive at h
    simp only [ok_iff] at h
    refine ⟨failPoint, _, h.2.2, ?_⟩
    intro b t hb ht
    obtain rfl := Except.ok.inj hb
    exact .writes _ (.inl rfl) (concerns_project ht)
  | publicEvent input =>
    unfold run commitPublicEvent at h
    simp only [ok_iff] at h
    refine ⟨.none, _, h.2.2, ?_⟩
    intro b t hb ht
    rw [project_none ht]
    exact .writes _ (.inl rfl) (concerns_of_applyPublicEvent hb)
  | service input =>
    unfold run commitServicePlaintextReceive at h
    simp only [ok_iff] at h
    refine ⟨.none, _, h.2.2.2, ?_⟩
    intro b t hb ht
    exact .writes _ (.inr rfl) ((concerns_of_applyServiceMessage hb).trans (concerns_project ht))
  | interaction files input =>
    unfold run commitInteractionEvent at h
    simp only [ok_iff] at h
    obtain ⟨-, redaction, hprep, h⟩ := h
    refine ⟨.none, _, h, ?_⟩
    intro b t hb ht
    rw [project_none ht]
    exact effect_of_applyInteraction hprep hb
  | directEdit input =>
    unfold run commitDirectEdit at h
    simp only [ok_iff] at h
    refine ⟨.none, _, h.2, ?_⟩
    intro b t hb ht
    rw [project_none ht]
    exact .writes _ (.inr rfl) (concerns_of_applyDirectEdit hb)
  | skipped input =>
    refine ⟨.none, _, h, ?_⟩
    intro b t hb ht
    obtain rfl := Except.ok.inj hb
    exact .of_eq (project_none ht)
  | other input eventSequence applyCrypto =>
    refine ⟨.none, _, h, ?_⟩
    intro b t hb ht
    rw [project_none ht]
    unfold applyBackground at hb
    simp only [ok_iff] at hb
    obtain ⟨background, -, rfl⟩ := hb
    exact .of_eq rfl

lemma run_eq_ok {s s' : Store} (h : d.run s = .ok (result, s')) : s'.chain = s.chain ∧ s'.body.messages = s.body.messages ∨
    s.Advances d.core ∧ s'.chain.heads = s.chain.heads.upsert d.core.head ∧
    d.Effect s.body.messages s'.body.messages := by
  obtain ⟨failPoint, applyCrypto, hrecv, heff⟩ := exists_receive h
  rw [commitReceiveCore_eq_ok] at hrecv
  rcases hrecv.2 with ⟨-, -, rfl⟩ | ⟨-, -, -, -, lane, -, rfl⟩ |
    ⟨-, hadv, -, -, -, body, messages, chain, lane, hbody, hmsgs, hch, -, rfl⟩
  · exact .inl ⟨rfl, rfl⟩
  · exact .inl ⟨rfl, rfl⟩
  · obtain ⟨-, -, rfl⟩ := Chain.record_eq_ok.1 hch
    exact .inr ⟨hadv, rfl, heff body messages hbody hmsgs⟩

end DeviceCommit

end

/-! ### Runs -/

def Store.Passed (events : List Record) (c : ConversationID) (m : MessageID) (s : Store) : Prop :=
  ∃ sent ∈ events, sent.indexedMessageID = some m ∧
    ∃ head, s.chain.heads.find c = some head ∧ (sent.sequence : ℤ) ≤ head.eventSequence

structure Store.Local (events : List Record) (c : ConversationID) (s s' : Store) : Prop where
  heads : s'.chain.heads.find c = s.chain.heads.find c
  addsNothing : ∀ m, s.Passed events c m → s.body.messages.AddsNothing c m s'.body.messages
  redacted : ∀ m, s'.body.messages.Redacted c m → s.body.messages.Redacted c m
  buried : ∀ m, s.body.messages.Buried c m → s'.body.messages.Buried c m

variable {c : ConversationID}
  {events : List Record}

lemma Store.Local.of_addsNothing {s s' : Store} (hch : s'.chain = s.chain)
    (h : ∀ m, s.body.messages.AddsNothing c m s'.body.messages)
    (htombs : s'.body.messages.tombstones = s.body.messages.tombstones) : s.Local events c s' where
  heads := by rw [hch]
  addsNothing m _ := h m
  redacted m hm := (Concerns.of_addsNothing (m := m) h htombs).redacted hm
  buried m hm := by
    unfold Buried at hm ⊢
    rwa [htombs]

lemma Store.Local.of_eq {s s' : Store} (hch : s'.chain = s.chain)
    (h : s'.body.messages = s.body.messages) : s.Local events c s' := by
  refine .of_addsNothing hch ?_ ?_ <;> rw [h]
  exact fun m => .refl _

section

variable [Content] [Digest]

inductive Store.DeviceStep (events : List Record) (c : ConversationID)
    (Allowed : DeviceCommit → Store → Prop) : Store → Store → Prop
  | commit {d : DeviceCommit} {r : Record} {result : ReceiveCommitResult} {s s' : Store}
      (hr : r ∈ events) (hbrings : d.Brings r) (hallowed : Allowed d s)
      (h : d.run s = .ok (result, s')) : DeviceStep events c Allowed s s'
  | here {s s' : Store} (h : s.Local events c s') : DeviceStep events c Allowed s s'

lemma Store.DeviceStep.mono {events : List Record} {Allowed Allowed' : DeviceCommit → Store → Prop} (hallowed : ∀ d s,
    Allowed d s → Allowed' d s) {s s' : Store} (h : Store.DeviceStep events c Allowed s s') :
    Store.DeviceStep events c Allowed' s s' := by
  cases h with
  | commit hr hbrings h hrun => exact .commit hr hbrings (hallowed _ _ h) hrun
  | here h => exact .here h

abbrev Store.DeviceRun (events : List Record) (c : ConversationID)
    (Allowed : DeviceCommit → Store → Prop) : Store → Store → Prop :=
  Relation.ReflTransGen (Store.DeviceStep events c Allowed)

end

/-! ### The invariant -/

/-- Whatever is redacted has a tombstone, nothing is left of it, and its event was passed. -/
structure Store.Settled (events : List Record) (c : ConversationID) (s : Store) : Prop where
  buried : ∀ m, s.body.messages.Redacted c m → s.body.messages.Buried c m
  bare : ∀ m, s.body.messages.Buried c m → s.body.messages.Bare c m
  passed : ∀ m, s.body.messages.Buried c m → s.Passed events c m

lemma Store.settled_empty (events : List Record) (c : ConversationID) : empty.Settled events c where
  buried := by
    rintro m (⟨r, hr, -⟩ | ⟨x, hx, -⟩)
    · cases hr
    · cases hx
  bare := by
    rintro m ⟨x, hx, -⟩
    cases hx
  passed := by
    rintro m ⟨x, hx, -⟩
    cases hx

lemma Store.Settled.of_local {s s' : Store} (hs : s.Settled events c) (h : s.Local events c s') : s'.Settled events c := by
  have hbur : ∀ m, s'.body.messages.Buried c m → s.body.messages.Buried c m :=
    fun m hm => hs.buried m (h.redacted m (.inr hm))
  refine ⟨?_, ?_, ?_⟩
  · intro m hm
    exact h.buried m (hs.buried m (h.redacted m hm))
  · intro m hm
    exact (h.addsNothing m (hs.passed m (hbur m hm))).bare (hs.bare m (hbur m hm))
  · intro m hm
    unfold Store.Passed
    rw [h.heads]
    exact hs.passed m (hbur m hm)

lemma Store.Passed.mono {d : ReceiveCommitCore} {s s' : Store}
    (hadv : s.Advances d) (hhds : s'.chain.heads = s.chain.heads.upsert d.head)
    (h : s.Passed events d.conversationID m) : s'.Passed events d.conversationID m := by
  obtain ⟨sent, hsent, hidx, head, hhead, hle⟩ := h
  refine ⟨sent, hsent, hidx, d.head, ?_, ?_⟩
  · rw [hhds, find_upsert]
    exact if_pos rfl
  · have habove := hadv.above hhead
    show _ ≤ d.eventSequence
    omega

section

variable [Content] [Digest] {events : List Record} {conv : Chat.Conversation} {d : DeviceCommit}
  {r : Record} {s s' : Store}

omit [Content] [Digest] in
lemma DeviceCommit.Gentle.not_buried (hgentle : d.Gentle d.core.conversationID s) (hlog : MessageLog events conv)
    (hr : r ∈ events) (hbrings : d.Brings r) (hs : s.Settled events d.core.conversationID) (hadv : s.Advances d.core)
    (hm : m ∈ d.sends ∨ m ∈ d.revives) : ¬s.body.messages.Buried d.core.conversationID m := by
  intro hbur
  rcases hm with hm | hm
  · -- the event of the message would have been passed
    obtain ⟨sent, hsent, hidx, head, hhead, hle⟩ := hs.passed m hbur
    obtain rfl := hlog.once sent hsent r hr m hidx (hbrings.sends m hm)
    have habove := hadv.above hhead
    rw [hbrings.sequence] at habove
    omega
  · exact hgentle.revives m hm (.inr hbur)

omit [Content] [Digest] in
lemma Store.Settled.of_effect (hlog : MessageLog events conv) (hr : r ∈ events)
    (hbrings : d.Brings r) (hgentle : d.Gentle d.core.conversationID s)
    (hs : s.Settled events d.core.conversationID) (hadv : s.Advances d.core)
    (hhds : s'.chain.heads = s.chain.heads.upsert d.core.head) (heff : d.Effect s.body.messages s'.body.messages) :
    s'.Settled events d.core.conversationID ∧ ∀ m, s.body.messages.Buried d.core.conversationID m →
    s'.body.messages.Buried d.core.conversationID m := by
  have hpassed : ∀ m, s.body.messages.Buried d.core.conversationID m → s'.Passed events d.core.conversationID m :=
    fun m hm => (hs.passed m hm).mono hadv hhds
  have hbur (htombs : s'.body.messages.tombstones = s.body.messages.tombstones) (m) :
      s'.body.messages.Buried d.core.conversationID m ↔ s.body.messages.Buried d.core.conversationID m := by
    unfold Buried
    rw [htombs]
  cases heff with
  | quiet h htombs =>
    have hsame := hbur htombs
    refine ⟨⟨?_, ?_, ?_⟩, fun m => (hsame m).2⟩
    · intro m hm
      have hbef := (Concerns.of_addsNothing (m := m) h htombs).redacted hm
      exact (hsame m).2 (hs.buried m hbef)
    · intro m hm
      exact (h m).bare (hs.bare m ((hsame m).1 hm))
    · intro m hm
      exact hpassed m ((hsame m).1 hm)
  | writes written hwritten h =>
    have hsame := hbur h.tombstones
    refine ⟨⟨?_, ?_, ?_⟩, fun m => (hsame m).2⟩
    · intro m hm
      exact (hsame m).2 (hs.buried m (h.redacted hm))
    · intro m hm
      have hbur := (hsame m).1 hm
      have hne : m ≠ written := by
        rintro rfl
        exact hgentle.not_buried hlog hr hbrings hs hadv hwritten hbur
      exact (h.others m hne).bare (hs.bare m hbur)
    · intro m hm
      exact hpassed m ((hsame m).1 hm)
  | redacts p hp h =>
    have hkey : ∀ m, (p.2.conversationID, p.2.messageID) = (d.core.conversationID, m) → m = p.1 := by
      intro m hkey
      have htrim := hgentle.redacts p hp
      have hplan : p.2.messageID = trimSpace p.1 := by
        cases d <;> simp only [redacts, mem_def, reduceCtorEq] at hp
        obtain ⟨kind, -, rfl⟩ := map_eq_some_iff.1 hp
        rfl
      rw [← htrim, ← hplan]
      exact (Prod.mk.inj hkey).2.symm
    have hred : ∀ m, s.body.messages.Buried d.core.conversationID m ∨
        (p.2.conversationID, p.2.messageID) = (d.core.conversationID, m) →
          s'.body.messages.Buried d.core.conversationID m := by
      intro m hm
      rw [h]
      exact buried_redact hm
    refine ⟨⟨?_, ?_, ?_⟩, fun m hm => hred m (.inl hm)⟩
    · intro m hm
      by_cases hm' : (p.2.conversationID, p.2.messageID) = (d.core.conversationID, m)
      · exact hred m (.inr hm')
      · rw [h] at hm
        refine hred m (.inl (hs.buried m ?_))
        rcases hm with ⟨row', hrow', hk, hmark⟩ | hbur
        · obtain ⟨row, hrow, hsame⟩ := (addsNothing_redact hm').rows row' hrow' hk
          exact .inl ⟨row, hrow, hsame.messageKey ▸ hk, hsame.marked.1 hmark⟩
        · exact .inr ((buried_of_buried_redact hbur).resolve_right hm')
    · intro m hm
      rw [h] at hm ⊢
      by_cases hm' : (p.2.conversationID, p.2.messageID) = (d.core.conversationID, m)
      · exact bare_redact hm'
      · have hbur := (buried_of_buried_redact hm).resolve_right hm'
        exact (addsNothing_redact hm').bare (hs.bare m hbur)
    · intro m hm
      rw [h] at hm
      rcases buried_of_buried_redact hm with hbur | hm'
      · exact hpassed m hbur
      · -- the event of the message came before the one that redacts it
        obtain ⟨hkind, hmsg⟩ := hbrings.redacts p hp
        obtain ⟨sent, hsent, hlt, hidx⟩ := hlog.concerns r hr hkind
        rw [hmsg, ← hkey m hm'] at hidx
        refine ⟨sent, hsent, hidx, d.core.head, ?_, ?_⟩
        · rw [hhds, find_upsert]
          exact if_pos rfl
        · show _ ≤ d.core.eventSequence
          rw [hbrings.sequence]
          omega

/-- One step of a gentle run keeps the invariant and the tombstones. -/
lemma Store.DeviceStep.settled (hlog : MessageLog events conv)
    (h : Store.DeviceStep events conv.id (Gentle conv.id) s s') (hs : s.Settled events conv.id) :
    s'.Settled events conv.id ∧ ∀ m, s.body.messages.Buried conv.id m → s'.body.messages.Buried conv.id m := by
  cases h with
  | here h => exact ⟨hs.of_local h, h.buried⟩
  | commit hr hbrings hgentle h =>
    have hconv := hbrings.conversation.trans (hlog.conversation _ hr)
    rcases run_eq_ok h with ⟨hch, hmsgs⟩ | ⟨hadv, hhds, heff⟩
    · have hlocal : s.Local events conv.id s' := .of_eq hch hmsgs
      exact ⟨hs.of_local hlocal, hlocal.buried⟩
    · rw [← hconv] at hs hgentle ⊢
      exact hs.of_effect hlog hr hbrings hgentle hadv hhds heff

lemma Store.DeviceRun.settled (hlog : MessageLog events conv)
    (h : Store.DeviceRun events conv.id (Gentle conv.id) s s') (hs : s.Settled events conv.id) :
    s'.Settled events conv.id ∧ ∀ m, s.body.messages.Buried conv.id m → s'.body.messages.Buried conv.id m := by
  induction h with
  | refl => exact ⟨hs, fun _ hm => hm⟩
  | tail _ hstep ih =>
    obtain ⟨hsett, hbur⟩ := hstep.settled hlog ih.1
    exact ⟨hsett, fun m hm => hbur m (ih.2 m hm)⟩

end

/-! ### A message that is retracted and edited -/

section

attribute [local instance] plainContent Chat.checksum

/-- A command of the laptop about the message `"m"`, in the group of the laptop and the phone. -/
def laptopCommand (c : Chat.Conversation) (kind : Kind) (delivery : Chat.DeliveryKind) : Command where
  id := kind.text
  conversationID := c.id
  authorityStation := c.authorityStation
  sender := laptop
  observedMembershipEpoch := c.head.membershipEpoch
  observedMLSEpoch := c.head.mlsEpoch
  deliveryPlanHash := Chat.deliveryPlanHash c.id c.head [laptop, phone]
  kind := kind
  messageID := "m"
  replyToMessageID := ""
  threadRootMessageID := ""
  reaction := ""
  reasonCode := ""
  payload := [1]
  deliveries := [notice laptop .publicEvent, notice phone delivery]
  requiredEndpoints := [laptop, phone]
  objectIDs := []
  committedAt := 6000000
  eventSealer := some Chat.systemSealer

/-- A command is checked against the events and applied to the conversation. -/
def acceptCommand (events : List Record) (c : Chat.Conversation) (command : Command) :
    Except Chat.Error (List Record × Chat.Conversation) := do
  Chat.validateMessageCommand events command
  let t ← ((Operation.command command).run.call c).1
  return (events ++ [t.event], ((Operation.command command).run.call c).2)

def retractedAndEdited : Except Chat.Error (List Record × Chat.Conversation) := do
  let (c, t) ← Chat.pairGroup.run
  let (events, c) ← acceptCommand [t.event] c (laptopCommand c .messageCommitted .mlsApplication)
  let (events, c) ← acceptCommand events c (laptopCommand c .messageRetracted .publicEvent)
  acceptCommand events c (laptopCommand c .messageEdited .mlsApplication)

variable {events : List Record}

lemma messageHistory_accept {events' : List Record} {c c' : Chat.Conversation}
    {cmd : Command} (hprior : MessageHistory events c)
    (h : acceptCommand events c cmd = .ok (events', c')) : MessageHistory events' c' := by
  simp only [acceptCommand, ok_iff] at h
  obtain ⟨hval, t, ht, rfl, rfl⟩ := h
  refine hprior.accepted ?_ (Prod.ext ht rfl)
  rintro _ ⟨⟩
  exact hval

lemma messageHistory_edited {c : Chat.Conversation}
    (h : retractedAndEdited = .ok (events, c)) : MessageHistory events c := by
  simp only [retractedAndEdited, bind_eq_ok] at h
  obtain ⟨⟨c₁, t⟩, hcre, ⟨events₂, c₂⟩, hsent, ⟨events₃, c₃⟩, hretr, hed⟩ := h
  exact messageHistory_accept (messageHistory_accept
    (messageHistory_accept (.created hcre) hsent) hretr) hed

/-- The event as the `n`-th item of the lane. -/
def eventReceive (n : ℕ) (r : Record) : EventReceive where
  itemID := "item-" ++ toString n
  eventID := r.id
  conversationID := r.conversationID
  laneSequence := n
  consumerEpoch := 1
  payloadSHA256 := List.replicate 32 0
  eventHash := r.hash.bytes
  previousEventHash := if r.sequence = 1 then [] else r.previousHash.bytes
  receiptID := "device-consumed:" ++ toString n
  receiptBytes := [1]
  consumedAtUnixMs := 1

def groupMessage (n : ℕ) (r : Record) : DeviceCommit :=
  .group
    { r with
      toEventReceive := eventReceive n r, sessionState := [1]
      projection :=
        { conversationID := r.conversationID, eventID := r.id, eventSequence := r.sequence
          messageID := "m", senderPTID := laptop.actor, senderDeviceID := laptop.device
          plaintext := "secret", attachments := [], committedAtUnixMs := 1, replyToMessageID := none
          threadRootMessageID := none } } .none

def groupInteraction (n : ℕ) (r : Record) (mutation : InteractionMutation) : DeviceCommit :=
  .interaction emptyFiles { r with
    toEventReceive := eventReceive n r, eventSequence := r.sequence, messageID := "m", mutation
    mlsSessionState := none }

def Store.receive (d : DeviceCommit) (s : Store) : Except Error Store := do
  let s ← s.claim d.core.toLaneItem
  let (_, s) ← d.run s
  return s

variable {d : DeviceCommit} {r : Record} {s : Store}

lemma Store.DeviceRun.receive {Allowed : DeviceCommit → Store → Prop} {s' : Store}
    (hr : r ∈ events) (hbrings : d.Brings r) (hallowed : ∀ lane, Allowed d { s with lane })
    (h : s.receive d = .ok s') : Store.DeviceRun events c Allowed s s' := by
  simp only [Store.receive, Store.claim, ok_iff] at h
  obtain ⟨_, ⟨lane, -, rfl⟩, ⟨result, s''⟩, hrun, rfl⟩ := h
  have hclaim : s.Local events c { s with lane } := .of_eq rfl rfl
  exact (Relation.ReflTransGen.single (.here hclaim)).tail (.commit hr hbrings (hallowed lane) hrun)

def phoneStates (created sent retracted edited : Record) : Except Error (Store × Store × Store) := do
  let s ← Store.empty.receive (.other (eventReceive 1 created) created.sequence .ok)
  let s ← s.receive (groupMessage 2 sent)
  let x ← s.receive (groupInteraction 3 retracted .retract)
  let y ← x.receive (groupInteraction 4 edited (.edit "secret again" 1))
  let z ← x.receive (.skipped
    { toEventReceive := eventReceive 4 edited, eventSequence := edited.sequence })
  return (x, y, z)

variable {n : ℕ}

lemma brings_groupInteraction {mutation : InteractionMutation} (hkind : r.fact.kind.ConcernsMessage)
    (hmsg : r.fact.messageID = "m") : (groupInteraction n r mutation).Brings r := by
  refine ⟨rfl, rfl, nofun, ?_⟩
  intro p hp
  obtain ⟨kind, -, rfl⟩ := map_eq_some_iff.1 hp
  exact ⟨hkind, hmsg⟩

lemma concernsMessage_of_eq {k : Kind} (h : k = .messageRetracted ∨ k = .messageEdited) : k.ConcernsMessage := by
  rcases h with rfl | rfl <;> exact ⟨trivial, by rintro (h | h) <;> cases h⟩

lemma brings_of_none (hconv : d.core.conversationID = r.conversationID) (hseq : d.core.eventSequence = r.sequence)
    (hsends : d.sends = none) (hredacts : d.redacts = none) : d.Brings r := by
  refine ⟨hconv, hseq, ?_, ?_⟩
  · simp [hsends]
  · simp [hredacts]

lemma gentle_of_none (hrevives : d.revives = none) (hredacts : d.redacts = none) : d.Gentle c s := by
  refine ⟨?_, ?_⟩
  · simp [hrevives]
  · simp [hredacts]

lemma brings_groupMessage (h : r.indexedMessageID = some "m") : (groupMessage n r).Brings r := by
  refine ⟨rfl, rfl, ?_, nofun⟩
  rintro _ ⟨⟩
  exact h

lemma gentle_retract : (groupInteraction n r .retract).Gentle c s := by
  refine ⟨nofun, ?_⟩
  rintro _ ⟨⟩
  show trimSpace "m" = "m"
  decide

/-- The phone's states are reached: the first and the last one by gentle commits. -/
lemma phoneStates_eq_ok {created sent retracted edited : Record}
    {x y z : Store} (h : phoneStates created sent retracted edited = .ok (x, y, z))
    (hsent : sent.indexedMessageID = some "m")
    (hretr : retracted.fact.kind = .messageRetracted ∧ retracted.fact.messageID = "m")
    (hed : edited.fact.kind = .messageEdited ∧ edited.fact.messageID = "m") :
    Store.DeviceRun [created, sent, retracted, edited] c (Gentle c) empty x ∧
    Store.DeviceRun [created, sent, retracted, edited] c (fun _ _ => True) x y ∧
    Store.DeviceRun [created, sent, retracted, edited] c (Gentle c) x z := by
  simp only [phoneStates, ok_iff] at h
  obtain ⟨s₁, h₁, s₂, h₂, s₃, h₃, s₄, h₄, s₅, h₅, rfl, rfl, rfl⟩ := h
  refine ⟨?_, ?_, ?_⟩
  · refine Relation.ReflTransGen.trans (Store.DeviceRun.receive (by simp)
      (brings_of_none rfl rfl rfl rfl) (fun _ => gentle_of_none rfl rfl) h₁) ?_
    refine Relation.ReflTransGen.trans (Store.DeviceRun.receive (by simp)
      (brings_groupMessage hsent) (fun _ => gentle_of_none rfl rfl) h₂) ?_
    refine Store.DeviceRun.receive (by simp)
      (brings_groupInteraction (concernsMessage_of_eq (.inl hretr.1)) hretr.2) (fun _ => gentle_retract) h₃
  · exact Store.DeviceRun.receive (by simp) (brings_groupInteraction (concernsMessage_of_eq (.inr hed.1)) hed.2)
      (fun _ => trivial) h₄
  · exact Store.DeviceRun.receive (by simp) (brings_of_none rfl rfl rfl rfl) (fun _ => gentle_of_none rfl rfl) h₅

/-- What the examples need to know: the messages of the events, the row of the message in the state
after the retraction, and the one after the edit. -/
def retractionOutcome : Option Bool := do
  let (events, conv) ← retractedAndEdited.toOption
  match events with
  | [created, sent, retracted, edited] => do
    let (x, y, _) ← (phoneStates created sent retracted edited).toOption
    return decide (sent.indexedMessageID = some "m" ∧
      (retracted.fact.kind = .messageRetracted ∧ retracted.fact.messageID = "m") ∧
      (edited.fact.kind = .messageEdited ∧ edited.fact.messageID = "m") ∧
      (∃ r ∈ x.body.messages.projections.rows, r.messageKey = (conv.id, "m") ∧ r.retracted = true) ∧
      ∃ r ∈ y.body.messages.projections.rows, r.messageKey = (conv.id, "m") ∧ r.editedText = some "secret again")
  | _ => none

lemma exists_phoneStates : ∃ events conv x y z, MessageHistory events conv ∧
    Store.DeviceRun events conv.id (Gentle conv.id) empty x ∧ Store.DeviceRun events conv.id (fun _ _ => True) x y ∧
    Store.DeviceRun events conv.id (Gentle conv.id) x z ∧ x.body.messages.Redacted conv.id "m" ∧
    ∃ r ∈ y.body.messages.projections.rows, r.messageKey = (conv.id, "m") ∧ r.editedText = some "secret again" := by
  have h : retractionOutcome = some true := by set_option maxRecDepth 10000 in decide +kernel
  unfold retractionOutcome at h
  simp only [bind_eq_bind, bind_eq_some_iff, toOption_eq_some] at h
  obtain ⟨⟨events, conv⟩, hhist, h⟩ := h
  dsimp only at h
  split at h
  · simp only [bind_eq_some_iff, toOption_eq_some] at h
    obtain ⟨⟨x, y, z⟩, hstates, h⟩ := h
    obtain ⟨hsent, hretr, hed, ⟨r, hr, hkey, hmark⟩, hrow⟩ := of_decide_eq_true (some.inj h)
    obtain ⟨hrun, hundone, hskip⟩ := phoneStates_eq_ok (c := conv.id) hstates hsent hretr hed
    exact ⟨_, conv, x, y, z, messageHistory_edited hhist, hrun, hundone, hskip,
      .inl ⟨r, hr, hkey, .inl hmark⟩, hrow⟩
  · cases h

end

end PeersTouch.Client
