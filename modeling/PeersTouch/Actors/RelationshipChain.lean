import PeersTouch.Actors.Frames
import PeersTouch.Actors.RelationshipService

/-!
# The chain of a relationship

What the functions of the relationship service do to the heads: an event that is applied is the next one of the chain
(`applyEvent_eq_ok`), the head is the only row that changes (`save_eq_ok`, `store_eq_ok`), and a
command that succeeds is answered from its record, or leaves the heads alone, or commits its event (`submit_eq_ok`).
-/

namespace PeersTouch.Social

open Lib Protobuf List Option Tables InvalidationClass
open Chat (Bytes Digest Time)
open Federation (Frame Handled Outbox Timestamp enqueueFrame)
open Protobuf (length_writeBytes_le length_writeInt_le length_writeString_le)
open KeyedTable
open SocialRelationshipCommand

/-! ### Revisions -/

lemma nextRevision_lt (revision : ℤ) : nextRevision revision < 2 ^ 63 := by
  have h := (BitVec.ofInt 64 (revision + 1)).toInt_lt
  simpa [nextRevision] using h

variable {revision : ℤ}

lemma nextRevision_of_lt (hpos : 0 ≤ revision) (h : revision + 1 < 2 ^ 63) : nextRevision revision = revision + 1 :=
  BitVec.toInt_ofInt_eq_self (by decide) (by omega) h

lemma nextRevision_pos_iff (hpos : 0 ≤ revision) (hlt : revision < 2 ^ 63) :
    0 < nextRevision revision ↔ revision + 1 < 2 ^ 63 := by
  constructor
  · intro h
    by_contra hlast
    have hrev : revision = 2 ^ 63 - 1 := by omega
    rw [hrev] at h
    exact absurd h (by decide)
  · intro h
    rw [nextRevision_of_lt hpos h]
    omega

lemma nextRevision_ne (revision : ℤ) : revision ≠ nextRevision revision := by
  intro h
  have hmod := BitVec.toInt_ofInt (n := 64) (revision + 1)
  rw [Int.bmod_def] at hmod
  unfold nextRevision at h
  omega

/-! ### Events -/

section

variable [Digest] {current : Option DirectionalRelationshipState} {event : SocialRelationshipEvent}
  {next : DirectionalRelationshipState} {duplicate : Bool}

lemma validateEvent_iff : validateSocialRelationshipEvent event = .ok () ↔
    ¬event.HasUnknownFields ∧ (∀ p ∈ event.identifiers, ¬BadIdentifier p.2) ∧
    validateHumanActorRef "social.validate_relationship_event" "actor" event.actor = .ok () ∧
    validateHumanActorRef "social.validate_relationship_event" "target_actor" event.targetActor = .ok () ∧
    ((getActor event.actor).ptid ≠ (getActor event.targetActor).ptid ∧ 0 < event.revision ∧
    ¬InvalidTimestamp event.committedAt ∧ event.eventHash.length = 32) ∧
    ((event.action ≠ .block → event.action = .unblock) ∧ event.blocked = decide (event.action = .block)) ∧
    event.invalidationClasses = relationshipInvalidations event.blocked ∧ ¬event.BreaksChain ∧
    event.canonicalHash = event.eventHash := by
  have hids : (event.identifiers.forM fun p =>
      validateSocialRelationshipIdentifier "social.validate_relationship_event" p.1 p.2) = .ok () ↔
      ∀ p ∈ event.identifiers, ¬BadIdentifier p.2 := by
    refine Iff.trans forM_eq_ok ?_
    simp only [validateSocialRelationshipIdentifier, failWhen_eq_ok]
  simp only [validateSocialRelationshipEvent, ok_iff, hids, not_or, not_not, not_and, not_le]
  constructor
  · rintro ⟨h₁, h₂, h₃, h₄, h₅, h₆, -, h₇, h₈⟩
    exact ⟨h₁, h₂, h₃, h₄, h₅, h₆, h₇, h₈⟩
  · rintro ⟨h₁, h₂, h₃, h₄, h₅, h₆, h₇, h₈⟩
    exact ⟨h₁, h₂, h₃, h₄, h₅, h₆, congrArg length h₇, h₇, h₈⟩

/-- An event is the next one after a head. -/
structure Extends (current : Option DirectionalRelationshipState) (event : SocialRelationshipEvent) :
    Prop where
  revision : event.revision = nextRevision (revisionOf current)
  previousHash : event.previousHash = (current.map (·.lastEventHash)).getD []

lemma applyEvent_eq_ok : applySocialRelationshipEvent current event = .ok (next, duplicate) ↔
    validateSocialRelationshipEvent event = .ok () ∧
    (duplicate = true ∧ current = some next ∧ next.revision = event.revision ∧
    next.lastEventHash = event.eventHash ∧ next.lastEventBytes = event.marshal ∨
    duplicate = false ∧ (∀ head ∈ current, head.revision ≠ event.revision) ∧
    Extends current event ∧ next = .ofEvent event) := by
  cases current with
  | none =>
    have hfst : Extends none event ↔ event.revision = 1 ∧ event.previousHash.length = 0 := by
      rw [length_eq_zero_iff]
      exact ⟨fun h => ⟨h.revision, h.previousHash⟩, fun h => ⟨h.1, h.2⟩⟩
    simp only [applySocialRelationshipEvent, ok_iff, not_or, not_not, hfst, Prod.mk.injEq]
    constructor
    · rintro ⟨hval, hplace, rfl, rfl⟩
      exact ⟨hval, .inr ⟨rfl, by simp, hplace, rfl⟩⟩
    · rintro ⟨hval, ⟨-, hnone, -⟩ | ⟨rfl, -, hplace, rfl⟩⟩
      · cases hnone
      · exact ⟨hval, hplace, rfl, rfl⟩
  | some head =>
    have hnext : Extends (some head) event ↔
        event.revision = nextRevision head.revision ∧ event.previousHash = head.lastEventHash :=
      ⟨fun h => ⟨h.revision, h.previousHash⟩, fun h => ⟨h.1, h.2⟩⟩
    simp only [applySocialRelationshipEvent, ok_iff]
    refine and_congr_right fun _ => ?_
    split_ifs with hrev
    · simp only [ok_iff, not_or, not_not, Prod.mk.injEq]
      constructor
      · rintro ⟨⟨hhash, hb⟩, rfl, rfl⟩
        exact .inl ⟨rfl, rfl, hrev, hhash, hb⟩
      · rintro (⟨rfl, ⟨⟩, -, hhash, hb⟩ | ⟨-, hne, -⟩)
        · exact ⟨⟨hhash, hb⟩, rfl, rfl⟩
        · exact absurd hrev (hne head rfl)
    · simp only [ok_iff, not_or, not_not, Prod.mk.injEq, hnext]
      constructor
      · rintro ⟨hplace, rfl, rfl⟩
        refine .inr ⟨rfl, ?_, hplace, rfl⟩
        rintro _ ⟨⟩
        exact hrev
      · rintro (⟨-, ⟨⟩, hsame, -⟩ | ⟨rfl, -, hplace, rfl⟩)
        · exact absurd hsame hrev
        · exact ⟨hplace, rfl, rfl⟩

lemma extends_relationshipEventOf (body : SocialRelationshipCommandBody) (now : Time) :
    Extends current (relationshipEventOf current body now) :=
  ⟨rfl, rfl⟩

lemma apply_relationshipEventOf {body : SocialRelationshipCommandBody} {now : Time} :
    applySocialRelationshipEvent current (relationshipEventOf current body now) = .ok (next, duplicate) ↔
    validateSocialRelationshipEvent (relationshipEventOf current body now) = .ok () ∧
    duplicate = false ∧ next = .ofEvent (relationshipEventOf current body now) := by
  have hne : ∀ head ∈ current, head.revision ≠ (relationshipEventOf current body now).revision := by
    rintro head ⟨⟩
    exact nextRevision_ne head.revision
  rw [applyEvent_eq_ok]
  refine and_congr_right fun _ => ⟨?_, ?_⟩
  · rintro (⟨-, hhead, hsame, -⟩ | ⟨hfalse, -, -, hnext⟩)
    · exact absurd hsame (hne next hhead)
    · exact ⟨hfalse, hnext⟩
  · rintro ⟨hfalse, hnext⟩
    exact .inr ⟨hfalse, hne, extends_relationshipEventOf body now, hnext⟩

end

section

variable {tables tables' : Tables} {state : DirectionalRelationshipState}

/-- A head that takes the place of the one that was loaded is the only change. -/
lemma exists_save (tables : Tables) (state : DirectionalRelationshipState) :
    ∃ relationships, tables.saveDirectionalRelationship state
    ((tables.relationships.find state.pair).map (·.revision)) = .ok { tables with relationships } ∧
    ∀ pair, relationships.find pair =
    if state.pair = pair then some state else tables.relationships.find pair := by
  cases hfd : tables.relationships.find state.pair with
  | none =>
    have hkey := find_eq_none.1 hfd
    refine ⟨tables.relationships.insertOrIgnore state, ?_, find_insertOrIgnore hkey⟩
    simp only [map_none, saveDirectionalRelationship, ok_iff]
    exact ⟨_, insert_eq_ok.2 ⟨hkey, rfl⟩, rfl⟩
  | some head =>
    have hone : tables.relationships.count (fun r => r.pair = state.pair ∧ r.revision = head.revision) = 1 :=
      (count_eq_one_of_key fun r hr => hr.1).2 ⟨head, hfd, key_of_find hfd, rfl⟩
    refine ⟨tables.relationships.updateWhere (fun r => r.pair = state.pair ∧ r.revision = head.revision)
      (rewrite state) (pair_rewrite state), ?_, fun pair => ?_⟩
    · simp only [map_some, saveDirectionalRelationship, ok_iff]
      exact ⟨_, updateOne_eq_ok.2 ⟨hone, rfl⟩, rfl⟩
    · rw [find_updateWhere]
      split_ifs with hpair
      · subst hpair
        rw [hfd, map_some, if_pos ⟨key_of_find hfd, rfl⟩]
        have hkey : head.pair = state.pair := key_of_find hfd
        obtain ⟨hac, htgt⟩ := Prod.mk.inj hkey
        rw [rewrite, hac, htgt]
      · cases hoth : tables.relationships.find pair with
        | none => rfl
        | some other =>
          have hne : ¬(other.pair = state.pair ∧ other.revision = head.revision) := by
            rintro ⟨hsame, -⟩
            exact hpair (hsame.symm.trans (key_of_find hoth))
          rw [map_some, if_neg hne]

end

/-! ### Commands -/

variable {operation field : String} {actor : Option ActorRef}

section

variable {command : SocialRelationshipCommand} {localStationPeerID : String} {now : Time}

/-- What the later steps need of a command that is well formed. -/
structure WellFormed (command : SocialRelationshipCommand) (localStationPeerID : String) : Prop where
  known : ¬command.HasUnknownFields
  commandID : Canonical command.getBody.commandID ∧ command.getBody.commandID.utf8ByteSize ≤ 255
  actorHome : Canonical localStationPeerID ∧ localStationPeerID.utf8ByteSize ≤ 255
  targetHome : Canonical command.getBody.targetHomeStationPeerID ∧
    command.getBody.targetHomeStationPeerID.utf8ByteSize ≤ 255
  actor : validateHumanActorRef "social.validate_relationship_command" "actor" command.getBody.actor = .ok ()
  target : validateHumanActorRef "social.validate_relationship_command" "target_actor"
    command.getBody.targetActor = .ok ()
  distinct : (getActor command.getBody.actor).ptid ≠ (getActor command.getBody.targetActor).ptid
  local_home : command.getBody.actorHomeStationPeerID = localStationPeerID
  action : command.getBody.action ≠ .block → command.getBody.action = .unblock

lemma wellFormed_of_validate (h : validateSocialRelationshipCommand command localStationPeerID now = .ok ()) :
    WellFormed command localStationPeerID := by
  simp only [validateSocialRelationshipCommand, ok_iff, not_and, not_not] at h
  obtain ⟨-, hknown, -, hidentifiers, hac, htgt, hdist, hhome, -, hactn, -⟩ := h
  have hids : ∀ p ∈ command.identifiers localStationPeerID, ¬BadIdentifier p.2 := by
    intro p hp
    exact failWhen_eq_ok.1 (forM_eq_ok.1 hidentifiers p hp)
  simp only [identifiers, forall_mem_cons, not_badIdentifier] at hids
  obtain ⟨hid, -, htargetHome, -, -, hlocal, -⟩ := hids
  exact ⟨hknown, hid, hlocal, htargetHome, hac, htgt, hdist, hhome, hactn⟩

lemma ptid_of_validate (h : validateHumanActorRef operation field actor = .ok ()) : Canonical (getActor actor).ptid ∧
    (getActor actor).ptid.utf8ByteSize ≤ 255 ∧ (getActor actor).acct.utf8ByteSize ≤ 255 := by
  simp only [validateHumanActorRef, validateFriendRequestIdentifier, ok_iff, not_or, not_badIdentifier, not_lt] at h
  obtain ⟨a, rfl, ⟨hptid, -⟩, -, -, hacct⟩ := h
  exact ⟨hptid.1, hptid.2, hacct⟩

lemma Canonical.not_badPTID {ptid : String} (h : Canonical ptid) : ¬BadPTID ptid := by
  rintro (hemp | hne)
  · exact h.1 hemp
  · exact hne h.2.symm

variable [Digest] {current : Option DirectionalRelationshipState}

lemma validate_relationshipEventOf (h : WellFormed command localStationPeerID) :
    validateSocialRelationshipEvent (relationshipEventOf current command.getBody now) = .ok () ↔
    ¬BadIdentifier (socialRelationshipEventID command.getBody.commandID (nextRevision (revisionOf current))) ∧
    0 < nextRevision (revisionOf current) ∧ (Timestamp.ofTime now).checkValid = .ok () ∧
    ¬(relationshipEventOf current command.getBody now).BreaksChain := by
  have hknown := h.known
  simp only [HasUnknownFields, not_or] at hknown
  obtain ⟨-, -, hactKnown, htgtKnown, -⟩ := hknown
  have hhome : ¬BadIdentifier command.getBody.actorHomeStationPeerID := by
    rw [h.local_home]
    exact not_badIdentifier.2 h.actorHome
  have htime : ¬InvalidTimestamp (some (Timestamp.ofTime now)) ↔ (Timestamp.ofTime now).checkValid = .ok () := by
    simp [InvalidTimestamp]
  rw [validateEvent_iff]
  constructor
  · rintro ⟨-, hids, -, -, ⟨-, hrev, hval, -⟩, -, -, hch, -⟩
    exact ⟨hids ("event_id", _) mem_cons_self, hrev, htime.1 hval, hch⟩
  · rintro ⟨hid, hrev, hval, hch⟩
    refine ⟨?_, ?_, validateHumanActor_eq_ok h.actor _ _, validateHumanActor_eq_ok h.target _ _,
      ⟨h.distinct, hrev, htime.2 hval, Chat.Hash.length_bytes _⟩, ⟨h.action, rfl⟩, rfl, hch, rfl⟩
    · rintro (hunk | hunk | hunk | ⟨t, ht, hunk⟩)
      · exact hunk rfl
      · exact hactKnown hunk
      · exact htgtKnown hunk
      · cases ht
        exact hunk rfl
    · simp only [SocialRelationshipEvent.identifiers, forall_mem_cons]
      exact ⟨hid, not_badIdentifier.2 h.commandID, hhome, not_badIdentifier.2 h.targetHome, nofun⟩

end

/-! ### Sizes -/

lemma length_marshal_actor (h : validateHumanActorRef operation field actor = .ok ())
    (hknown : (getActor actor).unknown = []) (tag : ℕ) : (writeActor tag actor).length ≤ 600 := by
  obtain ⟨-, hptid, hacct⟩ := ptid_of_validate h
  cases actor with
  | none => exact Nat.zero_le _
  | some a =>
    have hwr := length_writeDelimited_le tag a.marshal
    have h₂ := length_writeString_le 2 a.ptid
    have h₃ := length_writeString_le 3 a.acct
    have h₄ := length_writeInt_le 4 a.kind.number
    have hunk : a.unknown.length = 0 := congrArg length hknown
    have hmarshal : a.marshal.length = (writeString 2 a.ptid).length +
        (writeString 3 a.acct).length + (writeInt 4 a.kind.number).length +
        a.unknown.length := by
      simp only [ActorRef.marshal, length_append]
    simp only [getActor, getD_some] at hptid hacct
    simp only [writeActor, map_some, getD_some]
    omega

lemma length_writePacked_le (tag : ℕ) (values : List ℤ) : (writePacked tag values).length ≤ 20 + 10 * values.length := by
  have hvalues : ∀ l : List ℤ, (l.flatMap fun v => encodeVarint (BitVec.ofInt 64 v).toNat).length ≤ 10 * l.length := by
    intro l
    induction l with
    | nil => exact Nat.le_refl 0
    | cons v l ih =>
      have hv := length_encodeVarint_le (BitVec.ofInt 64 v).toNat
      rw [flatMap_cons, length_append, length_cons]
      omega
  exact (length_writeBytes_le tag _).trans (Nat.add_le_add_left (hvalues values) 20)

lemma length_writeTimestamp_le (tag : ℕ) {t : Option Timestamp} (h : ∀ t' ∈ t, t'.unknown = []) :
    (Federation.writeTimestamp tag t).length ≤ 60 := by
  cases t with
  | none => exact Nat.zero_le _
  | some t =>
    have hwr := length_writeDelimited_le tag t.marshal
    have h₁ := length_writeInt_le 1 t.seconds
    have h₂ := length_writeInt_le 2 t.nanos
    have hunk : t.unknown.length = 0 := congrArg length (h t rfl)
    have hmarshal : t.marshal.length = (writeInt 1 t.seconds).length + (writeInt 2 t.nanos).length + t.unknown.length := by
      simp only [Timestamp.marshal, length_append]
    simp only [Federation.writeTimestamp, map_some, getD_some]
    omega

lemma length_marshal_event [Digest] {event : SocialRelationshipEvent}
    (h : validateSocialRelationshipEvent event = .ok ()) : event.marshal ≠ [] ∧ event.marshal.length ≤ 8388608 := by
  obtain ⟨hknown, hids, hac, htgt, ⟨-, hrev, -, hhash⟩, -, hclasses, hch, -⟩ :=
    validateEvent_iff.1 h
  simp only [SocialRelationshipEvent.HasUnknownFields, not_or, not_exists, not_and, not_not] at hknown
  obtain ⟨hunk, hactKnown, htgtKnown, htimeKnown⟩ := hknown
  simp only [SocialRelationshipEvent.identifiers, forall_mem_cons, not_badIdentifier] at hids
  have hprev : event.previousHash.length ≤ 32 := by
    simp only [SocialRelationshipEvent.BreaksChain, not_or, not_and, not_not] at hch
    rcases lt_or_eq_of_le (Int.add_one_le_of_lt hrev) with hlater | hfst
    · exact (hch.2 hlater).le
    · rw [hch.1 hfst.symm]
      exact Nat.zero_le 32
  have hinvalidations : (event.invalidationClasses.map number).length ≤ 4 := by
    rw [hclasses]
    cases event.blocked <;> decide
  have h₁ := length_writeString_le 1 event.eventID
  have h₂ := length_writeString_le 2 event.commandID
  have h₃ := length_writeInt_le 3 event.action.number
  have h₄ := length_marshal_actor hac hactKnown 4
  have h₅ := length_marshal_actor htgt htgtKnown 5
  have h₆ := length_writeString_le 6 event.actorHomeStationPeerID
  have h₇ := length_writeString_le 7 event.targetHomeStationPeerID
  have h₈ := length_writeInt_le 8 event.revision
  have h₉ := length_writeInt_le 9 event.blocked.toNat
  have h₁₀ := length_writePacked_le 10 (event.invalidationClasses.map number)
  have h₁₁ := length_writeTimestamp_le 11 htimeKnown
  have h₁₂ := length_writeBytes_le 12 event.previousHash
  have h₁₃ := length_writeBytes_le 13 event.eventHash
  have hhashField : writeBytes 13 event.eventHash ≠ [] := by
    have hne : event.eventHash ≠ [] := ne_nil_of_length_eq_add_one hhash
    rw [writeBytes, if_neg hne]
    exact append_ne_nil_of_right_ne_nil _ hne
  constructor
  · intro hemp
    simp only [SocialRelationshipEvent.marshal, append_eq_nil_iff] at hemp
    exact hhashField hemp.1.2
  · simp only [SocialRelationshipEvent.marshal, length_append, writeBool, hunk, length_nil]
    omega

/-! ### Submitting -/

def SubmitCall.event [Digest] (call : SubmitCall) (tables : Tables) : SocialRelationshipEvent :=
  relationshipEventOf (tables.relationships.find call.pair) call.body call.now

/-- The outbox after private content was taken back. -/
def Station.revocation (station : Station) (revoke : Option Revoker) (state : DirectionalRelationshipState)
    (outbox : Outbox) : Except Failure Outbox :=
  if state.blocked then station.revokeBlockedPrivateContent revoke state outbox else .ok outbox

variable {station : Station} {revoke : Option Revoker} {state : DirectionalRelationshipState}

open Station

lemma blockedEffects_eq_ok {outbox outbox' : Outbox} {tables tables' : Tables} :
    station.blockedEffects revoke state outbox tables = .ok (outbox', tables') ↔
    station.revocation revoke state outbox = .ok outbox' ∧ (if state.blocked then
    tables.applyBlockedRelationshipEffects state.actorPTID state.targetActorPTID
    else tables) = tables' := by
  unfold blockedEffects revocation
  split_ifs
  · simp only [ok_iff, Prod.mk.injEq]
    constructor
    · rintro ⟨_, h, rfl, rfl⟩
      exact ⟨h, rfl⟩
    · rintro ⟨h, rfl⟩
      exact ⟨_, h, rfl, rfl⟩
  · simp only [Except.ok.injEq, Prod.mk.injEq]

/-- What a block takes back does not touch the heads, the records of commands or the directory. -/
lemma tables_of_blockedEffects {outbox outbox' : Outbox} {tables tables' : Tables}
    (h : station.blockedEffects revoke state outbox tables = .ok (outbox', tables')) :
    tables'.relationships = tables.relationships ∧
    tables'.relationshipCommands = tables.relationshipCommands ∧ tables'.actors = tables.actors := by
  obtain ⟨-, rfl⟩ := blockedEffects_eq_ok.1 h
  split_ifs
  · exact ⟨rfl, rfl, rfl⟩
  · exact ⟨rfl, rfl, rfl⟩

section

variable [Digest] {station : Station} {call : SubmitCall} {db db' : Working}
  {result : SocialRelationshipCommandResult}

structure Commits (station : Station) (call : SubmitCall) (db db' : Working) : Prop where
  valid : validateSocialRelationshipEvent (call.event db.2) = .ok ()
  heads : ∀ pair, db'.2.relationships.find pair =
    if call.pair = pair then some (.ofEvent (call.event db.2)) else db.2.relationships.find pair
  sends : ∃ outbox frame added,
    station.revocation call.revoke (.ofEvent (call.event db.2)) db.1 = .ok outbox ∧
      station.newSignedRelationshipFrame (call.event db.2) call.now = .ok frame ∧
      enqueueFrame outbox frame call.now = .ok (db'.1, added)

omit [Digest] in
lemma relationshipProjection_eq_ok (h : WellFormed call.command station.localStationID)
    (tables : Tables) : ∃ projection, tables.relationshipProjection call.pair.1 call.pair.2 = .ok projection := by
  have hpair : ¬(BadPTID call.pair.1 ∨ BadPTID call.pair.2 ∨ call.pair.1 = call.pair.2) := by
    rintro (hbad | hbad | hsame)
    · exact (ptid_of_validate h.actor).1.not_badPTID hbad
    · exact (ptid_of_validate h.target).1.not_badPTID hbad
    · exact h.distinct hsame
  simp only [relationshipProjection, bind_eq_ok, exists_unit]
  exact ⟨_, failWhen_eq_ok.2 hpair, rfl⟩

lemma commits_of_commitEvent
    (h : station.commitRelationshipEvent call (db.2.relationships.find call.pair) (call.event db.2) db =
    .ok (db', result)) : Commits station call db db' ∧ db'.2.relationshipCommands = db.2.relationshipCommands ∧
    db'.2.actors = db.2.actors ∧ result.kind = .committed := by
  simp only [commitRelationshipEvent, ok_iff, Prod.exists] at h
  obtain ⟨next, duplicate, happly, tables, hsave, outbox, tables', heffs, proj, -, frame, hframe,
    outbox', added, henqueue, rfl, rfl⟩ := h
  obtain ⟨hval, -, rfl⟩ := apply_relationshipEventOf.1 happly
  obtain ⟨relationships, hsave', hfd⟩ := exists_save db.2 (.ofEvent (call.event db.2))
  have htables : { db.2 with relationships } = tables := Except.ok.inj (hsave'.symm.trans hsave)
  obtain ⟨hhds, hcmds, hactors⟩ := tables_of_blockedEffects heffs
  subst htables
  refine ⟨⟨hval, fun pair => ?_, outbox, frame, added, (blockedEffects_eq_ok.1 heffs).1, hframe,
    henqueue⟩, hcmds, hactors, rfl⟩
  rw [hhds]
  exact hfd pair

variable {frame : Frame} {added : Federation.EnqueueResult}

/-- A call that names the revision of its pair and is not about what is so already. -/
def SubmitCall.Changes (call : SubmitCall) (tables : Tables) : Prop :=
  call.body.observedRevision = revisionOf (tables.relationships.find call.pair) ∧
    blockedOf (tables.relationships.find call.pair) ≠ decide (call.body.action = .block)

lemma decideCommand_of_changes (h : call.Changes db.2) : station.decideCommand call db =
    station.commitRelationshipEvent call (db.2.relationships.find call.pair) (call.event db.2) db := by
  have hevent : newSocialRelationshipEvent (db.2.relationships.find call.pair) call.command call.now =
      .ok (some (call.event db.2)) := by
    simp only [newSocialRelationshipEvent, ok_iff, not_not]
    exact ⟨h.1, if_neg h.2⟩
  simp only [decideCommand, hevent]

lemma changes_of_event {event : SocialRelationshipEvent}
    (h : newSocialRelationshipEvent (db.2.relationships.find call.pair) call.command call.now =
    .ok (some event)) : call.Changes db.2 := by
  simp only [newSocialRelationshipEvent, ok_iff, not_not] at h
  obtain ⟨hobserved, h⟩ := h
  split_ifs at h with hsame
  exact ⟨hobserved, hsame⟩

lemma decideCommand_of_not_changes (h : ¬call.Changes db.2)
    (hok : station.decideCommand call db = .ok (db', result)) : db' = db ∧ result.kind ≠ .committed := by
  simp only [decideCommand] at hok
  split at hok
  · next e _ =>
    cases hok
    refine ⟨rfl, ?_⟩
    unfold SubmitCall.failure
    split <;> rintro ⟨⟩
  · simp only [ok_iff, SubmitCall.duplicateResult] at hok
    obtain ⟨_, ⟨_, -, rfl⟩, rfl, rfl⟩ := hok
    exact ⟨rfl, by rintro ⟨⟩⟩
  · next event hevent => exact absurd (changes_of_event hevent) h

lemma commands_of_decideCommand (h : station.decideCommand call db = .ok (db', result)) :
    db'.2.relationshipCommands = db.2.relationshipCommands := by
  by_cases hchg : call.Changes db.2
  · rw [decideCommand_of_changes hchg] at h
    exact (commits_of_commitEvent h).2.1
  · rw [(decideCommand_of_not_changes hchg h).1]

/-- A submit either finds a record of its command, or decides and writes one. -/
lemma submit_cases (h : station.submitRelationshipCommand call db = .ok (db', result)) :
    WellFormed call.command station.localStationID ∧
      ((∃ record, db.2.relationshipCommands.find call.commandKey = some record ∧
          call.replay record = .ok result ∧ db' = db) ∨
        db.2.relationshipCommands.find call.commandKey = none ∧ call.now ≠ 0 ∧
          db.2.validateRelationshipActorHome call.pair.2 call.body.targetHomeStationPeerID
            station.localStationID = .ok () ∧ ∃ decided, station.decideCommand call db = .ok (decided, result) ∧
            db' = (decided.1, { decided.2 with
              relationshipCommands := db.2.relationshipCommands.insertOrIgnore (call.record result) })) := by
  simp only [submitRelationshipCommand, submitTransaction, ok_iff] at h
  obtain ⟨hval, -, h⟩ := h
  refine ⟨wellFormed_of_validate hval, ?_⟩
  split at h
  · next existing hexisting =>
    simp only [ok_iff] at h
    obtain ⟨_, hrep, rfl, rfl⟩ := h
    exact .inl ⟨existing, hexisting, hrep, rfl⟩
  · next hnew =>
    simp only [submitNew, ok_iff, Prod.exists] at h
    obtain ⟨_, -, -, hhome, outbox, tables, decided, hdecide, tables', persisted, inserted, hput, final,
      hfinal, rfl, rfl⟩ := h
    have hcmds := commands_of_decideCommand hdecide
    have hkey : tables.relationshipCommands.find (call.record decided).key = none := hcmds ▸ hnew
    simp only [putSocialRelationshipCommand, ok_iff, hkey, not_or] at hput
    obtain ⟨⟨-, -, -, -, hnow⟩, rfl, -, rfl⟩ := hput
    cases hfinal
    exact .inr ⟨hnew, hnow, hhome, _, hdecide, by rw [hcmds]⟩

lemma submit_eq_ok (h : station.submitRelationshipCommand call db = .ok (db', result)) :
    WellFormed call.command station.localStationID ∧
    ((db.2.relationshipCommands.find call.commandKey).isSome = true ∧ db' = db ∨
    db.2.relationshipCommands.find call.commandKey = none ∧ ¬call.Changes db.2 ∧ db'.1 = db.1 ∧
    db'.2.relationships = db.2.relationships ∧ result.kind ≠ .committed ∨
    db.2.relationshipCommands.find call.commandKey = none ∧ call.Changes db.2 ∧ call.now ≠ 0 ∧
    db.2.validateRelationshipActorHome call.pair.2 call.body.targetHomeStationPeerID
    station.localStationID = .ok () ∧ Commits station call db db' ∧ result.kind = .committed) := by
  obtain ⟨hwell, ⟨record, hrec, -, rfl⟩ | ⟨hnew, hnow, hhome, decided, hdecide, rfl⟩⟩ := submit_cases h
  · exact ⟨hwell, .inl ⟨by rw [hrec]; rfl, rfl⟩⟩
  · refine ⟨hwell, .inr ?_⟩
    by_cases hchg : call.Changes db.2
    · rw [decideCommand_of_changes hchg] at hdecide
      obtain ⟨hcoms, -, -, hkind⟩ := commits_of_commitEvent hdecide
      exact .inr ⟨hnew, hchg, hnow, hhome, ⟨hcoms.valid, hcoms.heads, hcoms.sends⟩, hkind⟩
    · obtain ⟨rfl, hkind⟩ := decideCommand_of_not_changes hchg hdecide
      exact .inl ⟨hnew, hchg, rfl, rfl, hkind⟩

section

variable {outbox outbox' : Outbox} (hevent : validateSocialRelationshipEvent (call.event db.2) = .ok ())
  (hrevocation : station.revocation call.revoke (.ofEvent (call.event db.2)) db.1 = .ok outbox)
  (hframe : station.newSignedRelationshipFrame (call.event db.2) call.now = .ok frame)
  (henqueue : enqueueFrame outbox frame call.now = .ok (outbox', added))
include hevent hrevocation hframe henqueue

lemma exists_commitEvent (h : WellFormed call.command station.localStationID) :
    ∃ db' result, station.commitRelationshipEvent call (db.2.relationships.find call.pair)
    (call.event db.2) db = .ok (db', result) := by
  obtain ⟨relationships, hsave, -⟩ := exists_save db.2 (.ofEvent (call.event db.2))
  have heffs := (@blockedEffects_eq_ok station call.revoke (.ofEvent (call.event db.2)) db.1 outbox
    { db.2 with relationships } _).2 ⟨hrevocation, rfl⟩
  obtain ⟨proj, hproj⟩ := relationshipProjection_eq_ok h _
  simp only [commitRelationshipEvent, ok_iff, Prod.exists]
  exact ⟨_, _, _, _, false, apply_relationshipEventOf.2 ⟨hevent, rfl, rfl⟩, _, hsave, _, _, heffs,
    proj, hproj, frame, hframe, outbox', added, henqueue, rfl⟩

lemma exists_submit (hval : validateSocialRelationshipCommand call.command station.localStationID call.now = .ok ())
    (hac : call.authenticatedActorPTID = call.pair.1)
    (hsigned : ∀ bytes, call.command.signingBytes = .ok bytes → call.verifySignature bytes = .ok ())
    (hchg : call.Changes db.2) (hnow : call.now ≠ 0) (hnew : db.2.relationshipCommands.find call.commandKey = none)
    (hhome : db.2.validateRelationshipActorHome call.pair.2 call.body.targetHomeStationPeerID
    station.localStationID = .ok ()) : ∃ db' result, station.submitRelationshipCommand call db = .ok (db', result) := by
  have hwell := wellFormed_of_validate hval
  obtain ⟨committed, result, hcom⟩ := exists_commitEvent hevent hrevocation hframe henqueue hwell
  obtain ⟨-, hcmds, -⟩ := commits_of_commitEvent hcom
  have hptid := (ptid_of_validate hwell.actor).1.1
  have hbody : ∃ body, call.command.body = some body := by
    simp only [validateSocialRelationshipCommand, ok_iff] at hval
    exact ne_none_iff_exists'.1 hval.1
  obtain ⟨body, hbody⟩ := hbody
  have hknown := hwell.known
  simp only [HasUnknownFields, not_or, not_not] at hknown
  have hsigning : call.command.signingBytes = .ok call.command.marshalSigned := by
    simp only [signingBytes, ok_iff, and_true, not_or, not_not]
    refine ⟨?_, hknown.1, hknown.2.1⟩
    rw [hbody]
    rintro ⟨⟩
  have hb : call.command.marshal ≠ [] := by
    have hwr : writeDelimited 1 body.marshal ≠ [] :=
      append_ne_nil_of_left_ne_nil (append_ne_nil_of_left_ne_nil (encodeVarint_ne_nil _) _) _
    simp only [marshal, marshalSigned, hbody, ne_eq, append_eq_nil_iff, not_and]
    exact fun hnil => absurd hnil.1.1 hwr
  have hput : ∃ p, committed.2.putSocialRelationshipCommand (call.record result) = .ok (p, call.record result, true) := by
    have hnone : committed.2.relationshipCommands.find (call.record result).key = none := by
      rw [hcmds]
      exact hnew
    simp only [putSocialRelationshipCommand, ok_iff, hnone, not_or, not_not]
    exact ⟨_, ⟨hptid, hwell.commandID.1.1, hb, Chat.Hash.length_bytes _, hnow⟩, rfl⟩
  obtain ⟨tables, hput⟩ := hput
  refine ⟨(committed.1, tables), result, ?_⟩
  simp only [submitRelationshipCommand, submitTransaction, hnew, ok_iff,
    submitNew, Prod.exists, Prod.mk.injEq, not_or, not_not]
  refine ⟨hval, ⟨?_, hac⟩, _, hsigning, hsigned _ hsigning, hhome, committed.1, committed.2, result, ?_,
    tables, _, true, hput, result, rfl, ⟨rfl, rfl⟩, rfl⟩
  · rw [hac]
    exact hptid
  · rw [decideCommand_of_changes hchg]
    exact hcom

end

end

/-! ### Receiving -/

section

variable [Digest] {station : Station} {revoke : Option Revoker} {event : SocialRelationshipEvent}
  {frame : Frame} {outbox : Outbox} {tables : Tables} {handled : Handled Tables RelationshipChanged}

def SocialRelationshipEvent.pair (event : SocialRelationshipEvent) : String × String :=
  ((getActor event.actor).ptid, (getActor event.targetActor).ptid)

structure Enters (event : SocialRelationshipEvent) (tables tables' : Tables) : Prop where
  valid : validateSocialRelationshipEvent event = .ok ()
  next : Extends (tables.relationships.find event.pair) event
  heads : ∀ pair, tables'.relationships.find pair =
    if event.pair = pair then some (.ofEvent event) else tables.relationships.find pair

lemma admit_eq_ok {next : DirectionalRelationshipState} {duplicate : Bool} :
    station.admitRelationshipEvent event frame tables = .ok (next, duplicate) ↔
    ¬FrameDiffers event frame station.localStationID ∧
    tables.validateRelationshipActorHome event.pair.1 event.actorHomeStationPeerID station.localStationID = .ok () ∧
    tables.validateRelationshipActorHome event.pair.2 station.localStationID station.localStationID = .ok () ∧
    applySocialRelationshipEvent (tables.relationships.find event.pair) event = .ok (next, duplicate) := by
  simp only [admitRelationshipEvent, validateRelationshipEventFrame, ok_iff]
  constructor
  · rintro ⟨⟨-, hframe⟩, hac, htgt, happly⟩
    exact ⟨hframe, hac, htgt, happly⟩
  · rintro ⟨hframe, hac, htgt, happly⟩
    exact ⟨⟨(applyEvent_eq_ok.1 happly).1, hframe⟩, hac, htgt, happly⟩

lemma receiveEvent_eq_ok (h : station.receiveRelationshipEvent revoke event frame outbox tables = .ok handled) :
    (∃ e, station.admitRelationshipEvent event frame tables = .error e ∧
    handled.result = deliveryResultForSocialError e ∧ handled.domain = tables) ∨
    (∃ next, station.admitRelationshipEvent event frame tables = .ok (next, true) ∧
    handled.result = .duplicate ∧ handled.domain = tables) ∨
    (station.admitRelationshipEvent event frame tables = .ok (.ofEvent event, false) ∧
    handled.result = .accepted ∧ Enters event tables handled.domain ∧ handled.domain.actors = tables.actors) := by
  simp only [receiveRelationshipEvent] at h
  split at h
  · next e he =>
    cases h
    exact .inl ⟨e, he, rfl, rfl⟩
  · next next hent =>
    cases h
    exact .inr (.inl ⟨next, hent, rfl, rfl⟩)
  · next next hent =>
    obtain ⟨-, -, -, happly⟩ := admit_eq_ok.1 hent
    obtain ⟨hval, ⟨⟨⟩, -⟩ | ⟨-, -, hextends, rfl⟩⟩ := applyEvent_eq_ok.1 happly
    simp only [storeRelationshipEvent, ok_iff, Prod.exists] at h
    obtain ⟨saved, hsave, outbox', tables', heffs, rfl⟩ := h
    obtain ⟨relationships, hsave', hfd⟩ := exists_save tables (.ofEvent event)
    have hsv : { tables with relationships } = saved := Except.ok.inj (hsave'.symm.trans hsave)
    subst hsv
    obtain ⟨hhds, -, hactors⟩ := tables_of_blockedEffects heffs
    refine .inr (.inr ⟨hent, rfl, ⟨hval, hextends, fun pair => ?_⟩, hactors⟩)
    rw [hhds]
    exact hfd pair

end

end PeersTouch.Social
