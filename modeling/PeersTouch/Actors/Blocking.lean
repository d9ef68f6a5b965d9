import PeersTouch.Actors.RelationshipChain

/-!
# Undoing a block

The heads that a Station can come to have, and the commands that it then commits. A head that was made by an event
carries the hash of that event, and can be extended. A head that the migration made of a friendship has no hash, and
no event can follow it: the Station refuses the event that it has just built itself. `commits_iff` says what decides
whether a command is committed.
-/

namespace PeersTouch.Social

open DirectionalRelationshipState Station Option

open Lib Chat Federation KeyedTable RelationshipEventDecoder SubmitCall List Timestamp

/-! ### Reachable heads -/

variable {frame : Frame} {outbox : Outbox}

section

variable [Digest]

/-- One thing that happens to the tables of a Station. -/
inductive RelationshipStep [RelationshipEventDecoder] (station : Station) : Working → Working → Prop
  | migrate (outbox : Outbox) (tables : Tables) (now : Time) :
      RelationshipStep station (outbox, tables) (outbox, tables.migrateLegacyBlockedRelationships now)
  | submit {db db' : Working} (call : SubmitCall) (result : SocialRelationshipCommandResult)
      (h : station.submitRelationshipCommand call db = .ok (db', result)) : RelationshipStep station db db'
  | receive (revoke : Option Revoker) (frame : Frame) (outbox : Outbox) (tables : Tables)
      (handled : Federation.Handled Tables RelationshipChanged)
      (h : station.relationshipReceiver revoke frame outbox tables = .ok handled) :
      RelationshipStep station (outbox, tables) (handled.outbox, handled.domain)
  /-- All other parts of the Station leave the heads alone. -/
  | elsewhere {db db' : Working} (h : db'.2.relationships = db.2.relationships) :
      RelationshipStep station db db'

structure Head (head : DirectionalRelationshipState) : Prop where
  positive : 0 < head.revision
  bounded : head.revision < 2 ^ 63
  hash : head.lastEventHash = [] ∨ head.lastEventHash.length = 32

def Heads (tables : Tables) : Prop := ∀ pair, ∀ head ∈ tables.relationships.find pair, Head head

variable {tables tables' : Tables} {event : SocialRelationshipEvent}

lemma Heads.enters (hhds : Heads tables) (h : Enters event tables tables') : Heads tables' := by
  intro pair head hhead
  rw [h.heads] at hhead
  split_ifs at hhead
  · cases hhead
    obtain ⟨-, -, -, -, ⟨-, hpos, -, hhash⟩, -⟩ := validateEvent_iff.1 h.valid
    refine ⟨hpos, show event.revision < _ from ?_, .inr hhash⟩
    rw [h.next.revision]
    exact nextRevision_lt _
  · exact hhds pair head hhead

omit [Digest] in
lemma Heads.of_eq (hhds : Heads tables) (h : tables'.relationships = tables.relationships) : Heads tables' := by
  intro pair
  rw [h]
  exact hhds pair

omit [Digest] in
lemma Heads.migrate (hhds : Heads tables) (now : Time) : Heads (tables.migrateLegacyBlockedRelationships now) := by
  intro pair head hhead
  obtain ⟨hmem, hpair⟩ := find_eq_some.1 hhead
  rcases mem_of_mem_insertAll hmem with hold | hnew
  · exact hhds pair head (find_eq_some.2 ⟨hold, hpair⟩)
  · obtain ⟨f, -, rfl⟩ := mem_map.1 hnew
    exact ⟨Int.one_pos, show (1 : ℤ) < 2 ^ 63 by decide, .inl rfl⟩

variable {station : Station}

lemma Commits.enters {call : SubmitCall} {db db' : Working} (h : Commits station call db db') :
    Enters (call.event db.2) db.2 db'.2 :=
  ⟨h.valid, extends_relationshipEventOf _ _, h.heads⟩

/-- A receiver that returns has left the heads alone, or has put an event among them. -/
lemma relationshipReceiver_eq_ok [RelationshipEventDecoder] {revoke : Option Revoker}
    {handled : Federation.Handled Tables RelationshipChanged}
    (h : station.relationshipReceiver revoke frame outbox tables = .ok handled) :
    handled.domain = tables ∧ (∀ event next, unmarshal frame.opaquePayload = some event →
    event.unknown = [] → station.admitRelationshipEvent event frame tables ≠ .ok (next, false)) ∨
    ∃ event, unmarshal frame.opaquePayload = some event ∧
    station.admitRelationshipEvent event frame tables = .ok (.ofEvent event, false) ∧
    Enters event tables handled.domain := by
  simp only [relationshipReceiver] at h
  split at h
  · next hnone =>
    cases h
    refine .inl ⟨rfl, fun event next hev => ?_⟩
    rw [hnone] at hev
    cases hev
  · next event hev =>
    have hread : ∀ event', unmarshal frame.opaquePayload = some event' →
        event' = event := fun event' hev' => some.inj (hev'.symm.trans hev)
    split_ifs at h with hunk
    · cases h
      refine .inl ⟨rfl, fun event' next hev' hknown => ?_⟩
      obtain rfl := hread event' hev'
      exact absurd hknown hunk
    · rcases receiveEvent_eq_ok (mapError_eq_ok.1 h) with
        ⟨_, hent, -, hsame⟩ | ⟨_, hent, -, hsame⟩ | ⟨hent, -, henters, -⟩
      case inl | inr.inl =>
        refine .inl ⟨hsame, fun event' next hev' _ hok => ?_⟩
        obtain rfl := hread event' hev'
        rw [hent] at hok
        cases hok
      · exact .inr ⟨event, hev, hent, henters⟩

lemma heads_step [RelationshipEventDecoder] {db db' : Working}
    (h : RelationshipStep station db db') (hhds : Heads db.2) : Heads db'.2 := by
  cases h with
  | migrate outbox tables now => exact hhds.migrate now
  | submit call res h =>
    rcases (submit_eq_ok h).2 with ⟨-, rfl⟩ | ⟨-, -, -, hsame, -⟩ | ⟨-, -, -, -, hcoms, -⟩
    · exact hhds
    · exact hhds.of_eq hsame
    · exact hhds.enters hcoms.enters
  | receive revoke frame outbox tables handled h =>
    rcases relationshipReceiver_eq_ok h with ⟨hsame, -⟩ | ⟨_, -, -, henters⟩
    · rw [hsame]
      exact hhds
    · exact hhds.enters henters
  | elsewhere h => exact hhds.of_eq h

lemma heads_reachable [RelationshipEventDecoder] {db₀ db : Working} (hstart : db₀.2.relationships = .empty)
    (h : Relation.ReflTransGen (RelationshipStep station) db₀ db) : Heads db.2 := by
  induction h with
  | refl =>
    intro pair head hhead
    rw [hstart] at hhead
    cases hhead
  | tail _ hstep ih => exact heads_step hstep ih

end

/-! ### Commands that are committed -/

section

variable [Digest]

def SubmitCall.takenBack (call : SubmitCall) (outbox : Outbox) : Except String Outbox :=
  match call.revoke with
  | none => .ok outbox
  | some revoke => if call.body.action = .block then revoke call.pair.1 call.pair.2 outbox else .ok outbox

def Station.frameOf (station : Station) (call : SubmitCall) (tables : Tables) : Frame :=
  station.relationshipFrame (call.event tables) call.now

/-- What a command has to meet in order to be committed. Beside the head, which must have an event behind it and a
revision after it, these are the limits of the names, the clock, the directory and the delivery layer. -/
structure Committable (station : Station) (call : SubmitCall) (db : Working) : Prop where
  hash : ∀ head ∈ db.2.relationships.find call.pair, head.lastEventHash ≠ []
  revision : revisionOf (db.2.relationships.find call.pair) + 1 < 2 ^ 63
  fresh : db.2.relationshipCommands.find call.commandKey = none
  home : db.2.validateRelationshipActorHome call.pair.2 call.body.targetHomeStationPeerID
    station.localStationID = .ok ()
  eventID : (socialRelationshipEventID call.body.commandID
    (revisionOf (db.2.relationships.find call.pair) + 1)).utf8ByteSize ≤ 255
  orderingKey : (relationshipOrderingKey call.pair.1 call.pair.2).utf8ByteSize ≤ 512
  now : call.now ≠ 0 ∧ (Timestamp.ofTime call.now).checkValid = .ok ()
  expiry : (Timestamp.ofTime (call.now + 86400000000000)).checkValid = .ok ()
  key : KeyFits station.signer
  signature : ∃ canonical signature,
    ((station.frameOf call db.2).prepared station.signer).signingBytes = .ok canonical ∧
      station.signer.sign canonical = .ok signature ∧ SignatureFits signature
  room : ∃ outbox identity, call.takenBack db.1 = .ok outbox ∧
    newFrameIdentity ((station.frameOf call db.2).prepared station.signer) = .ok identity ∧
    Takes outbox identity
      (.ofFrame ((station.frameOf call db.2).prepared station.signer) identity 0 0)

variable {station : Station} {call : SubmitCall} {db : Working}

lemma revocation_eq_ok (hhome : call.body.actorHomeStationPeerID = station.localStationID) {outbox' : Outbox} :
    station.revocation call.revoke (.ofEvent (call.event db.2)) outbox = .ok outbox' ↔
    call.takenBack outbox = .ok outbox' := by
  have hblk : (ofEvent (call.event db.2)).blocked =
      decide (call.body.action = .block) := rfl
  have hac : (ofEvent (call.event db.2)).actorHomeStationPeerID =
      station.localStationID := hhome
  unfold revocation revokeBlockedPrivateContent takenBack
  rw [hblk]
  cases call.revoke with
  | none => simp only [ite_self, Except.ok.injEq]
  | some revoke =>
    simp only [decide_eq_true_eq]
    split_ifs
    · exact mapError_eq_ok
    · simp only [Except.ok.injEq]

omit [Digest] in
lemma canonical_keyed {kind : String} (hkind : kind.toList.head? = some 's') (name : String)
    {last : String} (h : Canonical last) : Canonical (kind ++ name ++ ":" ++ last) := by
  refine h.append (c := 's') ?_ rfl
  rw [String.toList_append, String.toList_append, append_assoc, head?_append, hkind]
  rfl

lemma breaksChain_event (hhds : Heads db.2) (hrev : revisionOf (db.2.relationships.find call.pair) + 1 < 2 ^ 63) :
    (call.event db.2).BreaksChain ↔ ∃ head ∈ db.2.relationships.find call.pair, head.lastEventHash = [] := by
  cases hfd : db.2.relationships.find call.pair with
  | none =>
    have hev : (call.event db.2).revision = 1 ∧ (call.event db.2).previousHash = [] := by
      simp only [event, hfd]
      exact ⟨rfl, rfl⟩
    simp [SocialRelationshipEvent.BreaksChain, hev]
  | some head =>
    have hhead := hhds call.pair head hfd
    rw [hfd] at hrev
    have hnext : (call.event db.2).revision = head.revision + 1 := by
      simp only [event, hfd]
      exact nextRevision_of_lt hhead.positive.le hrev
    have hprev : (call.event db.2).previousHash = head.lastEventHash := by
      simp only [event, hfd]
      rfl
    have hpos := hhead.positive
    simp only [SocialRelationshipEvent.BreaksChain, hprev, mem_def, some.injEq, exists_eq_left']
    constructor
    · rintro (⟨hone, -⟩ | ⟨-, hlen⟩)
      · omega
      · exact hhead.hash.resolve_right hlen
    · intro hnil
      refine .inr ⟨by omega, ?_⟩
      rw [hnil]
      decide

omit [Digest] in
lemma revisionOf_nonneg (hhds : Heads db.2) (pair : String × String) :
    0 ≤ revisionOf (db.2.relationships.find pair) ∧ revisionOf (db.2.relationships.find pair) < 2 ^ 63 := by
  cases hfd : db.2.relationships.find pair with
  | none => exact ⟨Int.le_refl 0, by decide⟩
  | some head => exact ⟨(hhds pair head hfd).positive.le, (hhds pair head hfd).bounded⟩

lemma validate_event_iff (hhds : Heads db.2) (h : WellFormed call.command station.localStationID) :
    validateSocialRelationshipEvent (call.event db.2) = .ok () ↔
    revisionOf (db.2.relationships.find call.pair) + 1 < 2 ^ 63 ∧
    (∀ head ∈ db.2.relationships.find call.pair, head.lastEventHash ≠ []) ∧
    (socialRelationshipEventID call.body.commandID
    (revisionOf (db.2.relationships.find call.pair) + 1)).utf8ByteSize ≤ 255 ∧
    (ofTime call.now).checkValid = .ok () := by
  obtain ⟨hnonneg, hlt⟩ := revisionOf_nonneg hhds call.pair
  refine (validate_relationshipEventOf h).trans ?_
  rw [nextRevision_pos_iff hnonneg hlt]
  constructor
  · rintro ⟨hid, hrev, hnow, hch⟩
    rw [nextRevision_of_lt hnonneg hrev] at hid
    refine ⟨hrev, fun head hhead hnil => ?_, (not_badIdentifier.1 hid).2, hnow⟩
    exact hch ((breaksChain_event hhds hrev).2 ⟨head, hhead, hnil⟩)
  · rintro ⟨hrev, hhash, hid, hnow⟩
    rw [nextRevision_of_lt hnonneg hrev]
    refine ⟨not_badIdentifier.2 ⟨canonical_keyed rfl _ (canonical_toString (by omega)), hid⟩,
      hrev, hnow, fun hbreaks => ?_⟩
    obtain ⟨head, hhead, hnil⟩ := (breaksChain_event hhds hrev).1 hbreaks
    exact hhash head hhead hnil

lemma sendable_event_iff (hval : validateSocialRelationshipEvent (call.event db.2) = .ok ())
    (h : WellFormed call.command station.localStationID) :
    Sendable station.localStationID (call.event db.2).targetHomeStationPeerID (call.event db.2).eventID
    (relationshipOrderingKey call.pair.1 call.pair.2) (call.event db.2).revision
    (call.event db.2).marshal call.now (call.now + 86400000000000) ↔
    (relationshipOrderingKey call.pair.1 call.pair.2).utf8ByteSize ≤ 512 ∧
    (ofTime (call.now + 86400000000000)).checkValid = .ok () := by
  obtain ⟨-, hids, -, -, ⟨-, hpos, htime, -⟩, -⟩ := validateEvent_iff.1 hval
  have hid := not_badIdentifier.1 (hids ("event_id", _) mem_cons_self)
  simp only [InvalidTimestamp, not_forall, not_not] at htime
  obtain ⟨t, ht, hnow⟩ := htime
  cases ht
  constructor
  · intro hsend
    exact ⟨hsend.orderingKey_fits.2, hsend.expiresAt_valid⟩
  · rintro ⟨hkey, hexpiry⟩
    exact ⟨h.actorHome.imp_right fun hle => hle.trans (by decide),
      h.targetHome.imp_right fun hle => hle.trans (by decide), hid.imp_right fun hle => hle.trans (by decide),
      ⟨canonical_keyed rfl _ (ptid_of_validate h.target).1, hkey⟩, hpos.le, length_marshal_event hval, hnow,
      hexpiry, Int.lt_add_of_pos_right _ (by decide), Int.sub_left_le_of_le_add (Int.le_refl _)⟩

/-- A command that carries the revision of its pair and changes its state. -/
def CommitsNext (station : Station) (call : SubmitCall) (db : Working) : Prop :=
  ∃ db' result head, station.submitRelationshipCommand call db = .ok (db', result) ∧
    result.kind = .committed ∧ db'.2.relationships.find call.pair = some head ∧
    head.revision = revisionOf (db.2.relationships.find call.pair) + 1 ∧ head.blocked = decide (call.body.action = .block)

lemma frameOf_eq (station : Station) (call : SubmitCall) (tables : Tables) :
    station.frameOf call tables = socialFrame .socialRelationshipEvent
    "FEDERATED_DOMAIN_PAYLOAD_KIND_SOCIAL_RELATIONSHIP_EVENT" station.localStationID
    (call.event tables).targetHomeStationPeerID (call.event tables).eventID
    (relationshipOrderingKey call.pair.1 call.pair.2) (call.event tables).revision
    (call.event tables).marshal call.now (call.now + 86400000000000) :=
  rfl

/-- The place of a row in the outbox does not depend on its signature or its times. -/
lemma takes_signed_iff {ident : Federation.FrameIdentity} {signer : Federation.Signer} {signature : Bytes}
    {expiresAt now : Time} : Takes outbox ident (.ofFrame (frame.signed signer signature) ident expiresAt now) ↔
    Takes outbox ident (.ofFrame (frame.prepared signer) ident 0 0) := by
  unfold Takes OutboxRecord.Conflicts OutboxRecord.SameSlot OutboxRecord.ofFrame Frame.signed
  exact Iff.rfl

/-- The Station commits a command exactly if the head of its pair has an event behind it and the command keeps to the
limits. -/
lemma commitsNext_iff (hhds : Heads db.2)
    (hval : validateSocialRelationshipCommand call.command station.localStationID call.now = .ok ())
    (hac : call.authenticatedActorPTID = call.pair.1)
    (hsigned : ∀ bytes, call.command.signingBytes = .ok bytes → call.verifySignature bytes = .ok ())
    (hchg : call.Changes db.2) : CommitsNext station call db ↔ Committable station call db := by
  have hwell := wellFormed_of_validate hval
  constructor
  · rintro ⟨db', res, head, hsub, hkind, hhead, hrev, -⟩
    rcases (submit_eq_ok hsub).2 with ⟨-, rfl⟩ | ⟨-, hsame, -⟩ | ⟨hnew, -, hnow, hhome, hcoms, -⟩
    · -- A repetition changes nothing, so the revision is the old one.
      rw [hhead] at hrev
      exact absurd hrev.symm (Int.lt_succ head.revision).ne'
    · exact absurd hchg hsame
    · obtain ⟨hlast, hhash, hid, hclock⟩ := (validate_event_iff hhds hwell).1 hcoms.valid
      obtain ⟨outbox, frame, added, hrevoc, hfr, henq⟩ := hcoms.sends
      obtain ⟨hsend, hkey, canonical, signature, hcan, hsign, hsig, rfl⟩ :=
        (signFrame_eq_ok_iff (frameOf_eq station call db.2) (by decide)).1 hfr
      obtain ⟨horder, hexpiry⟩ := (sendable_event_iff hcoms.valid hwell).1 hsend
      obtain ⟨ident, expiry, hident, hrec⟩ :=
        outboxRecordOf_signed (frameOf_eq station call db.2) (by decide) hkey hsig hnow hsend
      exact ⟨hhash, hlast, hnew, hhome, hid, horder, ⟨hnow, hclock⟩, hexpiry, hkey,
        ⟨canonical, signature, hcan, hsign, hsig⟩, outbox, ident,
        (revocation_eq_ok hwell.local_home).1 hrevoc, hident,
        takes_signed_iff.1 ((exists_enqueueFrame_iff hrec).1 ⟨_, henq⟩)⟩
  · intro h
    obtain ⟨canonical, signature, hcan, hsign, hsig⟩ := h.signature
    obtain ⟨outbox, ident, htook, hident, htakes⟩ := h.room
    have hev := (validate_event_iff hhds hwell).2 ⟨h.revision, h.hash, h.eventID, h.now.2⟩
    have hsend := (sendable_event_iff hev hwell).2 ⟨h.orderingKey, h.expiry⟩
    have hfr := (signFrame_eq_ok_iff (frameOf_eq station call db.2) (by decide)).2
      ⟨hsend, h.key, canonical, signature, hcan, hsign, hsig, rfl⟩
    obtain ⟨ident', expiry, hident', hrec⟩ :=
      outboxRecordOf_signed (frameOf_eq station call db.2) (by decide) h.key hsig h.now.1 hsend
    cases hident.symm.trans hident'
    obtain ⟨⟨outbox', added⟩, henq⟩ := (exists_enqueueFrame_iff hrec).2 (takes_signed_iff.2 htakes)
    obtain ⟨db', res, hsub⟩ := exists_submit hev ((revocation_eq_ok hwell.local_home).2 htook)
      hfr henq hval hac hsigned hchg h.now.1 h.fresh h.home
    rcases (submit_eq_ok hsub).2 with ⟨hold, -⟩ | ⟨-, hsame, -⟩ | ⟨-, -, -, -, hcoms, hkind⟩
    · rw [h.fresh] at hold
      exact absurd hold (by decide)
    · exact absurd hchg hsame
    · refine ⟨db', res, .ofEvent (call.event db.2), hsub, hkind, ?_, ?_, rfl⟩
      · rw [hcoms.heads, if_pos rfl]
      · exact nextRevision_of_lt (revisionOf_nonneg hhds call.pair).1 h.revision

/-- **A block can be undone.**  In every state that a Station can come to, a command that is well formed, signed by a
device of its actor and about the revision of its pair is committed with the next revision exactly if the head has an
event behind it and the limits are kept. -/
theorem block_undone_iff [RelationshipEventDecoder] {db₀ : Working} (hstart : db₀.2.relationships = .empty)
    (hrun : Relation.ReflTransGen (RelationshipStep station) db₀ db)
    (hvalid : validateSocialRelationshipCommand call.command station.localStationID call.now = .ok ())
    (hactor : call.authenticatedActorPTID = call.pair.1)
    (hsigned : ∀ bytes, call.command.signingBytes = .ok bytes → call.verifySignature bytes = .ok ())
    (hchanges : call.Changes db.2) : CommitsNext station call db ↔ Committable station call db :=
  commitsNext_iff (heads_reachable hstart hrun) hvalid hactor hsigned hchanges

end

section

attribute [local instance] Chat.checksum

/-- No payload can be decoded. -/
@[reducible]
def blindDecoder : RelationshipEventDecoder where
  unmarshal := fun _ => none

attribute [local instance] blindDecoder

def aliceStation : Station where
  localStationID := "station-a"
  signer := { keyID := "key", sign := fun _ => .ok [1] }

def person (ptid : String) : ActorRef := { ptid, kind := .person }

/-- A command of Alice about Bob, ten seconds after the beginning of all times. -/
def aliceCommands (action : SocialRelationshipAction) (commandID : String) (observedRevision : ℤ) :
    SubmitCall where
  authenticatedActorPTID := "alice"
  command :=
    { body := some
        { formatVersion := 1, commandID, action, actor := some (person "alice")
          targetActor := some (person "bob"), actorHomeStationPeerID := "station-a"
          targetHomeStationPeerID := "station-b", observedRevision
          createdAt := some (.ofTime 10000000000), expiresAt := some (.ofTime 20000000000)
          authorizingDevice := some { actor := some (person "alice"), deviceID := "phone" } }
      signingKeyID := "device-key", actorDeviceSignature := List.replicate 64 1 }
  now := 10000000000
  verifySignature := fun _ => .ok ()
  revoke := none

/-- Tables that know where Bob lives. -/
def tablesWith (friendships : KeyedTable Friendship Friendship.pair) : Tables where
  actors := KeyedTable.empty.insertOrIgnore
    { ptid := "bob", origin := "remote_cached", homeStationPeerID := "station-b" }
  relationshipCommands := .empty
  relationships := .empty
  friendships := friendships
  follows := []
  requests := .empty
  accepted := .empty

/-- Alice had blocked Bob before there were events. -/
def legacyTables : Tables := tablesWith (KeyedTable.empty.insertOrIgnore
  { actorPTID := "alice", peerPTID := "bob", status := .blocked, createdAt := 1, updatedAt := 1 })

def aliceCommandsAt (now : Time) (action : SocialRelationshipAction) (commandID : String) (observedRevision : ℤ) :
    SubmitCall :=
  let call := aliceCommands action commandID observedRevision
  { call with
    now, command := { call.command with
        body := call.command.body.map fun body =>
          { body with createdAt := some (.ofTime now), expiresAt := some (.ofTime (now + 10000000000)) } } }

/-- The Station of Alice after some events, the newest first. -/
structure AfterEvents (events : List SocialRelationshipEvent) (db : Working) : Prop where
  heads : Heads db.2
  head : db.2.relationships.find ("alice", "bob") = events.head?.map .ofEvent
  actors : db.2.actors = (tablesWith .empty).actors
  commands : ∀ record ∈ db.2.relationshipCommands.rows, ∃ e ∈ events, record.commandID = e.commandID
  frames : ∀ r ∈ db.1.rows, ∃ e ∈ events, r.frameID = (aliceStation.relationshipFrame e 0).frameID ∧
    r.idempotencyKey = (aliceStation.relationshipFrame e 0).idempotencyKey ∧ r.orderingSequence = e.revision

lemma afterEvents_nil : AfterEvents [] (.empty, tablesWith .empty) :=
  ⟨fun _ _ h => absurd h (not_mem_none _), rfl, rfl, by simp [tablesWith], by simp⟩

def SubmitCall.eventAfter (call : SubmitCall) (events : List SocialRelationshipEvent) : SocialRelationshipEvent :=
  relationshipEventOf (events.head?.map .ofEvent) call.body call.now

def SubmitCall.frameAfter (call : SubmitCall) (events : List SocialRelationshipEvent) : Frame :=
  (aliceStation.relationshipFrame (call.eventAfter events) call.now).signed aliceStation.signer [1]

/-- A new command that changes what the newest event says. -/
def Updates (events : List SocialRelationshipEvent) (call : SubmitCall) : Prop :=
  validateSocialRelationshipCommand call.command "station-a" call.now = .ok () ∧
    (call.body.observedRevision = revisionOf (events.head?.map .ofEvent) ∧
      blockedOf (events.head?.map .ofEvent) ≠ decide (call.body.action = .block)) ∧
    validateSocialRelationshipEvent (call.eventAfter events) = .ok () ∧ call.now ≠ 0 ∧
    (ofTime (call.now + 86400000000000)).checkValid = .ok () ∧
    ∀ e ∈ events, e.commandID ≠ call.body.commandID ∧
      (aliceStation.relationshipFrame e 0).frameID ≠ (call.frameAfter events).frameID ∧
      (aliceStation.relationshipFrame e 0).idempotencyKey ≠ (call.frameAfter events).idempotencyKey ∧
      e.revision ≠ (call.eventAfter events).revision
deriving Decidable

section

variable {events : List SocialRelationshipEvent} {db : Working} {now : Time} {action : SocialRelationshipAction}
  {commandID : String} {observedRevision : ℤ} {call : SubmitCall} (h : AfterEvents events db)
  (hcall : call = aliceCommandsAt now action commandID observedRevision) (hupdates : Updates events call)
include h hcall hupdates

lemma AfterEvents.event_eq : call.event db.2 = call.eventAfter events ∧ call.Changes db.2 := by
  subst hcall
  have hhead : db.2.relationships.find (aliceCommandsAt now action commandID observedRevision).pair =
    events.head?.map .ofEvent := h.head
  simp only [event, Changes, hhead]
  exact ⟨rfl, hupdates.2.1⟩

lemma AfterEvents.committable : Committable aliceStation call db := by
  obtain ⟨hevent, -⟩ := h.event_eq hcall hupdates
  obtain ⟨hvalid, -, hval, hnow, hexpiry, hnew⟩ := hupdates
  have hwell : WellFormed call.command aliceStation.localStationID := wellFormed_of_validate hvalid
  simp only [frameAfter, ← hevent] at hval hnew
  obtain ⟨hrev, hhash, hid, hclock⟩ := (validate_event_iff h.heads hwell).1 hval
  have hkey : KeyFits aliceStation.signer := ⟨⟨by decide, by decide⟩, by decide⟩
  have hsig : SignatureFits [1] := ⟨by decide, by decide⟩
  have horder : (relationshipOrderingKey "alice" "bob").utf8ByteSize ≤ 512 := by decide
  subst hcall
  obtain ⟨ident, -, hident, -⟩ := outboxRecordOf_signed (frameOf_eq aliceStation _ db.2) (by decide) hkey hsig hnow
    ((sendable_event_iff hval hwell).2 ⟨horder, hexpiry⟩)
  obtain ⟨-, hkeyEq, hidEq, -⟩ := newFrameIdentity_eq_ok hident
  refine ⟨hhash, hrev, ?_, ?_, hid, horder, ⟨hnow, hclock⟩, hexpiry, hkey, ⟨_, [1], rfl, rfl, hsig⟩,
    db.1, ident, rfl, hident, .inl fun r hr => ?_⟩
  · rw [find_eq_none, ← Bool.not_eq_true, hasKey_iff]
    rintro ⟨record, hrec, hkey⟩
    obtain ⟨e, he, heq⟩ := h.commands record hrec
    exact (hnew e he).1 (heq.symm.trans (congrArg Prod.snd hkey))
  · simp only [Tables.validateRelationshipActorHome, h.actors]
    rfl
  · obtain ⟨e, he, hfr, hk, hseq⟩ := h.frames r hr
    obtain ⟨-, hfr', hk', hseq'⟩ := hnew e he
    rintro (hsame | ⟨-, hsame⟩ | ⟨-, -, -, -, hsame⟩)
    · exact hfr' (hfr.symm.trans (hsame.symm.trans hidEq))
    · exact hk' (hk.symm.trans (hsame.symm.trans hkeyEq))
    · exact hseq' (hseq.symm.trans hsame.symm)

lemma AfterEvents.commitsNext : CommitsNext aliceStation call db := by
  have hvalid : validateSocialRelationshipCommand call.command aliceStation.localStationID call.now = .ok () :=
    hupdates.1
  have hactor : call.authenticatedActorPTID = call.pair.1 := by rw [hcall]; rfl
  have hsigned : ∀ bytes, call.command.signingBytes = .ok bytes → call.verifySignature bytes = .ok () :=
    fun _ _ => by rw [hcall]; rfl
  exact (commitsNext_iff h.heads hvalid hactor hsigned (h.event_eq hcall hupdates).2).2 (h.committable hcall hupdates)

end

lemma updates_firstBlock : Updates [] (aliceCommands .block "block-1" 0) := by decide +kernel

/-- Alice blocks Bob for the first time. -/
theorem first_block_committed : CommitsNext aliceStation (aliceCommands .block "block-1" 0) (.empty, tablesWith .empty) ∧
      Committable aliceStation (aliceCommands .block "block-1" 0) (.empty, tablesWith .empty) := by
  have hcommittable := afterEvents_nil.committable rfl updates_firstBlock
  exact ⟨(block_undone_iff rfl .refl updates_firstBlock.1 rfl (fun _ _ => rfl) ⟨rfl, by decide⟩).2 hcommittable,
    hcommittable⟩

set_option maxRecDepth 10000 in
/-- Alice can not unblock Bob after the migration: the Station refuses the event it has built. -/
theorem migrated_block_stays : Relation.ReflTransGen (RelationshipStep aliceStation) (.empty, legacyTables)
        (.empty, legacyTables.migrateLegacyBlockedRelationships 5) ∧
      validateSocialRelationshipCommand (aliceCommands .unblock "unblock-1" 1).command "station-a" 10000000000 = .ok () ∧
      (aliceCommands .unblock "unblock-1" 1).Changes (legacyTables.migrateLegacyBlockedRelationships 5) ∧
      aliceStation.submitRelationshipCommand (aliceCommands .unblock "unblock-1" 1)
          (.empty, legacyTables.migrateLegacyBlockedRelationships 5) =
        .error (eventError .stateConflict "previous_hash" "does not extend the relationship hash chain") ∧
      ¬CommitsNext aliceStation (aliceCommands .unblock "unblock-1" 1)
        (.empty, legacyTables.migrateLegacyBlockedRelationships 5) := by
  have hrefused : (aliceStation.submitRelationshipCommand (aliceCommands .unblock "unblock-1" 1)
      (.empty, legacyTables.migrateLegacyBlockedRelationships 5)).map (fun p => p.2.kind) =
        .error (eventError .stateConflict "previous_hash" "does not extend the relationship hash chain") := by
    decide +kernel
  have herror := map_eq_error.1 hrefused
  refine ⟨.single (.migrate _ _ 5), by decide +kernel, ⟨by decide +kernel, by decide +kernel⟩, herror, ?_⟩
  rintro ⟨db', result, head, hsubmit, -⟩
  cases hsubmit

end

end PeersTouch.Social
