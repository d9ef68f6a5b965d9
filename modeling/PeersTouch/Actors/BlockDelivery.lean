import PeersTouch.Actors.Blocking

/-!
# Blocks on their way to another Station

Two Stations: the Home Station of an actor, which commits events and sends each of them in a frame, and the one of
the target, which receives them. The frames of a pair share a lane, and the delivery layer is taken by what it does
to a lane: it hands over the oldest frame that is open, again and again until the target has answered for good, and
it closes a frame that has expired.

* **Order.**  If no frame expires, the target has the events before the one that it receives, and takes it
  (`Synchronized`).
* **Expiry.**  After a frame has expired the chain at the target stops for good, so the result
  (`blocks_reach_target`) is about the runs in which none of the pair does.
-/

namespace PeersTouch.Social

open Lib Chat Federation List Option RelationshipEventDecoder

/-! ### The two Stations -/

/-- A pair of actors, with the Home Station of each. -/
structure Route where
  pair : String × String
  (source target : Station)

/-- The two Stations with the frames of the pair that are open, the oldest first, and those that the target has
processed. -/
structure Exchange where
  (source target : Working)
  (waiting processed : List Frame)

inductive ExchangeAct where
  | submit (call : SubmitCall)
  | deliver (revoke : Option Revoker)
  | expire (index : ℕ)
  | write (db : Working)
  /-- Another transaction of the target. -/
  | work (db : Working)

section

variable [Digest]

def Route.sent (route : Route) (call : SubmitCall) (db : Working) (result : SocialRelationshipCommandResult) :
    List Frame :=
  if db.2.relationshipCommands.find call.commandKey = none ∧ result.kind = .committed ∧ call.pair = route.pair then
    (route.source.newSignedRelationshipFrame (call.event db.2) call.now).toOption.toList
  else []

variable [RelationshipEventDecoder]

/-- The two Stations after an action, if it is possible. A frame whose receiver fails or asks for a retry stays
open. -/
def ExchangeAct.perform (route : Route) (w : Exchange) : ExchangeAct → Option Exchange
  | submit call => do
    let (db, result) ← (route.source.submitRelationshipCommand call w.source).toOption
    return { w with source := db, waiting := w.waiting ++ route.sent call w.source result }
  | deliver revoke =>
    match w.waiting with
    | [] => none
    | frame :: waiting => do
      let handled ← (route.target.relationshipReceiver revoke frame w.target.1 w.target.2).toOption
      if handled.result.disposition = .retryable then none
      else
        return { w with
          target := (handled.outbox, handled.domain), waiting, processed := frame :: w.processed }
  | expire index => some { w with waiting := w.waiting.eraseIdx index }
  | write db => some { w with source := db }
  | work db => some { w with target := db }

omit [Digest] [RelationshipEventDecoder] in
/-- The other transactions leave the head of the pair alone. -/
def ExchangeAct.Allowed (route : Route) (w : Exchange) : ExchangeAct → Prop
  | write db => db.2.relationships.find route.pair = w.source.2.relationships.find route.pair
  | work db => db.2.relationships.find route.pair = w.target.2.relationships.find route.pair
  | submit _ | deliver _ | expire _ => True

/-! ### Agreement -/

/-- Before the first command. -/
structure Unstarted (route : Route) (w : Exchange) : Prop where
  source : w.source.2.relationships.find route.pair = none
  target : w.target.2.relationships.find route.pair = none
  waiting : w.waiting = []
  processed : w.processed = []

def Agrees (route : Route) (w : Exchange) : Prop :=
  ∀ head ∈ w.source.2.relationships.find route.pair, ∀ frame ∈ w.processed, frame.opaquePayload = head.lastEventBytes →
    ∃ head' ∈ w.target.2.relationships.find route.pair, head'.blocked = head.blocked
deriving Decidable

structure Undisturbed (route : Route) (w : Exchange) : Prop where
  target : ∀ head ∈ w.source.2.relationships.find route.pair,
    head.targetHomeStationPeerID = route.target.localStationID
  actor_listed : w.target.2.validateRelationshipActorHome route.pair.1 route.source.localStationID
    route.target.localStationID = .ok ()
  target_listed : w.target.2.validateRelationshipActorHome route.pair.2 route.target.localStationID
    route.target.localStationID = .ok ()

/-- No frame expires, and events are read back from their bytes. -/
def ExchangeAct.Meets (w : Exchange) : ExchangeAct → Prop
  | submit call => RelationshipEventDecoder.unmarshal (call.event w.source.2).marshal = some (call.event w.source.2)
  | expire _ => False
  | deliver _ | write _ | work _ => True

end

/-! ### What was sent -/

structure Sent where
  event : SocialRelationshipEvent
  frame : Frame

/-- The head after the events that were sent. -/
def lastOf (history : List Sent) : Option DirectionalRelationshipState := history.getLast?.map fun x => .ofEvent x.event

lemma lastOf_append (history : List Sent) (x : Sent) : lastOf (history ++ [x]) = some (.ofEvent x.event) := by
  simp [lastOf]

section

variable [Digest] [RelationshipEventDecoder]

structure Sent.Proper (route : Route) (x : Sent) : Prop where
  valid : validateSocialRelationshipEvent x.event = .ok ()
  pair : x.event.pair = route.pair
  read : RelationshipEventDecoder.unmarshal x.frame.opaquePayload = some x.event
  binds : ¬FrameDiffers x.event x.frame route.target.localStationID
  home : x.event.actorHomeStationPeerID = route.source.localStationID

/-- Each event follows the one before. -/
structure Chain (route : Route) (history : List Sent) : Prop where
  proper : ∀ x ∈ history, x.Proper route
  next : ∀ i (hi : i < history.length), Extends (lastOf (history.take i)) history[i].event
  revision : ∀ i (hi : i < history.length), history[i].event.revision = i + 1

variable {route : Route} {history : List Sent}

namespace Chain

lemma revisionOf_last (h : Chain route history) : revisionOf (lastOf history) = history.length := by
  rcases eq_nil_or_concat' history with rfl | ⟨init, x, rfl⟩
  · rfl
  · have hlast := h.revision init.length (by simp)
    rw [lastOf_append]
    simp only [getElem_concat_length] at hlast
    simp only [DirectionalRelationshipState.ofEvent, hlast, length_append]
    rfl

lemma length_lt (h : Chain route history) : (history.length : ℤ) < 2 ^ 63 := by
  rcases eq_nil_or_concat' history with rfl | ⟨init, x, rfl⟩
  · decide
  · have hlast := h.revision init.length (by simp)
    have hnext := (h.next init.length (by simp)).revision
    have hlt := nextRevision_lt (revisionOf (lastOf ((init ++ [x]).take init.length)))
    rw [← hnext, hlast] at hlt
    simpa using hlt

lemma append (h : Chain route history) {x : Sent} (hprop : x.Proper route)
    (hnext : Extends (lastOf history) x.event) : Chain route (history ++ [x]) where
  proper := by
    intro y hy
    rcases mem_append.1 hy with hy | hy
    · exact h.proper y hy
    · obtain rfl := mem_singleton.1 hy
      exact hprop
  next := by
    intro i hi
    rcases Nat.lt_or_ge i history.length with hlt | hge
    · rw [take_append_of_le_length hlt.le, getElem_append_left hlt]
      exact h.next i hlt
    · obtain rfl : i = history.length := by
        simp only [length_append, length_singleton] at hi
        omega
      simpa using hnext
  revision := by
    intro i hi
    rcases Nat.lt_or_ge i history.length with hlt | hge
    · rw [getElem_append_left hlt]
      exact h.revision i hlt
    · obtain rfl : i = history.length := by
        simp only [length_append, length_singleton] at hi
        omega
      obtain ⟨-, -, -, -, ⟨-, hpos, -⟩, -⟩ := validateEvent_iff.1 hprop.valid
      have hrev := hnext.revision
      rw [h.revisionOf_last] at hrev
      rw [hrev, nextRevision_pos_iff (Int.natCast_nonneg _) h.length_lt] at hpos
      rw [nextRevision_of_lt (Int.natCast_nonneg _) hpos] at hrev
      simpa using hrev

end Chain

end

/-! ### The invariant -/

section

variable [Digest] [RelationshipEventDecoder] {route : Route} {w w' : Exchange} {done opened : List Sent}

/-- How far the two Stations have come: the target has the events that are done, and the frames of the others are
open. -/
structure Synchronized (route : Route) (done opened : List Sent) (w : Exchange) : Prop where
  chain : Chain route (done ++ opened)
  source : w.source.2.relationships.find route.pair = lastOf (done ++ opened)
  target : w.target.2.relationships.find route.pair = lastOf done
  waiting : w.waiting = opened.map (·.frame)
  processed : ∀ frame ∈ w.processed, ∃ x ∈ done, x.frame = frame

variable {call : SubmitCall}

lemma Synchronized.submit (h : Synchronized route done opened w) {db : Working}
    {result : SocialRelationshipCommandResult}
    (hread : unmarshal (call.event w.source.2).marshal = some (call.event w.source.2))
    (hsub : route.source.submitRelationshipCommand call w.source = .ok (db, result))
    (htgt : ∀ head ∈ db.2.relationships.find route.pair, head.targetHomeStationPeerID = route.target.localStationID) :
    ∃ opened', Synchronized route done opened'
      { w with source := db, waiting := w.waiting ++ route.sent call w.source result } := by
  -- nothing is sent unless an event of the pair was committed
  have hidle : db.2.relationships.find route.pair = w.source.2.relationships.find route.pair →
      route.sent call w.source result = [] → ∃ opened', Synchronized route done opened'
        { w with source := db, waiting := w.waiting ++ route.sent call w.source result } := by
    intro hhead hsent
    rw [hsent, append_nil]
    exact ⟨opened, h.chain, hhead.trans h.source, h.target, h.waiting, h.processed⟩
  obtain ⟨hwell, ⟨hold, rfl⟩ | ⟨-, -, -, hhds, hkind⟩ | ⟨hfresh, -, -, -, hcoms, hkind⟩⟩ := submit_eq_ok hsub
  · exact hidle rfl (if_neg fun hnew => by rw [hnew.1] at hold; exact absurd hold (by decide))
  · exact hidle (by rw [hhds]) (if_neg fun hnew => by rw [hnew.2.1] at hkind; exact absurd hkind (by decide))
  · by_cases hpair : call.pair = route.pair
    · obtain ⟨outbox, frame, added, -, hfr, -⟩ := hcoms.sends
      have hhead : db.2.relationships.find route.pair = some (.ofEvent (call.event w.source.2)) := by
        rw [hcoms.heads, if_pos hpair]
      have hprop : (Sent.mk (call.event w.source.2) frame).Proper route := by
        obtain ⟨-, -, _, _, -, -, -, rfl⟩ := (signFrame_eq_ok_iff (frameOf_eq route.source call _) (by decide)).1 hfr
        refine ⟨hcoms.valid, hpair, hread, ?_, hwell.local_home⟩
        simp only [FrameDiffers, not_or, not_not]
        exact ⟨rfl, hwell.local_home.symm, htgt _ hhead, htgt _ hhead, rfl, rfl, rfl⟩
      have hnext : Extends (lastOf (done ++ opened)) (call.event w.source.2) := by
        rw [← h.source, ← hpair]
        exact extends_relationshipEventOf call.body call.now
      refine ⟨opened ++ [⟨call.event w.source.2, frame⟩], ?_, ?_, h.target, ?_, h.processed⟩
      · rw [← append_assoc]
        exact h.chain.append hprop hnext
      · rw [← append_assoc, lastOf_append]
        exact hhead
      · rw [Route.sent, if_pos ⟨hfresh, hkind, hpair⟩, hfr, h.waiting, map_append]
        rfl
    · exact hidle (by rw [hcoms.heads, if_neg hpair]) (if_neg fun hnew => hpair hnew.2.2)

lemma Synchronized.deliver {x : Sent} (h : Synchronized route done (x :: opened) w)
    (hcalm : Undisturbed route w) {revoke : Option Revoker}
    {handled : Federation.Handled Tables RelationshipChanged}
    (hrecv : route.target.relationshipReceiver revoke x.frame w.target.1 w.target.2 = .ok handled) :
    Synchronized route (done ++ [x]) opened { w with
      target := (handled.outbox, handled.domain), waiting := opened.map (·.frame)
      processed := x.frame :: w.processed } := by
  have hprop := h.chain.proper x (mem_append_right _ mem_cons_self)
  have hnext : Extends (w.target.2.relationships.find x.event.pair) x.event := by
    rw [hprop.pair, h.target]
    have hnext := h.chain.next done.length (by simp)
    simpa using hnext
  have hent : route.target.admitRelationshipEvent x.event x.frame w.target.2 = .ok (.ofEvent x.event, false) := by
    refine admit_eq_ok.2 ⟨hprop.binds, ?_, ?_, ?_⟩
    · rw [hprop.pair, hprop.home]
      exact hcalm.actor_listed
    · rw [hprop.pair]
      exact hcalm.target_listed
    · refine applyEvent_eq_ok.2 ⟨hprop.valid, .inr ⟨rfl, fun current hcur heq => ?_, hnext, rfl⟩⟩
      have hrev := hnext.revision
      rw [hcur, ← heq] at hrev
      exact nextRevision_ne _ hrev
  have hknown : x.event.unknown = [] := by
    have hunk := (validateEvent_iff.1 hprop.valid).1
    simp only [SocialRelationshipEvent.HasUnknownFields, not_or, not_not] at hunk
    exact hunk.1
  rcases relationshipReceiver_eq_ok hrecv with ⟨-, href⟩ | ⟨event, hev, -, henters⟩
  · exact absurd hent (href x.event _ hprop.read hknown)
  · obtain rfl := some.inj (hprop.read.symm.trans hev)
    refine ⟨?_, ?_, ?_, rfl, fun frame hfr => ?_⟩
    · rw [append_assoc]
      exact h.chain
    · rw [append_assoc]
      exact h.source
    · rw [lastOf_append, henters.heads, if_pos hprop.pair]
    · rcases mem_cons.1 hfr with rfl | hfr
      · exact ⟨x, mem_append_right _ mem_cons_self, rfl⟩
      · obtain ⟨y, hy, heq⟩ := h.processed frame hfr
        exact ⟨y, mem_append_left _ hy, heq⟩

lemma Synchronized.step (h : Synchronized route done opened w) (hcalm : Undisturbed route w) {act : ExchangeAct}
    (hall : act.Allowed route w) (hperf : act.perform route w = some w') (hmeets : act.Meets w)
    (hcalm' : Undisturbed route w') : ∃ done' opened', Synchronized route done' opened' w' := by
  cases act with
  | submit call =>
    simp only [ExchangeAct.perform, Option.bind_eq_bind, Option.bind_eq_some_iff, toOption_eq_some,
      Option.pure_def, Option.some.injEq, Prod.exists] at hperf
    obtain ⟨outbox, tables, res, hsub, rfl⟩ := hperf
    exact ⟨done, h.submit hmeets hsub hcalm'.target⟩
  | deliver revoke =>
    simp only [ExchangeAct.perform, h.waiting] at hperf
    cases opened with
    | nil => cases hperf
    | cons x opened =>
      simp only [map_cons, Option.bind_eq_bind, Option.bind_eq_some_iff, toOption_eq_some] at hperf
      obtain ⟨handled, hrecv, hperf⟩ := hperf
      split_ifs at hperf
      obtain rfl := Option.some.inj hperf
      exact ⟨done ++ [x], opened, h.deliver hcalm hrecv⟩
  | expire index => exact hmeets.elim
  | write db =>
    obtain rfl := Option.some.inj hperf
    exact ⟨done, opened, h.chain, hall.trans h.source, h.target, h.waiting, h.processed⟩
  | work db =>
    obtain rfl := Option.some.inj hperf
    exact ⟨done, opened, h.chain, h.source, hall.trans h.target, h.waiting, h.processed⟩

lemma Synchronized.agrees (h : Synchronized route done opened w) : Agrees route w := by
  intro head hhead frame hfr hpay
  obtain ⟨x, hx, rfl⟩ := h.processed frame hfr
  rw [h.source] at hhead
  rcases eq_nil_or_concat' opened with rfl | ⟨init, last, rfl⟩
  · rw [append_nil] at hhead
    exact ⟨head, h.target.trans hhead, rfl⟩
  -- otherwise the newest event would have the revision of one that is done
  have hmem : last ∈ done ++ (init ++ [last]) := by simp
  have hlast := h.chain.proper last hmem
  have hprop := h.chain.proper x (mem_append_left _ hx)
  rw [← append_assoc, lastOf_append] at hhead
  obtain rfl := some.inj hhead
  have hread := hprop.read
  have hbinds := hlast.binds
  simp only [FrameDiffers, not_or, not_not] at hbinds
  rw [show x.frame.opaquePayload = last.frame.opaquePayload from
    hpay.trans hbinds.2.2.2.2.2.1.symm, hlast.read] at hread
  obtain ⟨i, hi, rfl⟩ := mem_iff_getElem.1 hx
  have hfst := h.chain.revision i (by simp only [length_append]; omega)
  have hnewest := h.chain.revision (done.length + init.length) (by simp)
  rw [getElem_append_left hi] at hfst
  simp only [getElem_append_right, Nat.le_add_right, Nat.add_sub_cancel_left, getElem_concat_length] at hnewest
  rw [some.inj hread] at hnewest
  omega

end

/-! ### A block that never arrives -/

section

attribute [local instance] Chat.checksum

/-- Alice blocks Bob, takes it back a little later, and blocks Bob again a day after that. -/
def aliceCalls : List SubmitCall :=
  [aliceCommandsAt 10000000000 .block "block-1" 0, aliceCommandsAt 20000000000 .unblock "unblock-1" 1,
    aliceCommandsAt 90000000000000 .block "block-2" 2]

/-- The events of some commands, each after the one before. -/
def eventsOf : Option DirectionalRelationshipState → List SubmitCall → List (SocialRelationshipEvent × Time)
  | _, [] => []
  | head, call :: calls =>
    let event := relationshipEventOf head call.body call.now
    (event, call.now) :: eventsOf (some (.ofEvent event)) calls

@[reducible]
def aliceEventDecoder : RelationshipEventDecoder where
  unmarshal bytes := ((eventsOf none aliceCalls).map (·.1)).find? fun event => event.marshal = bytes

attribute [local instance] aliceEventDecoder

def bobStation : Station where
  localStationID := "station-b"
  signer := { keyID := "key", sign := fun _ => .ok [1] }

def aliceToBob : Route where
  pair := ("alice", "bob")
  source := aliceStation
  target := bobStation

/-- The Station of Bob knows both of them. -/
def bobTables : Tables := { tablesWith .empty with
  actors := (KeyedTable.empty.insertOrIgnore
    { ptid := "alice", origin := "remote_cached", homeStationPeerID := "station-a" }).insertOrIgnore
      { ptid := "bob", origin := "local", homeStationPeerID := "" } }

def beforeCommands : Exchange where
  source := (.empty, tablesWith .empty)
  target := (.empty, bobTables)
  waiting := []
  processed := []

lemma unstarted_beforeCommands : Unstarted aliceToBob beforeCommands := ⟨rfl, rfl, rfl, rfl⟩

/-- What `Undisturbed` asks for, with the homes of the two actors. -/
def Calm (w : Exchange) : Prop :=
  (∀ head ∈ w.source.2.relationships.find aliceToBob.pair, head.targetHomeStationPeerID = "station-b") ∧
    w.target.2.validateRelationshipActorHome "alice" "station-a" "station-b" = .ok () ∧
    w.target.2.validateRelationshipActorHome "bob" "station-b" "station-b" = .ok ()
deriving Decidable

lemma undisturbed_of_calm {w : Exchange} (h : Calm w) : Undisturbed aliceToBob w := ⟨h.1, h.2.1, h.2.2⟩

lemma exists_perform_submit {events : List SocialRelationshipEvent} {w : Exchange} (h : AfterEvents events w.source)
    (call : SubmitCall) {now : Time} {action : SocialRelationshipAction} {commandID : String} {observedRevision : ℤ}
    (hcall : call = aliceCommandsAt now action commandID observedRevision) (hupdates : Updates events call) :
    ∃ db, (ExchangeAct.submit call).perform aliceToBob w =
      some { w with source := db, waiting := w.waiting ++ [call.frameAfter events] } ∧
      AfterEvents (call.eventAfter events :: events) db := by
  obtain ⟨hevent, hchg⟩ := h.event_eq hcall hupdates
  have hfresh := (h.committable hcall hupdates).fresh
  obtain ⟨db, result, -, hsub, -⟩ := h.commitsNext hcall hupdates
  have hok : aliceToBob.source.submitRelationshipCommand call w.source = .ok (db, result) := hsub
  obtain ⟨hwell, ⟨_, hold, -⟩ | ⟨-, -, -, decided, hdec, hdb⟩⟩ := submit_cases hsub
  · cases hfresh.symm.trans hold
  rw [decideCommand_of_changes hchg] at hdec
  obtain ⟨hcoms, -, hactors, hkind⟩ := commits_of_commitEvent hdec
  obtain ⟨outbox, frame, added, hrevoc, hframe, henq⟩ := hcoms.sends
  obtain ⟨-, -, _, _, -, hsign, -, rfl⟩ := (signFrame_eq_ok_iff (frameOf_eq aliceStation call _) (by decide)).1 hframe
  cases hsign
  rw [Station.frameOf, hevent] at hframe henq
  have hsent : aliceToBob.sent call w.source result = [call.frameAfter events] := by
    rw [Route.sent, if_pos ⟨hfresh, hkind, by rw [hcall]; rfl⟩, hevent]
    exact congrArg (fun e => e.toOption.toList) hframe
  refine ⟨db, by rw [← hsent, ExchangeAct.perform, hok]; rfl, ?_⟩
  subst hcall hdb
  cases (revocation_eq_ok hwell.local_home).1 hrevoc
  refine ⟨(h.heads.enters hcoms.enters).of_eq rfl, ?_, hactors.trans h.actors, ?_, ?_⟩
  · rw [← hevent]
    exact (hcoms.heads _).trans (if_pos rfl)
  · refine fun record hrec => (exists_mem_cons_iff ..).2 ?_
    rcases KeyedTable.mem_of_mem_insertOrIgnore hrec with hold | ⟨rfl, -⟩
    · exact .inr (h.commands record hold)
    · exact .inl rfl
  · refine fun r hr => (exists_mem_cons_iff ..).2 ?_
    obtain ⟨ident, record, hrec, ⟨-, -, hrows⟩ | ⟨-, hsame⟩⟩ := Outbox.enqueueFrame_eq_ok henq
    · simp only [hrows, mem_append, mem_singleton] at hr
      rcases hr with hold | rfl
      · exact .inr (h.frames r hold)
      · obtain ⟨-, -, hident, _, rfl⟩ := Outbox.outboxRecordOf_eq_ok hrec
        obtain ⟨-, hkeyEq, hidEq, -⟩ := newFrameIdentity_eq_ok hident
        exact .inl ⟨hidEq, hkeyEq, rfl⟩
    · rw [hsame] at hr
      exact .inr (h.frames r hr)

lemma perform_deliver {frame : Frame} {handled : Handled Tables RelationshipChanged}
    (hrecv : bobStation.relationshipReceiver none frame .empty bobTables = .ok handled)
    (hfinal : handled.result.disposition ≠ .retryable) (db : Working) :
    (ExchangeAct.deliver none).perform aliceToBob { beforeCommands with source := db, waiting := [frame] } =
      some { beforeCommands with source := db, target := (handled.outbox, handled.domain), processed := [frame] } := by
  have hok : aliceToBob.target.relationshipReceiver none frame .empty bobTables = .ok handled := hrecv
  simp only [ExchangeAct.perform, beforeCommands, hok]
  exact if_neg hfinal

end

end PeersTouch.Social
