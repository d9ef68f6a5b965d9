import PeersTouch.Actors.Blocking

/-!
# What a relationship command announces

A submitted command leaves a record with its result. A later call with the same command ID finds the record, so it
changes nothing and a repetition gets the result of the first call. The notification of the change depends on a flag
that is set for commands that change nothing, and on an event, which only the result of a change has.
-/

namespace PeersTouch.Social

open Lib Chat Federation Station SubmitCall KeyedTable

section

variable [Digest]

/-- The flag after the transaction of a call. The branch that commits an event does not set it. -/
def SubmitCall.publishChange (call : SubmitCall) (tables : Tables) : Bool :=
  (tables.relationshipCommands.find call.commandKey).isNone &&
    match newSocialRelationshipEvent (tables.relationships.find call.pair) call.command call.now with
    | .ok none => true
    | _ => false

def Station.published (station : Station) (call : SubmitCall) (db : Working) : Option RelationshipChanged := do
  let (_, result) ← (station.submitRelationshipCommand call db).toOption
  let event ← if call.publishChange db.2 then result.event else none
  return { viewerPTID := (getActor event.actor).ptid, actorPTID := (getActor event.actor).ptid
           targetActorPTID := (getActor event.targetActor).ptid, blocked := event.blocked }

def Station.CommitsEvent (station : Station) (call : SubmitCall) (db : Working) : Prop :=
  db.2.relationshipCommands.find call.commandKey = none ∧
    ∃ db' result, station.submitRelationshipCommand call db = .ok (db', result) ∧ result.kind = .committed

/-- The database after a list of calls, where one that fails is rolled back. -/
def Station.afterCalls (station : Station) (db : Working) (calls : List SubmitCall) : Working :=
  runAll (fun call db => (station.submitRelationshipCommand call db).map (·.1)) db calls

variable {station : Station} {call : SubmitCall} {db db' : Working} {result : SocialRelationshipCommandResult}
  {record : SocialRelationshipCommandRecord}

lemma published_eq_none (station : Station) (call : SubmitCall) (db : Working) : station.published call db = none := by
  unfold published
  cases h : station.submitRelationshipCommand call db with
  | error e => rfl
  | ok p =>
    by_cases hflag : call.publishChange db.2 = true
    · -- The flag is set for a command without effect, and its result has no event.
      simp only [publishChange, Bool.and_eq_true, Option.isNone_iff_eq_none] at hflag
      obtain ⟨hnew, hnone⟩ := hflag
      obtain ⟨-, ⟨_, hrec, -⟩ | ⟨-, -, -, _, hdecide, -⟩⟩ := submit_cases h
      · cases hrec.symm.trans hnew
      · split at hnone
        · next hev =>
          simp only [decideCommand, hev, duplicateResult, ok_iff, Prod.mk.injEq] at hdecide
          obtain ⟨_, ⟨_, -, rfl⟩, -, hres⟩ := hdecide
          simp [← hres, result]
        · cases hnone
    · simp [hflag]

lemma validResult_of_decideCommand (hwell : WellFormed call.command station.localStationID)
    (h : station.decideCommand call db = .ok (db', result)) : validateSocialRelationshipCommandResult result = .ok () := by
  have hid : ¬BadIdentifier call.body.commandID := not_badIdentifier.2 hwell.commandID
  simp only [validateSocialRelationshipCommandResult, validateSocialRelationshipIdentifier]
  by_cases hchg : call.Changes db.2
  · rw [decideCommand_of_changes hchg] at h
    obtain ⟨hcoms, -, -⟩ := commits_of_commitEvent h
    have hpositive := (validateEvent_iff.1 hcoms.valid).2.2.2.2.1.2.1
    simp only [commitRelationshipEvent, ok_iff, Prod.exists] at h
    obtain ⟨_, _, -, _, -, _, tables, -, proj, hproj, _, -, _, _, -, rfl, rfl⟩ := h
    have hhead : tables.relationships.find call.pair = some (.ofEvent (call.event db.2)) := by
      rw [hcoms.heads, if_pos rfl]
    simp only [Tables.relationshipProjection, ok_iff, hhead] at hproj
    have hmat : ¬ProjectionDiffers (some proj) (call.event db.2) := by
      obtain ⟨-, rfl⟩ := hproj
      rintro (hne | hne | hne)
      · exact hne rfl
      · exact hne (max_eq_right hpositive.le)
      · exact hne rfl
    have hcmd : (call.event db.2).commandID = call.body.commandID := rfl
    simp [result, hcoms.valid, hmat, hid, hcmd]
  · simp only [decideCommand] at h
    split at h
    · cases h
      unfold SubmitCall.failure
      split <;> simp [result, hid]
    · simp only [duplicateResult, ok_iff] at h
      obtain ⟨_, ⟨_, -, rfl⟩, -, rfl⟩ := h
      simp [result, hid]
    · next event hev => exact absurd (changes_of_event hev) hchg

lemma stored_of_submit (h : station.submitRelationshipCommand call db = .ok (db', result)) :
    ∃ record, db'.2.relationshipCommands.find call.commandKey = some record ∧ call.SameRecord record ∧
    validateSocialRelationshipCommandResult record.result = .ok () ∧ record.result = result := by
  obtain ⟨hwell, ⟨record, hrec, hrep, rfl⟩ | ⟨hnew, -, -, decided, hdecide, rfl⟩⟩ := submit_cases h
  · simp only [replay, ok_iff, not_not] at hrep
    exact ⟨record, hrec, hrep⟩
  · refine ⟨call.record result, ?_, ⟨rfl, rfl, rfl⟩, validResult_of_decideCommand hwell hdecide, rfl⟩
    exact (find_insertOrIgnore (find_eq_none.1 hnew) _).trans (if_pos rfl)

lemma find_afterCalls (station : Station) {key : String × String}
    (hrec : db.2.relationshipCommands.find key = some record) (calls : List SubmitCall) :
    (station.afterCalls db calls).2.relationshipCommands.find key = some record := by
  refine runAll_invariant (P := fun db : Working => db.2.relationshipCommands.find key = some record) ?_ hrec calls
  intro db call db' hdb h
  obtain ⟨⟨db', result⟩, hsub, rfl⟩ := map_eq_ok.1 h
  obtain ⟨-, ⟨_, -, -, rfl⟩ | ⟨hnew, -, -, decided, -, rfl⟩⟩ := submit_cases hsub
  · exact hdb
  · refine (find_insertOrIgnore (find_eq_none.1 hnew) _).trans ?_
    rw [if_neg, hdb]
    rintro rfl
    cases hdb.symm.trans hnew

lemma settle_of_find (hrec : db.2.relationshipCommands.find call.commandKey = some record) :
    settle (fun call db => (station.submitRelationshipCommand call db).map (·.1)) db call = db := by
  unfold settle
  split
  · next db' h =>
    obtain ⟨⟨db', result⟩, hsub, rfl⟩ := map_eq_ok.1 h
    obtain ⟨-, ⟨_, -, -, rfl⟩ | ⟨hnew, -⟩⟩ := submit_cases hsub
    · rfl
    · cases hrec.symm.trans hnew
  · rfl

end

section

attribute [local instance] Chat.checksum

end

end PeersTouch.Social
