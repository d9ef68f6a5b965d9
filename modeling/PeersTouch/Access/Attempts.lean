import PeersTouch.Chat.ValueObject

/-!
# Access attempts

Every call of the access gate loads the row of an attempt, works on its copy and writes the copy back with its
decision, in database steps of their own. A save also writes the columns that its call has not changed, so what is
stored stays only if no other call writes between the load and the save of a call (`reads_keep_progress`).
-/

namespace PeersTouch.Access

inductive Status where
  | pending | actionRequired | granted | blocked | failed | cancelled | expired
deriving DecidableEq

structure ActorColumns where
  ptid : String
  kind : ℤ
  (username email : String)

/-- The columns that a call copies and writes back. -/
structure Progress where
  actor : ActorColumns
  (sessionID authMethod : String)
  completedActions : Finset String

/-- The row of an attempt, without the columns that no step changes. -/
structure AccessAttempt where
  status : Status
  progress : Progress
  invitePassed : Bool
  decisionRevision : ℕ
  expiresAt : Option ℕ

/-- What a login changes in the copy of its call. -/
structure Login where
  actor : ActorColumns
  authMethod : String

/-- The database steps of calls, which are told apart by a number. -/
inductive Step where
  | find (call now : ℕ)
  /-- `markAttemptActionCompleted`. -/
  | mark (call : ℕ) (actionID : String)
  /-- The transaction of an invite code that can be used. -/
  | redeem
  /-- The transaction of a finalisation for the Station, the device and the generation of the row. -/
  | finalize (sessionID : String)
  /-- `saveAttemptDecision` with the status of the decision. -/
  | save (call : ℕ) (login : Option Login) (outcome : Status)

/-- The columns after a save over a row with an actor; a copy without an actor leaves that one. -/
def Progress.written (copy : Progress) (actor : ActorColumns) : Option Login → Progress
  | none => { copy with actor := if copy.actor.ptid = "" then actor else copy.actor }
  | some login => { copy with actor := login.actor, sessionID := "", authMethod := login.authMethod }

structure World where
  row : AccessAttempt
  copies : ℕ → Option Progress

namespace World

def step (w : World) : Step → World
  | .find call now =>
    if w.row.status = .cancelled ∨ w.row.status = .expired then
      { w with copies := Function.update w.copies call none }
    else if ∃ t ∈ w.row.expiresAt, t < now then
      { row := { w.row with status := .expired }, copies := Function.update w.copies call none }
    else { w with copies := Function.update w.copies call w.row.progress }
  | .mark call actionID =>
    let completedActions := insert actionID w.row.progress.completedActions
    let progress := { w.row.progress with completedActions }
    { row := { w.row with progress }, copies := Function.update w.copies call progress }
  | .redeem => { w with row.invitePassed := true }
  | .finalize sessionID =>
    let p := w.row.progress
    if w.row.status = .granted ∧ Chat.trimSpace p.actor.ptid ≠ "" ∧ p.authMethod = "password" ∧ p.sessionID = "" then
      { w with row.progress.sessionID := sessionID }
    else w
  | .save call login outcome => match w.copies call with
    | none => w
    | some copy =>
      if w.row.status = .cancelled ∨ w.row.status = .expired then w
      else { w with row := { w.row with
        status := outcome, progress := copy.written w.row.progress.actor login
        decisionRevision := w.row.decisionRevision + 1 } }

def run (w : World) (steps : List Step) : World := steps.foldl step w

def Current (w : World) (calls : Finset ℕ) : Prop := ∀ call ∈ calls, ∀ copy ∈ w.copies call, copy = w.row.progress

end World

/-- The calls whose copies are what the row has. -/
def Step.current (calls : Finset ℕ) : Step → Finset ℕ
  | find call _ => insert call calls
  | mark call _ => {call}
  | redeem | save _ none _ => calls
  | finalize _ | save _ (some _) _ => ∅

/-- No other call writes between the load and the save of a call. -/
def Undisturbed (calls : Finset ℕ) : List Step → Prop
  | [] => True
  | s :: steps => (∀ call login outcome, s = .save call login outcome → call ∈ calls) ∧ Undisturbed (s.current calls) steps

/-- What a row has is in a later one. A login replaces the actor, the method and the session. -/
structure AccessAttempt.Keeps (row row' : AccessAttempt) (steps : List Step) : Prop where
  completed : row.progress.completedActions ⊆ row'.progress.completedActions
  invite : row.invitePassed = true → row'.invitePassed = true
  bound : (∀ call login outcome, .save call (some login) outcome ∉ steps) →
    row'.progress.actor = row.progress.actor ∧ row'.progress.authMethod = row.progress.authMethod ∧
      (row.progress.sessionID ≠ "" → row'.progress.sessionID = row.progress.sessionID)

variable {w : World} {calls : Finset ℕ} {s : Step} {steps : List Step}

lemma keeps_of_eq {row row' : AccessAttempt} (hprog : row'.progress = row.progress)
    (hinvite : row.invitePassed = true → row'.invitePassed = true) : row.Keeps row' steps where
  completed := by rw [hprog]
  invite := hinvite
  bound := fun _ => by simp [hprog]

/-- A call whose copy is what the row has writes nothing but its decision and its login. -/
lemma step_save {call : ℕ} (login : Option Login) (outcome : Status) (hcur : w.Current calls) (hmem : call ∈ calls) :
    ∃ status progress decisionRevision, w.step (.save call login outcome) =
        { w with row := { w.row with status, progress, decisionRevision } } ∧
      (progress = w.row.progress ∨ progress = w.row.progress.written w.row.progress.actor login) := by
  simp only [World.step]
  cases hcopy : w.copies call with
  | none => exact ⟨_, _, _, rfl, .inl rfl⟩
  | some copy =>
    obtain rfl := hcur call hmem copy hcopy
    split_ifs
    · exact ⟨_, _, _, rfl, .inl rfl⟩
    · exact ⟨_, _, _, rfl, .inr rfl⟩

lemma current_empty (w : World) : w.Current ∅ := fun _ hcall => absurd hcall (Finset.notMem_empty _)

lemma World.Current.update (hcur : w.Current calls) {call : ℕ} {copy : Option Progress}
    (hcopy : ∀ p ∈ copy, p = w.row.progress) :
    ({ w with copies := Function.update w.copies call copy } : World).Current (insert call calls) := by
  intro call' hcall' p hp
  by_cases heq : call' = call
  · subst heq
    exact hcopy p (by simpa using hp)
  · exact hcur call' ((Finset.mem_insert.1 hcall').resolve_left heq) p (by simpa [heq] using hp)

lemma keeps_step (hcur : w.Current calls) (h : ∀ call login outcome, s = .save call login outcome → call ∈ calls) :
    w.row.Keeps (w.step s).row [s] ∧ (w.step s).Current (s.current calls) := by
  cases s with
  | find call now =>
    simp only [World.step]
    split_ifs
    · exact ⟨keeps_of_eq rfl id, hcur.update (by simp)⟩
    · exact ⟨keeps_of_eq rfl id, World.Current.update (w := { w with row.status := .expired }) hcur (by simp)⟩
    · exact ⟨keeps_of_eq rfl id, hcur.update (by simp)⟩
  | mark call actionID =>
    exact ⟨⟨Finset.subset_insert _ _, id, fun _ => ⟨rfl, rfl, fun _ => rfl⟩⟩,
      (current_empty { w with row.progress.completedActions := _ }).update (by simp)⟩
  | redeem => exact ⟨keeps_of_eq rfl fun _ => rfl, hcur⟩
  | finalize sessionID =>
    refine ⟨?_, current_empty _⟩
    simp only [World.step]
    split_ifs with hrdy
    · exact ⟨subset_rfl, id, fun _ => ⟨rfl, rfl, fun hbound => absurd hrdy.2.2.2 hbound⟩⟩
    · exact keeps_of_eq rfl id
  | save call login outcome =>
    obtain ⟨status, prog, revision, hstep, hprog⟩ := step_save login outcome hcur (h _ _ _ rfl)
    rw [hstep]
    cases login with
    | none =>
      -- the copy is written over what it was taken from
      obtain rfl : prog = w.row.progress := hprog.elim id fun h => h.trans (by simp [Progress.written])
      exact ⟨keeps_of_eq rfl id, hcur⟩
    | some login =>
      refine ⟨?_, current_empty _⟩
      rcases hprog with rfl | rfl
      · exact keeps_of_eq rfl id
      · exact ⟨subset_rfl, id, fun hnone => absurd List.mem_cons_self (hnone call login outcome)⟩

lemma keeps_run (hcur : w.Current calls) (h : Undisturbed calls steps) :
    w.row.Keeps (w.run steps).row steps ∧ (w.run steps).Current (steps.foldl Step.current calls) := by
  induction steps generalizing w calls with
  | nil => exact ⟨keeps_of_eq rfl id, hcur⟩
  | cons s steps ih =>
    obtain ⟨hstep, hcur₁⟩ := keeps_step hcur h.1
    obtain ⟨hkeep, hcur'⟩ := ih hcur₁ h.2
    refine ⟨⟨hstep.completed.trans hkeep.completed, hkeep.invite ∘ hstep.invite, fun hnone => ?_⟩, hcur'⟩
    simp only [List.mem_cons, not_or] at hnone
    obtain ⟨hac, hauth, hsess⟩ := hstep.bound fun call login outcome hmem =>
      (hnone call login outcome).1 (List.mem_singleton.1 hmem)
    obtain ⟨hac', hauth', hsess'⟩ := hkeep.bound fun call login outcome => (hnone call login outcome).2
    refine ⟨hac'.trans hac, hauth'.trans hauth, fun hbound => ?_⟩
    exact (hsess' (by rwa [hsess hbound])).trans (hsess hbound)

lemma undisturbed_append {steps' : List Step} : Undisturbed calls (steps ++ steps') ↔
    Undisturbed calls steps ∧ Undisturbed (steps.foldl Step.current calls) steps' := by
  induction steps generalizing calls with
  | nil => simp [Undisturbed]
  | cons s steps ih => simp [Undisturbed, ih, and_assoc]

/-- What is stored at some time is stored at the end. -/
theorem reads_keep_progress (w : World) (before after : List Step) (h : Undisturbed ∅ (before ++ after)) :
    (w.run before).row.Keeps (w.run (before ++ after)).row after := by
  obtain ⟨hbefore, hafter⟩ := undisturbed_append.1 h
  have hrun : w.run (before ++ after) = (w.run before).run after := List.foldl_append
  rw [hrun]
  exact (keeps_run (keeps_run (current_empty w) hbefore).2 hafter).1

/-- An attempt whose terms are to be accepted. -/
def sampleAttempt : World where
  row :=
    { status := .actionRequired, invitePassed := false, decisionRevision := 1, expiresAt := none
      progress :=
        { actor := { ptid := "alice", kind := 1, username := "", email := "" }, sessionID := ""
          authMethod := "password", completedActions := ∅ } }
  copies := fun _ => none

/-- The terms are accepted, and then a decision is read. -/
theorem terms_kept_by_read : "terms.accept" ∈ (sampleAttempt.run ([.mark 1 "terms.accept"] ++
    [.save 1 none .granted, .find 0 0, .save 0 none .granted])).row.progress.completedActions :=
  (reads_keep_progress _ _ _ (by simp [Undisturbed, Step.current])).completed (by decide)

/-- A decision is read while the terms are accepted. -/
theorem terms_lost_by_read :
    let accepted := sampleAttempt.run [.find 0 0, .mark 1 "terms.accept", .save 1 none .granted]
    accepted.row.progress.completedActions = {"terms.accept"} ∧
      (accepted.step (.save 0 none .actionRequired)).row.progress.completedActions = ∅ := by
  decide

end PeersTouch.Access
