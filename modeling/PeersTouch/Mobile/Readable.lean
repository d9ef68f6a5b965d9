import PeersTouch.Mobile.Ordering

/-!
# Stored commands stay readable

A reader checks that a command was not updated before it was created; a writer records its clock reading
without that check. As long as no operation reads a clock that is behind the creation of a stored
command, every row can be read after every step, and nothing that the ledger offers fails because of a
row: neither `get` and `list`, nor a transition that the state machine allows, nor the recovery
when the ledger is opened again.
-/

namespace PeersTouch.Mobile

open Lib Chat KeyedTable Ledger List ValidatedCommand

section

variable [LedgerFormat] [Digest] {scope : CommandScope} {clock : Option ℤ}
  {t t' : CommandTable} {events : List Event} {row row' : RawCommandRow}
  {command : ValidatedCommand} {nowMs : ℤ}

def CommandTable.Readable (scope : CommandScope) (t : CommandTable) : Prop :=
  ∀ row ∈ t.rows, ∃ command, decryptCommand scope row = .ok command

def CommandTable.Timely (t : CommandTable) (clock : Option ℤ) : Prop :=
  ∀ nowMs, clock = some nowMs → ∀ row ∈ t.rows, row.createdAtMs ≤ nowMs

omit [LedgerFormat] [Digest] in
lemma reads_now {ms : ℤ} (h : Reads (some (millisToTimestamp nowMs)) ms) :
    Reads (some (millisToTimestamp nowMs)) nowMs := by
  obtain ⟨rfl, -⟩ := reads_millisToTimestamp.1 h
  exact h

variable {request : Transition}

lemma Moves.readable (h : Moves scope nowMs row command request events row')
    (hnow : row.createdAtMs ≤ nowMs) : ∃ command', decryptCommand scope row' = .ok command' := by
  obtain ⟨hhold, hval, -⟩ := decryptCommand_eq_ok.1 h.opened
  have hmoved := validate_moved hval (declared_of_allowsTransition h.allowed) h.declared
    hhold.columns.created hnow (reads_now h.holds.columns.updated) ⟨_, h.holds.columns.nextAttempt⟩
  obtain ⟨command', hcmd', -⟩ := exists_decryptCommand h.holds hmoved
  exact ⟨command', hcmd'⟩

lemma Leases.readable (h : Leases scope nowMs t row command events row')
    (hnow : row.createdAtMs ≤ nowMs) : ∃ command', decryptCommand scope row' = .ok command' := by
  obtain ⟨hhold, hval, -⟩ := decryptCommand_eq_ok.1 h.opened
  have hreads := reads_now h.holds.columns.updated
  have hmoved : (command.envelope.moved .dispatchFenced .unspecified nowMs none).validate scope =
      .ok command.payloadBytes :=
    validate_moved hval trivial trivial hhold.columns.created hnow hreads ⟨none, rfl⟩
  obtain ⟨command', hcmd', -⟩ := exists_decryptCommand h.holds (validate_attempted hmoved hreads)
  exact ⟨command', hcmd'⟩

lemma readable_of_write (h : Write scope clock t events t')
    (ht : t.Readable scope ∧ t.Timely clock) : t'.Readable scope ∧ t'.Timely clock := by
  obtain ⟨hreadable, htime⟩ := ht
  cases h with
  | move hclock hrow hmv | lease hclock hrow hmv =>
    have hplace := hmv.samePlace.1
    constructor
    · intro x hx
      rcases mem_upsert.1 hx with ⟨hx, -⟩ | rfl
      · exact hreadable x hx
      · exact hmv.readable (htime _ hclock _ hrow)
    · intro now hnow x hx
      rcases mem_upsert.1 hx with ⟨hx, -⟩ | rfl
      · exact htime now hnow x hx
      · rw [hplace.createdAtMs]
        exact htime now hnow _ hrow

lemma readable_of_change (h : Change scope clock t events t')
    (ht : t.Readable scope ∧ t.Timely clock) : t'.Readable scope ∧ t'.Timely clock := by
  cases h with
  | write h => exact readable_of_write h ht
  | remove p =>
    exact ⟨fun x hx => ht.1 x (mem_deleteWhere.1 hx).1, fun now hnow x hx => ht.2 now hnow x (mem_deleteWhere.1 hx).1⟩

/-! ### What works on readable rows -/

lemma exists_get (ht : t.Readable scope) (commandID : String) : ∃ command, t.get scope commandID = .ok command := by
  unfold CommandTable.get
  split
  · exact ⟨none, rfl⟩
  · next raw hraw =>
    obtain ⟨command, hcmd⟩ := ht raw (find_eq_some.1 hraw).1
    exact ⟨some command, map_eq_ok.2 ⟨command, hcmd, rfl⟩⟩

lemma exists_list (ht : t.Readable scope) : ∃ commands, t.list scope = .ok commands :=
  exists_mapM fun row hrow => ht row (mem_orderBy.1 hrow)

/-- A clock reading or a retry time that a timestamp can hold. -/
def Storable (ms : ℤ) : Prop := 0 ≤ ms ∧ ms ≤ maximumI64

variable {state : CommandState}

section

omit [LedgerFormat] [Digest]

lemma decodeState_of_declared (h : state.Declared) (commandID : String) : decodeState state commandID = .ok state := by
  unfold decodeState
  split
  · exact h.elim
  · rfl

lemma RowColumns.Of.moved {columns : RowColumns} {e : Envelope} {payload : Bytes}
    (h : columns.Of e payload) {error : CommandErrorCode} {next : Option ℤ}
    (hst : state.Declared) (hnow : Storable nowMs) (hnext : ∀ ms ∈ next, Storable ms) :
    RowColumns.Of { columns with state, updatedAtMs := nowMs, nextAttemptAtMs := next }
      (e.moved state error nowMs next) payload := by
  refine ⟨h.commandID, h.orderingKey, rfl, hst, h.attemptCount, h.payloadSHA256, h.payloadSize,
    h.created, reads_millisToTimestamp.2 ⟨rfl, hnow⟩, h.expires, h.dispatchStarted, ?_⟩
  cases next with
  | none => rfl
  | some ms => exact reads_millisToTimestamp.2 ⟨rfl, hnext ms rfl⟩

end

lemma storable_of_le (hcmd : decryptCommand scope row = .ok command)
    (hnow : row.createdAtMs ≤ nowMs) (hmax : nowMs ≤ maximumI64) : Storable nowMs :=
  ⟨(decryptCommand_eq_ok.1 hcmd).1.columns.created.nonneg.trans hnow, hmax⟩

section

variable (hrow : row ∈ t.rows) (hexpected : row.state ∈ request.expectedStates)
  (hallowed : allowsTransition row.state request.nextState = true)
  (hretry : request.nextState = .retryWait → request.nextAttemptAtMs ≠ none)
  (hnext : ∀ ms ∈ request.nextAttemptAtMs, Storable ms)
include hrow hexpected hallowed hretry hnext

/-- A transition that the state machine allows succeeds on a row that can be read. -/
lemma exists_transitionInTransaction (hcmd : decryptCommand scope row = .ok command) (hnow : Storable nowMs) :
    ∃ command' t', transitionInTransaction scope row request nowMs t = .ok (command', t') := by
  have hcols := (decryptCommand_eq_ok.1 hcmd).1.columns
  have hst := decodeState_of_declared (hcols.state ▸ hcols.declared) row.commandID
  let moved := command.envelope.moved request.nextState request.typedError nowMs request.nextAttemptAtMs
  let command' : ValidatedCommand :=
    { command with envelope := moved, encodedEnvelope := LedgerFormat.envelope.marshal moved }
  have hmoved : RowColumns.Of _ command'.envelope command'.payloadBytes :=
    hcols.moved (declared_of_allowsTransition hallowed) hnow hnext
  obtain ⟨row', hseal, hrow'⟩ := exists_sealCommand scope hmoved
  have hfd : t.find row'.commandID = some row := by
    rw [hrow']
    exact find_eq_some.2 ⟨hrow, rfl⟩
  refine ⟨command', t.upsert row', ?_⟩
  unfold transitionInTransaction writeCommandCas
  simp only [ok_iff, not_not]
  refine ⟨row.state, hst, hexpected, hallowed, fun h => hretry h.1 h.2, command, hcmd, _,
    ⟨row', hseal, ?_, rfl⟩, rfl⟩
  rw [hfd]
  simp

lemma exists_transition (ht : t.Readable scope) (hnow : row.createdAtMs ≤ nowMs) (hmax : nowMs ≤ maximumI64) :
    ∃ command' t', t.transition scope row.commandID request nowMs = .ok (command', t') := by
  obtain ⟨command, hcmd⟩ := ht row hrow
  obtain ⟨command', t', h⟩ := exists_transitionInTransaction hrow hexpected hallowed hretry hnext
    hcmd (storable_of_le hcmd hnow hmax)
  refine ⟨command', t', ?_⟩
  unfold CommandTable.transition
  simp only [ok_iff]
  exact ⟨row, find_eq_some.2 ⟨hrow, rfl⟩, h⟩

end

lemma exists_recoverRow (hrow : row ∈ t.rows) (hcmd : decryptCommand scope row = .ok command) (hnow : Storable nowMs) :
    ∃ t', recoverRow scope nowMs t row = .ok t' := by
  have hcols := (decryptCommand_eq_ok.1 hcmd).1.columns
  have hst := decodeState_of_declared (hcols.state ▸ hcols.declared) row.commandID
  unfold recoverRow
  simp only [hst, bind_eq_ok, Except.ok.injEq, exists_eq_left']
  split
  · next hact =>
    have hrecovery : row.state ∈ (recovery row.state).expectedStates ∧
        allowsTransition row.state (recovery row.state).nextState = true ∧ (recovery row.state).nextState ≠ .retryWait ∧
        (recovery row.state).nextAttemptAtMs = none := by
      cases hs : row.state <;> simp [hs, CommandState.isActive] at hact <;>
        simp [recovery, allowsTransition]
    obtain ⟨hexpected, hallowed, hwait, hnone⟩ := hrecovery
    obtain ⟨command', t', htrans⟩ := exists_transitionInTransaction hrow hexpected hallowed
      (fun h => absurd h hwait) (by rw [hnone]; simp) hcmd hnow
    refine ⟨t', ?_⟩
    simp only [ok_iff, Prod.exists]
    exact ⟨command', t', htrans, rfl⟩
  · exact ⟨t, rfl⟩

/-- The recovery moves each row once, so the rows it has not reached are as they were. -/
lemma exists_recoverRows {rows : List RawCommandRow} (hrows : ∀ row ∈ rows, row ∈ t.rows)
    (hne : rows.Pairwise fun r r' => r.commandID ≠ r'.commandID) (hread : ∀ row ∈ rows, row.createdAtMs ≤ nowMs ∧
    ∃ command, decryptCommand scope row = .ok command) (hmax : nowMs ≤ maximumI64) :
    ∃ t', rows.foldlM (recoverRow scope nowMs) t = .ok t' := by
  induction rows generalizing t with
  | nil => exact ⟨t, rfl⟩
  | cons row rows ih =>
    obtain ⟨hrow, hne⟩ := pairwise_cons.1 hne
    have hmem := hrows row mem_cons_self
    obtain ⟨hnow, command, hcmd⟩ := hread row mem_cons_self
    obtain ⟨t₁, ht₁⟩ := exists_recoverRow hmem hcmd (storable_of_le hcmd hnow hmax)
    have hkept := (recoverRow_eq_ok ht₁ hmem).2
    obtain ⟨t', ht'⟩ := ih (fun r hr => hkept r (hrows r (mem_cons_of_mem _ hr)) (Ne.symm (hrow r hr))) hne
      fun r hr => hread r (mem_cons_of_mem _ hr)
    refine ⟨t', ?_⟩
    simp only [foldlM_cons, bind_eq_ok]
    exact ⟨t₁, ht₁, ht'⟩

lemma exists_recoverFromCrash (ht : t.Readable scope) (hnow : t.Timely (some nowMs))
    (hmax : nowMs ≤ maximumI64) : ∃ t', recoverFromCrash scope nowMs t = .ok t' :=
  exists_recoverRows (fun _ hr => mem_orderBy.1 hr) (pairwise_ne_orderBy t.keys_nodup _)
    (fun row hr => ⟨hnow _ rfl row (mem_orderBy.1 hr), ht row (mem_orderBy.1 hr)⟩) hmax

end

/-! ### Runs -/

section

variable [LedgerFormat] [Digest] [ResultMessages] {scope : CommandScope}

/-- A step whose clock is not behind the creation of a stored command. -/
def Ledger.StepTimely (scope : CommandScope) (s : Ledger) (events : List Event) (s' : Ledger) :
    Prop :=
  ∃ action : Action, s.database.commands.Timely action.operation.clock ∧ s.step scope action = (events, s')

/-- What the ledger offers does not fail because of a stored row. -/
structure Ledger.Works (s : Ledger) (scope : CommandScope) : Prop where
  get : s.inner ≠ none → ∀ commandID, ∃ envelope, s.get scope commandID = .ok envelope
  list : s.inner ≠ none → ∃ envelopes, s.list scope = .ok envelopes
  transition : ∀ row ∈ s.database.commands.rows, ∀ (request : Transition) (nowMs : ℤ),
    row.state ∈ request.expectedStates → allowsTransition row.state request.nextState = true →
    (request.nextState = .retryWait → request.nextAttemptAtMs ≠ none) →
    (∀ ms ∈ request.nextAttemptAtMs, Storable ms) → row.createdAtMs ≤ nowMs →
    nowMs ≤ maximumI64 →
    ∃ command t, s.database.commands.transition scope row.commandID request nowMs = .ok (command, t)
  reopen : s.inner = none → ∀ (generation : ℕ) (nowMs : ℤ),
    s.database.commands.Timely (some nowMs) → nowMs ≤ maximumI64 →
    ∃ s', s.activate scope generation nowMs = .ok (.done, s')

lemma readable_of_step {s s' : Ledger} {events : List Event}
    (h : s.StepTimely scope events s') (hs : s.database.commands.Readable scope) : s'.database.commands.Readable scope := by
  obtain ⟨action, htime, hstep⟩ := h
  rcases step_cases action hstep with ⟨command, row, hadm, ht, -⟩ | htr | ⟨-, htr⟩
  · obtain ⟨bytes, inner, -, -, hdec⟩ := hadm.accepted
    have hval := (decodeAndValidate_eq_ok.1 (decodeAdmission_eq_ok.1 hdec).1).2.1
    rw [ht]
    intro x hx
    rcases KeyedTable.mem_of_mem_insertOrIgnore hx with hxs | ⟨rfl, -⟩
    · exact hs x hxs
    · obtain ⟨command', hcmd', -⟩ := exists_decryptCommand hadm.holds hval
      exact ⟨command', hcmd'⟩
  · exact (htr.keeps (fun _ _ _ ht h => readable_of_write h ht) ⟨hs, htime⟩).1
  · exact (htr.keeps (fun _ _ _ ht h => readable_of_change h ht) ⟨hs, htime⟩).1

lemma works_of_readable {s : Ledger} (h : s.database.commands.Readable scope) : s.Works scope := by
  constructor
  · intro hact commandID
    obtain ⟨inner, hinner⟩ := Option.ne_none_iff_exists'.1 hact
    obtain ⟨command, hcmd⟩ := exists_get h commandID
    refine ⟨command.map ValidatedCommand.envelope, ?_⟩
    simp only [Ledger.get, Ledger.active, ok_iff]
    exact ⟨⟨inner, hinner⟩, command, hcmd, rfl⟩
  · intro hact
    obtain ⟨inner, hinner⟩ := Option.ne_none_iff_exists'.1 hact
    obtain ⟨commands, hcmds⟩ := exists_list h
    refine ⟨commands.map ValidatedCommand.envelope, ?_⟩
    simp only [Ledger.list, Ledger.active, ok_iff]
    exact ⟨⟨inner, hinner⟩, commands, hcmds, rfl⟩
  · intro row hrow request nowMs hexpected hallowed hretry hnext hnow hmax
    exact exists_transition hrow hexpected hallowed hretry hnext h hnow hmax
  · intro hinner generation nowMs htime hmax
    obtain ⟨t, ht⟩ := exists_recoverFromCrash h htime hmax
    refine ⟨{ s.withCommands t with inner := some { runtimeGeneration := generation } }, ?_⟩
    simp only [Ledger.activate, ok_iff, not_not]
    exact ⟨hinner, t, ht, rfl⟩

/-- In a run of a new ledger whose operations read no clock behind the creation of a stored command, every
stored row can be read and the ledger keeps working. -/
theorem readable_of_timely {s : Ledger} {events : List Event} (hrun : Trace (Ledger.StepTimely scope) .empty events s) :
    s.database.commands.Readable scope ∧ s.Works scope := by
  have hempty : empty.database.commands.Readable scope := fun _ h => absurd h not_mem_nil
  have hs : s.database.commands.Readable scope :=
    hrun.keeps (P := fun s => s.database.commands.Readable scope) (fun _ _ _ hs h => readable_of_step h hs) hempty
  exact ⟨hs, works_of_readable hs⟩

end

section

attribute [local instance] fieldSequence emptyMessages Chat.checksum

lemma timely_some {t : CommandTable} {nowMs : ℤ} (h : ∀ row ∈ t.rows, row.createdAtMs ≤ nowMs) : t.Timely (some nowMs) := by
  rintro now ⟨⟩
  exact h

set_option maxRecDepth 10000 in
/-- After the first lease the row can still be read. -/
theorem readable_of_timely_lease : leasedLedger.database.commands.hasKey "a" = true ∧
    leasedLedger.database.commands.Readable aliceAtStation ∧ leasedLedger.Works aliceAtStation := by
  refine ⟨by decide, ?_⟩
  have hrun : Trace (Ledger.StepTimely aliceAtStation) .empty _ leasedLedger :=
    .step ⟨.run (.activate 1 10000), timely_some (by decide), rfl⟩
      (.step ⟨.run (admitSample .friendRequest "a" "bob" 10000), nofun, rfl⟩
        (.step ⟨dispatch 10001, timely_some (by decide), rfl⟩ (.refl _)))
  exact readable_of_timely hrun

/-- The error of a reader that finds a command updated before its creation. -/
def notMonotonic (commandID : String) : LedgerError :=
  .forCommand .invalidEnvelope "validate generated command envelope" commandID "command timestamps are not monotonic"

set_option maxRecDepth 10000 in
/-- A clock that is behind the creation of a command leases it and leaves a row that nothing can read: not
`get`, not `list`, and not the recovery when the ledger is opened again. -/
theorem unreadable_after_early_clock : (theLease (admittedLedger.step aliceAtStation (dispatch 5000)).1).isSome = true ∧
    (admittedLedger.step aliceAtStation (dispatch 5000)).2.get aliceAtStation "a" = .error (notMonotonic "a") ∧
    (admittedLedger.step aliceAtStation (dispatch 5000)).2.list aliceAtStation = .error (notMonotonic "a") ∧
    (((admittedLedger.step aliceAtStation (dispatch 5000)).2.step aliceAtStation
      (.run .deactivate)).2.execute aliceAtStation none (.activate 2 10002)).result = .error (notMonotonic "a") := by
  decide

end

end PeersTouch.Mobile
