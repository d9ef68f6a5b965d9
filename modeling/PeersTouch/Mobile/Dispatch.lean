import PeersTouch.Mobile.Changes
import PeersTouch.Mobile.Format

/-!
# Leases of a command

A command that is sent twice must not have been accepted the first time. Along every run of the ledger
in which a command stays stored, its leases carry the payload it was admitted with, there are at most
as many as the ledger allows attempts, and between two of them a not-found lookup about the command
was applied.

The invariant (`Account`) says that the attempts count the leases, and that a command that waits to be
sent has seen a not-found lookup after its last lease.
-/

namespace PeersTouch.Mobile

open Lib Chat KeyedTable List

/-! ### Events about a command -/

def Event.IsLeaseOf (commandID : String) : Event → Prop
  | .leased lease => lease.envelope.commandID = commandID
  | .applied _ _ => False

instance (commandID : String) : DecidablePred (Event.IsLeaseOf commandID)
  | .leased _ => inferInstanceAs (Decidable (_ = _))
  | .applied _ _ => inferInstanceAs (Decidable False)

def Event.IsNotFoundOf (commandID : String) (payloadSHA256 : Bytes) : Event → Prop
  | .leased _ => False
  | .applied id lookup => id = commandID ∧ lookup.IsNotFound commandID payloadSHA256

section

variable [LedgerFormat] [Digest] {scope : CommandScope} {command : ValidatedCommand}
  {seen events : List Event} {row row' : RawCommandRow} {t t' : CommandTable} {nowMs : ℤ}
  {clock : Option ℤ}

omit [Digest] in
/-- The row of a command after the events of its stay. -/
structure Account (scope : CommandScope) (command : ValidatedCommand) (seen : List Event)
    (row : RawCommandRow) : Prop where
  holds : ∃ e payload, row.Holds scope e payload ∧ e.fixed = command.envelope.fixed
  payload : ∀ lease, .leased lease ∈ seen → lease.envelope.commandID = command.commandID →
    lease.exactPayloadBytes = command.payloadBytes
  counted : seen.countP (Event.IsLeaseOf command.commandID) ≤ row.attemptCount
  bounded : row.attemptCount ≤ maxTransportAttempts
  separated : Separated (Event.IsLeaseOf command.commandID)
    (Event.IsNotFoundOf command.commandID command.envelope.payloadSHA256) seen
  settled : row.state = .queued ∨ row.state = .retryWait →
    Settled (Event.IsLeaseOf command.commandID)
      (Event.IsNotFoundOf command.commandID command.envelope.payloadSHA256) seen

omit [Digest] in
lemma account_of_untouched (h : row.Holds scope command.envelope command.payloadBytes)
    (hunt : command.envelope.Untouched) : Account scope command [] row where
  holds := ⟨_, _, h, rfl⟩
  payload _ hls := absurd hls not_mem_nil
  counted := Nat.zero_le _
  bounded := by
    rw [h.columns.attemptCount, hunt.2.1]
    exact Nat.zero_le _
  separated := separated_nil
  settled := fun _ => settled_nil

variable (hval : command.envelope.validate scope = .ok command.payloadBytes)

section

variable (h : Account scope command seen row)
include h

omit [Digest] in
lemma Account.concat {x : Event} (hx : ¬x.IsLeaseOf command.commandID) : Account scope command (seen ++ [x]) row where
  holds := h.holds
  payload lease hls hid := by
    rcases mem_append.1 hls with hls | hls
    · exact h.payload lease hls hid
    · obtain rfl := mem_singleton.1 hls
      exact absurd hid hx
  counted := by
    rw [countP_append, countP_singleton, if_neg (by simpa using hx)]
    exact h.counted
  bounded := h.bounded
  separated := h.separated.concat fun hls => absurd hls hx
  settled hst := (h.settled hst).concat hx

omit [Digest] in
lemma Account.commandID : row.commandID = command.commandID ∧ row.payloadSHA256 = command.envelope.payloadSHA256 := by
  obtain ⟨e, payload, hhold, hfix⟩ := h.holds
  have hid := congrArg Envelope.commandID hfix
  have hhash := congrArg Envelope.payloadSHA256 hfix
  exact ⟨hhold.columns.commandID.trans hid, hhold.columns.payloadSHA256.trans hhash⟩

include hval

lemma Account.opened {opened : ValidatedCommand} (hop : decryptCommand scope row = .ok opened) :
    opened.envelope.fixed = command.envelope.fixed ∧ opened.payloadBytes = command.payloadBytes := by
  obtain ⟨e, payload, hhold, hfix⟩ := h.holds
  obtain ⟨hopenedHolds, hopenedValid, -⟩ := decryptCommand_eq_ok.1 hop
  obtain rfl := hhold.unique hopenedHolds
  refine ⟨hfix, ?_⟩
  -- the payload is a function of the part that never changes
  have hsound := (validate_eq_ok.1 hopenedValid).1
  rw [hfix] at hsound
  exact Except.ok.inj (hsound.encodes.symm.trans (validate_eq_ok.1 hval).1.encodes)

lemma Account.moves {opened : ValidatedCommand} {req : Transition}
    (hmv : Moves scope nowMs row opened req events row') : Account scope command (seen ++ events) row' := by
  obtain ⟨hfix, -⟩ := h.opened hval hmv.opened
  obtain ⟨hid, hhash⟩ := h.commandID
  have hcols := (decryptCommand_eq_ok.1 hmv.opened).1.columns
  have htries : row'.attemptCount = row.attemptCount :=
    hmv.holds.columns.attemptCount.trans hcols.attemptCount.symm
  have hseen : Account scope command (seen ++ events) row := by
    rcases hmv.recorded with rfl | ⟨lookup, rfl⟩
    · rwa [append_nil]
    · exact h.concat id
  refine ⟨⟨_, _, hmv.holds, hfix⟩, hseen.payload, htries ▸ hseen.counted,
    htries ▸ hseen.bounded, hseen.separated, fun hst => ?_⟩
  have hnext : row'.state = req.nextState := hmv.holds.columns.state
  rcases hst with hst | hst
  · exact absurd (hnext.symm.trans hst) (ne_queued_of_allowsTransition hmv.allowed)
  · obtain ⟨lookup, rfl, hlook⟩ := hmv.retried (hnext.symm.trans hst)
    rw [hid, hhash] at hlook
    exact settled_concat id ⟨hid, hlook⟩

lemma Account.leases {opened : ValidatedCommand} (hleases : Leases scope nowMs t row opened events row') :
    Account scope command (seen ++ events) row' := by
  obtain ⟨hfix, hpay⟩ := h.opened hval hleases.opened
  have hcols := (decryptCommand_eq_ok.1 hleases.opened).1.columns
  have htries : row'.attemptCount = row.attemptCount + 1 := by
    rw [hleases.holds.columns.attemptCount, hcols.attemptCount]
    rfl
  have hfen : row'.state = .dispatchFenced := hleases.holds.columns.state
  have hsett := h.settled hleases.state
  refine ⟨⟨_, _, hleases.holds, hfix⟩, ?_, ?_, ?_, ?_, ?_⟩
  · intro lease hls hid
    rcases mem_append.1 hls with hls | hls
    · exact h.payload lease hls hid
    · rcases hleases.handed with rfl | ⟨lease', rfl, -, hls'⟩
      · cases hls
      · cases mem_singleton.1 hls
        exact hls'.trans hpay
  · have hone : events.countP (Event.IsLeaseOf command.commandID) ≤ 1 := by
      rcases hleases.handed with rfl | ⟨lease', rfl, -⟩
      · exact Nat.zero_le _
      · exact countP_le_length
    rw [countP_append, htries]
    exact Nat.add_le_add h.counted hone
  · rw [htries]
    exact hleases.attempts
  · rcases hleases.handed with rfl | ⟨lease', rfl, -⟩
    · rw [append_nil]
      exact h.separated
    · exact h.separated.concat fun _ => hsett
  · rw [hfen]
    rintro (hst | hst) <;> cases hst

end

/-! ### Changes and steps -/

variable {commandID : String}

lemma hasKey_of_change (h : Change scope clock t events t') (hkey : t'.hasKey commandID = true) :
    t.hasKey commandID = true := by
  obtain ⟨x, hx, hid⟩ := hasKey_iff.1 hkey
  refine hasKey_iff.2 ?_
  cases h with
  | write h =>
    cases h with
    | move _ hrow hmv | lease _ hrow hmv =>
      rcases mem_upsert.1 hx with ⟨hx, -⟩ | rfl
      · exact ⟨x, hx, hid⟩
      · exact ⟨_, hrow, hmv.commandID.symm.trans hid⟩
  | remove p => exact ⟨x, (mem_deleteWhere.1 hx).1, hid⟩

lemma hasKey_of_trace (h : Trace (Change scope clock) t events t')
    (hkey : t'.hasKey commandID = true) : t.hasKey commandID = true := by
  induction h with
  | refl t => exact hkey
  | step hchg _ ih => exact hasKey_of_change hchg (ih hkey)

def CommandTable.Accounts (t : CommandTable) (scope : CommandScope) (command : ValidatedCommand)
    (seen : List Event) : Prop :=
  ∃ row ∈ t.rows, Account scope command seen row

include hval

lemma accounts_of_write (h : Write scope clock t events t')
    (ht : t.Accounts scope command seen) : t'.Accounts scope command (seen ++ events) := by
  obtain ⟨row, hrow, hacct⟩ := ht
  have hid := hacct.commandID.1
  cases h with
  | @move r r' _ _ _ _ _ hr hmv =>
    by_cases hsame : r.commandID = command.commandID
    · obtain rfl := eq_of_key_eq hr hrow (hsame.trans hid.symm)
      exact ⟨r', mem_upsert.2 (.inr rfl), hacct.moves hval hmv⟩
    -- another command moves
    · refine ⟨row, mem_upsert.2 (.inl ⟨hrow, ?_⟩), ?_⟩
      · exact fun heq => hsame (hmv.commandID.symm.trans (heq.symm.trans hid))
      · rcases hmv.recorded with rfl | ⟨lookup, rfl⟩
        · rwa [append_nil]
        · exact hacct.concat id
  | @lease r r' _ _ _ _ hr hleases =>
    by_cases hsame : r.commandID = command.commandID
    · obtain rfl := eq_of_key_eq hr hrow (hsame.trans hid.symm)
      exact ⟨r', mem_upsert.2 (.inr rfl), hacct.leases hval hleases⟩
    -- another command is leased
    · refine ⟨row, mem_upsert.2 (.inl ⟨hrow, ?_⟩), ?_⟩
      · exact fun heq => hsame (hleases.commandID.symm.trans (heq.symm.trans hid))
      · rcases hleases.handed with rfl | ⟨lease, rfl, -⟩
        · rwa [append_nil]
        · have hls := (hleases.leased mem_cons_self).1
          exact hacct.concat fun h => hsame (hls.symm.trans h)

lemma accounts_of_change (h : Change scope clock t events t') (hkey : t'.hasKey command.commandID = true)
    (ht : t.Accounts scope command seen) : t'.Accounts scope command (seen ++ events) := by
  cases h with
  | write h => exact accounts_of_write hval h ht
  | remove p =>
    obtain ⟨row, hrow, hacct⟩ := ht
    obtain ⟨x, hx, hxid⟩ := hasKey_iff.1 hkey
    obtain rfl := eq_of_key_eq (mem_deleteWhere.1 hx).1 hrow (hxid.trans hacct.commandID.1.symm)
    rw [append_nil]
    exact ⟨x, hx, hacct⟩

lemma accounts_of_trace (h : Trace (Change scope clock) t events t') (hkey : t'.hasKey command.commandID = true)
    (ht : t.Accounts scope command seen) : t'.Accounts scope command (seen ++ events) := by
  induction h generalizing seen with
  | refl t => rwa [append_nil]
  | step hchg hrest ih =>
    rw [← append_assoc]
    exact ih hkey (accounts_of_change hval hchg (hasKey_of_trace hrest hkey) ht)

end

/-! ### Runs -/

section

variable [LedgerFormat] [Digest] [ResultMessages] {scope : CommandScope}

def Ledger.run (scope : CommandScope) : Ledger → List Action → List Event × Ledger
  | s, [] => ([], s)
  | s, action :: actions =>
    let (events, s') := s.step scope action
    let (events', s'') := Ledger.run scope s' actions
    (events ++ events', s'')

def Ledger.Along (scope : CommandScope) (P : Ledger → Action → Ledger → Prop) :
    Ledger → List Action → Prop
  | _, [] => True
  | s, action :: actions => P s action (s.step scope action).2 ∧ Ledger.Along scope P (s.step scope action).2 actions

instance instDecidableAlong {P : Ledger → Action → Ledger → Prop} [∀ s action s', Decidable (P s action s')] :
    ∀ (s : Ledger) (actions : List Action), Decidable (s.Along scope P actions)
  | _, [] => inferInstanceAs (Decidable True)
  | s, action :: actions =>
    have : Decidable ((s.step scope action).2.Along scope P actions) :=
      instDecidableAlong (s.step scope action).2 actions
    inferInstanceAs (Decidable (_ ∧ _))

lemma trace_of_along {P : Ledger → Action → Ledger → Prop}
    {R : Ledger → List Event → Ledger → Prop}
    (hR : ∀ s action, P s action (s.step scope action).2 →
    R s (s.step scope action).1 (s.step scope action).2) {s : Ledger} {actions : List Action}
    (h : s.Along scope P actions) :
    Trace R s (s.run scope actions).1 (s.run scope actions).2 := by
  induction actions generalizing s with
  | nil => exact .refl s
  | cons action actions ih => exact .step (hR s action h.1) (ih h.2)

def Ledger.StepWith (scope : CommandScope) (commandID : String) (s : Ledger) (events : List Event)
    (s' : Ledger) : Prop :=
  (∃ action, s.step scope action = (events, s')) ∧ s'.database.commands.hasKey commandID = true

def Ledger.Stays (scope : CommandScope) (commandID : String) :
    Ledger → List Event → Ledger → Prop :=
  Trace (Ledger.StepWith scope commandID)

lemma accounts_of_step {command : ValidatedCommand} {seen events : List Event} {s s' : Ledger}
    (hval : command.envelope.validate scope = .ok command.payloadBytes)
    (hs : s.database.commands.Accounts scope command seen) (h : s.StepWith scope command.commandID events s') :
    s'.database.commands.Accounts scope command (seen ++ events) := by
  obtain ⟨⟨action, hstep⟩, hkey⟩ := h
  rcases step_cases action hstep with ⟨_, _, -, ht, rfl⟩ | htr | ⟨-, htr⟩
  · obtain ⟨row, hrow, hacct⟩ := hs
    rw [ht, append_nil]
    exact ⟨row, mem_insertOrIgnore_of_mem hrow, hacct⟩
  · exact accounts_of_trace hval (htr.mono fun _ _ _ => .write) hkey hs
  · exact accounts_of_trace hval htr hkey hs

/-- While an admitted command stays in the ledger, its leases carry the payload it was admitted with,
there are at most `maxTransportAttempts` of them, and between any two a not-found lookup that names the
command and its payload hash was applied to it. -/
theorem leases_of_stay {s s₀ s₁ : Ledger} {bytes : Bytes} {command : ValidatedCommand}
    {events : List Event} (hcommand : decodeAndValidate bytes scope = .ok command)
    (hadmitted : s.admitGeneratedEnvelope scope bytes = .ok (.admission .inserted, s₀))
    (hrun : s₀.Stays scope command.commandID events s₁) :
    (∀ lease, .leased lease ∈ events → lease.envelope.commandID = command.commandID →
      lease.exactPayloadBytes = command.payloadBytes) ∧
    events.countP (Event.IsLeaseOf command.commandID) ≤ maxTransportAttempts ∧
    Separated (Event.IsLeaseOf command.commandID)
      (Event.IsNotFoundOf command.commandID command.envelope.payloadSHA256) events := by
  have hvalid := (decodeAndValidate_eq_ok.1 hcommand).2.1
  simp only [Ledger.admitGeneratedEnvelope, ok_iff, Prod.exists, Prod.mk.injEq, Reply.admission.injEq] at hadmitted
  obtain ⟨inner, -, command', hdec, outcome, t, hadmitted, rfl, rfl⟩ := hadmitted
  obtain ⟨hsame, -, -, huntouched⟩ := decodeAdmission_eq_ok.1 hdec
  obtain rfl := Except.ok.inj (hcommand.symm.trans hsame)
  rcases admitCommand_eq_ok hadmitted with ⟨hpresent, -⟩ | ⟨-, hfresh, row, hholds, rfl⟩
  · cases hpresent
  have hstart : CommandTable.Accounts (s.database.commands.insertOrIgnore row) scope command [] := by
    refine ⟨row, ?_, account_of_untouched hholds huntouched⟩
    have hfresh' : s.database.commands.hasKey row.commandID = false := by
      rw [hholds.columns.commandID]
      exact hfresh
    rw [rows_insertOrIgnore hfresh']
    exact mem_append_right _ mem_cons_self
  have hend : s₁.database.commands.Accounts scope command ([] ++ events) :=
    Trace.invariant (P := fun seen s => s.database.commands.Accounts scope command seen)
      (fun _ _ _ _ hs h => accounts_of_step hvalid hs h) hrun hstart
  obtain ⟨row₁, -, hacct⟩ := hend
  exact ⟨hacct.payload, hacct.counted.trans hacct.bounded, hacct.separated⟩

end

section

attribute [local instance] fieldSequence emptyMessages Chat.checksum

def firstGeneration : Ledger := (Ledger.empty.step aliceAtStation (.run (.activate 1 10000))).2

/-- A friend request is sent, not found at the Station, and sent again. -/
def resend : List Action :=
  [.run (.nextForDispatchKind 1 10001 none), .run (.callback (.markSubmitting "a") 1 10002),
    .run (.callback (.transitionFromAuthoritativeLookup "a" (sampleLookup .friendRequest "a" 10000 1) 0) 1 10003),
    .run (.nextForDispatchKind 1 10004 none)]

def admittedLedger : Ledger :=
  (firstGeneration.step aliceAtStation (.run (admitSample .friendRequest "a" "bob" 10000))).2

def resendEvents : List Event := (admittedLedger.run aliceAtStation resend).1

set_option maxRecDepth 10000 in
theorem leases_of_resend : resendEvents.countP (Event.IsLeaseOf "a") = 2 ∧
    (∀ lease, .leased lease ∈ resendEvents → lease.envelope.commandID = "a" →
      lease.exactPayloadBytes = samplePayloadBytes .friendRequest "a" 10000) ∧
    resendEvents.countP (Event.IsLeaseOf "a") ≤ maxTransportAttempts ∧ Separated (Event.IsLeaseOf "a")
      (Event.IsNotFoundOf "a" (sampleHash .friendRequest "a" 10000)) resendEvents := by
  have heval : resendEvents.countP (Event.IsLeaseOf "a") = 2 ∧ admittedLedger.Along aliceAtStation
      (fun _ _ s' => s'.database.commands.hasKey "a" = true) resend := by
    decide +kernel
  refine ⟨heval.1, ?_⟩
  have hcmd : decodeAndValidate (sampleCommand .friendRequest "a" "bob" 10000).encodedEnvelope
      aliceAtStation = .ok (sampleCommand .friendRequest "a" "bob" 10000) := by decide +kernel
  have hadm : firstGeneration.admitGeneratedEnvelope aliceAtStation
      (sampleCommand .friendRequest "a" "bob" 10000).encodedEnvelope = .ok (.admission .inserted, admittedLedger) :=
    eq_ok_of_transact (s := firstGeneration) (by decide +kernel)
  exact leases_of_stay hcmd hadm (trace_of_along (fun _ action h => ⟨⟨action, rfl⟩, h⟩) heval.2)

end

end PeersTouch.Mobile
