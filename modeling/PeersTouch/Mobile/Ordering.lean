import PeersTouch.Mobile.Dispatch

/-!
# One command of an ordering key at a time

The fence refuses a command when an earlier one of its ordering key is stored, where earlier means the
time of creation and then the identifier. So the command that was leased is the first of its key as long
as nothing is admitted before it. Under that condition on the admissions no other command of
the key is leased while it is stored. Without it the fence does not help: it looks only at three of
the states that a command can be in after its lease.
-/

namespace PeersTouch.Mobile

open Lib Chat KeyedTable List Envelope

/-! ### The order of rows -/

lemma RowColumns.precedes_or_precedes {row row' : RowColumns} (h : row.commandID ≠ row'.commandID) :
    row.Precedes row' ∨ row'.Precedes row := by
  rcases lt_trichotomy row.createdAtMs row'.createdAtMs with hlt | heq | hgt
  · exact .inl (.inl hlt)
  · rcases lt_or_gt_of_ne h with hlt | hgt
    · exact .inl (.inr ⟨heq, hlt⟩)
    · exact .inr (.inr ⟨heq.symm, hgt⟩)
  · exact .inr (.inl hgt)

/-- The columns that no write changes. -/
structure RowColumns.SamePlace (row row' : RowColumns) : Prop where
  commandID : row'.commandID = row.commandID
  orderingKey : row'.orderingKey = row.orderingKey
  createdAtMs : row'.createdAtMs = row.createdAtMs

lemma RowColumns.SamePlace.precedes_iff {row row' other other' : RowColumns}
    (h : row.SamePlace row') (ho : other.SamePlace other') : row'.Precedes other' ↔ row.Precedes other := by
  unfold RowColumns.Precedes
  rw [h.commandID, h.createdAtMs, ho.commandID, ho.createdAtMs]

lemma RowColumns.SamePlace.refl (row : RowColumns) : row.SamePlace row := ⟨rfl, rfl, rfl⟩

lemma RowColumns.Of.samePlace {row row' : RowColumns} {e e' : Envelope} {payload payload' : Bytes}
    (h : row.Of e payload) (h' : row'.Of e' payload') (hfix : e'.fixed = e.fixed) : row.SamePlace row' := by
  have hid := congrArg Envelope.commandID hfix
  have hkey := congrArg Envelope.orderingKey hfix
  have hcre := congrArg Envelope.createdAt hfix
  refine ⟨h'.commandID.trans (hid.trans h.commandID.symm), h'.orderingKey.trans (hkey.trans h.orderingKey.symm), ?_⟩
  have hreads : Reads e.createdAt row'.createdAtMs := by
    have := h'.created
    rwa [show e'.createdAt = e.createdAt from hcre] at this
  exact hreads.unique h.created

section

variable [LedgerFormat] [Digest] {scope : CommandScope} {clock : Option ℤ}
  {t t' : CommandTable} {events : List Event} {row row' : RawCommandRow}
  {command : ValidatedCommand} {nowMs : ℤ}

lemma Moves.samePlace {req : Transition} (h : Moves scope nowMs row command req events row') :
    row.toRowColumns.SamePlace row'.toRowColumns ∧ row'.attemptCount = row.attemptCount := by
  have hcols := (decryptCommand_eq_ok.1 h.opened).1.columns
  exact ⟨hcols.samePlace h.holds.columns rfl, h.holds.columns.attemptCount.trans hcols.attemptCount.symm⟩

lemma Leases.samePlace (h : Leases scope nowMs t row command events row') :
    row.toRowColumns.SamePlace row'.toRowColumns ∧ 0 < row'.attemptCount := by
  have hcols := (decryptCommand_eq_ok.1 h.opened).1.columns
  refine ⟨hcols.samePlace h.holds.columns rfl, ?_⟩
  rw [h.holds.columns.attemptCount]
  exact Nat.succ_pos _

def CommandTable.LeasedFirst (t : CommandTable) : Prop :=
  ∀ row ∈ t.rows, 0 < row.attemptCount → ∀ other ∈ t.rows,
    other.orderingKey = row.orderingKey → other.commandID ≠ row.commandID → row.Precedes other.toRowColumns

omit [LedgerFormat] [Digest] in
lemma leasedFirst_upsert (ht : t.LeasedFirst) (hrow : row ∈ t.rows) (hplace : row.toRowColumns.SamePlace row'.toRowColumns)
    (hfst : 0 < row'.attemptCount → ∀ other ∈ t.rows, other.orderingKey = row.orderingKey →
    other.commandID ≠ row.commandID → row.Precedes other.toRowColumns) : CommandTable.LeasedFirst (t.upsert row') := by
  intro x hx hlsd y hy hkey hne
  rcases mem_upsert.1 hx with ⟨hxt, -⟩ | rfl
  · rcases mem_upsert.1 hy with ⟨hyt, -⟩ | rfl
    · exact ht x hxt hlsd y hyt hkey hne
    · refine ((RowColumns.SamePlace.refl _).precedes_iff hplace).2 ?_
      exact ht x hxt hlsd row hrow (hplace.orderingKey.symm.trans hkey) fun h => hne (hplace.commandID.trans h)
  · rcases mem_upsert.1 hy with ⟨hy, -⟩ | rfl
    · refine (hplace.precedes_iff (RowColumns.SamePlace.refl _)).2 ?_
      exact hfst hlsd y hy (hkey.trans hplace.orderingKey) fun h => hne (h.trans hplace.commandID.symm)
    · exact absurd rfl hne

lemma leasedFirst_of_write (h : Write scope clock t events t') (ht : t.LeasedFirst) : t'.LeasedFirst := by
  cases h with
  | move _ hrow hmv =>
    obtain ⟨hplace, htries⟩ := hmv.samePlace
    refine leasedFirst_upsert ht hrow hplace fun hlsd => ?_
    exact ht _ hrow (htries ▸ hlsd)
  | lease _ hrow hleases =>
    obtain ⟨hplace, -⟩ := hleases.samePlace
    refine leasedFirst_upsert ht hrow hplace fun _ other hoth hkey hne => ?_
    rcases RowColumns.precedes_or_precedes hne with h | h
    · exact absurd h (hleases.first other hoth hkey)
    · exact h

lemma leasedFirst_of_change (h : Change scope clock t events t') (ht : t.LeasedFirst) : t'.LeasedFirst := by
  cases h with
  | write h => exact leasedFirst_of_write h ht
  | remove p =>
    intro x hx hlsd y hy hkey hne
    exact ht x (mem_deleteWhere.1 hx).1 hlsd y (mem_deleteWhere.1 hy).1 hkey hne

/-! ### The row of a leased command -/

def CommandTable.HasLeased (t : CommandTable) (commandID orderingKey : String) : Prop :=
  ∃ row ∈ t.rows, row.commandID = commandID ∧ row.orderingKey = orderingKey ∧ 0 < row.attemptCount

variable {commandID orderingKey : String}

lemma hasLeased_of_write (h : Write scope clock t events t')
    (ht : t.HasLeased commandID orderingKey) : t'.HasLeased commandID orderingKey := by
  obtain ⟨x, hx, hid, hkey, hlsd⟩ := ht
  have hups : ∀ {r r' : RawCommandRow}, r ∈ t.rows → r.toRowColumns.SamePlace r'.toRowColumns →
      (0 < r.attemptCount → 0 < r'.attemptCount) → CommandTable.HasLeased (t.upsert r') commandID orderingKey := by
    intro r r' hr hplace htries
    by_cases hsame : x.commandID = r.commandID
    · obtain rfl := eq_of_key_eq hx hr hsame
      exact ⟨r', mem_upsert.2 (.inr rfl), hplace.commandID.trans hid, hplace.orderingKey.trans hkey, htries hlsd⟩
    · exact ⟨x, mem_upsert.2 (.inl ⟨hx, fun h => hsame (h.trans hplace.commandID)⟩), hid, hkey, hlsd⟩
  cases h with
  | move _ hr hmv => exact hups hr hmv.samePlace.1 fun h => hmv.samePlace.2 ▸ h
  | lease _ hr hleases => exact hups hr hleases.samePlace.1 fun _ => hleases.samePlace.2

lemma hasLeased_of_trace (h : Trace (Change scope clock) t events t')
    (hkey : t'.hasKey commandID = true) (ht : t.HasLeased commandID orderingKey) : t'.HasLeased commandID orderingKey := by
  induction h with
  | refl t => exact ht
  | step hchg hrest ih =>
    refine ih hkey ?_
    cases hchg with
    | write h => exact hasLeased_of_write h ht
    | remove p =>
      obtain ⟨x, hx, hid, hkey', hlsd⟩ := ht
      obtain ⟨y, hy, hyid⟩ := KeyedTable.hasKey_iff.1 (hasKey_of_trace hrest hkey)
      obtain rfl := eq_of_key_eq (mem_deleteWhere.1 hy).1 hx (hyid.trans hid.symm)
      exact ⟨y, hy, hid, hkey', hlsd⟩

variable {lease : DispatchLease}

section

variable (h : Trace (Write scope clock) t events t')
include h

lemma exists_of_leased (hls : .leased lease ∈ events) : ∃ t₁ row row' command nowMs before events₁ after, row ∈ t₁.rows ∧
    Leases scope nowMs t₁ row command events₁ row' ∧ .leased lease ∈ events₁ ∧ Trace (Write scope clock) t before t₁ ∧
    Trace (Write scope clock) (t₁.upsert row') after t' := by
  induction h with
  | refl t => exact absurd hls not_mem_nil
  | @step t₁ t₂ t₃ events₁ events₂ hwr hrest ih =>
    rcases mem_append.1 hls with hls | hls
    · cases hwr with
      | move _ _ hmv =>
        rcases hmv.recorded with rfl | ⟨lookup, rfl⟩
        · exact absurd hls not_mem_nil
        · cases mem_singleton.1 hls
      | lease _ hrow hleases => exact ⟨t₁, _, _, _, _, [], _, events₂, hrow, hleases, hls, .refl _, hrest⟩
    · obtain ⟨t', row, row', command, nowMs, before, events', after, hrow, hleases, hmem, hbef, haft⟩ := ih hls
      exact ⟨t', row, row', command, nowMs, _, events', after, hrow, hleases, hmem, .step hwr hbef, haft⟩

lemma hasLeased_of_leased (hls : .leased lease ∈ events) :
    t'.HasLeased lease.envelope.commandID lease.envelope.orderingKey := by
  obtain ⟨t₁, row, row', command, nowMs, before, events₁, after, hrow, hleases, hmem, -, haft⟩ :=
    exists_of_leased h hls
  obtain ⟨hid, hkey⟩ := hleases.leased hmem
  obtain ⟨hplace, htries⟩ := hleases.samePlace
  refine haft.keeps (P := fun t => t.HasLeased lease.envelope.commandID lease.envelope.orderingKey)
    (fun _ _ _ ht h => hasLeased_of_write h ht) ?_
  exact ⟨row', mem_upsert.2 (.inr rfl), hplace.commandID.trans hid.symm, hplace.orderingKey.trans hkey.symm, htries⟩

lemma orderingKey_ne_of_leased (hls : .leased lease ∈ events) (hfst : t.LeasedFirst)
    (hlsd : t.HasLeased commandID orderingKey) (hne : lease.envelope.commandID ≠ commandID) :
    lease.envelope.orderingKey ≠ orderingKey := by
  obtain ⟨t₁, row, row', command, nowMs, before, events₁, after, hrow, hleases, hmem, hbef, -⟩ :=
    exists_of_leased h hls
  obtain ⟨hid, hkey⟩ := hleases.leased hmem
  have hfirst₁ : t₁.LeasedFirst := hbef.keeps (fun _ _ _ ht h => leasedFirst_of_write h ht) hfst
  obtain ⟨x, hx, hxid, hxkey, hxleased⟩ : t₁.HasLeased commandID orderingKey :=
    hbef.keeps (P := fun t => t.HasLeased commandID orderingKey) (fun _ _ _ ht h => hasLeased_of_write h ht) hlsd
  intro hsame
  -- the leased command precedes the other one, which the fence has ruled out
  refine hleases.first x hx (hxkey.trans (hsame.symm.trans hkey)) ?_
  refine hfirst₁ x hx hxleased row hrow (hkey.symm.trans (hsame.trans hxkey.symm)) fun h => hne ?_
  exact hid.trans (h.trans hxid)

end

end

/-! ### Runs -/

section

variable [LedgerFormat] [Digest] [ResultMessages] {scope : CommandScope}

def Action.InOrder (scope : CommandScope) (s : Ledger) (action : Action) : Prop :=
  ∀ bytes inner command columns, action.operation = .admitGeneratedEnvelope bytes →
    s.inner = some inner → decodeAdmission bytes scope inner.runtimeGeneration = .ok command →
    command.columns command.commandID = .ok columns → ∀ row ∈ s.database.commands.rows,
      0 < row.attemptCount → row.orderingKey = columns.orderingKey →
      row.commandID ≠ columns.commandID → row.Precedes columns

def Ledger.StepInOrder (scope : CommandScope) (s : Ledger) (events : List Event) (s' : Ledger) :
    Prop :=
  ∃ action : Action, action.InOrder scope s ∧ s.step scope action = (events, s')

variable {s : Ledger} {events : List Event}

lemma leasedFirst_of_step {s' : Ledger} (h : s.StepInOrder scope events s')
    (hs : s.database.commands.LeasedFirst) : s'.database.commands.LeasedFirst := by
  obtain ⟨action, horder, hstep⟩ := h
  rcases step_cases action hstep with ⟨command, row, hadm, ht, -⟩ | htr | ⟨-, htr⟩
  · obtain ⟨bytes, inner, hop, hinner, hdec⟩ := hadm.accepted
    have hnew := horder bytes inner command row.toRowColumns hop hinner hdec (columns_eq_ok.2 hadm.holds.columns)
    have hunt := (decodeAdmission_eq_ok.1 hdec).2.2.2
    have htries : row.attemptCount = 0 := hadm.holds.columns.attemptCount.trans hunt.2.1
    rw [ht]
    intro x hx hlsd y hy hkey hne
    rcases KeyedTable.mem_of_mem_insertOrIgnore hx with hxs | ⟨rfl, -⟩
    · rcases KeyedTable.mem_of_mem_insertOrIgnore hy with hys | ⟨rfl, -⟩
      · exact hs x hxs hlsd y hys hkey hne
      · exact hnew x hxs hlsd hkey.symm hne.symm
    · rw [htries] at hlsd
      cases hlsd
  · exact htr.keeps (fun _ _ _ ht h => leasedFirst_of_write h ht) hs
  · exact htr.keeps (fun _ _ _ ht h => leasedFirst_of_change h ht) hs

/-- A leased command keeps its lease through a step after which it is stored. -/
lemma hasLeased_of_step {s' : Ledger} {commandID orderingKey : String} (h : s.StepWith scope commandID events s')
    (hs : s.database.commands.HasLeased commandID orderingKey) : s'.database.commands.HasLeased commandID orderingKey := by
  obtain ⟨⟨action, hstep⟩, hkey⟩ := h
  rcases step_cases action hstep with ⟨_, _, -, ht, -⟩ | htr | ⟨-, htr⟩
  · obtain ⟨x, hx, hid⟩ := hs
    rw [ht]
    exact ⟨x, KeyedTable.mem_insertOrIgnore_of_mem hx, hid⟩
  · exact hasLeased_of_trace (htr.mono fun _ _ _ => .write) hkey hs
  · exact hasLeased_of_trace htr hkey hs

variable {action : Action}

lemma writes_of_leased {s' : Ledger} (h : s.step scope action = (events, s'))
    {lease : DispatchLease} (hls : .leased lease ∈ events) :
    Trace (Write scope action.operation.clock) s.database.commands events s'.database.commands := by
  rcases step_cases action h with ⟨_, _, _, _, rfl⟩ | htr | ⟨hnone, -⟩
  · cases hls
  · exact htr
  · exact absurd hls (hnone lease)

/-- In a run of a new ledger that admits no command before a stored command of its ordering key that was
leased: from the lease of a command on, and as long as it is stored, no other command of its ordering key
is leased. -/
theorem one_lease_per_key {s₁ s₂ s₃ s₄ : Ledger} {events₁ events₂ events₃ events₄ : List Event}
    {first second : DispatchLease} (hrun : Trace (Ledger.StepInOrder scope) .empty events₁ s₁)
    (hlease : s₁.StepInOrder scope events₂ s₂) (hfirst : .leased first ∈ events₂)
    (hstay : Trace (fun s events s' => s.StepInOrder scope events s' ∧
      s'.database.commands.hasKey first.envelope.commandID = true) s₂ events₃ s₃)
    (hlast : s₃.StepInOrder scope events₄ s₄) (hsecond : .leased second ∈ events₄)
    (hne : second.envelope.commandID ≠ first.envelope.commandID) :
    second.envelope.orderingKey ≠ first.envelope.orderingKey := by
  have hempty : Ledger.empty.database.commands.LeasedFirst := fun _ h => absurd h not_mem_nil
  have h₁ : s₁.database.commands.LeasedFirst :=
    hrun.keeps (P := fun s => s.database.commands.LeasedFirst) (fun _ _ _ hs h => leasedFirst_of_step h hs) hempty
  have h₃ : s₃.database.commands.LeasedFirst :=
    hstay.keeps (P := fun s => s.database.commands.LeasedFirst)
      (fun _ _ _ hs h => leasedFirst_of_step h.1 hs) (leasedFirst_of_step hlease h₁)
  obtain ⟨action₂, -, hstep₂⟩ := hlease
  have hleased₂ := hasLeased_of_leased (writes_of_leased hstep₂ hfirst) hfirst
  have hleased₃ : s₃.database.commands.HasLeased first.envelope.commandID
      first.envelope.orderingKey :=
    hstay.keeps (P := fun s => s.database.commands.HasLeased first.envelope.commandID
        first.envelope.orderingKey)
      (fun _ _ _ hs h => hasLeased_of_step ⟨h.1.imp fun _ h => h.2, h.2⟩ hs) hleased₂
  obtain ⟨action₄, -, hstep₄⟩ := hlast
  exact orderingKey_ne_of_leased (writes_of_leased hstep₄ hsecond) hsecond h₃ hleased₃ hne

omit [ResultMessages] in
lemma inOrder_of_not_admission (h : ∀ bytes, action.operation ≠ .admitGeneratedEnvelope bytes) : action.InOrder scope s :=
  fun bytes _ _ _ hop => absurd hop (h bytes)

omit [ResultMessages] in
lemma inOrder_of_not_leased (h : ∀ row ∈ s.database.commands.rows, row.attemptCount = 0) : action.InOrder scope s :=
  fun _ _ _ _ _ _ _ _ row hrow hlsd => absurd (h row hrow) (Nat.ne_of_gt hlsd)

end

section

attribute [local instance] fieldSequence emptyMessages Chat.checksum

def theLease : List Event → Option DispatchLease
  | [.leased lease] => some lease
  | _ => none

lemma exists_theLease (events : List Event) {commandID orderingKey : String} (h : (theLease events).map (fun lease =>
    (lease.envelope.commandID, lease.envelope.orderingKey)) = some (commandID, orderingKey)) :
    ∃ lease, .leased lease ∈ events ∧ lease.envelope.commandID = commandID ∧ lease.envelope.orderingKey = orderingKey := by
  unfold theLease at h
  split at h
  · next lease =>
    simp only [Option.map_some, Option.some.injEq, Prod.mk.injEq] at h
    exact ⟨lease, mem_cons_self, h⟩
  · cases h

def dispatch (nowMs : ℤ) : Action := .run (.nextForDispatchKind 1 nowMs none)

def twoKeys : Ledger := (firstGeneration.run aliceAtStation
  [.run (admitSample .friendRequest "a" "bob" 10000), .run (admitSample .friendRequest "b" "carol" 10000)]).2

set_option maxRecDepth 10000 in
theorem one_lease_per_key_of_two : ∃ first second : DispatchLease,
    .leased first ∈ (twoKeys.step aliceAtStation (dispatch 10001)).1 ∧
    .leased second ∈ ((twoKeys.step aliceAtStation (dispatch 10001)).2.step aliceAtStation
      (dispatch 10002)).1 ∧ second.envelope.orderingKey ≠ first.envelope.orderingKey := by
  obtain ⟨first, hfirst, hid, -⟩ := exists_theLease (twoKeys.step aliceAtStation (dispatch 10001)).1
      (show _ = some ("a", "bob") by decide +kernel)
  obtain ⟨second, hsecond, hid', -⟩ :=
    exists_theLease ((twoKeys.step aliceAtStation (dispatch 10001)).2.step aliceAtStation
      (dispatch 10002)).1 (show _ = some ("b", "carol") by decide +kernel)
  refine ⟨first, second, hfirst, hsecond, ?_⟩
  have hrun : Trace (Ledger.StepInOrder aliceAtStation) .empty _ twoKeys :=
    .step ⟨.run (.activate 1 10000), inOrder_of_not_admission nofun, rfl⟩
      (.step ⟨.run (admitSample .friendRequest "a" "bob" 10000), inOrder_of_not_leased (by decide +kernel), rfl⟩
        (.step ⟨.run (admitSample .friendRequest "b" "carol" 10000),
          inOrder_of_not_leased (by decide +kernel), rfl⟩ (.refl _)))
  refine one_lease_per_key hrun ⟨dispatch 10001, inOrder_of_not_admission nofun, rfl⟩ hfirst
    (.refl _) ⟨dispatch 10002, inOrder_of_not_admission nofun, rfl⟩ hsecond ?_
  rw [hid, hid']
  decide

def leasedLedger : Ledger := (admittedLedger.step aliceAtStation (dispatch 10001)).2

/-- Another command of the key arrives with an earlier time of creation. -/
def overtaking : List Action := [.run (.callback (.markUnknown "a" .transport) 1 10002),
  .run (admitSample .friendRequest "b" "bob" 9000)]

set_option maxRecDepth 10000 in
/-- The first command is leased and stays stored with an unknown outcome; a command of the same key that
was created earlier is admitted and leased. -/
theorem second_lease_of_key : ∃ first second : DispatchLease,
    .leased first ∈ (admittedLedger.step aliceAtStation (dispatch 10001)).1 ∧
    leasedLedger.Along aliceAtStation (fun _ _ s' =>
      s'.database.commands.hasKey first.envelope.commandID = true) overtaking ∧
    .leased second ∈ ((leasedLedger.run aliceAtStation overtaking).2.step aliceAtStation (dispatch 10003)).1 ∧
    second.envelope.commandID ≠ first.envelope.commandID ∧
    second.envelope.orderingKey = first.envelope.orderingKey := by
  obtain ⟨first, hfirst, hid, hkey⟩ :=
    exists_theLease (admittedLedger.step aliceAtStation (dispatch 10001)).1 (show _ = some ("a", "bob") by decide +kernel)
  obtain ⟨second, hsecond, hid', hkey'⟩ :=
    exists_theLease ((leasedLedger.run aliceAtStation overtaking).2.step aliceAtStation
      (dispatch 10003)).1 (show _ = some ("b", "bob") by decide +kernel)
  refine ⟨first, second, hfirst, ?_, hsecond, ?_, hkey'.trans hkey.symm⟩
  · rw [hid]
    decide +kernel
  · rw [hid, hid']
    decide

end

end PeersTouch.Mobile
