import PeersTouch.Mobile.CheckpointKind

/-!
# A checkpoint replaces its command

`persist_checkpoint_and_remove` returns a stored checkpoint again to whoever asks with the same lookup.
That return comes before the deletion, and `admit` looks at the commands only: a command that is
admitted again after its checkpoint is still there when the checkpoint is asked for again.
-/

namespace PeersTouch.Mobile

open Lib Chat KeyedTable Ledger Database

/-- One checkpoint has the identifier, and no command. -/
def Database.Replaced (db : Database) (commandID : String) : Prop :=
  (∃! raw, raw ∈ db.checkpoints.rows ∧ raw.commandID = commandID) ∧ db.commands.hasKey commandID = false

/-- A checkpoint and its command are both stored. -/
structure Database.Doubled (db : Database) (commandID : String) : Prop where
  checkpoint : db.checkpoints.hasKey commandID = true
  command : db.commands.hasKey commandID = true

/-- No checkpoint is asked for while it is stored and its command too. -/
def Ledger.AsksOnce (s : Ledger) (action : Action) : Prop := match action with
  | .run (.persistProjectionCheckpointAndRemove id _ _ _) =>
    ¬(s.database.checkpoints.hasKey id = true ∧ s.database.commands.hasKey id = true)
  | _ => True

section

variable [LedgerFormat] [Digest] [ResultMessages] {scope : CommandScope} {commandID : String}
  {bytes : Bytes} {now : ℤ} {db db' : Database} {checkpoint : ProjectionCheckpoint}

/-- If the call persists a checkpoint, it has replaced the command. -/
def Ledger.Replaces (scope : CommandScope) (s : Ledger) (action : Action) (s' : Ledger) : Prop :=
  match action with
  | .run (.persistProjectionCheckpointAndRemove id bytes generation now) =>
    ∀ reply, (s.execute scope none (.persistProjectionCheckpointAndRemove id bytes generation now)).result = .ok reply →
      s'.database.Replaced id
  | _ => True

omit [LedgerFormat] [Digest] [ResultMessages] in
lemma replaced_iff : db.Replaced commandID ↔
    db.checkpoints.hasKey commandID = true ∧ db.commands.hasKey commandID = false := by
  rw [hasKey_iff]
  refine and_congr_left fun _ => exists_congr fun raw => and_iff_left_of_imp fun h => ?_
  rintro raw' ⟨hmem, hid⟩
  exact eq_of_key_eq hmem h.1 (hid.trans h.2.symm)

lemma replaced_of_checkpoint (h : db.checkpoint scope commandID bytes now = .ok (checkpoint, db')) :
    db'.Replaced commandID := by
  obtain ⟨raw, cmd, hraw, hcmd, -, hid, -, -, -, hins⟩ := persists_of_checkpoint h
  have hname : checkpoint.commandID = commandID := by
    rw [hid, ← key_of_find hraw]
    exact (decryptCommand_eq_ok.1 hcmd).1.columns.commandID.symm
  refine replaced_iff.2 ⟨?_, ?_⟩
  · rw [hins, hasKey_insertOrIgnore]
    exact .inr hname
  · unfold Database.checkpoint at h
    simp only [ok_iff, hraw, Option.some.injEq] at h
    obtain ⟨_, rfl, _, -, -, _, -, -, _, _, -, _, -, -, -, rfl⟩ := h
    rw [← Bool.not_eq_true, hasKey_iff]
    rintro ⟨row, hrow, hrowID⟩
    obtain ⟨hmem, hkept⟩ := mem_deleteWhere.1 hrow
    obtain ⟨hraw, hrawID⟩ := find_eq_some.1 hraw
    refine hkept ⟨hrowID, ?_⟩
    rw [eq_of_key_eq hmem hraw (hrowID.trans hrawID.symm)]

lemma persistCheckpointAndRemove_replaces
    (h : db.persistCheckpointAndRemove scope commandID bytes now = .ok (checkpoint, db')) :
    db'.Replaced commandID ↔ ¬db.Doubled commandID := by
  unfold persistCheckpointAndRemove at h
  split at h
  -- the checkpoint is returned again
  · next raw hraw =>
    simp only [ok_iff] at h
    obtain ⟨_, -, -, -, rfl⟩ := h
    have hsto : db.checkpoints.hasKey commandID = true := hasKey_iff.2 ⟨raw, find_eq_some.1 hraw⟩
    rw [replaced_iff, ← Bool.not_eq_true]
    exact ⟨fun hrep hboth => hrep.2 hboth.command, fun hone => ⟨hsto, fun hcmd => hone ⟨hsto, hcmd⟩⟩⟩
  · next hnone =>
    refine iff_of_true (replaced_of_checkpoint h) fun hboth => ?_
    cases (find_eq_none.1 hnone).symm.trans hboth.checkpoint

/-- In every run in which no checkpoint is asked for while both it and its command are stored, each
checkpoint that is persisted has replaced its command. -/
theorem replaces_of_asksOnce {actions : List Action}
    (h : Ledger.empty.Along scope (fun s action _ => s.AsksOnce action) actions) :
    Ledger.empty.Along scope (Ledger.Replaces scope) actions := by
  generalize Ledger.empty = s at h ⊢
  induction actions generalizing s with
  | nil => trivial
  | cons action actions ih =>
    refine ⟨?_, ih _ h.2⟩
    unfold Ledger.Replaces
    split
    · next id bytes generation now =>
      intro reply hreply
      have hcall := eq_ok_of_transact hreply
      show Database.Replaced (s.transact _).ledger.database id
      generalize (s.transact _).ledger = s' at hcall ⊢
      simp only [persistProjectionCheckpointAndRemove, ok_iff, Prod.exists] at hcall
      obtain ⟨_, -, -, checkpoint, db, hpers, -, rfl⟩ := hcall
      exact (persistCheckpointAndRemove_replaces hpers).2 fun hboth => h.1 ⟨hboth.checkpoint, hboth.command⟩
    · trivial

end

section

attribute [local instance] fieldSequence emptyMessages Chat.checksum

def askSample (now : ℤ) : Action := .run (.persistProjectionCheckpointAndRemove "a"
  (sampleLookup .friendRequest "a" 10000 2) 1 now)

theorem acceptance_replaces : Ledger.empty.Along aliceAtStation (Ledger.Replaces aliceAtStation)
    (acceptance .friendRequest ++ [askSample 10004]) :=
  replaces_of_asksOnce ⟨trivial, trivial, trivial, trivial, trivial,
    show ¬(_ ∧ _) by decide +kernel, trivial⟩

/-- The command is admitted again after its checkpoint, and its checkpoint is asked for again. -/
def readmitted : Ledger := (Ledger.empty.run aliceAtStation (acceptance .friendRequest ++
  [askSample 10004, .run (admitSample .friendRequest "a" "bob" 10000)])).2

set_option maxRecDepth 10000 in
theorem readmitted_left_after_checkpoint : (readmitted.execute aliceAtStation none (askSample 10005).operation).result =
      .ok (.checkpoint (acceptedCheckpoint .friendRequest)) ∧
    (readmitted.step aliceAtStation (askSample 10005)).2.database.commands.hasKey "a" = true := by
  decide +kernel

end

end PeersTouch.Mobile
