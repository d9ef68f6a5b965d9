import PeersTouch.Client.Restore

/-!
# A message before the export and after the restore

The archive carries the first text of a message and whether it was retracted. The edited text, the
moderation and the links to other messages are not in it, so a message looks the same after a restore
exactly if it had none of them (`ProjectionRow.Plain`).
-/

namespace PeersTouch.Client

open Lib Chat ProjectionRow KeyedTable Store RecoveryMessageProjection List Messages Option

/-- What the timeline shows of a message: its text and state, and the messages it refers to. -/
structure MessageView where
  text : String
  (retracted moderated : Bool)
  (replyToMessageID threadRootMessageID : Option MessageID)
deriving DecidableEq

/-- `conversation_message_projection_from_row`, with the text that the timeline takes from it: nothing
of a message that was retracted or moderated, and otherwise the edited text if there is one. -/
def ProjectionRow.view (row : ProjectionRow) : MessageView := { row with
  text := if row.retracted || row.moderated then "" else row.editedText.getD row.plaintext }

/-- The row has nothing an archive leaves out: it is not moderated, refers to no other message and, unless
it was retracted, was not edited to another text. -/
structure ProjectionRow.Plain (row : ProjectionRow) : Prop where
  moderated : row.moderated = false
  reply : row.replyToMessageID = none
  thread : row.threadRootMessageID = none
  text : row.retracted = false → row.editedText.getD row.plaintext = row.plaintext

variable {row : ProjectionRow} {m : RecoveryMessageProjection}

lemma Store.exportMessage_eq_some {s : Store} (h : s.exportMessage row = some m) :
    m.row.messageKey = row.messageKey ∧ m.plaintext = row.plaintext ∧ m.retracted = row.retracted := by
  unfold exportMessage at h
  split_ifs at h with hexport
  obtain ⟨e, -, rfl⟩ := map_eq_some_iff.1 h
  exact ⟨rfl, rfl, rfl⟩

lemma ProjectionRow.view_restored_iff (hplain : m.plaintext = row.plaintext)
    (hretr : m.retracted = row.retracted) : m.row.view = row.view ↔ row.Plain := by
  constructor
  · intro h
    simp only [ProjectionRow.view, RecoveryMessageProjection.row, MessageView.mk.injEq, hplain, hretr] at h
    obtain ⟨htext, -, hmoderated, hreply, hthread⟩ := h
    refine ⟨hmoderated.symm, hreply.symm, hthread.symm, ?_⟩
    intro hr
    simpa [hr, ← hmoderated] using htext.symm
  · intro h
    have htext := h.text
    cases hr : row.retracted with
    | true => simp [ProjectionRow.view, RecoveryMessageProjection.row, h.moderated, h.reply, h.thread, hretr, hr]
    | false => simp [ProjectionRow.view, RecoveryMessageProjection.row, h.moderated, h.reply,
      h.thread, hretr, hplain, htext hr]

/-- A message that was exported and restored looks as before exactly if its row was plain. -/
theorem Store.view_preserved_iff [Content] {s staging restored : Store}
    {archive : MessagingRecoveryArchive} {ptid : PTID} {seed : Bytes} {version : ℕ}
    (hbuild : s.buildRecoveryArchive ptid seed version = .ok archive)
    (hrestore : staging.populateRecoveryStaging archive = .ok restored) {row : ProjectionRow}
    (hrow : row ∈ s.body.messages.projections.rows) (hexport : (s.exportMessage row).isSome = true) :
    (∃ row', restored.body.messages.projectionOf row.conversationID row.messageID = some row' ∧
        row'.view = row.view) ↔ row.Plain := by
  obtain ⟨m, hm⟩ := isSome_iff_exists.1 hexport
  obtain ⟨hkey, hplain, hretr⟩ := exportMessage_eq_some hm
  have hmem : m ∈ archive.messages := by
    simp only [buildRecoveryArchive, ok_iff] at hbuild
    obtain ⟨-, rfl⟩ := hbuild
    exact mem_orderBy.2 (mem_filterMap.2 ⟨row, hrow, hm⟩)
  obtain ⟨hrest, -, -⟩ := restored_of_populateRecoveryStaging hrestore
  have hfind : restored.body.messages.projectionOf row.conversationID row.messageID = some m.row := by
    have hrow' : m.row ∈ restored.body.messages.projections.rows := by
      rw [hrest.projections]
      exact mem_map_of_mem hmem
    let t : KeyedTable ProjectionRow messageKey := ⟨_, hrest.unique⟩
    rw [← show t.find _ = some m.row from find_eq_some.2 ⟨hrow', hkey⟩]
    unfold projectionOf find
    congr
    simp [messageKey]
  rw [← view_restored_iff hplain hretr, hfind]
  simp

section

attribute [local instance] plainContent

def sampleRow (editedText : Option String) : ProjectionRow where
  conversationID := "c"
  eventID := "e1"
  eventSequence := 1
  messageID := "m1"
  senderPTID := "alice"
  senderDeviceID := "phone"
  plaintext := "first"
  deliveryState := .consumed
  committedAtUnixMs := 1
  replyToMessageID := none
  threadRootMessageID := none
  editedText := editedText
  editedAtUnixMs := editedText.map fun _ => 2
  retracted := false
  hiddenForActor := false
  moderated := false
  moderationReasonCode := none

/-- A store with the conversation `"c"` of two members and its first message. -/
def sampleStore (editedText : Option String) : Store where
  lane := .empty
  chain :=
    { heads := KeyedTable.empty.upsert ⟨"c", 1, List.replicate 32 1, 1⟩
      events := KeyedTable.empty.upsert ⟨"c", "e1", 1, List.replicate 32 1, 1⟩ }
  body :=
    { Body.empty with
      messages := { Messages.empty with
        projections := KeyedTable.empty.upsert (sampleRow editedText) }
      background := { Background.empty with
        conversations := KeyedTable.empty.upsert
          ⟨"c", "station", "federation", 1, "", "", "", "alice", 0, 0, true, 1, false⟩
        members := (KeyedTable.empty.upsert ⟨"c", "alice", 3, true⟩).upsert ⟨"c", "bob", 1, true⟩ } }

def restoredView (editedText : Option String) : Except Error (Option MessageView) := do
  let archive ← (sampleStore editedText).buildRecoveryArchive "alice" (List.replicate 32 5) 1
  let restored ← Store.empty.populateRecoveryStaging archive
  return (restored.body.messages.projectionOf "c" "m1").map ProjectionRow.view

lemma restoredView_eq_ok {editedText : Option String} {view : Option MessageView}
    (h : restoredView editedText = .ok view) : ∃ archive restored,
    (sampleStore editedText).buildRecoveryArchive "alice" (List.replicate 32 5) 1 = .ok archive ∧
    Store.empty.populateRecoveryStaging archive = .ok restored ∧
    (restored.body.messages.projectionOf "c" "m1").map ProjectionRow.view = view := by
  unfold restoredView at h
  simp only [ok_iff] at h
  obtain ⟨archive, hbuild, restored, hrest, hview⟩ := h
  exact ⟨archive, restored, hbuild, hrest, hview⟩

lemma mem_sampleStore (editedText : Option String) :
    sampleRow editedText ∈ (sampleStore editedText).body.messages.projections.rows :=
  mem_singleton.2 rfl

/-- A message that was not edited comes back as it was. -/
theorem view_preserved_sampleRow : ∃ archive restored row',
      (sampleStore none).buildRecoveryArchive "alice" (replicate 32 5) 1 = .ok archive ∧
      empty.populateRecoveryStaging archive = .ok restored ∧ restored.body.messages.projectionOf "c" "m1" = some row' ∧
      row'.view = (sampleRow none).view := by
  have h : restoredView none = .ok (some (sampleRow none).view) := by set_option maxRecDepth 10000 in decide
  obtain ⟨archive, restored, hbuild, hrestore, -⟩ := restoredView_eq_ok h
  have hplain : (sampleRow none).Plain := ⟨rfl, rfl, rfl, fun _ => rfl⟩
  obtain ⟨row', hrow', hview⟩ := (view_preserved_iff hbuild hrestore (mem_sampleStore none) (by decide)).2 hplain
  exact ⟨archive, restored, row', hbuild, hrestore, hrow', hview⟩

/-- An edited message comes back with its first text. -/
theorem edit_lost_by_restore : ∃ (s : Store) (archive : MessagingRecoveryArchive) (restored : Store) (row : ProjectionRow),
      s.buildRecoveryArchive "alice" (replicate 32 5) 1 = .ok archive ∧
      empty.populateRecoveryStaging archive = .ok restored ∧
      row ∈ s.body.messages.projections.rows ∧ (s.exportMessage row).isSome = true ∧
      ¬∃ row', restored.body.messages.projectionOf row.conversationID row.messageID = some row' ∧ row'.view = row.view := by
  have h : restoredView (some "second") = .ok (some (sampleRow none).view) := by set_option maxRecDepth 10000 in decide
  obtain ⟨archive, restored, hbuild, hrestore, hview⟩ := restoredView_eq_ok h
  refine ⟨sampleStore (some "second"), archive, restored, sampleRow (some "second"), hbuild, hrestore,
    mem_sampleStore _, by decide, ?_⟩
  rintro ⟨row', hrow', hsame⟩
  have hrow'' : restored.body.messages.projectionOf "c" "m1" = some row' := hrow'
  rw [hrow''] at hview
  have htext : (sampleRow none).view = (sampleRow (some "second")).view := (some.inj hview).symm.trans hsame
  exact absurd htext (by decide)

end

end PeersTouch.Client
