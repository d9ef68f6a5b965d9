import PeersTouch.Client.Interaction

/-!
# What the store holds of a message

`Messages.Redacted` and `Messages.Bare` say that a message was redacted and that nothing of it is left.
`Messages.AddsNothing` compares two states of the tables for one message: whatever the second one
holds of it, the first one held too. Each write of the lane commits adds nothing to any message but
the one it is about (`Messages.Concerns`), and some writes add nothing to that one either.
-/

namespace PeersTouch.Client

open Lib Chat KeyedTable List

def ProjectionRow.Marked (r : ProjectionRow) : Prop := r.retracted = true ∨ r.hiddenForActor = true

namespace Messages

variable {c : ConversationID} {m : MessageID} {t t₁ t₂ t₃ : Messages}

def Buried (c : ConversationID) (m : MessageID) (t : Messages) : Prop :=
  ∃ s ∈ t.tombstones.rows, s.conversationID = c ∧ s.messageID = m

def Redacted (c : ConversationID) (m : MessageID) (t : Messages) : Prop :=
  (∃ r ∈ t.projections.rows, r.messageKey = (c, m) ∧ r.Marked) ∨ t.Buried c m

structure Bare (c : ConversationID) (m : MessageID) (t : Messages) : Prop where
  plaintext : ∀ r ∈ t.projections.rows, r.messageKey = (c, m) → r.plaintext = ""
  editedText : ∀ r ∈ t.projections.rows, r.messageKey = (c, m) → r.editedText.getD "" = ""
  search : ∀ r ∈ t.search, ¬(r.conversationID = c ∧ r.messageID = m)
  reactions : ∀ r ∈ t.reactions.rows, r.messageID ≠ m
  pins : ∀ p ∈ t.pins.rows, p.key ≠ (c, m)
  attachments : ∀ a ∈ t.attachments.rows, a.messageID ≠ m

/-- The two rows of a message show the same content and the same marks. -/
structure SameRow (r r' : ProjectionRow) : Prop where
  messageKey : r'.messageKey = r.messageKey
  plaintext : r'.plaintext = r.plaintext
  editedText : r'.editedText = r.editedText
  retracted : r'.retracted = r.retracted
  hiddenForActor : r'.hiddenForActor = r.hiddenForActor

lemma SameRow.marked {r r' : ProjectionRow} (h : SameRow r r') : r'.Marked ↔ r.Marked := by
  unfold ProjectionRow.Marked
  rw [h.retracted, h.hiddenForActor]

/-- The second state holds nothing of the message that the first one did not hold. -/
structure AddsNothing (c : ConversationID) (m : MessageID) (t t' : Messages) : Prop where
  rows : ∀ r' ∈ t'.projections.rows, r'.messageKey = (c, m) → ∃ r ∈ t.projections.rows, SameRow r r'
  search : ∀ r ∈ t'.search, r.conversationID = c → r.messageID = m →
    ∃ r₀ ∈ t.search, r₀.conversationID = c ∧ r₀.messageID = m
  reactions : ∀ r ∈ t'.reactions.rows, r.messageID = m → ∃ r₀ ∈ t.reactions.rows, r₀.messageID = m
  pins : ∀ p ∈ t'.pins.rows, p.key = (c, m) → ∃ p₀ ∈ t.pins.rows, p₀.key = (c, m)
  attachments : ∀ a ∈ t'.attachments.rows, a.messageID = m →
    ∃ a₀ ∈ t.attachments.rows, a₀.messageID = m

lemma AddsNothing.refl (t : Messages) : AddsNothing c m t t where
  rows r hr _ := ⟨r, hr, rfl, rfl, rfl, rfl, rfl⟩
  search r hr hc hm := ⟨r, hr, hc, hm⟩
  reactions r hr hm := ⟨r, hr, hm⟩
  pins p hp hk := ⟨p, hp, hk⟩
  attachments a ha hm := ⟨a, ha, hm⟩

lemma AddsNothing.trans (h₁ : AddsNothing c m t₁ t₂) (h₂ : AddsNothing c m t₂ t₃) : AddsNothing c m t₁ t₃ where
  rows r'' hr'' hk := by
    obtain ⟨r', hr', h'⟩ := h₂.rows r'' hr'' hk
    obtain ⟨r, hr, h⟩ := h₁.rows r' hr' (h'.messageKey ▸ hk)
    exact ⟨r, hr, h'.messageKey.trans h.messageKey, h'.plaintext.trans h.plaintext,
      h'.editedText.trans h.editedText, h'.retracted.trans h.retracted, h'.hiddenForActor.trans h.hiddenForActor⟩
  search r hr hc hm := by
    obtain ⟨r', hr', hc', hm'⟩ := h₂.search r hr hc hm
    exact h₁.search r' hr' hc' hm'
  reactions r hr hm := by
    obtain ⟨r', hr', hm'⟩ := h₂.reactions r hr hm
    exact h₁.reactions r' hr' hm'
  pins p hp hk := by
    obtain ⟨p', hp', hk'⟩ := h₂.pins p hp hk
    exact h₁.pins p' hp' hk'
  attachments a ha hm := by
    obtain ⟨a', ha', hm'⟩ := h₂.attachments a ha hm
    exact h₁.attachments a' ha' hm'

lemma AddsNothing.bare (h : AddsNothing c m t₁ t₂) (ht : t₁.Bare c m) : t₂.Bare c m where
  plaintext r' hr' hk := by
    obtain ⟨r, hr, hsame⟩ := h.rows r' hr' hk
    rw [hsame.plaintext]
    exact ht.plaintext r hr (hsame.messageKey ▸ hk)
  editedText r' hr' hk := by
    obtain ⟨r, hr, hsame⟩ := h.rows r' hr' hk
    rw [hsame.editedText]
    exact ht.editedText r hr (hsame.messageKey ▸ hk)
  search := by
    rintro r hr ⟨hc, hm⟩
    obtain ⟨r₀, hr₀, hkey⟩ := h.search r hr hc hm
    exact ht.search r₀ hr₀ hkey
  reactions := by
    intro r hr hm
    obtain ⟨r₀, hr₀, hm₀⟩ := h.reactions r hr hm
    exact ht.reactions r₀ hr₀ hm₀
  pins := by
    intro p hp hk
    obtain ⟨p₀, hp₀, hk₀⟩ := h.pins p hp hk
    exact ht.pins p₀ hp₀ hk₀
  attachments := by
    intro a ha hm
    obtain ⟨a₀, ha₀, hm₀⟩ := h.attachments a ha hm
    exact ht.attachments a₀ ha₀ hm₀

/-- A write about the message `m` of the conversation `c`. It adds nothing to the other messages of the
conversation, marks no row and leaves the tombstones. -/
structure Concerns (c : ConversationID) (m : MessageID) (t t' : Messages) : Prop where
  others : ∀ m', m' ≠ m → AddsNothing c m' t t'
  marks : ∀ r' ∈ t'.projections.rows, r'.messageKey = (c, m) → r'.Marked →
    ∃ r ∈ t.projections.rows, r.messageKey = (c, m) ∧ r.Marked
  tombstones : t'.tombstones = t.tombstones

lemma Concerns.refl (t : Messages) : Concerns c m t t :=
  ⟨fun _ _ => .refl t, fun r hr hk hmark => ⟨r, hr, hk, hmark⟩, rfl⟩

lemma Concerns.trans (h₁ : Concerns c m t₁ t₂) (h₂ : Concerns c m t₂ t₃) : Concerns c m t₁ t₃ where
  others m' hm' := (h₁.others m' hm').trans (h₂.others m' hm')
  marks r hr hk hmark := by
    obtain ⟨r', hr', hk', hmark'⟩ := h₂.marks r hr hk hmark
    exact h₁.marks r' hr' hk' hmark'
  tombstones := h₂.tombstones.trans h₁.tombstones

lemma Concerns.of_addsNothing (h : ∀ m', AddsNothing c m' t₁ t₂)
    (htombs : t₂.tombstones = t₁.tombstones) : Concerns c m t₁ t₂ where
  others m' _ := h m'
  marks r' hr' hk hmark := by
    obtain ⟨r, hr, hsame⟩ := (h m).rows r' hr' hk
    exact ⟨r, hr, hsame.messageKey ▸ hk, hsame.marked.1 hmark⟩
  tombstones := htombs

variable {m' : MessageID} {t' : Messages} {conversationID : ConversationID}
  {attachment : AttachmentPlaintextMetadata} {failPoint : ReceiveFailPoint}
  {tombstones : KeyedTable RedactionTombstone RedactionTombstone.key}

/-- A redaction that is there after such a write was there before. -/
lemma Concerns.redacted (h : Concerns c m t₁ t₂) (ht : t₂.Redacted c m') : t₁.Redacted c m' := by
  rcases ht with ⟨r', hr', hk, hmark⟩ | hbur
  · refine .inl ?_
    by_cases hm : m' = m
    · subst hm
      exact h.marks r' hr' hk hmark
    · obtain ⟨r, hr, hsame⟩ := (h.others m' hm).rows r' hr' hk
      exact ⟨r, hr, hsame.messageKey ▸ hk, hsame.marked.1 hmark⟩
  · refine .inr ?_
    unfold Buried at hbur
    rwa [h.tombstones] at hbur

/-! ### The writes -/

lemma addsNothing_withoutSearch (conversationID : ConversationID) (messageID m : MessageID) :
    AddsNothing c m t (t.withoutSearch conversationID messageID) :=
  { AddsNothing.refl (c := c) (m := m) t with
    search := fun r hr hc hm => ⟨r, mem_of_mem_filter hr, hc, hm⟩ }

lemma concerns_edit (text : String) (time : ℤ) : Concerns c m t (t.edit c m text time) where
  others m' hm' := { AddsNothing.refl (c := c) (m := m') t with
    rows := by
      intro r' hr' hk
      obtain ⟨r, hr, rfl⟩ := mem_map.1 hr'
      split at hk
      · rename_i hrow
        exact absurd ((Prod.mk.inj hk).2.symm.trans hrow.2) hm'
      · rename_i hrow
        rw [if_neg hrow]
        exact ⟨r, hr, rfl, rfl, rfl, rfl, rfl⟩ }
  marks := by
    intro r' hr' hk hmark
    obtain ⟨r, hr, rfl⟩ := mem_map.1 hr'
    refine ⟨r, hr, ?_⟩
    split at hk <;> rename_i hrow
    · rw [if_pos hrow] at hmark
      exact ⟨hk, hmark⟩
    · rw [if_neg hrow] at hmark
      exact ⟨hk, hmark⟩
  tombstones := rfl

lemma concerns_of_rows_eq (hrows : t'.projections = t.projections)
    (hsearch : ∀ r ∈ t'.search, r ∈ t.search ∨ r.messageID = m)
    (hreactions : ∀ r ∈ t'.reactions.rows, r ∈ t.reactions.rows ∨ r.messageID = m)
    (hpins : ∀ p ∈ t'.pins.rows, p ∈ t.pins.rows ∨ p.messageID = m)
    (hatts : ∀ a ∈ t'.attachments.rows, a ∈ t.attachments.rows ∨ a.messageID = m)
    (htombs : t'.tombstones = t.tombstones) : Concerns c m t t' where
  others m' hm' :=
    { rows := by
        intro r hr _
        rw [hrows] at hr
        exact ⟨r, hr, rfl, rfl, rfl, rfl, rfl⟩
      search := by
        intro r hr hc hm
        rcases hsearch r hr with h | h
        · exact ⟨r, h, hc, hm⟩
        · exact absurd (hm.symm.trans h) hm'
      reactions := by
        intro r hr hm
        rcases hreactions r hr with h | h
        · exact ⟨r, h, hm⟩
        · exact absurd (hm.symm.trans h) hm'
      pins := by
        intro p hp hk
        rcases hpins p hp with h | h
        · exact ⟨p, h, hk⟩
        · exact absurd ((Prod.mk.inj hk).2.symm.trans h) hm'
      attachments := by
        intro a ha hm
        rcases hatts a ha with h | h
        · exact ⟨a, h, hm⟩
        · exact absurd (hm.symm.trans h) hm' }
  marks r hr hk hmarked := ⟨r, hrows ▸ hr, hk, hmarked⟩
  tombstones := htombs

lemma concerns_index [Content] (conversationID : ConversationID) (text : String)
    (attachments : List AttachmentPlaintextMetadata) : Concerns c m t (t.index conversationID m text attachments) := by
  refine concerns_of_rows_eq rfl ?_ (fun _ h => .inl h) (fun _ h => .inl h) (fun _ h => .inl h) rfl
  intro r hr
  rcases mem_append.1 hr with hr | hr
  · exact .inl hr
  · rw [mem_singleton.1 hr]
    exact .inr rfl

lemma concerns_withoutSearch (conversationID : ConversationID) (messageID : MessageID) :
    Concerns c m t (t.withoutSearch conversationID messageID) :=
  .of_addsNothing (fun m' => addsNothing_withoutSearch conversationID messageID m') rfl

lemma concerns_refreshIndex [Content] (conversationID : ConversationID) :
    Concerns c m t (t.refreshMessageSearchIndex conversationID m) := by
  unfold refreshMessageSearchIndex
  have hclr := concerns_withoutSearch (c := c) (m := m) (t := t) conversationID m
  split
  · split_ifs
    · exact hclr.trans (concerns_index conversationID _ _)
    · exact hclr
  · exact hclr

lemma concerns_react (actor : PTID) (reaction : String) (removed : Bool) (time : ℤ) :
    Concerns c m t (t.react m actor reaction removed time) := by
  refine concerns_of_rows_eq rfl (fun _ h => .inl h) ?_ (fun _ h => .inl h) (fun _ h => .inl h) rfl
  intro r hr
  cases removed with
  | true => exact .inl (mem_delete.1 hr).1
  | false =>
    rcases mem_of_mem_insertOrIgnore hr with hr | ⟨rfl, -⟩
    · exact .inl hr
    · exact .inr rfl

lemma concerns_pin (conversationID : ConversationID) (actor : PTID) (removed : Bool) (time : ℤ) :
    Concerns c m t (t.pin conversationID m actor removed time) := by
  refine concerns_of_rows_eq rfl (fun _ h => .inl h) (fun _ h => .inl h) ?_ (fun _ h => .inl h) rfl
  intro p hp
  cases removed with
  | true => exact .inl (mem_delete.1 hp).1
  | false =>
    rcases mem_of_mem_insertOrIgnore hp with hp | ⟨rfl, -⟩
    · exact .inl (mem_delete.1 hp).1
    · exact .inr rfl

lemma moderate_eq_ok {messageID : MessageID} {reason : String} (h : t.moderate conversationID messageID reason = .ok t') :
    (∀ m, AddsNothing c m t t') ∧ t'.tombstones = t.tombstones := by
  unfold moderate at h
  simp only [ok_iff] at h
  obtain ⟨projections, hprojections, rfl⟩ := h
  obtain ⟨-, rfl⟩ := KeyedTable.updateOne_eq_ok.1 hprojections
  refine ⟨fun m => ?_, rfl⟩
  refine AddsNothing.trans ?_ (addsNothing_withoutSearch conversationID messageID m)
  refine { AddsNothing.refl (c := c) t with rows := ?_ }
  intro r' hr' _
  obtain ⟨r, hr, rfl⟩ := mem_map.1 hr'
  refine ⟨r, hr, ?_⟩
  split <;> exact ⟨rfl, rfl, rfl, rfl, rfl⟩

lemma concerns_insertProjection {row : ProjectionRow} {duplicate : Error}
    (hmark : ¬row.Marked) (h : t.insertProjection row duplicate = .ok t') : Concerns c row.messageID t t' := by
  obtain ⟨-, -, rfl⟩ := insertProjection_eq_ok.1 h
  refine ⟨fun m' hm' => ?_, ?_, rfl⟩
  · refine { AddsNothing.refl (c := c) t with rows := ?_ }
    intro r hr hk
    rcases mem_of_mem_insertOrIgnore hr with hr | ⟨rfl, -⟩
    · exact ⟨r, hr, rfl, rfl, rfl, rfl, rfl⟩
    · exact absurd (Prod.mk.inj hk).2.symm hm'
  · intro r hr hk hrow
    rcases mem_of_mem_insertOrIgnore hr with hr | ⟨rfl, -⟩
    · exact ⟨r, hr, hk, hrow⟩
    · exact absurd hrow hmark

lemma concerns_attach {row : AttachmentRow} (hrow : row.messageID = m) :
    Concerns c m t { t with attachments := t.attachments.insertOrIgnore row } := by
  refine concerns_of_rows_eq rfl (fun _ h => .inl h) (fun _ h => .inl h) (fun _ h => .inl h) ?_ rfl
  intro a ha
  rcases mem_of_mem_insertOrIgnore ha with ha | ⟨rfl, -⟩
  · exact .inl ha
  · exact .inr hrow

lemma concerns_insertAttachment [Content] (h : insertAttachment m t attachment = .ok t') : Concerns c m t t' := by
  unfold insertAttachment at h
  simp only [ok_iff, KeyedTable.insert_eq_ok] at h
  obtain ⟨-, -, -, attachments, ⟨-, rfl⟩, rfl⟩ := h
  exact concerns_attach rfl

lemma concerns_project [Content] {p : MessageProjection}
    (h : t.project (some p) failPoint = .ok t') : Concerns c p.messageID t t' := by
  simp only [project, ok_iff] at h
  obtain ⟨projected, hprojected, -, attached, hattached, -, -, rfl⟩ := h
  have hnew : ¬(ProjectionRow.ofReceived p).Marked := by rintro (hmark | hmark) <;> cases hmark
  have hproj := concerns_insertProjection (c := c) hnew hprojected
  have hatts : Concerns c p.messageID projected attached := by
    refine foldlM_invariant ?_ (.refl _) hattached
    intro b attachment b' _ hb hstep
    exact hb.trans (concerns_insertAttachment hstep)
  exact (hproj.trans hatts).trans (concerns_index _ _ _)

lemma project_none [Content] (h : t.project none failPoint = .ok t') : t' = t := by
  simp only [project, ok_iff] at h
  exact h.2.2.symm

lemma concerns_senderAttachment (h : persistSenderAttachment m t attachment = .ok t') : Concerns c m t t' := by
  unfold persistSenderAttachment at h
  simp only [ok_iff] at h
  obtain ⟨-, -, h⟩ := h
  split at h
  · simp only [ok_iff] at h
    rw [← h.2]
    exact .refl t
  · obtain rfl := pure_eq_ok.1 h
    exact concerns_attach rfl

lemma concerns_senderContent [Content]
    {plaintext : String} {attachments : List AttachmentPlaintextMetadata} {privateContent : Bytes}
    (h : t.persistSenderContent conversationID m plaintext attachments privateContent = .ok t') :
    Concerns c m t t' := by
  unfold persistSenderContent at h
  simp only [ok_iff] at h
  obtain ⟨decoded, -, -, persisted, hpers, -, rfl⟩ := h
  have hatts : Concerns c m t persisted := by
    refine foldlM_invariant ?_ (.refl _) hpers
    intro b attachment b' _ hb hstep
    exact hb.trans (concerns_senderAttachment hstep)
  exact (hatts.trans (concerns_withoutSearch conversationID m)).trans (concerns_index conversationID _ _)

/-! ### Redaction -/

variable {plan : MessageRedactionPlan}

lemma mem_raiseTombstone {s x : RedactionTombstone} (h : x ∈ (raiseTombstone tombstones s).rows) :
    x ∈ tombstones.rows ∨ x = s := by
  unfold raiseTombstone at h
  split_ifs at h
  · exact .inl h
  · rcases mem_of_mem_insertOrIgnore h with h | ⟨rfl, -⟩
    · exact .inl (mem_delete.1 h).1
    · exact .inr rfl

lemma exists_mem_raiseTombstone {s x : RedactionTombstone} (h : x ∈ tombstones.rows ∨ x = s) :
    ∃ x' ∈ (raiseTombstone tombstones s).rows, x'.key = x.key := by
  unfold raiseTombstone
  split_ifs with hold
  · rcases h with h | rfl
    · exact ⟨x, h, rfl⟩
    · obtain ⟨old, hfd, -⟩ := hold
      exact ⟨old, (find_eq_some.1 hfd).1, KeyedTable.key_of_find hfd⟩
  · have hfd := KeyedTable.find_upsert (t := tombstones) (r := s) (k := x.key)
    split_ifs at hfd with hkey
    · exact ⟨s, (find_eq_some.1 hfd).1, hkey⟩
    · rcases h with h | rfl
      · rw [find_eq_some.2 ⟨h, rfl⟩] at hfd
        exact ⟨x, (find_eq_some.1 hfd).1, rfl⟩
      · exact absurd rfl hkey

lemma buried_redact (h : t.Buried c m' ∨ (plan.conversationID, plan.messageID) =
    (c, m')) : (t.redact plan).Buried c m' := by
  have hmem : ∃ x, (x ∈ t.tombstones.rows ∨ x = plan.tombstone) ∧ x.conversationID = c ∧ x.messageID = m' := by
    rcases h with ⟨x, hx, hc, hm⟩ | hkey
    · exact ⟨x, .inl hx, hc, hm⟩
    · obtain ⟨hc, hm⟩ := Prod.mk.inj hkey
      exact ⟨plan.tombstone, .inr rfl, hc, hm⟩
  obtain ⟨x, hx, hc, hm⟩ := hmem
  obtain ⟨x', hx', hkey⟩ := exists_mem_raiseTombstone hx
  simp only [RedactionTombstone.key, Prod.mk.injEq] at hkey
  exact ⟨x', hx', hkey.1.trans hc, hkey.2.1.trans hm⟩

lemma buried_of_buried_redact (h : (t.redact plan).Buried c m') :
    t.Buried c m' ∨ (plan.conversationID, plan.messageID) = (c, m') := by
  obtain ⟨x, hx, hc, hm⟩ := h
  rcases mem_raiseTombstone hx with hx | rfl
  · exact .inl ⟨x, hx, hc, hm⟩
  · exact .inr (Prod.ext hc hm)

lemma addsNothing_redact (h : (plan.conversationID, plan.messageID) ≠ (c, m)) : AddsNothing c m t (t.redact plan) where
  rows := by
    intro r' hr' hk
    obtain ⟨r, hr, rfl⟩ := mem_map.1 hr'
    split at hk <;> rename_i hrow
    · exact absurd (by rw [← hrow.1, ← hrow.2]; exact hk) h
    · rw [if_neg hrow]
      exact ⟨r, hr, rfl, rfl, rfl, rfl, rfl⟩
  search r hr hc hm := ⟨r, mem_of_mem_filter hr, hc, hm⟩
  reactions r hr hm := ⟨r, (mem_deleteWhere.1 hr).1, hm⟩
  pins p hp hk := ⟨p, (mem_deleteWhere.1 hp).1, hk⟩
  attachments a ha hm := ⟨a, (mem_deleteWhere.1 ha).1, hm⟩

lemma bare_redact (h : (plan.conversationID, plan.messageID) = (c, m)) : (t.redact plan).Bare c m := by
  obtain ⟨hc, hm⟩ := Prod.mk.inj h
  have hrow : ∀ r' ∈ (t.redact plan).projections.rows, r'.messageKey = (c, m) →
      r'.plaintext = "" ∧ r'.editedText = none := by
    intro r' hr' hk
    obtain ⟨r, hr, rfl⟩ := mem_map.1 hr'
    split at hk <;> rename_i hplan
    · rw [if_pos hplan]
      exact ⟨rfl, rfl⟩
    · obtain ⟨hkc, hkm⟩ := Prod.mk.inj hk
      exact absurd ⟨hkc.trans hc.symm, hkm.trans hm.symm⟩ hplan
  refine ⟨fun r hr hk => (hrow r hr hk).1, ?_, ?_, ?_, ?_, ?_⟩
  · intro r hr hk
    rw [(hrow r hr hk).2]
    rfl
  · rintro r hr ⟨hrc, hrm⟩
    have hkeep := of_decide_eq_true (mem_filter.1 hr).2
    exact hkeep ⟨hrc.trans hc.symm, hrm.trans hm.symm⟩
  · intro r hr hrm
    exact (mem_deleteWhere.1 hr).2 (hrm.trans hm.symm)
  · intro p hp hk
    obtain ⟨hpc, hpm⟩ := Prod.mk.inj hk
    exact (mem_deleteWhere.1 hp).2 ⟨hpc.trans hc.symm, hpm.trans hm.symm⟩
  · intro a ha ham
    exact (mem_deleteWhere.1 ha).2 (ham.trans hm.symm)

end Messages

end PeersTouch.Client
