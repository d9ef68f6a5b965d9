import PeersTouch.Client.Clear

/-!
# Clearing a conversation that was restored

An archive carries neither consumption markers nor any events but those of the messages. A restored
message is therefore protected unless its marker was taken over from the replaced database, and the
head is not recorded unless a message is there. The main theorem says that a clear of a restored
conversation succeeds, and removes all its messages, exactly if neither is in the way.
-/

namespace PeersTouch.Client

open ConversationClearSnapshot

open Lib Chat MessagingRecoveryArchive List ConversationClearInput RecoveryMessageProjection

variable {p : ProjectionRow × AuthorityEvent} {floor last : ℤ}

namespace Recovered

variable {archive : MessagingRecoveryArchive} {source : Option Store} {s : Store}
  {scope : ChatStorageScope} {c : ConversationID} {head : AuthorityHead}
  {m : RecoveryMessageProjection}

section

variable (h : Recovered archive source s)
include h

lemma row_mem (hm : m ∈ archive.messages) : m.row ∈ s.body.messages.projections.rows := by
  rw [h.projections]
  exact mem_map_of_mem hm

lemma eventOf_row (hm : m ∈ archive.messages) : s.eventOf m.row = some m.event := by
  have hmem : m.event ∈ s.chain.events.rows := by
    rw [h.events]
    exact mem_map_of_mem hm
  have hfd : s.chain.events.find (m.conversationID, m.eventSequence) = some m.event :=
    KeyedTable.find_eq_some.2 ⟨hmem, rfl⟩
  unfold Store.eventOf
  rw [show (m.row.conversationID, m.row.eventSequence) = (m.conversationID, m.eventSequence) from rfl, hfd]
  simp [event, row]

lemma floorOf_of_floorRow {row : RetentionFloorRow} (hrow : s.floorRow scope c = some row) :
    ∃ f, archive.floorOf c = some f ∧ row.conversationID = c ∧ f.prunedThroughSequence = row.prunedThroughSequence ∧
    f.authorityEventHash = row.authorityEventHash := by
  obtain ⟨hmem, hkey⟩ := KeyedTable.find_eq_some.1 hrow
  have hconv : row.conversationID = c := by
    simp only [RetentionFloorRow.key, Prod.mk.injEq] at hkey
    exact hkey.2.2.2
  obtain ⟨f, hf, hfc, hprun, hhash⟩ := h.floors row hmem
  let t : KeyedTable RecoveryRetentionFloor RecoveryRetentionFloor.conversationID :=
    ⟨archive.retentionFloors, h.valid.floors_nodup⟩
  have hfd : t.find c = some f := KeyedTable.find_eq_some.2 ⟨hf, hfc.trans hconv⟩
  exact ⟨f, hfd, hconv, hprun, hhash⟩

lemma floor_valid {f : RecoveryRetentionFloor}
    (hf : archive.floorOf c = some f) (hhead : s.chain.heads.find c = some head) :
    0 < f.prunedThroughSequence ∧ f.prunedThroughSequence ≤ head.eventSequence ∧ ¬InvalidHash f.authorityEventHash := by
  have hmem : f ∈ archive.retentionFloors := mem_of_find?_eq_some hf
  have hconv : f.conversationID = c := by simpa using find?_some hf
  have hval := h.valid.floor f hmem
  simp only [InvalidFloor, Beyond, not_or, not_forall, not_lt, not_le] at hval
  obtain ⟨-, -, -, hpos, hhash, -, -, old, hold, hbelow, -⟩ := hval
  rw [hconv] at hold
  exact ⟨hpos, le_trans hbelow (h.head_ge c head old hhead hold), hhash⟩

lemma message_valid (hm : m ∈ archive.messages) (hhead : s.chain.heads.find m.conversationID = some head) :
    ¬blank m.eventID ∧ ¬blank m.messageID ∧ 0 < m.eventSequence ∧
    m.eventSequence ≤ head.eventSequence ∧ ¬InvalidHash m.authorityEventHash ∧
    ∀ f, archive.floorOf m.conversationID = some f → f.prunedThroughSequence < m.eventSequence := by
  have hval := h.valid.message m hm
  simp only [InvalidMessage, Beyond, not_or, not_forall, not_exists, not_and, not_lt, not_le] at hval
  obtain ⟨-, hev, hpos, hhash, hfloor, hmsg, -, -, ⟨old, hold, hbelow, -⟩, -⟩ := hval
  exact ⟨hev, hmsg, hpos, le_trans hbelow (h.head_ge _ head old hhead hold), hhash, hfloor⟩

lemma floorSequence_lt (scope : ChatStorageScope) (hm : m ∈ archive.messages)
    (hhead : s.chain.heads.find m.conversationID = some head) :
    s.floorSequence scope m.conversationID < m.eventSequence := by
  obtain ⟨-, -, hpos, -, -, hfloor⟩ := h.message_valid hm hhead
  unfold Store.floorSequence
  cases hrow : s.floorRow scope m.conversationID with
  | none => exact hpos
  | some row =>
    obtain ⟨f, hf, -, hprun, -⟩ := h.floorOf_of_floorRow hrow
    have hlt := hfloor f hf
    rw [hprun] at hlt
    exact hlt

lemma mem_clearRows (hhead : s.chain.heads.find c = some head) :
    p ∈ s.clearRows c (s.floorSequence scope c) head.eventSequence ↔
    ∃ m ∈ archive.messages, m.conversationID = c ∧ p = (m.row, m.event) := by
  rw [Store.mem_clearRows]
  constructor
  · rintro ⟨hrow, hc, -, -, he⟩
    rw [h.projections] at hrow
    obtain ⟨m, hm, hrow⟩ := mem_map.1 hrow
    refine ⟨m, hm, ?_, ?_⟩
    · rw [← hrow] at hc
      exact hc
    · rw [← hrow, h.eventOf_row hm] at he
      exact Prod.ext hrow.symm (Option.some.inj he).symm
  · rintro ⟨m, hm, rfl, rfl⟩
    obtain ⟨-, -, -, hle, -, -⟩ := h.message_valid hm hhead
    exact ⟨h.row_mem hm, rfl, h.floorSequence_lt scope hm hhead, hle, h.eventOf_row hm⟩

lemma pairwise_rows : s.body.messages.projections.rows.Pairwise fun r r' =>
    (r.conversationID, r.eventSequence) ≠ (r'.conversationID, r'.eventSequence) := by
  have hnodup := s.chain.events.keys_nodup
  rw [h.events, map_map] at hnodup
  rw [h.projections, pairwise_map]
  exact pairwise_map.1 hnodup

lemma pairwise_clearRows : (s.clearRows c floor last).Pairwise fun p p' => p.1.eventSequence < p'.1.eventSequence := by
  have hle := pairwise_le_orderBy (fun p : ProjectionRow × AuthorityEvent => toLex (p.1.eventSequence, p.1.eventID))
    (s.body.messages.projections.rows.filterMap fun row =>
      if row.conversationID = c ∧ floor < row.eventSequence ∧ row.eventSequence ≤ last then
        (s.eventOf row).map fun e => (row, e)
      else none)
  have hne : (s.clearRows c floor last).Pairwise fun p p' =>
      p.1.eventSequence ≠ p'.1.eventSequence := by
    refine pairwise_ne_orderBy (pairwise_map.2 (pairwise_filterMap.2 ?_)) _
    refine h.pairwise_rows.imp ?_
    intro r r' hrr p hp p' hp' heq
    split_ifs at hp hp' with hr hr'
    obtain ⟨e, -, rfl⟩ := Option.map_eq_some_iff.1 hp
    obtain ⟨e', -, rfl⟩ := Option.map_eq_some_iff.1 hp'
    exact hrr (Prod.ext (hr.1.trans hr'.1.symm) heq)
  refine (hle.and hne).imp ?_
  rintro p p' ⟨hpp, hne⟩
  exact lt_of_le_of_ne (Prod.Lex.toLex_le_toLex'.1 hpp).1 hne

end

end Recovered

def Store.conversationBytes (s : Store) (c : ConversationID) : ℕ :=
  ((s.body.messages.projections.rows.filter fun r => r.conversationID = c).map s.estimatedBytes).sum

variable {archive : MessagingRecoveryArchive} {source : Option Store} {s : Store}
  {c : ConversationID} {head : AuthorityHead}

open Store

lemma Recovered.conversationBytes_eq (h : Recovered archive source s) (scope : ChatStorageScope)
    (hhead : s.chain.heads.find c = some head) : ((s.clearRows c (s.floorSequence scope c) head.eventSequence).map fun p =>
    s.estimatedBytes p.1).sum = s.conversationBytes c := by
  have hperm := (perm_orderBy (fun p : ProjectionRow × AuthorityEvent => toLex (p.1.eventSequence, p.1.eventID))
    (s.body.messages.projections.rows.filterMap fun row =>
      if row.conversationID = c ∧ s.floorSequence scope c < row.eventSequence ∧ row.eventSequence ≤ head.eventSequence then
        (s.eventOf row).map fun e => (row, e)
      else none)).map fun p => s.estimatedBytes p.1
  unfold clearRows conversationBytes
  rw [hperm.sum_eq]
  congr 1
  rw [map_filterMap, ← filterMap_eq_filter, map_filterMap]
  refine filterMap_congr ?_
  intro row hrow
  rw [h.projections] at hrow
  obtain ⟨m, hm, rfl⟩ := mem_map.1 hrow
  by_cases hc : m.row.conversationID = c
  · -- a restored message of the conversation is above the floor and not above the head
    have hmc : m.conversationID = c := hc
    subst hmc
    obtain ⟨-, -, -, hle, -, -⟩ := h.message_valid hm hhead
    have hlt := h.floorSequence_lt scope hm hhead
    rw [if_pos ⟨rfl, hlt, hle⟩, h.eventOf_row hm]
    simp [hc]
  · simp [hc]

lemma Recovered.estimate_eq (h : Recovered archive source s) (scope : ChatStorageScope)
    (hhead : s.chain.heads.find c = some head) : (s.clearSnapshot scope c head).plan.estimatedReclaimableBytes =
    min (s.conversationBytes c) (2 ^ 64 - 1) := by
  rw [← h.conversationBytes_eq scope hhead]
  simp only [plan, clearSnapshot, map_map]
  rfl

lemma Recovered.estimatedBytes_le {m : RecoveryMessageProjection} (h : Recovered archive source s)
    (hm : m ∈ archive.messages) (hc : m.conversationID = c) : s.estimatedBytes m.row ≤ s.conversationBytes c := by
  have hrow : m.row ∈ s.body.messages.projections.rows.filter fun r => r.conversationID = c :=
    mem_filter.2 ⟨h.row_mem hm, decide_eq_true hc⟩
  have hmem : s.estimatedBytes m.row ∈ (s.body.messages.projections.rows.filter fun r =>
      r.conversationID = c).map s.estimatedBytes := mem_map_of_mem hrow
  exact single_le_sum (fun _ _ => Nat.zero_le _) _ hmem

/-- Nothing is in the way of clearing a restored conversation: the markers of all its messages were taken
over, a message is at its head, and the estimate of its size is a number of the database. -/
structure Clearable (archive : MessagingRecoveryArchive) (source : Option Store) (s : Store)
    (c : ConversationID) : Prop where
  consumed : ∀ m ∈ archive.messages, m.conversationID = c → ConsumedIn source c m.eventID
  anchored : ∃ head, archive.headAfter source c = some head ∧ ∃ m ∈ archive.messages,
    m.conversationID = c ∧ m.eventSequence = head.eventSequence ∧
      m.authorityEventHash = head.eventHash
  small : s.conversationBytes c ≤ maximumI64

section

variable {archive : MessagingRecoveryArchive} {source : Option Store} {s : Store}
  {files : String → Except Error (Option FileCleanupItem)} {input : ConversationClearInput}

lemma Recovered.clearable_of_clearConversation (h : Recovered archive source s) {r : ConversationClearCommit × Store}
    (hclr : s.clearConversation files input = .ok r) : Clearable archive source s input.conversationID := by
  unfold clearConversation at hclr
  simp only [ok_iff, ofRepository_eq_ok, loadSnapshot_eq_ok] at hclr
  obtain ⟨-, -, -, -, snapshot, ⟨-, head, hhead, -, -, rfl⟩, plan, hplan, hcom⟩ := hclr
  rw [buildClearPlan_eq_ok inOrder_candidates] at hplan
  obtain ⟨-, -, hcands, -, rfl⟩ := hplan
  unfold commitConversationClear at hcom
  simp only [ok_iff, i64TryFrom_eq_ok, not_not] at hcom
  obtain ⟨-, -, e, he, hhash, -, -, -, -, -, -, ⟨-, hb, -⟩, -⟩ := hcom
  refine ⟨?_, ?_, ?_⟩
  · intro m hm hc
    have hmem : (m.row, m.event) ∈ s.clearRows input.conversationID
        (s.floorSequence input.scope input.conversationID) head.eventSequence :=
      (h.mem_clearRows hhead).2 ⟨m, hm, hc, rfl⟩
    obtain ⟨-, hprot, -⟩ := hcands _ (mem_map_of_mem hmem)
    have hdurable : s.DurableConsumed m.row := by
      by_contra hnot
      exact hprot (.inl (decide_eq_false hnot))
    rw [← h.consumed, ← hc]
    exact hdurable
  · refine ⟨head, ?_, ?_⟩
    · rw [← h.head, hhead]
    · obtain ⟨hmem, hkey⟩ := KeyedTable.find_eq_some.1 he
      rw [h.events] at hmem
      obtain ⟨m, hm, rfl⟩ := mem_map.1 hmem
      obtain ⟨hc, hseq⟩ := Prod.mk.inj hkey
      exact ⟨m, hm, hc, hseq, hhash⟩
  · have hestimate : min (s.conversationBytes input.conversationID) (2 ^ 64 - 1) ≤ maximumI64 := by
      rw [← h.estimate_eq input.scope hhead]
      exact hb
    unfold maximumI64 at hestimate ⊢
    omega

lemma ConversationClearInput.validate_eq_ok (h : input.validate = .ok ()) :
    ¬blank input.scopeRevision ∧ ¬blank input.conversationID := by
  unfold validate at h
  simp only [ok_iff] at h
  exact ⟨h.2.1, h.2.2.1⟩

variable {c : ConversationID} {head : AuthorityHead}

/-- The candidates of a clear of a restored conversation may be removed if their markers are there. -/
lemma Recovered.candidates_ok (h : Recovered archive source s) {scope : ChatStorageScope}
    (hhead : s.chain.heads.find c = some head)
    (hcons : ∀ m ∈ archive.messages, m.conversationID = c → ConsumedIn source c m.eventID)
    (hp : p ∈ s.clearRows c (s.floorSequence scope c) head.eventSequence) :
    ¬(s.candidateOf p).OutOfBoundary (s.clearSnapshot scope c head) ∧ ¬(s.candidateOf p).Protected ∧
    s.floorSequence scope c < (s.candidateOf p).eventSequence := by
  obtain ⟨m, hm, rfl, rfl⟩ := (h.mem_clearRows hhead).1 hp
  obtain ⟨hev, hmsg, -, hle, hhash, -⟩ := h.message_valid hm hhead
  have hdurable : s.DurableConsumed m.row := (h.consumed _ _).2 (hcons m hm rfl)
  refine ⟨?_, ?_, h.floorSequence_lt scope hm hhead⟩
  · rintro (hne | hblank | hblank | hlt | hinv)
    · exact hne rfl
    · exact hev hblank
    · exact hmsg hblank
    · exact absurd hlt (not_lt.2 hle)
    · exact hhash hinv
  · rintro (hnot | hprot | htransfer)
    · exact of_decide_eq_false hnot hdurable
    · exact h.idle.not_reliabilityProtected _ (of_decide_eq_true hprot)
    · exact h.idle.not_activeTransfer _ (of_decide_eq_true htransfer)

lemma Store.nodup_clearRows : ((s.clearRows c floor last).map fun p => (p.1.messageID, p.1.eventID)).Nodup := by
  have hrows : s.body.messages.projections.rows.Pairwise fun r r' => r.key ≠ r'.key :=
    pairwise_map.1 s.body.messages.projections.keys_nodup
  refine pairwise_map.2 (pairwise_ne_orderBy (pairwise_map.2 (pairwise_filterMap.2 (hrows.imp ?_))) _)
  intro r r' hrr p hp p' hp' heq
  split_ifs at hp hp' with hr hr'
  obtain ⟨e, -, rfl⟩ := Option.map_eq_some_iff.1 hp
  obtain ⟨e', -, rfl⟩ := Option.map_eq_some_iff.1 hp'
  exact hrr (Prod.ext (hr.1.trans hr'.1.symm) (Prod.mk.inj heq).2)

lemma Recovered.buildPlan_of_clearable (h : Recovered archive source s) (scope : ChatStorageScope)
    (hhead : s.chain.heads.find c = some head) (hblank : ¬blank c) (hclr : Clearable archive source s c) :
    buildConversationClearPlan (s.clearSnapshot scope c head) = .ok (s.clearSnapshot scope c head).plan := by
  obtain ⟨head₀, haft, m₀, hm₀, hc₀, hsequence₀, hhash₀⟩ := hclr.anchored
  obtain rfl : head = head₀ := Option.some.inj (hhead.symm.trans ((h.head c).trans haft))
  obtain ⟨-, -, hpos₀, -, hvalid₀, -⟩ := h.message_valid hm₀ (hc₀ ▸ hhead)
  rw [hsequence₀] at hpos₀
  rw [hhash₀] at hvalid₀
  rw [buildClearPlan_eq_ok inOrder_candidates]
  refine ⟨⟨hblank, hpos₀, hvalid₀⟩, ?_, ?_, ?_, rfl⟩
  · intro floor hfloor
    obtain ⟨row, hrow, rfl⟩ := Option.map_eq_some_iff.1 hfloor
    obtain ⟨f, hf, hconv, hprun, hfhash⟩ := h.floorOf_of_floorRow hrow
    obtain ⟨hpos, hle, hval⟩ := h.floor_valid hf hhead
    rw [hprun] at hpos hle
    rw [hfhash] at hval
    exact ⟨hconv, hpos, hle, fun hzero => hval (.inr hzero)⟩
  · intro cand hcandidate
    obtain ⟨p, hp, rfl⟩ := mem_map.1 hcandidate
    have hok := h.candidates_ok hhead hclr.consumed hp
    have hfloor : ((s.clearSnapshot scope c head).existingFloor.map
      RetentionFloor.prunedThroughSequence).getD 0 = s.floorSequence scope c :=
      floorSequence_eq
    rw [hfloor]
    exact hok
  · exact pairwise_map.2 h.pairwise_clearRows

lemma Recovered.clearConversation_of_clearable (h : Recovered archive source s) (hinp : input.validate = .ok ())
    (hsc : s.validateRetentionScopeIdentity input.scope = .ok ()) (hbef : input.physicalBytesBefore ≤ maximumI64)
    (hclr : Clearable archive source s input.conversationID) : ∃ r, s.clearConversation files input = .ok r ∧
    ∀ row ∈ r.2.body.messages.projections.rows, row.conversationID ≠ input.conversationID := by
  obtain ⟨hrev, hconv⟩ := validate_eq_ok hinp
  obtain ⟨head, haft, m₀, hm₀, hc₀, hsequence₀, hhash₀⟩ := hclr.anchored
  have hhead : s.chain.heads.find input.conversationID = some head := by rw [h.head, haft]
  have hplan := h.buildPlan_of_clearable input.scope hhead hconv hclr
  have hresumable : s.loadResumableConversationClear input.scope input.scopeRevision input.conversationID = .ok none := by
    unfold loadResumableConversationClear
    simp [hrev, hconv, hsc, h.idle.journal, orderBy]
  have hsnapshot : s.loadConversationClearSnapshot input.scope input.conversationID =
      .ok (s.clearSnapshot input.scope input.conversationID head) := by
    refine loadSnapshot_eq_ok.2 ⟨hsc, head, hhead, ?_, ?_, rfl⟩
    · intro row hrow
      obtain ⟨f, hf, -, -, hfhash⟩ := h.floorOf_of_floorRow hrow
      obtain ⟨-, -, hval⟩ := h.floor_valid hf hhead
      simp only [InvalidHash, not_or, not_not, hfhash] at hval
      exact hval.1
    · intro p hp
      obtain ⟨m, hm, hc, rfl⟩ := (h.mem_clearRows hhead).1 hp
      exact le_trans (h.estimatedBytes_le hm hc) hclr.small
  have hzip : (s.clearSnapshot input.scope input.conversationID head).plan.messageIDs.zip
      (s.clearSnapshot input.scope input.conversationID head).plan.eventIDs =
        (s.clearRows input.conversationID (s.floorSequence input.scope input.conversationID)
          head.eventSequence).map fun p => (p.1.messageID, p.1.eventID) := by
    simp only [plan, clearSnapshot, map_map, zip_map']
    rfl
  have hfloor : s.floorSequence input.scope input.conversationID ≤ head.eventSequence := by
    have hlt := h.floorSequence_lt input.scope hm₀ (hc₀ ▸ hhead)
    rw [hc₀] at hlt
    omega
  have hestimate : (s.clearSnapshot input.scope input.conversationID head).plan.estimatedReclaimableBytes ≤ maximumI64 := by
    rw [h.estimate_eq input.scope hhead]
    exact le_trans (Nat.min_le_left _ _) hclr.small
  have hev : s.chain.events.find (input.conversationID, head.eventSequence) = some m₀.event := by
    have hkey : (m₀.row.conversationID, m₀.row.eventSequence) =
        (input.conversationID, head.eventSequence) := Prod.ext hc₀ hsequence₀
    rw [← hkey]
    exact (Option.filter_eq_some_iff.1 (h.eventOf_row hm₀)).1
  have hcons : ∀ p ∈ s.clearRows input.conversationID
      (s.floorSequence input.scope input.conversationID) head.eventSequence, s.DurableConsumed p.1 := by
    intro p hp
    obtain ⟨m, hm, hc, rfl⟩ := (h.mem_clearRows hhead).1 hp
    have hmarker := (h.consumed _ _).2 (hclr.consumed m hm hc)
    rw [← hc] at hmarker
    exact hmarker
  have hcom : ∃ r, s.commitConversationClear files input.scope (input.operation
    (s.clearSnapshot input.scope input.conversationID head).plan.estimatedReclaimableBytes)
      (s.clearSnapshot input.scope input.conversationID head).plan = .ok r ∧ _ :=
    h.idle.commitConversationClear ⟨hrev, hconv, rfl⟩ hsc hev hhash₀ hhead
      (le_refl _) hfloor (by rw [hzip, map_map]; rfl) (hzip ▸ nodup_clearRows) hcons hestimate hbef
  obtain ⟨r, hcom, hmem⟩ := hcom
  refine ⟨r, ?_, ?_⟩
  · unfold clearConversation
    simp only [ok_iff, ofRepository_eq_ok]
    exact ⟨hinp, none, hresumable, by simp, _, hsnapshot, _, hplan, hcom⟩
  · intro row hrow hc
    obtain ⟨hrow, hkept⟩ := (hmem row).1 hrow
    rw [h.projections] at hrow
    obtain ⟨m, hm, rfl⟩ := mem_map.1 hrow
    refine hkept (m.messageID, m.eventID) ?_ ⟨hc, rfl, rfl⟩
    rw [hzip]
    exact mem_map.2 ⟨(m.row, m.event), (h.mem_clearRows hhead).2 ⟨m, hm, hc, rfl⟩, rfl⟩

variable [Content]

/-- After a restore, the clear of a conversation succeeds and removes all its messages exactly if nothing
is in the way. -/
theorem clearConversation_restored_iff {state : FreshDeviceIdentityState} {staging : Store}
    (hrestore : staging.restoreProfile archive state source = .ok s) (hinput : input.validate = .ok ())
    (hscope : s.validateRetentionScopeIdentity input.scope = .ok ()) (hbefore : input.physicalBytesBefore ≤ maximumI64) :
    (∃ r, s.clearConversation files input = .ok r ∧
        ∀ row ∈ r.2.body.messages.projections.rows, row.conversationID ≠ input.conversationID) ↔
      Clearable archive source s input.conversationID := by
  have hs := recovered_of_restoreProfile hrestore
  constructor
  · rintro ⟨r, hclear, -⟩
    exact hs.clearable_of_clearConversation hclear
  · exact hs.clearConversation_of_clearable hinput hscope hbefore

end

section

attribute [local instance] plainContent

def sampleArchive : MessagingRecoveryArchive where
  ptid := "alice"
  actorIdentitySeed := List.replicate 32 5
  actorProfileVersion := 1
  conversations :=
    [{ conversationID := "c", authorityStationID := "station", federationID := "federation"
       scopeKind := 2, kind := 1, name := "", description := "", avatarObjectID := ""
       ownerPTID := "alice", memberPTIDs := ["alice", "bob"]
       memberRoles := (KeyedTable.empty.upsert ("alice", 3)).upsert ("bob", 1), membershipEpoch := 0
       mlsEpoch := 0, active := true, updatedAtUnixMs := 1 }]
  messages := [⟨"c", "e1", 1, List.replicate 32 1, "m1", "bob", "phone", "hello", false, 1⟩]
  retentionFloors := []
  authorityHeads := [⟨"c", 1, List.replicate 32 1, 1⟩]
  redactionTombstones := []
  attachments := []
  trust := []

def sampleIdentity : FreshDeviceIdentityState where
  enrollment :=
    { certificate :=
        { formatVersion := 1, device := some ⟨some "alice", "laptop"⟩, actorIdentityPublicKey := List.replicate 32 2
          actorIdentityKeyFingerprint := List.replicate 32 3
          deviceSigningPublicKey := List.replicate 32 4, signingKeyID := "key", observedProfileVersion := 1 }
      actorCrossSignature := List.replicate 64 6 }
  deviceSigningSeed := List.replicate 32 7

/-- The database of the device before, in which the message was consumed. -/
def sampleSource : Store := { empty with
  lane := { Lane.empty with
    markers := KeyedTable.empty.upsert ⟨"item-1", "e1", "c", List.replicate 32 0, 1⟩ }
  body := { Body.empty with
    storage := { Storage.empty with
      identity := some (sampleIdentity.row "alice" "laptop" 1)
      recoveryStatus := some .active } } }

def sampleClear : ConversationClearInput where
  scope := ⟨"station", "alice", "laptop"⟩
  scopeRevision := "revision"
  conversationID := "c"
  physicalBytesBefore := 4096
  nowUnixMs := 2
  operationID := "operation"

def noFiles (_ : String) : Except Error (Option FileCleanupItem) := .ok none

def clearedMessages (source : Option Store) :
    Except Error (Except ConversationClearError (List ProjectionRow)) := do
  let s ← empty.restoreProfile sampleArchive sampleIdentity source
  failWhen (¬s.validateRetentionScopeIdentity sampleClear.scope = .ok ()) "another device"
  return (s.clearConversation noFiles sampleClear).map fun r => r.2.body.messages.projections.rows

lemma clearedMessages_eq_ok {source : Option Store}
    {result : Except ConversationClearError (List ProjectionRow)}
    (h : clearedMessages source = .ok result) :
    ∃ s, empty.restoreProfile sampleArchive sampleIdentity source = .ok s ∧
    s.validateRetentionScopeIdentity sampleClear.scope = .ok () ∧ (s.clearConversation noFiles sampleClear).map
    (fun r => r.2.body.messages.projections.rows) = result := by
  unfold clearedMessages at h
  simp only [ok_iff, not_not] at h
  exact h

/-- The markers that were taken over let the restored message be cleared. -/
theorem clearable_sampleSource : ∃ s r, empty.restoreProfile sampleArchive sampleIdentity (some sampleSource) = .ok s ∧
      s.clearConversation noFiles sampleClear = .ok r ∧ Clearable sampleArchive (some sampleSource) s "c" := by
  have h : clearedMessages (some sampleSource) = .ok (.ok []) := by set_option maxRecDepth 10000 in decide
  obtain ⟨s, hrestore, hscope, hclear⟩ := clearedMessages_eq_ok h
  have hinput : sampleClear.validate = .ok () := by decide
  have hbefore : sampleClear.physicalBytesBefore ≤ maximumI64 := by decide
  cases hr : s.clearConversation noFiles sampleClear with
  | error e =>
    rw [hr] at hclear
    cases hclear
  | ok r =>
    rw [hr] at hclear
    have hrows : r.2.body.messages.projections.rows = [] := Except.ok.inj hclear
    refine ⟨s, r, hrestore, hr, (clearConversation_restored_iff hrestore hinput hscope hbefore).1 ⟨r, hr, ?_⟩⟩
    simp [hrows]

/-- On a new device the restored message can not be cleared. -/
theorem restored_not_cleared : ∃ s, empty.restoreProfile sampleArchive sampleIdentity none = .ok s ∧
      s.validateRetentionScopeIdentity sampleClear.scope = .ok () ∧
      s.Idle ∧ (s.chain.heads.find sampleClear.conversationID).isSome = true ∧
      s.clearConversation noFiles sampleClear = .error (.protectedCandidate "m1") := by
  have h : clearedMessages none = .ok (.error (.protectedCandidate "m1")) := by set_option maxRecDepth 10000 in decide
  obtain ⟨s, hrestore, hscope, hclear⟩ := clearedMessages_eq_ok h
  have hs := recovered_of_restoreProfile hrestore
  refine ⟨s, hrestore, hscope, hs.idle, ?_, ?_⟩
  · rw [hs.head]
    decide
  · cases hr : s.clearConversation noFiles sampleClear with
    | ok r =>
      rw [hr] at hclear
      cases hclear
    | error e =>
      rw [hr] at hclear
      rw [Except.error.inj hclear]

end

end PeersTouch.Client
