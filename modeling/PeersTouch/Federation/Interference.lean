import PeersTouch.Federation.ExactlyOnce

/-!
# Stations in each other's inbox

Two histories of one inbox in which a Station `y` sends the same frames, and other Stations send what they want. A
frame id is unique over all sources, so another Station can take the frame id of a frame of `y` before it arrives, and
`y` then gets another answer (`answers_differ`). This is the only way: when no frame id of `y` is used by
others, the inbox behaves as if `y` were alone (`answers_filter`).
-/

namespace PeersTouch.Federation

open Lib Chat List Reception KeyedTable InboxRecord

variable {δ κ ν : Type}

def Reception.isFrom (y : String) (reception : Reception δ κ) : Bool := reception.frame.sourceStationPeerID = y

def Store.after [Digest] (config : ReceiverConfig) (s : Store δ) (reception : Reception δ κ) : Store δ :=
  ((receive config reception s).committed.map Committed.store).getD s

def answers [Digest] (config : ReceiverConfig) (y : String) :
    Store δ → List (Reception δ κ) → List (Except Error Result)
  | _, [] => []
  | s, reception :: history =>
    if reception.isFrom y then
      (receive config reception s).response :: answers config y (s.after config reception) history
    else answers config y (s.after config reception) history

/-! ### The part of the domain that belongs to a Station -/

/-- Two runs of a receiver with the same outcome, in the part of the tables that `view` shows. -/
inductive SameHandling (view : Outbox → δ → ν) : Except Error (Handled δ κ) → Except Error (Handled δ κ) → Prop
  | error (e : Error) : SameHandling view (.error e) (.error e)
  | ok (handled handled' : Handled δ κ) (result : handled.result = handled'.result)
      (afterCommit : handled.afterCommit = handled'.afterCommit)
      (same : view handled.outbox handled.domain = view handled'.outbox handled'.domain) :
      SameHandling view (.ok handled) (.ok handled')

/-- What `view` shows belongs to the Station `y`: the receivers of its frames depend on nothing else, and those of
other frames do not touch it. -/
structure Owns (view : Outbox → δ → ν) (y : String) (history : List (Reception δ κ)) : Prop where
  own : ∀ reception ∈ history, reception.isFrom y = true → ∀ outbox domain outbox' domain',
    view outbox domain = view outbox' domain' →
      SameHandling view (reception.dispatch reception.frame outbox domain)
        (reception.dispatch reception.frame outbox' domain')
  other : ∀ reception ∈ history, reception.isFrom y = false → ∀ outbox domain handled,
    reception.dispatch reception.frame outbox domain = .ok handled →
      view handled.outbox handled.domain = view outbox domain

/-- The tables `s'` as they were if only `y` had sent frames. Receipts of others have no frame id of `ids`. -/
structure Alone (view : Outbox → δ → ν) (y : String) (ids : List String) (s s' : Store δ) : Prop where
  inbox : s'.inbox.rows = s.inbox.rows.filter fun r => r.sourceStationPeerID = y
  view : view s.outbox s.domain = view s'.outbox s'.domain
  others : ∀ r ∈ s.inbox.rows, r.sourceStationPeerID ≠ y → r.frameID ∉ ids

/-! ### Frames of the Station -/

lemma find?_filter_of_imp {α : Type} {p q : α → Bool} {xs : List α} (h : ∀ x ∈ xs, q x = true → p x = true) :
    (xs.filter p).find? q = xs.find? q := by
  induction xs with
  | nil => rfl
  | cons x xs ih =>
    have ih := ih fun z hz => h z (mem_cons_of_mem x hz)
    cases hp : p x with
    | true => rw [filter_cons_of_pos hp, find?_cons, find?_cons, ih]
    | false =>
      have hq : q x = false := by
        rw [← Bool.not_eq_true]
        intro hq
        rw [h x mem_cons_self hq] at hp
        cases hp
      rw [filter_cons_of_neg (by simp [hp]), ih, find?_cons_of_neg (by simp [hq])]

section

variable {view : Outbox → δ → ν} {y : String} {ids : List String} {s s' : Store δ}
  {reception : Reception δ κ} {identity : FrameIdentity}

namespace Alone

variable (h : Alone view y ids s s') (hsource : identity.sourceStationPeerID = y) (hid : identity.frameID ∈ ids)
include h hsource hid

lemma source_of_conflicts {r : InboxRecord} (hr : r ∈ s.inbox.rows) (hconf : r.Conflicts identity) :
    r.sourceStationPeerID = y := by
  rcases hconf with hkey | hfr
  · exact (congrArg Prod.fst hkey).trans hsource
  · by_contra hne
    exact h.others r hr hne (hfr ▸ hid)

lemma conflicts_iff : (∃ r ∈ s.inbox.rows, r.Conflicts identity) ↔ ∃ r ∈ s'.inbox.rows, r.Conflicts identity := by
  rw [h.inbox]
  constructor
  · rintro ⟨r, hr, hconf⟩
    exact ⟨r, mem_filter.2 ⟨hr, decide_eq_true (h.source_of_conflicts hsource hid hr hconf)⟩, hconf⟩
  · rintro ⟨r, hr, hconf⟩
    exact ⟨r, (mem_filter.1 hr).1, hconf⟩

lemma classify : classifyInboxConflict s.inbox identity = classifyInboxConflict s'.inbox identity := by
  have hkey : s'.inbox.find (identity.sourceStationPeerID, identity.idempotencyKey) =
      s.inbox.find (identity.sourceStationPeerID, identity.idempotencyKey) := by
    unfold find
    rw [h.inbox]
    refine find?_filter_of_imp fun r hr hkey => decide_eq_true ?_
    exact h.source_of_conflicts hsource hid hr (.inl (of_decide_eq_true hkey))
  have hfr : s'.inbox.rows.find? (fun r => r.frameID = identity.frameID) =
      s.inbox.rows.find? fun r => r.frameID = identity.frameID := by
    rw [h.inbox]
    refine find?_filter_of_imp fun r hr hfr => decide_eq_true ?_
    exact h.source_of_conflicts hsource hid hr (.inr (of_decide_eq_true hfr))
  rw [classifyInboxConflict, classifyInboxConflict, hkey, hfr]

end Alone

/-- Two transactions with the same outcome, one of them in the tables of `y` alone. -/
inductive SameTransaction (view : Outbox → δ → ν) (y : String) (ids : List String) :
    Except Rollback (Committed δ κ) → Except Rollback (Committed δ κ) → Prop
  | rollback (cause : Rollback) : SameTransaction view y ids (.error cause) (.error cause)
  | commit (commit commit' : Committed δ κ) (outcome : commit.outcome = commit'.outcome)
      (afterCommit : commit.afterCommit = commit'.afterCommit)
      (alone : Alone view y ids commit.store commit'.store) :
      SameTransaction view y ids (.ok commit) (.ok commit')

lemma Alone.insert {t t' : Store δ} {record : InboxRecord} (h : Alone view y ids s s')
    (hrows : t.inbox.rows = s.inbox.rows ++ [record]) (hrows' : t'.inbox.rows = s'.inbox.rows ++ [record])
    (hsource : record.sourceStationPeerID = y) (hview : view t.outbox t.domain = view t'.outbox t'.domain) :
    Alone view y ids t t' where
  inbox := by rw [hrows, hrows', h.inbox, filter_append]; simp [hsource]
  view := hview
  others r hr hne := by
    rw [hrows, mem_append, mem_singleton] at hr
    rcases hr with hr | rfl
    · exact h.others r hr hne
    · exact absurd hsource hne

lemma exists_completeReceipt {inbox : Inbox} (frame : Frame) (recvAt : Time) (outcome : Result)
    (hconf : ∀ r ∈ inbox.rows, ¬r.Conflicts identity) :
    ∃ inbox', completeReceipt (inbox.insertOrIgnore (.ofFrame frame identity recvAt)) identity outcome
    recvAt = .ok inbox' ∧ inbox'.rows = inbox.rows ++ [.completed frame identity recvAt outcome] := by
  have hkey : inbox.hasKey (identity.sourceStationPeerID, identity.idempotencyKey) = false := by
    rw [← Bool.not_eq_true, hasKey_iff]
    rintro ⟨r, hr, hid⟩
    exact hconf r hr (.inl hid)
  have hfd := find_insertOrIgnore (r := ofFrame frame identity recvAt) hkey
    (identity.sourceStationPeerID, identity.idempotencyKey)
  rw [if_pos (by rfl)] at hfd
  have hcnt := (count_eq_one_of_key fun _ h => h).2 ⟨_, hfd, rfl⟩
  have hok : ∃ inbox', completeReceipt (inbox.insertOrIgnore (.ofFrame frame identity recvAt)) identity outcome
      recvAt = .ok inbox' := by
    unfold completeReceipt updateOne
    exact ⟨_, if_pos hcnt⟩
  obtain ⟨inbox', hok⟩ := hok
  exact ⟨inbox', hok, completeReceipt_eq_ok hkey hok⟩

variable {frame : Frame} {dispatch : Dispatch δ κ}

lemma Alone.dispatchFrame {recvAt : Time} (h : Alone view y ids s s') (hsource : identity.sourceStationPeerID = y)
    (hconf : ∀ r ∈ s.inbox.rows, ¬r.Conflicts identity)
    (hdisp : SameHandling view (dispatch frame s.outbox s.domain) (dispatch frame s'.outbox s'.domain)) :
    SameTransaction view y ids (dispatchFrame s frame identity recvAt dispatch)
    (dispatchFrame s' frame identity recvAt dispatch) := by
  have hconf' : ∀ r ∈ s'.inbox.rows, ¬r.Conflicts identity := by
    intro r hr
    rw [h.inbox] at hr
    exact hconf r (mem_filter.1 hr).1
  unfold Federation.dispatchFrame
  generalize hx : dispatch frame s.outbox s.domain = x at hdisp
  generalize hx' : dispatch frame s'.outbox s'.domain = x' at hdisp
  cases hdisp with
  | error e => exact .rollback _
  | ok handled handled' hres haft hview =>
    simp only [Except.mapError, bind, Except.bind, ← hres]
    cases hval : validateResult handled.result with
    | error e => exact .rollback _
    | ok _ =>
      by_cases hrtr : handled.result.disposition = .retryable
      · simp only [failWhen, if_pos hrtr]
        exact .rollback _
      · obtain ⟨inbox, hcompl, hrows⟩ := exists_completeReceipt frame recvAt handled.result hconf
        obtain ⟨inbox', hcompl', hrows'⟩ := exists_completeReceipt frame recvAt handled.result hconf'
        simp only [failWhen, if_neg hrtr, hcompl, hcompl']
        exact .commit _ _ rfl haft (h.insert hrows hrows' hsource hview)

lemma Alone.transaction (recvAt : Time) (h : Alone view y ids s s')
    (hsource : identity.sourceStationPeerID = y) (hid : identity.frameID ∈ ids)
    (hdisp : SameHandling view (dispatch frame s.outbox s.domain) (dispatch frame s'.outbox s'.domain)) :
    SameTransaction view y ids (receiveTransaction s frame identity recvAt dispatch)
    (receiveTransaction s' frame identity recvAt dispatch) := by
  unfold receiveTransaction
  by_cases hconf : ∃ r ∈ s.inbox.rows, r.Conflicts identity
  · rw [if_pos hconf, if_pos ((h.conflicts_iff hsource hid).1 hconf), h.classify hsource hid]
    cases classifyInboxConflict s'.inbox identity with
    | error e => exact .rollback _
    | ok outcome => exact .commit _ _ rfl rfl h
  · rw [if_neg hconf, if_neg fun hconf' => hconf ((h.conflicts_iff hsource hid).2 hconf')]
    push Not at hconf
    exact h.dispatchFrame hsource hconf hdisp

/-! ### Histories -/

variable [Digest] {config : ReceiverConfig} {history history' : List (Reception δ κ)}

/-- A frame of `y` gets the same answer as it would if `y` were alone. -/
lemma Alone.own (config : ReceiverConfig) (h : Alone view y ids s s') (hfrom : reception.isFrom y = true)
    (hid : reception.frame.frameID ∈ ids)
    (hdisp : SameHandling view (reception.dispatch reception.frame s.outbox s.domain)
    (reception.dispatch reception.frame s'.outbox s'.domain)) :
    (receive config reception s).response = (receive config reception s').response ∧
    Alone view y ids (s.after config reception) (s'.after config reception) := by
  unfold Store.after receive
  cases verifyFrame reception.frame config.policy reception.now config.verifier with
  | error e => exact ⟨rfl, h⟩
  | ok _ =>
    simp only
    split
    · exact ⟨rfl, h⟩
    · simp only [unitOfWorkReceive]
      split_ifs with hnow
      · exact ⟨rfl, h⟩
      · cases hident : newFrameIdentity reception.frame with
        | error e => exact ⟨rfl, h⟩
        | ok identity =>
          obtain ⟨hsource, -, hfr, -⟩ := newFrameIdentity_eq_ok hident
          have hsource : identity.sourceStationPeerID = y := hsource.trans (of_decide_eq_true hfrom)
          have htx := h.transaction reception.now hsource (hfr ▸ hid) hdisp
          simp only
          generalize receiveTransaction s reception.frame identity reception.now reception.dispatch = x at htx
          generalize receiveTransaction s' reception.frame identity reception.now reception.dispatch = x' at htx
          cases htx with
          | rollback cause => cases cause <;> exact ⟨rfl, h⟩
          | commit commit commit' hout haft halone =>
            refine ⟨?_, halone⟩
            simp only [Committed.response, hout, haft]

/-- A frame of another Station leaves what belongs to `y`. -/
lemma Alone.other (config : ReceiverConfig) (h : Alone view y ids s s') (hfrom : reception.isFrom y = false)
    (hid : reception.frame.frameID ∉ ids)
    (hdisp : ∀ handled, reception.dispatch reception.frame s.outbox s.domain = .ok handled →
    view handled.outbox handled.domain = view s.outbox s.domain) : Alone view y ids (s.after config reception) s' := by
  unfold Store.after
  cases hcmt : (receive config reception s).committed with
  | none => exact h
  | some commit =>
    obtain ⟨-, identity, hident, htx⟩ := receive_eq_some hcmt
    obtain ⟨hsource, -, hfr, -⟩ := newFrameIdentity_eq_ok hident
    have hne : identity.sourceStationPeerID ≠ y := by
      rw [hsource]
      exact of_decide_eq_false hfrom
    show Alone view y ids commit.store s'
    rcases receive_eq_ok htx with
      ⟨-, -, hstore, -⟩ | ⟨-, -, hhandled, -, -, hrows⟩
    · rw [hstore]
      exact h
    · refine ⟨?_, (hdisp _ hhandled).trans h.view, fun r hr hr' => ?_⟩
      · rw [hrows, filter_append, ← h.inbox]
        simp [completed, ofFrame, hne]
      · rw [hrows, mem_append, mem_singleton] at hr
        rcases hr with hr | rfl
        · exact h.others r hr hr'
        · exact fun hmem => hid (hfr ▸ hmem)

/-- A history is answered as if only `y` had sent frames. -/
lemma answers_filter (h : Alone view y ids s s') (howns : Owns view y history)
    (hown : ∀ reception ∈ history, reception.isFrom y = true → reception.frame.frameID ∈ ids)
    (hoth : ∀ reception ∈ history, reception.isFrom y = false → reception.frame.frameID ∉ ids) :
    answers config y s history = answers config y s' (history.filter (isFrom y)) := by
  induction history generalizing s s' with
  | nil => rfl
  | cons reception history ih =>
    have howns' : Owns view y history := ⟨fun r hr => howns.own r (mem_cons_of_mem _ hr),
      fun r hr => howns.other r (mem_cons_of_mem _ hr)⟩
    have hown' := fun r hr => hown r (mem_cons_of_mem reception hr)
    have hoth' := fun r hr => hoth r (mem_cons_of_mem reception hr)
    rw [answers]
    cases hfrom : reception.isFrom y with
    | true =>
      obtain ⟨hresp, halone⟩ := h.own config hfrom (hown reception mem_cons_self hfrom)
        (howns.own reception mem_cons_self hfrom _ _ _ _ h.view)
      rw [filter_cons_of_pos hfrom, answers, if_pos rfl, if_pos hfrom, hresp, ih halone howns' hown' hoth']
    | false =>
      have halone := h.other config hfrom (hoth reception mem_cons_self hfrom)
        (howns.other reception mem_cons_self hfrom _ _)
      rw [filter_cons_of_neg (by simp [hfrom]), if_neg (by decide), ih halone howns' hown' hoth']

end

/-- Two histories of an inbox with the same frames of `y`, in which no other Station uses a frame id of `y`: each frame of
`y` gets the same answer in both. -/
theorem answers_eq_of_frameIDs [Digest] {config : ReceiverConfig} {view : Outbox → δ → ν} {y : String}
    {s : Store δ} {history history' : List (Reception δ κ)} (hinbox : s.inbox = .empty)
    (hsame : history.filter (isFrom y) = history'.filter (isFrom y))
    (howns : Owns view y history) (howns' : Owns view y history')
    (hids : ∀ reception ∈ history, reception.isFrom y = true → ∀ other ∈ history ++ history',
      other.isFrom y = false → other.frame.frameID ≠ reception.frame.frameID) :
    answers config y s history = answers config y s history' := by
  let ids := (history.filter (isFrom y)).map fun r => r.frame.frameID
  have halone : Alone view y ids s s := by refine ⟨?_, rfl, ?_⟩ <;> simp [hinbox]
  have hown : ∀ reception ∈ history, reception.isFrom y = true → reception.frame.frameID ∈ ids :=
    fun r hr hfrom => mem_map.2 ⟨r, mem_filter.2 ⟨hr, hfrom⟩, rfl⟩
  have hown' : ∀ reception ∈ history', reception.isFrom y = true → reception.frame.frameID ∈ ids := by
    intro r hr hfrom
    refine mem_map.2 ⟨r, ?_, rfl⟩
    rw [hsame]
    exact mem_filter.2 ⟨hr, hfrom⟩
  have hother : ∀ other ∈ history ++ history', other.isFrom y = false → other.frame.frameID ∉ ids := by
    intro other hmem hfrom hid
    obtain ⟨r, hr, heq⟩ := mem_map.1 hid
    obtain ⟨hr, hfrom'⟩ := mem_filter.1 hr
    exact hids r hr hfrom' other hmem hfrom heq.symm
  rw [answers_filter halone howns hown fun r hr => hother r (mem_append_left _ hr),
    answers_filter halone howns' hown' fun r hr => hother r (mem_append_right _ hr), hsame]

attribute [local instance] Chat.checksum

lemma owns_acceptedAt (y : String) (frames : List Frame) (now : Time) :
    Owns (fun _ _ => ()) y (frames.map fun f => acceptedAt f now) where
  own reception hr _ _ _ _ _ _ := by
    obtain ⟨f, -, rfl⟩ := mem_map.1 hr
    exact .ok _ _ rfl rfl rfl
  other _ _ _ _ _ _ _ := rfl

/-- With another frame id, the frame of another Station makes no difference. -/
theorem answers_with_other_frameID : answers openStation "station-y" emptyStore
        ([signedFrame "station-x" "frame-2" "key-x", signedFrame "station-y" "frame-1" "key-y"].map
          fun f => acceptedAt f 2000000000) =
      answers openStation "station-y" emptyStore
        ([signedFrame "station-y" "frame-1" "key-y"].map fun f => acceptedAt f 2000000000) := by
  refine answers_eq_of_frameIDs rfl rfl (owns_acceptedAt _ _ _) (owns_acceptedAt _ _ _) ?_
  simp [acceptedAt, signedFrame]

/-- Another Station has used the frame id of a frame before it arrives. -/
theorem answers_differ : (∀ r ∈ [signedFrame "station-x" "frame-1" "key-x", signedFrame "station-y" "frame-1" "key-y"],
        verifyFrame r openStation.policy 2000000000 openStation.verifier = .ok ()) ∧ Owns (fun _ _ => ()) "station-y"
        ([signedFrame "station-x" "frame-1" "key-x", signedFrame "station-y" "frame-1" "key-y"].map
          fun f => acceptedAt f 2000000000) ∧ answers openStation "station-y" emptyStore
        ([signedFrame "station-x" "frame-1" "key-x", signedFrame "station-y" "frame-1" "key-y"].map
          fun f => acceptedAt f 2000000000) = [.ok .payloadHashConflict] ∧ answers openStation "station-y" emptyStore
        ([signedFrame "station-y" "frame-1" "key-y"].map fun f => acceptedAt f 2000000000) = [.ok .accepted] := by
  refine ⟨by decide, owns_acceptedAt _ _ _, by decide, by decide⟩

end PeersTouch.Federation
