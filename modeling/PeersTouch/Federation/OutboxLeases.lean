import PeersTouch.Federation.Outbox
import PeersTouch.Federation.SigningBytes
import PeersTouch.Lib.Machine

/-!
# Leases of the outbox

The runs of the outbox: the six operations in any order, by any workers, with any clock readings. A row advances
(`OutboxRecord.Advances`): its frame never changes, its lease generation counts its claims, and once closed it stays
as it is. Every operation only advances rows or adds one, and the theorem about runs (`outbox_leases`) follows.
-/

namespace PeersTouch.Federation

open Lib Chat KeyedTable OutboxRecord List

inductive OutboxOperation where
  | enqueue (frame : Frame) (now : Time)
  | claim (request : ClaimRequest)
  | markDelivered (lease : Lease) (deliveredAt clockNow : Time)
  | scheduleRetry (lease : Lease) (nextAttemptAt : Time) (failure : FailureCode)
      (transitionAt clockNow : Time)
  | markTerminal (lease : Lease) (terminalAt : Time) (failure : FailureCode) (clockNow : Time)
  | markExpired (lease : Lease) (expiredAt : Time)

namespace OutboxOperation

def call [Digest] [FrameDecoder] (op : OutboxOperation) (outbox : Outbox) :
    Except Error (Outbox × List Claim) :=
  match op with
  | enqueue frame now => (fun p => (p.1, [])) <$> enqueueFrame outbox frame now
  | claim request => Federation.claim outbox request
  | markDelivered lease deliveredAt clockNow => (·, []) <$> Federation.markDelivered outbox lease deliveredAt clockNow
  | scheduleRetry lease nextAttemptAt failure transitionAt clockNow =>
    (·, []) <$> Federation.scheduleRetry outbox lease nextAttemptAt failure transitionAt clockNow
  | markTerminal lease terminalAt failure clockNow =>
    (·, []) <$> Federation.markTerminal outbox lease terminalAt failure clockNow
  | markExpired lease expiredAt => (·, []) <$> Federation.markExpired outbox lease expiredAt

def run [Digest] [FrameDecoder] (op : OutboxOperation) (outbox : Outbox) : Except Error Outbox :=
  Prod.fst <$> op.call outbox

def lease : OutboxOperation → Option Lease
  | enqueue _ _ | claim _ => none
  | markDelivered lease _ _ | scheduleRetry lease _ _ _ _ | markTerminal lease _ _ _
  | markExpired lease _ => some lease

end OutboxOperation

/-! ### Rows that advance -/

def claimsOf (claims : List Claim) (frameID : String) : ℕ := claims.countP fun c => c.lease.frameID = frameID

lemma claimsOf_singleton (c : Claim) (frameID : String) :
    claimsOf [c] frameID = if c.lease.frameID = frameID then 1 else 0 := by
  simp [claimsOf]

@[simp] lemma Claim.frameID_ofRecord (request : ClaimRequest) (record : OutboxRecord) (frame : Frame) :
    (Claim.ofRecord request record frame).lease.frameID = record.frameID :=
  rfl

namespace OutboxRecord

/-- The columns that belong to the frame, with the others as they are in a new row. -/
def frozen (r : OutboxRecord) : OutboxRecord := { r with
  state := .pending, attemptCount := 0, nextAttemptAt := r.createdAt, leaseOwner := "", leaseGeneration := 0
  leaseExpiresAt := none, deliveredAt := none, terminalAt := none, lastFailure := .unset }

lemma frameID_eq_of_frozen_eq {r r' : OutboxRecord} (h : r'.frozen = r.frozen) : r'.frameID = r.frameID := by
  have hfr := congrArg frameID h
  exact hfr

/-- What can become of a row while it is claimed `n` times. -/
structure Advances (n : ℕ) (r r' : OutboxRecord) : Prop where
  frozen : r'.frozen = r.frozen
  leaseGeneration : r'.leaseGeneration = r.leaseGeneration + n
  closed : r.state.isClosed = true → r' = r

lemma Advances.refl (r : OutboxRecord) : r.Advances 0 r := ⟨rfl, rfl, fun _ => rfl⟩

lemma Advances.trans {m n : ℕ} {r r' r'' : OutboxRecord} (h : r.Advances m r') (h' : r'.Advances n r'') :
    r.Advances (m + n) r'' where
  frozen := h'.frozen.trans h.frozen
  leaseGeneration := by rw [h'.leaseGeneration, h.leaseGeneration, Nat.add_assoc]
  closed := by
    intro hcls
    obtain rfl := h.closed hcls
    exact h'.closed hcls

lemma Advances.of_open {n : ℕ} {r r' : OutboxRecord} (hopen : r.state.isClosed = false)
    (hfroz : r'.frozen = r.frozen) (hgen : r'.leaseGeneration = r.leaseGeneration + n) : r.Advances n r' :=
  ⟨hfroz, hgen, fun hcls => by rw [hopen] at hcls; cases hcls⟩

lemma Due.isOpen {r : OutboxRecord} {now : Time} (h : r.Due now) : r.state.isClosed = false := by
  rcases h with ⟨h | h, -⟩ | ⟨h, -⟩ <;> rw [h] <;> rfl

end OutboxRecord

/-- The rows of a table advance, and none is added or lost. -/
structure Outbox.Advances (claims : List Claim) (o o' : Outbox) : Prop where
  forward : ∀ r ∈ o.rows, ∃ r' ∈ o'.rows, r.Advances (claimsOf claims r.frameID) r'
  backward : ∀ r' ∈ o'.rows, ∃ r ∈ o.rows, r.Advances (claimsOf claims r.frameID) r'

namespace Outbox

variable {o o' o'' : Outbox} {claims claims' : List Claim}

lemma Advances.refl (o : Outbox) : Outbox.Advances [] o o := ⟨fun r hr => ⟨r, hr, .refl r⟩, fun r hr => ⟨r, hr, .refl r⟩⟩

lemma Advances.trans (h : Advances claims o o') (h' : Advances claims' o' o'') : Advances (claims ++ claims') o o'' := by
  have hjoin : ∀ {r r' r'' : OutboxRecord}, r.Advances (claimsOf claims r.frameID) r' →
      r'.Advances (claimsOf claims' r'.frameID) r'' → r.Advances (claimsOf (claims ++ claims') r.frameID) r'' := by
    intro r r' r'' hr hr'
    rw [frameID_eq_of_frozen_eq hr.frozen] at hr'
    rw [claimsOf, countP_append]
    exact hr.trans hr'
  constructor
  · intro r hr
    obtain ⟨r', hr', hadv⟩ := h.forward r hr
    obtain ⟨r'', hr'', hadv'⟩ := h'.forward r' hr'
    exact ⟨r'', hr'', hjoin hadv hadv'⟩
  · intro r'' hr''
    obtain ⟨r', hr', hadv'⟩ := h'.backward r'' hr''
    obtain ⟨r, hr, hadv⟩ := h.backward r' hr'
    exact ⟨r, hr, hjoin hadv hadv'⟩

variable {f : OutboxRecord → OutboxRecord}

lemma advances_of_rows (hrows : o'.rows = o.rows.map f)
    (h : ∀ r ∈ o.rows, r.Advances (claimsOf claims r.frameID) (f r)) : Advances claims o o' := by
  constructor
  · intro r hr
    refine ⟨f r, ?_, h r hr⟩
    rw [hrows]
    exact mem_map_of_mem hr
  · intro r' hr'
    rw [hrows] at hr'
    obtain ⟨r, hr, rfl⟩ := mem_map.1 hr'
    exact ⟨r, hr, h r hr⟩

lemma advances_of_open {p : OutboxRecord → Prop} [DecidablePred p]
    (hrows : o'.rows = o.rows.map fun r => if p r then f r else r)
    (hopen : ∀ r ∈ o.rows, p r → r.state.isClosed = false) (hfroz : ∀ r, (f r).frozen = r.frozen)
    (hgen : ∀ r, (f r).leaseGeneration = r.leaseGeneration) : Advances [] o o' := by
  refine advances_of_rows hrows fun r hr => ?_
  split_ifs with hp
  · exact .of_open (hopen r hr hp) (hfroz r) (hgen r)
  · exact .refl r

lemma advances_expireDueRows (o : Outbox) (now : Time) : Advances [] o (expireDueRows o now) :=
  advances_of_open rfl (fun _ _ h => h.1) (fun _ => rfl) fun _ => rfl

/-! ### Claims -/

variable {record : OutboxRecord}

section

variable [Digest] [FrameDecoder] {request : ClaimRequest}
  {acc acc' : Outbox × List Claim}

/-- One round of the loop touches the row of its candidate only. -/
lemma claimRecord_eq_ok (h : claimRecord request acc record = .ok acc') (hrec : record ∈ acc.1.rows)
    (hdue : record.Due request.now) : ∃ claims, acc'.2 = acc.2 ++ claims ∧ Advances claims acc.1 acc'.1 ∧
    (∀ c ∈ claims, c.lease.frameID = record.frameID) ∧
    ∀ r ∈ acc.1.rows, r.frameID ≠ record.frameID → r ∈ acc'.1.rows := by
  have hkey : ∀ r ∈ acc.1.rows, r.frameID = record.frameID → r = record := fun r hr => eq_of_key_eq hr hrec
  unfold claimRecord at h
  split at h
  · -- the row is corrupt and is closed
    rw [bind_eq_ok] at h
    obtain ⟨outbox, hmark, h⟩ := h
    obtain ⟨-, rfl⟩ := updateOne_eq_ok.1 hmark
    obtain rfl := pure_eq_ok.1 h
    refine ⟨[], (append_nil _).symm, ?_, by simp, fun r hr hne => ?_⟩
    · refine advances_of_open rfl (fun r hr hp => ?_) (fun _ => rfl) fun _ => rfl
      rw [hkey r hr hp]
      exact hdue.isOpen
    · exact mem_map.2 ⟨r, hr, if_neg hne⟩
  · rename_i frame _
    simp only [ok_iff] at h
    obtain ⟨-, h⟩ := h
    split_ifs at h with hcnt
    · obtain rfl := pure_eq_ok.1 h
      exact ⟨[], (append_nil _).symm, .refl _, by simp, fun r hr _ => hr⟩
    · obtain rfl := pure_eq_ok.1 h
      refine ⟨[.ofRecord request record frame], rfl, ?_, by simp [Claim.ofRecord], fun r hr hne => ?_⟩
      · refine advances_of_rows rfl fun r hr => ?_
        rw [claimsOf_singleton, Claim.frameID_ofRecord]
        by_cases hid : r.frameID = record.frameID
        · obtain rfl := hkey r hr hid
          rw [if_pos rfl, if_pos ⟨rfl, rfl, hdue⟩]
          exact .of_open hdue.isOpen rfl rfl
        · rw [if_neg fun hp => hid hp.symm, if_neg fun hp => hid hp.1]
          exact .refl r
      · exact mem_map.2 ⟨r, hr, if_neg fun hp => hne hp.1⟩

/-- The loop over the candidates, which are rows with different frame ids. -/
lemma foldlM_claimRecord {candidates : List OutboxRecord} (h : candidates.foldlM (claimRecord request) acc = .ok acc')
    (hrows : ∀ r ∈ candidates, r ∈ acc.1.rows ∧ r.Due request.now)
    (hne : candidates.Pairwise fun r r' => r.frameID ≠ r'.frameID) :
    ∃ claims, acc'.2 = acc.2 ++ claims ∧ Advances claims acc.1 acc'.1 ∧
    ∀ c ∈ claims, ∃ r ∈ candidates, c.lease.frameID = r.frameID := by
  induction candidates generalizing acc with
  | nil =>
    obtain rfl := pure_eq_ok.1 h
    exact ⟨[], (append_nil _).symm, .refl _, by simp⟩
  | cons record candidates ih =>
    rw [foldlM_cons, bind_eq_ok] at h
    obtain ⟨acc₁, h₁, h⟩ := h
    obtain ⟨hrec, hdue⟩ := hrows record mem_cons_self
    obtain ⟨claims, hacc₁, hadv, hclaims, hkeep⟩ := claimRecord_eq_ok h₁ hrec hdue
    obtain ⟨hfst, hne⟩ := pairwise_cons.1 hne
    obtain ⟨claims', hacc', hadv', hclaims'⟩ := ih h (fun r hr => by
      obtain ⟨hr', hdue'⟩ := hrows r (mem_cons_of_mem _ hr)
      exact ⟨hkeep r hr' (hfst r hr).symm, hdue'⟩) hne
    refine ⟨claims ++ claims', by rw [hacc', hacc₁, append_assoc], hadv.trans hadv', ?_⟩
    intro c hc
    rcases mem_append.1 hc with hc | hc
    · exact ⟨record, mem_cons_self, hclaims c hc⟩
    · obtain ⟨r, hr, he⟩ := hclaims' c hc
      exact ⟨r, mem_cons_of_mem _ hr, he⟩

lemma claim_eq_ok (h : claim o request = .ok (o', claims)) : Advances claims o o' ∧ Advances claims
    (expireDueRows o request.now) o' ∧ ∀ c ∈ claims, ∃ r ∈ (expireDueRows o request.now).rows, c.lease.frameID =
    r.frameID ∧ Claimable (expireDueRows o request.now) request.now r := by
  simp only [claim, ok_iff] at h
  obtain ⟨-, h⟩ := h
  have hmem : ∀ r ∈ claimCandidates (expireDueRows o request.now) request,
      r ∈ (expireDueRows o request.now).rows ∧ Claimable (expireDueRows o request.now) request.now r := by
    intro r hr
    have hr := mem_orderBy.1 (mem_of_mem_take hr)
    simpa using mem_filter.1 hr
  have hne : (claimCandidates (expireDueRows o request.now) request).Pairwise fun r r' => r.frameID ≠ r'.frameID := by
    refine (pairwise_ne_orderBy ?_ _).sublist (take_sublist _ _)
    exact (expireDueRows o request.now).keys_nodup.sublist (filter_sublist.map _)
  obtain ⟨claims', hclaims, hadv, hfrom⟩ := foldlM_claimRecord h (fun r hr => ⟨(hmem r hr).1, (hmem r hr).2.1⟩) hne
  obtain rfl : claims = claims' := by simpa using hclaims
  refine ⟨(advances_expireDueRows o request.now).trans hadv, hadv, fun c hc => ?_⟩
  obtain ⟨r, hr, he⟩ := hfrom c hc
  exact ⟨r, (hmem r hr).1, he, (hmem r hr).2⟩

end

/-! ### Operations -/

def Unique (o : Outbox) : Prop :=
  ∀ r ∈ o.rows, ∀ r' ∈ o.rows, r.sourceStationPeerID = r'.sourceStationPeerID →
    r.idempotencyKey = r'.idempotencyKey → r = r'

lemma Advances.unique (h : Advances claims o o') (huniq : o.Unique) : o'.Unique := by
  intro r' hr' s' hs' hsrc hkey
  obtain ⟨r, hr, hadv⟩ := h.backward r' hr'
  obtain ⟨s, hs, hadv'⟩ := h.backward s' hs'
  have hsrc' := congrArg sourceStationPeerID hadv.frozen
  have hsrc'' := congrArg sourceStationPeerID hadv'.frozen
  have hkey' := congrArg idempotencyKey hadv.frozen
  have hkey'' := congrArg idempotencyKey hadv'.frozen
  obtain rfl : r = s := huniq r hr s hs ((hsrc'.symm.trans hsrc).trans hsrc'')
    ((hkey'.symm.trans hkey).trans hkey'')
  exact eq_of_key_eq hr' hs' (frameID_eq_of_frozen_eq (hadv.frozen.trans hadv'.frozen.symm))

section

variable {lease : Lease}

lemma updateLeased_eq_ok {transitionAt clockNow : Time} {update : OutboxRecord → OutboxRecord}
    {hupd : ∀ r, (update r).frameID = r.frameID}
    (h : updateLeased o lease transitionAt clockNow update hupd = .ok o')
    (hfroz : ∀ r, (update r).frozen = r.frozen)
    (hgen : ∀ r, (update r).leaseGeneration = r.leaseGeneration) :
    (∃ r ∈ o.rows, lease.Holds r) ∧ Advances [] o o' := by
  simp only [updateLeased, ok_iff] at h
  obtain ⟨-, -, h⟩ := h
  obtain ⟨hcnt, rfl⟩ := updateOne_eq_ok.1 h
  refine ⟨?_, advances_of_open rfl (fun r _ hhold => ?_) hfroz hgen⟩
  · obtain ⟨r, hr, hhold⟩ := (count_eq_one_of_key fun _ h => h.1).1 hcnt
    exact ⟨r, (find_eq_some.1 hr).1, hhold⟩
  · rw [hhold.2.1]
    rfl

lemma markExpired_eq_ok {expiredAt : Time} (h : markExpired o lease expiredAt = .ok o') :
    (∃ r ∈ o.rows, lease.Holds r) ∧ Advances [] o o' := by
  simp only [markExpired, ok_iff] at h
  obtain ⟨-, -, h⟩ := h
  obtain ⟨hcnt, rfl⟩ := updateOne_eq_ok.1 h
  refine ⟨?_, advances_of_open rfl (fun r _ hhold => ?_) (fun _ => rfl) fun _ => rfl⟩
  · obtain ⟨r, hr, hhold⟩ := (count_eq_one_of_key fun _ h => h.1.1).1 hcnt
    exact ⟨r, (find_eq_some.1 hr).1, hhold.1⟩
  · rw [hhold.1.2.1]
    rfl

variable [Digest]

/-- Enqueueing adds a row that conflicts with no other, or nothing. -/
lemma enqueueFrame_eq_ok {frame : Frame} {now : Time} {res : EnqueueResult}
    (h : enqueueFrame o frame now = .ok (o', res)) :
    ∃ identity record, outboxRecordOf frame now = .ok (identity, record) ∧
    (res.duplicate = false ∧ (∀ r ∈ o.rows, ¬record.Conflicts r) ∧ o'.rows = o.rows ++ [record] ∨
    res.duplicate = true ∧ o' = o) := by
  simp only [enqueueFrame, bind_eq_ok, Prod.exists] at h
  obtain ⟨identity, record, hrec, h⟩ := h
  refine ⟨identity, record, hrec, ?_⟩
  split_ifs at h with hconf
  · cases h
    refine .inl ⟨rfl, hconf, KeyedTable.rows_insertOrIgnore ?_⟩
    rw [← Bool.not_eq_true, KeyedTable.hasKey_iff]
    rintro ⟨r, hr, hid⟩
    exact hconf r hr (.inl hid.symm)
  · simp only [ok_iff] at h
    obtain ⟨-, -, -, rfl, rfl⟩ := h
    exact .inr ⟨rfl, rfl⟩

variable [FrameDecoder] {op : OutboxOperation}

section

variable (h : op.call o = .ok (o', claims))
include h

lemma holds_of_call (hls : op.lease = some lease) : (∃ r ∈ o.rows, lease.Holds r) ∧ claims = [] ∧ Advances [] o o' := by
  cases op with
  | enqueue frame now | claim request => cases hls
  | markDelivered lease deliveredAt clockNow | scheduleRetry lease nextAttemptAt failure transitionAt clockNow
  | markTerminal lease terminalAt failure clockNow =>
    obtain rfl := Option.some.inj hls
    simp only [OutboxOperation.call, map_eq_ok, markDelivered, scheduleRetry, markTerminal, ok_iff] at h
    obtain ⟨_, ⟨-, h⟩, rfl, rfl⟩ := h
    obtain ⟨hhold, hadv⟩ := updateLeased_eq_ok h (fun _ => rfl) fun _ => rfl
    exact ⟨hhold, rfl, hadv⟩
  | markExpired lease expiredAt =>
    obtain rfl := Option.some.inj hls
    simp only [OutboxOperation.call, map_eq_ok] at h
    obtain ⟨_, h, rfl, rfl⟩ := h
    obtain ⟨hhold, hadv⟩ := markExpired_eq_ok h
    exact ⟨hhold, rfl, hadv⟩

lemma call_eq_ok : Advances claims o o' ∨
    claims = [] ∧ ∃ record, (∀ r ∈ o.rows, ¬record.Conflicts r) ∧ o'.rows = o.rows ++ [record] := by
  cases op with
  | enqueue frame now =>
    simp only [OutboxOperation.call, map_eq_ok, Prod.exists] at h
    obtain ⟨_, res, h, rfl, rfl⟩ := h
    obtain ⟨-, record, -, ⟨-, hconf, hrows⟩ | ⟨-, rfl⟩⟩ := enqueueFrame_eq_ok h
    · exact .inr ⟨rfl, record, hconf, hrows⟩
    · exact .inl (.refl _)
  | claim request => exact .inl (claim_eq_ok h).1
  | markDelivered | scheduleRetry | markTerminal | markExpired =>
    obtain ⟨-, rfl, hadv⟩ := holds_of_call h rfl
    exact .inl hadv

lemma forward_of_call : ∀ r ∈ o.rows, ∃ r' ∈ o'.rows, r.Advances (claimsOf claims r.frameID) r' := by
  rcases call_eq_ok h with hadv | ⟨rfl, record, -, hrows⟩
  · exact hadv.forward
  · intro r hr
    refine ⟨r, ?_, .refl r⟩
    rw [hrows]
    exact mem_append_left _ hr

lemma unique_of_call (huniq : o.Unique) : o'.Unique := by
  rcases call_eq_ok h with hadv | ⟨-, record, hconf, hrows⟩
  · exact hadv.unique huniq
  · intro r hr r' hr' hsrc hkey
    rw [hrows, mem_append, mem_singleton] at hr hr'
    rcases hr with hr | rfl <;> rcases hr' with hr' | rfl
    · exact huniq r hr r' hr' hsrc hkey
    · exact absurd (.inr (.inl ⟨hsrc.symm, hkey.symm⟩)) (hconf r hr)
    · exact absurd (.inr (.inl ⟨hsrc, hkey⟩)) (hconf r' hr')
    · rfl

end

end

/-! ### Enqueueing again -/

section

variable [Digest]
  {frame : Frame} {now : Time}

lemma outboxRecordOf_of_validate (hnow : now ≠ 0) (h : validateEnqueueFrame frame now = .ok ()) :
    ∃ identity record, outboxRecordOf frame now = .ok (identity, record) := by
  have hbnd := validateFrame_bounded h
  obtain ⟨expiresAt, hexp⟩ := Option.isSome_iff_exists.1 hbnd.has_expiresAt
  have hval := (hbnd.expiresAt expiresAt hexp).2
  obtain ⟨identity, hident⟩ := exists_newFrameIdentity h
  rw [outboxRecordOf, failWhen_of_not hnow, h, hident, hexp]
  simp [orFail, bind, Except.bind, hval, Except.mapError, pure, Except.pure]

variable {identity : FrameIdentity}

lemma outboxRecordOf_eq_ok (h : outboxRecordOf frame now = .ok (identity, record)) :
    now ≠ 0 ∧ validateEnqueueFrame frame now = .ok () ∧ newFrameIdentity frame = .ok identity ∧
    ∃ expiresAt, record = .ofFrame frame identity expiresAt now := by
  simp only [outboxRecordOf, ok_iff] at h
  obtain ⟨hnow, hvalidate, _, hident, expiresAt, -, -, rfl, rfl⟩ := h
  exact ⟨hnow, hvalidate, hident, _, rfl⟩

omit [Digest] in
lemma classifyOutboxConflict_of_mem (huniq : o.Unique) {r : OutboxRecord} (hr : r ∈ o.rows)
    (hsame : r.frameID = identity.frameID ∨
    r.sourceStationPeerID = identity.sourceStationPeerID ∧ r.idempotencyKey = identity.idempotencyKey) :
    classifyOutboxConflict o identity = .ok (decide (r.Matches identity)) := by
  unfold classifyOutboxConflict
  split
  · -- the row with the idempotency key is `r`, or neither of the two matches
    rename_i r' hfd
    have hr' := mem_of_find?_eq_some hfd
    have hkey : r'.sourceStationPeerID = identity.sourceStationPeerID ∧
        r'.idempotencyKey = identity.idempotencyKey := by simpa using find?_some hfd
    rcases hsame with hfr | hsame
    · by_cases hid : r'.frameID = identity.frameID
      · rw [eq_of_key_eq hr' hr (hid.trans hfr.symm)]
      · have hne : ¬r.Matches identity := by
          rintro ⟨hsrc, hkey', -⟩
          have heq := huniq r' hr' r hr (hkey.1.trans hsrc.symm) (hkey.2.trans hkey'.symm)
          exact hid (heq ▸ hfr)
        have hne' : ¬r'.Matches identity := fun h => hid h.2.2.1
        rw [decide_eq_false hne, decide_eq_false hne']
    · rw [huniq r' hr' r hr (hkey.1.trans hsame.1.symm) (hkey.2.trans hsame.2.symm)]
  · rename_i hfd
    rw [find?_eq_none] at hfd
    rcases hsame with hfr | hsame
    · rw [find_eq_some.2 ⟨hr, hfr⟩]
    · exact absurd (decide_eq_true hsame) (hfd r hr)

/-- A frame `f` is stored in the row `r`, and `g` has its frame id or its idempotency key. With the bytes of `f` it
is a duplicate; with other bytes it is refused, unless both have the same hash. -/
lemma enqueueFrame_again {f g : Frame} {t : Time} (now : Time) {r : OutboxRecord}
    (hf : outboxRecordOf f t = .ok (identity, record)) (hr : r ∈ o.rows)
    (hfroz : r.frozen = record.frozen) (huniq : o.Unique) (hsame : g.frameID = f.frameID ∨
      g.sourceStationPeerID = f.sourceStationPeerID ∧ g.idempotencyKey = f.idempotencyKey) :
    (g.signingBytes = f.signingBytes → validateEnqueueFrame g now = .ok () → now ≠ 0 →
      enqueueFrame o g now = .ok (o, { duplicate := true })) ∧
      (g.canonicalSHA256 ≠ f.canonicalSHA256 → ∃ e, enqueueFrame o g now = .error e) ∧
      ∀ o' res, enqueueFrame o g now = .ok (o', res) → o' = o := by
  obtain ⟨-, hfvalid, hfidentity, expiresAt, rfl⟩ := outboxRecordOf_eq_ok hf
  obtain ⟨hsrc, hkey, hfr, hpay, hcan⟩ := newFrameIdentity_eq_ok hfidentity
  have hrframe : r.frameID = f.frameID := (congrArg OutboxRecord.frameID hfroz).trans hfr
  have hrsource : r.sourceStationPeerID = f.sourceStationPeerID :=
    (congrArg OutboxRecord.sourceStationPeerID hfroz).trans hsrc
  have hrkey : r.idempotencyKey = f.idempotencyKey := (congrArg OutboxRecord.idempotencyKey hfroz).trans hkey
  have hrpayload : r.payloadSHA256 = f.payloadSHA256 := (congrArg OutboxRecord.payloadSHA256 hfroz).trans hpay
  have hrcanonical : f.canonicalSHA256 = .ok r.canonicalSHA256 := by
    rw [hcan]
    exact congrArg Except.ok (congrArg OutboxRecord.canonicalSHA256 hfroz).symm
  cases hg : outboxRecordOf g now with
  | error e =>
    have herr : enqueueFrame o g now = .error e := by
      rw [enqueueFrame, hg]
      rfl
    refine ⟨fun _ hval hnow => ?_, fun _ => ⟨e, herr⟩, fun o' res h => ?_⟩
    · obtain ⟨_, _, hok⟩ := outboxRecordOf_of_validate hnow hval
      rw [hg] at hok
      cases hok
    · rw [herr] at h
      cases h
  | ok p =>
    obtain ⟨identity', record'⟩ := p
    obtain ⟨-, hgvalid, hgidentity, expiresAt', rfl⟩ := outboxRecordOf_eq_ok hg
    obtain ⟨hsrc', hkey', hfr', hpay', hcan'⟩ := newFrameIdentity_eq_ok hgidentity
    have hsame' : r.frameID = identity'.frameID ∨ r.sourceStationPeerID = identity'.sourceStationPeerID ∧
        r.idempotencyKey = identity'.idempotencyKey := by
      rw [hrframe, hrsource, hrkey, hfr', hsrc', hkey']
      exact hsame.imp Eq.symm fun h => ⟨h.1.symm, h.2.symm⟩
    have hconflict : ¬∀ x ∈ o.rows, ¬(OutboxRecord.ofFrame g identity' expiresAt' now).Conflicts x := by
      intro h
      refine h r hr ?_
      rcases hsame' with h | h
      · exact .inl h.symm
      · exact .inr (.inl ⟨h.1.symm, h.2.symm⟩)
    have hclass := classifyOutboxConflict_of_mem huniq hr hsame'
    have hstep : enqueueFrame o g now = if r.Matches identity' then .ok (o, { duplicate := true })
        else .error (newError .payloadHashConflict "enqueue frame" "frame identity reused with different bytes") := by
      rw [enqueueFrame, hg]
      simp only [bind, Except.bind, hclass]
      split_ifs with hmat <;> simp [failWhen, hmat, pure, Except.pure]
    refine ⟨fun hb _ _ => ?_, fun hne => ?_, fun o' res h => ?_⟩
    · obtain ⟨hfr'', hsrc'', hkey'', hpay''⟩ := signed_eq_of_signingBytes_eq
        (validateFrame_bounded hgvalid) (validateFrame_bounded hfvalid) hb
      rw [hstep, if_pos]
      refine ⟨?_, ?_, ?_, ?_, ?_⟩
      · rw [hrsource, hsrc', hsrc'']
      · rw [hrkey, hkey', hkey'']
      · rw [hrframe, hfr', hfr'']
      · rw [hrpayload, hpay', hpay'']
      · have hhash : g.canonicalSHA256 = f.canonicalSHA256 := by
          rw [Frame.canonicalSHA256, Frame.canonicalSHA256, hb]
        rw [hcan', hrcanonical] at hhash
        exact (Except.ok.inj hhash).symm
    · rw [hstep, if_neg]
      · exact ⟨_, rfl⟩
      · intro hmat
        apply hne
        rw [hcan', hrcanonical, hmat.2.2.2.2]
    · rw [hstep] at h
      split_ifs at h
      cases h
      rfl

end

/-! ### Runs -/

section

variable [Digest] [FrameDecoder] {op : OutboxOperation}

omit [Digest] [FrameDecoder] in
lemma unique_empty : Unique .empty := by
  intro r hr
  simp at hr

lemma run_eq_ok (h : op.run o = .ok o') : ∃ claims, op.call o = .ok (o', claims) := by
  obtain ⟨p, hp, rfl⟩ := map_eq_ok.1 h
  exact ⟨p.2, hp⟩

lemma unique_runAll (h : o.Unique) (ops : List OutboxOperation) : (runAll OutboxOperation.run o ops).Unique := by
  refine runAll_invariant (fun o₁ op o₂ huniq hrun => ?_) h ops
  obtain ⟨claims, hcall⟩ := run_eq_ok hrun
  exact unique_of_call hcall huniq

lemma forward_runAll (o : Outbox) (ops : List OutboxOperation) :
    ∀ r ∈ o.rows, ∃ r' ∈ (runAll OutboxOperation.run o ops).rows, ∃ n, r.Advances n r' := by
  refine runAll_invariant (P := fun o' : Outbox => ∀ r ∈ o.rows, ∃ r' ∈ o'.rows, ∃ n, r.Advances n r')
    (fun o₁ op o₂ hforward hrun r hr => ?_) (fun r hr => ⟨r, hr, 0, .refl r⟩) ops
  obtain ⟨claims, hcall⟩ := run_eq_ok hrun
  obtain ⟨r₁, hr₁, n, hadv⟩ := hforward r hr
  obtain ⟨r₂, hr₂, hadv'⟩ := forward_of_call hcall r₁ hr₁
  exact ⟨r₂, hr₂, _, hadv.trans hadv'⟩

variable {r : OutboxRecord}

lemma fenced_of_ne {lease : Lease} (hls : op.lease = some lease) (hr : r ∈ o.rows) (hid : r.frameID = lease.frameID)
    (hne : lease.generation ≠ r.leaseGeneration ∨ lease.owner ≠ r.leaseOwner) : ∃ e, op.call o = .error e := by
  cases h : op.call o with
  | error e => exact ⟨e, rfl⟩
  | ok p =>
    obtain ⟨⟨r', hr', hhold⟩, -⟩ := holds_of_call h hls
    obtain rfl : r' = r := eq_of_key_eq hr' hr (hhold.1.trans hid.symm)
    rcases hne with hne | hne
    · exact absurd hhold.2.2.2.symm hne
    · exact absurd hhold.2.2.1.symm hne

omit [Digest] [FrameDecoder] in
lemma precedes_of_frozen_eq {p p' r' : OutboxRecord} (hp : p'.frozen = p.frozen)
    (hr : r'.frozen = r.frozen) (h : p'.Precedes r') : p.Precedes r := by
  have hfroz : p'.frozen.Precedes r'.frozen := h
  rw [hp, hr] at hfroz
  exact hfroz

/-- What is claimed from an ordered lane has no open predecessor, neither in the table in which the claims are looked up
nor in the one that the claim leaves. -/
lemma predecessors_closed {request : ClaimRequest} (h : claim o request = .ok (o', claims))
    {c : Claim} (hc : c ∈ claims) (hr : r ∈ o.rows) (hid : r.frameID = c.lease.frameID)
    (hseq : 0 < r.orderingSequence) :
    (∀ p ∈ (expireDueRows o request.now).rows, p.Precedes r → p.state.isClosed = true) ∧
    ∀ p ∈ o'.rows, p.Precedes r → p.state.isClosed = true := by
  obtain ⟨-, hadv, hclaims⟩ := claim_eq_ok h
  obtain ⟨r₀, hr₀, hid₀, -, -, hln⟩ := hclaims c hc
  obtain ⟨r₁, hr₁, hadvances₁⟩ := (advances_expireDueRows o request.now).forward r hr
  have hid₁ := frameID_eq_of_frozen_eq hadvances₁.frozen
  obtain rfl : r₁ = r₀ := eq_of_key_eq hr₁ hr₀ ((hid₁.trans hid).trans hid₀)
  have hsequence₁ := congrArg orderingSequence hadvances₁.frozen
  have hfst : ∀ p ∈ (expireDueRows o request.now).rows, p.Precedes r → p.state.isClosed = true := by
    intro p hp hprec
    refine (hln.resolve_left (not_le.2 (hseq.trans_eq hsequence₁.symm))) p hp ?_
    exact precedes_of_frozen_eq rfl hadvances₁.frozen.symm hprec
  refine ⟨hfst, fun p hp hprec => ?_⟩
  obtain ⟨p₀, hp₀, hadvances₀⟩ := hadv.backward p hp
  have hcls := hfst p₀ hp₀ (precedes_of_frozen_eq hadvances₀.frozen rfl hprec)
  rw [hadvances₀.closed hcls]
  exact hcls

end

end Outbox

open Outbox in
/-- For a table `x` of a run that starts without frames and a later table `y` of the run: an operation raises the lease
generation of a row by the number of times it claims it; an operation under a lease with another generation or another
owner than the row has is refused and changes nothing; a closed row of `x` is a row of `y`; a frame of an ordered lane
is claimed only when all frames before it are closed; and a frame with the frame id or the idempotency key of a frame
stored before is a duplicate if it has the same signed bytes, is refused if their hash is another one, and changes
nothing. -/
theorem outbox_leases [Digest] [FrameDecoder] (before after : List OutboxOperation) {x y : Outbox}
    (hx : x = runAll OutboxOperation.run .empty before) (hy : y = runAll OutboxOperation.run x after) :
    (∀ (op : OutboxOperation) y' claims, op.call y = .ok (y', claims) → ∀ r ∈ y.rows, ∃ r' ∈ y'.rows,
        r'.frameID = r.frameID ∧ r'.leaseGeneration = r.leaseGeneration + claimsOf claims r.frameID) ∧
      (∀ (op : OutboxOperation) lease, op.lease = some lease → ∀ r ∈ y.rows, r.frameID = lease.frameID →
        lease.generation ≠ r.leaseGeneration ∨ lease.owner ≠ r.leaseOwner →
        (∃ e, op.call y = .error e) ∧ settle OutboxOperation.run y op = y) ∧
      (∀ r ∈ x.rows, r.state.isClosed = true → r ∈ y.rows) ∧
      (∀ request y' claims, claim y request = .ok (y', claims) → ∀ c ∈ claims, ∀ r ∈ y.rows,
        r.frameID = c.lease.frameID → 0 < r.orderingSequence →
        (∀ p ∈ (expireDueRows y request.now).rows, p.Precedes r → p.state.isClosed = true) ∧
          ∀ p ∈ y'.rows, p.Precedes r → p.state.isClosed = true) ∧
      ∀ (f g : Frame) t now x' z, enqueueFrame x f t = .ok (x', { duplicate := false }) →
        z = runAll OutboxOperation.run x' after → g.frameID = f.frameID ∨ g.sourceStationPeerID = f.sourceStationPeerID ∧
          g.idempotencyKey = f.idempotencyKey →
        (g.signingBytes = f.signingBytes → validateEnqueueFrame g now = .ok () → now ≠ 0 →
            enqueueFrame z g now = .ok (z, { duplicate := true })) ∧
          (g.canonicalSHA256 ≠ f.canonicalSHA256 → ∃ e, enqueueFrame z g now = .error e) ∧
          settle OutboxOperation.run z (.enqueue g now) = z := by
  refine ⟨fun op y' claims hcall r hr => ?_, fun op lease hlease r hr hid hne => ?_, fun r hr hclosed => ?_,
    fun request y' claims hclaim c hc r hr hid hseq => predecessors_closed hclaim hc hr hid hseq,
    fun f g t now x' z hf hz hsame => ?_⟩
  · obtain ⟨r', hr', hadv⟩ := forward_of_call hcall r hr
    exact ⟨r', hr', frameID_eq_of_frozen_eq hadv.frozen, hadv.leaseGeneration⟩
  · obtain ⟨e, he⟩ := fenced_of_ne hlease hr hid hne
    refine ⟨⟨e, he⟩, settle_of_error (e := e) ?_⟩
    rw [OutboxOperation.run, he]
    rfl
  · obtain ⟨r', hr', n, hadv⟩ := forward_runAll x after r hr
    rw [hadv.closed hclosed, ← hy] at hr'
    exact hr'
  · obtain ⟨identity, record, hrec, ⟨-, hconf, hrows⟩ | ⟨hdup, -⟩⟩ := enqueueFrame_eq_ok hf
    · have hunique : x'.Unique := by
        have hcall : (OutboxOperation.enqueue f t).call x = .ok (x', []) := by
          rw [OutboxOperation.call, hf]
          rfl
        exact unique_of_call hcall (hx ▸ unique_runAll unique_empty before)
      have hmem : record ∈ x'.rows := by
        rw [hrows]
        exact mem_append_right _ mem_cons_self
      obtain ⟨r, hr, n, hadv⟩ := forward_runAll x' after record hmem
      rw [← hz] at hr
      obtain ⟨hdup, hrefused, hkeeps⟩ := enqueueFrame_again now hrec hr hadv.frozen
        (hz ▸ unique_runAll hunique after) hsame
      refine ⟨hdup, hrefused, ?_⟩
      cases hrun : OutboxOperation.run (.enqueue g now) z with
      | error e => exact settle_of_error hrun
      | ok z' =>
        rw [settle_of_ok hrun]
        obtain ⟨claims, hcall⟩ := run_eq_ok hrun
        simp only [OutboxOperation.call, map_eq_ok, Prod.mk.injEq, Prod.exists] at hcall
        obtain ⟨_, result, henq, rfl, -⟩ := hcall
        exact hkeeps _ _ henq
    · cases hdup

attribute [local instance] Chat.checksum

def laneFrame (frameID : String) (sequence : ℤ) : Frame where
  formatVersion := 1
  frameID := frameID
  sourceStationPeerID := "station-a"
  targetStationPeerID := "station-b"
  idempotencyKey := frameID
  payloadKind := .socialRelationshipEvent
  payloadID := "event"
  orderingKey := "lane"
  orderingSequence := sequence
  opaquePayload := [1]
  payloadSHA256 := payloadSHA256 [1]
  issuedAt := some { seconds := -62135596799, nanos := 0 }
  expiresAt := some { seconds := -62135596700, nanos := 0 }
  signingKeyID := "key"
  stationSignature := [1]
  traceID := ""

@[reducible]
def laneDecoder : FrameDecoder where
  unmarshal bytes := [laneFrame "frame-1" 1, laneFrame "frame-2" 2].find? fun f => f.marshal = bytes

attribute [local instance] laneDecoder

def firstClaim : List OutboxOperation :=
  [.enqueue (laneFrame "frame-1" 1) 2000000000, .enqueue (laneFrame "frame-2" 2) 2000000000,
    .claim { workerID := "worker-1", limit := 10, now := 2000000000, leaseDuration := 5 }]

def secondClaim : List OutboxOperation :=
  [.claim { workerID := "worker-2", limit := 10, now := 2000000005, leaseDuration := 5 }]

def firstLease : Lease := { frameID := "frame-1", owner := "worker-1", generation := 1, expiresAt := 2000000005 }

set_option maxRecDepth 10000 in
/-- The first worker cannot close the frame any more, and the second frame still waits for the first. -/
theorem first_worker_is_fenced : (∃ r ∈ (runAll OutboxOperation.run .empty (firstClaim ++ secondClaim)).rows,
        r.frameID = "frame-1" ∧ r.leaseOwner = "worker-2" ∧ r.leaseGeneration = 2) ∧
      (∃ r ∈ (runAll OutboxOperation.run .empty (firstClaim ++ secondClaim)).rows,
        r.frameID = "frame-2" ∧ r.leaseGeneration = 0) ∧
      ∃ e, (OutboxOperation.markDelivered firstLease 2000000001 2000000001).call
        (runAll OutboxOperation.run .empty (firstClaim ++ secondClaim)) = .error e := by
  have hfirst : ∃ r ∈ (runAll OutboxOperation.run .empty (firstClaim ++ secondClaim)).rows,
      r.frameID = "frame-1" ∧ r.leaseOwner = "worker-2" ∧ r.leaseGeneration = 2 := by decide
  refine ⟨hfirst, by decide, ?_⟩
  obtain ⟨r, hr, hid, -, hgen⟩ := hfirst
  rw [runAll_append] at hr ⊢
  refine ((outbox_leases firstClaim secondClaim rfl rfl).2.1 _ firstLease rfl r hr hid (.inl ?_)).1
  rw [hgen]
  decide

end PeersTouch.Federation
