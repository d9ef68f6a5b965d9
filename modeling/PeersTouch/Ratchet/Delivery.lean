import PeersTouch.Ratchet.Symbolic
import PeersTouch.Ratchet.Synced

/-!
# Delivery

Receiving keeps the joint invariant of a session, in three moves that `decrypt` combines: hearing a
new turn (`Synced.hear`), moving along the receiving chain to the counter of the wire
(`Synced.advance`) and using up a stored key (`Synced.consume`). With the invariant,
`delivered_wire_decrypts` says that in every state a run can reach, a wire in flight whose delivery
stays within the two bounds of the ratchet decrypts to the plaintext it was made from.
-/

namespace PeersTouch.Ratchet

open Lib Function Ratchet.System KeyedTable Turns List Side DrSkippedMessageKey

variable {K C : Type} [DecidableEq K] {P : Primitives K C} {sessionId : String} {sk : K}
  {count : Turns K → ℕ} {u : Turns K} {known : Side → Turns K} {s : System K C}

/-! ### Replacing the receiver -/

variable {side : Side} {flight : List (Transmission K C)} {tr : Transmission K C} {i : ℕ}
  {t : Turns K} {st : DrSessionState K} {p : K} {wire : DrCiphertextWire K C}
  {d : Device K} {v : Turns K}

section

variable (h : Synced P sessionId sk count u known s)
include h

/-- The receiver is replaced, possibly now knowing the last turn, and wires leave the flight. -/
lemma Synced.receive (hv : v = known side ∨ side = u.owner.other ∧ v = u)
    (hp : PartyAt P sessionId sk count side v d.session)
    (hsto : ∀ e ∈ d.skipped.rows, StoredOn P sessionId sk u e) (hsub : flight.Sublist s.inFlight)
    (hplace : ∀ tr ∈ flight, tr.sender.other = side → ∀ t p, (next t p).Within u → SealedOn P sessionId sk count t p tr →
      Awaits P sessionId (s.device side) (known side) t p tr.wire.nSend → Awaits P sessionId d v t p tr.wire.nSend) :
    Synced P sessionId sk count u (Function.update known side v)
      { s.setDevice side d with inFlight := flight } := by
  constructor
  case distinct => exact h.distinct
  case announced => exact h.announced
  case opener =>
    by_cases hs : u.owner = side
    · subst hs
      rw [update_self]
      rcases hv with rfl | ⟨-, rfl⟩
      · exact h.opener
      · rfl
    · rw [update_of_ne hs]
      exact h.opener
  case answerer =>
    by_cases hs : u.owner.other = side
    · subst hs
      rw [update_self]
      rcases hv with rfl | ⟨-, rfl⟩
      · exact h.answerer
      · exact .inl rfl
    · rw [update_of_ne hs]
      exact h.answerer
  case party =>
    intro side'
    by_cases hs : side' = side
    · subst hs
      rw [update_self]
      simpa only [setDevice_same] using hp
    · rw [update_of_ne hs]
      simpa only [setDevice_of_ne _ _ hs] using h.party side'
  case stored =>
    intro side' e he
    by_cases hs : side' = side
    · subst hs
      simp only [setDevice_same] at he
      exact hsto e he
    · simp only [setDevice_of_ne _ _ hs] at he
      exact h.stored side' e he
  case sent =>
    intro tr htr
    obtain ⟨t, p, hw, hseal, hpl⟩ := h.sent tr (hsub.subset htr)
    refine ⟨t, p, hw, hseal, ?_⟩
    by_cases hs : tr.sender.other = side
    · rw [hs] at hpl ⊢
      rw [update_self]
      simpa only [setDevice_same] using hplace tr htr hs t p hw hseal hpl
    · rw [update_of_ne hs]
      simpa only [setDevice_of_ne _ _ hs] using hpl
  case once => exact h.once.sublist hsub
  case start => exact h.start
  case width => exact h.width

lemma Synced.receive_known (hp : PartyAt P sessionId sk count side (known side) d.session)
    (hsto : ∀ e ∈ d.skipped.rows, StoredOn P sessionId sk u e) (hsub : flight.Sublist s.inFlight)
    (hplace : ∀ tr ∈ flight, tr.sender.other = side → ∀ t p, (next t p).Within u → SealedOn P sessionId sk count t p tr →
      Awaits P sessionId (s.device side) (known side) t p tr.wire.nSend →
      Awaits P sessionId d (known side) t p tr.wire.nSend) :
    Synced P sessionId sk count u known { s.setDevice side d with inFlight := flight } := by
  have h' := h.receive (.inl rfl) hp hsto hsub hplace
  rwa [Function.update_eq_self] at h'

lemma Synced.sessionId_eq (side : Side) : (s.device side).session.sessionId = sessionId := by
  have hp := h.party side
  cases hk : known side with
  | start k =>
    rw [hk] at hp
    exact hp.2.sessionId
  | next t p =>
    rw [hk] at hp
    rcases hp with ⟨-, hs⟩ | ⟨-, hl⟩
    · exact hs.sessionId
    · exact hl.sessionId

/-- Another wire in flight differs from a given one in its ratchet key or its counter. -/
lemma Synced.ne_of_mem_eraseIdx {b : Transmission K C} (hi : s.inFlight[i]? = some tr)
    (hb : b ∈ s.inFlight.eraseIdx i) : (tr.wire.senderDh, tr.wire.nSend) ≠ (b.wire.senderDh, b.wire.nSend) := by
  obtain ⟨hlt, he⟩ := List.getElem?_eq_some_iff.1 hi
  have hperm : (tr :: s.inFlight.eraseIdx i).Perm s.inFlight := by
    rw [← he]
    exact List.getElem_cons_eraseIdx_perm hlt
  have hpw := (hperm.pairwise_iff fun hab => Ne.symm hab).2 h.once
  exact (List.pairwise_cons.1 hpw).1 b hb

end

/-! ### Hearing a new turn -/

/-- A device that has heard of the turn with ratchet key `senderDh`: its old receiving chain is
closed at `nPrev` and the Diffie-Hellman step taken. -/
def Device.hearTurn (P : Primitives K C) (newPriv senderDh : K) (nPrev : ℕ) (d : Device K) :
    Device K where
  session := afterRatchet P newPriv senderDh d.session
  skipped := d.skipped.insertAll (closedKeys P d.session nPrev)

omit [DecidableEq K] in
lemma Speaking.mem_closedKeys (hs : Speaking P sessionId sk count t p st) (hstart : ∀ k, count (.start k) = 0)
    {x : DrSkippedMessageKey K} : x ∈ closedKeys P st (count t) ↔ ∃ t' p', t = .next t' p' ∧ ∃ i, st.nRecv ≤ i ∧
    i < count t ∧ x = ⟨sessionId, P.publicKey p', i, messageKeyAt P (t'.chain P sk p') i⟩ := by
  obtain ⟨ck, hck, hch⟩ := hs.recvChainKey
  have e : closedKeys P st (count t) = skippedKeys P sessionId (P.publicKey t.key) (count t - st.nRecv) ck st.nRecv := by
    unfold closedKeys
    rw [hs.peerPub, hck, hs.sessionId]
  rw [e, mem_skippedKeys]
  cases t with
  | start k =>
    rw [hstart k]
    constructor
    · omega
    · rintro ⟨t', p', hne, -⟩
      cases hne
  | next t' p' =>
    obtain rfl := hch t' p' rfl
    constructor
    · rintro ⟨i, hi, rfl⟩
      refine ⟨t', p', rfl, st.nRecv + i, by omega, by omega, ?_⟩
      rw [messageKeyAt_chainKey]
      rfl
    · rintro ⟨t'', p'', hne, i, h1, h2, rfl⟩
      obtain ⟨rfl, rfl⟩ := next.inj hne
      refine ⟨i - st.nRecv, by omega, ?_⟩
      rw [messageKeyAt_chainKey, show st.nRecv + (i - st.nRecv) = i by omega]
      rfl

omit [DecidableEq K] in
/-- The session after the Diffie-Hellman step listens to the new turn: both sides compute the same
Diffie-Hellman output. -/
lemma listening_afterRatchet (hdh : P.DhCommutes) (newPriv : K)
    (hid : st.sessionId = sessionId) (hroot : st.rootKey = t.root P sk) (hkey : st.selfPriv = t.key)
    (hn : st.nSend = count t) : Listening P sessionId sk count t p (afterRatchet P newPriv (P.publicKey p) st) := by
  constructor
  case sessionId => exact hid
  case rootKey => simp only [afterRatchet, root, hroot, hkey, hdh t.key p]
  case peerPub => rfl
  case sendChainKey => rfl
  case recvChainKey => simp only [afterRatchet, chain, hroot, hkey, hdh t.key p, chainKey_zero]
  case nSend => exact hn
  case nRecv => exact Nat.zero_le _

omit [DecidableEq K] in
lemma length_closedKeys (P : Primitives K C) (st : DrSessionState K) (n : ℕ) : (closedKeys P st n).length =
    if st.peerPub.isSome ∧ st.recvChainKey.isSome then n - st.nRecv else 0 := by
  unfold closedKeys
  cases st.peerPub <;> cases st.recvChainKey <;> simp [length_skippedKeys]

section

variable (hdh : P.DhCommutes) (h : Synced P sessionId sk count (.next t p) known s)
  (hside : side = (next t p).owner.other) (hk : known side = t)
include h hside hk

/-- The session of a side that has not seen the last turn `next t p`. -/
lemma Synced.unseen : (∃ k, t = .start k ∧ Waiting P sessionId sk count k (s.device side).session) ∨
    ∃ t' p', t = .next t' p' ∧ Speaking P sessionId sk count t' p' (s.device side).session := by
  have hp := h.party side
  rw [hk] at hp
  cases t with
  | start k => exact .inl ⟨k, rfl, hp.2⟩
  | next t' p' =>
    rcases hp with ⟨-, hs⟩ | ⟨ho, -⟩
    · exact .inr ⟨t', p', rfl, hs⟩
    · refine absurd (hside.symm.trans ho) ?_
      rw [show (next (next t' p') p).owner.other = (next t' p').owner from other_other _]
      exact (other_ne _).symm

lemma Synced.peerPub_ne : (s.device side).session.peerPub ≠ some (P.publicKey p) := by
  rcases h.unseen hside hk with ⟨k, rfl, hw⟩ | ⟨t', p', rfl, hs⟩
  · rw [hw.peerPub]
    simp
  · rw [hs.peerPub]
    intro e
    exact h.distinct.1 t' (.inr (Turns.Within.refl t')) (Option.some.inj e)

/-- The Diffie-Hellman step for a turn that the receiver has not seen succeeds within the bounds. -/
lemma Synced.ratchetReceive_unseen (hprev : wire.nPrev = (next t p).prevCount count)
    (hgap : (closedKeys P (s.device side).session wire.nPrev).length ≤ maxSkip)
    (htot : ((s.device side).skipped.rows.filter fun k => k.sessionId = sessionId).length +
    (closedKeys P (s.device side).session wire.nPrev).length ≤ maxSkippedTotal) (newPriv : K) :
    ratchetReceive P newPriv (s.device side).session wire (s.device side).skipped.rows =
    .ok (afterRatchet P newPriv wire.senderDh (s.device side).session,
    closedKeys P (s.device side).session wire.nPrev) := by
  rcases h.unseen hside hk with ⟨k, rfl, hw⟩ | ⟨t', p', rfl, hs⟩
  · refine ratchetReceive_eq (fun oldPeer _ hpeer => ?_) fun hpeer => absurd hw.peerPub hpeer
    rw [hw.peerPub] at hpeer
    cases hpeer
  · have hcnt : wire.nPrev = count t' := hprev
    refine ratchetReceive_eq (fun oldPeer recvCk hpeer hck => ?_) fun _ => ?_
    · rw [length_closedKeys, hpeer, hck] at hgap htot
      refine Skipping.fits ?_ hgap ?_
      · rw [hcnt]
        exact hs.nRecv
      · rw [hs.sessionId]
        simpa using htot
    · rw [hcnt]
      exact h.width t' (.inr (.inr (Turns.Within.refl t')))

include hdh in
/-- The first wire of a turn: the receiver closes its old chain and takes the Diffie-Hellman
step. -/
lemma Synced.hear (newPriv : K) : Synced P sessionId sk count (.next t p) (Function.update known side (.next t p))
    (s.setDevice side ((s.device side).hearTurn P newPriv (P.publicKey p) ((next t p).prevCount count))) := by
  refine h.receive (.inr ⟨hside, rfl⟩) ?_ ?_ (List.Sublist.refl s.inFlight) ?_
  · refine .inr ⟨hside, ?_⟩
    rcases h.unseen hside hk with ⟨k, rfl, hw⟩ | ⟨t', p', rfl, hs⟩
    · exact listening_afterRatchet hdh newPriv hw.sessionId hw.rootKey hw.selfPriv hw.nSend
    · exact listening_afterRatchet hdh newPriv hs.sessionId hs.rootKey hs.selfPriv hs.nSend
  · intro e he
    rcases mem_of_mem_insertAll he with he | he
    · exact h.stored side e he
    · rcases h.unseen hside hk with ⟨k, rfl, hw⟩ | ⟨t', p', rfl, hs⟩
      · rw [closedKeys, hw.peerPub] at he
        cases he
      · obtain ⟨t'', p'', rfl, i, -, -, rfl⟩ := (hs.mem_closedKeys h.start).1 he
        exact ⟨rfl, t'', p'', .inr (.inr (Turns.Within.refl _)), rfl, rfl⟩
  · intro tr htr hs t1 p1 hw hseal hpl
    rw [hk] at hpl
    rcases hpl with hst | ⟨hrecv, hn⟩ | rfl
    · exact .inl (hasKey_insertAll.2 (.inl hst))
    · rcases hrecv with rfl | ⟨q, rfl⟩
      · -- the wire would be the receiver's own
        refine absurd (hs.trans (hside.trans ?_)) (other_ne tr.sender)
        rw [hseal.sender]
        exact other_other _
      · -- the wire is on the chain that was closed, so its key is put aside
        rcases h.unseen hside hk with ⟨k, e, -⟩ | ⟨t', p', e, hsp⟩
        · cases e
        · obtain ⟨rfl, rfl⟩ := next.inj e
          have hmem := (hsp.mem_closedKeys h.start).2 ⟨t1, p1, rfl, tr.wire.nSend, hn, hseal.nSend, rfl⟩
          exact .inl (hasKey_insertAll.2 (.inr ⟨_, hmem, rfl⟩))
    · obtain ⟨-, rfl⟩ := next.inj (h.eq_next_known hw hk)
      exact .inr (.inl ⟨.inl rfl, Nat.zero_le _⟩)

end

/-! ### Moving along the receiving chain -/

/-- A device that has moved past message `n` of the turn `next t p`, with the keys before it put
aside. -/
def Device.moveTo (P : Primitives K C) (sk : K) (t : Turns K) (p : K) (n : ℕ) (d : Device K) :
    Device K where
  session := { d.session with
    recvChainKey := some (chainKey P (t.chain P sk p) (n + 1)), nRecv := n + 1 }
  skipped := d.skipped.insertAll (skippedKeys P d.session.sessionId (P.publicKey p) (n - d.session.nRecv)
    (chainKey P (t.chain P sk p) d.session.nRecv) d.session.nRecv)

omit [DecidableEq K] in
/-- A party that receives on the chain of `next t p` may move to any counter that was sent. -/
lemma PartyAt.advance {n : ℕ} (hv : v = .next t p ∨ ∃ q, v = .next (.next t p) q)
    (ho : side = (next t p).owner.other) (hn : n ≤ count (.next t p))
    (h : PartyAt P sessionId sk count side v st) : PartyAt P sessionId sk count side v
      { st with recvChainKey := some (chainKey P (t.chain P sk p) n), nRecv := n } := by
  rcases hv with rfl | ⟨q, rfl⟩
  · rcases h with ⟨hs, -⟩ | ⟨hs, hl⟩
    · exact absurd (ho.symm.trans hs) (other_ne _)
    · exact .inr ⟨hs, { hl with recvChainKey := rfl, nRecv := hn }⟩
  · rcases h with ⟨hs, hsp⟩ | ⟨hs, -⟩
    · refine .inl ⟨hs, { hsp with recvChainKey := ⟨_, rfl, ?_⟩, nRecv := hn }⟩
      intro t' p' e
      obtain ⟨rfl, rfl⟩ := next.inj e
      rfl
    · exact absurd (ho.symm.trans hs).symm (other_ne _)

omit [DecidableEq K] in
lemma recvTurn_unique {t' : Turns K} {p' : K} (hv : v = .next t p ∨ ∃ q, v = .next (.next t p) q)
    (hv' : v = .next t' p' ∨ ∃ q, v = .next (.next t' p') q) (ho : (next t p).owner = (next t' p').owner) :
    next t p = next t' p' := by
  have hne : ∀ (x y : Turns K) (a b q : K), next x a = .next (.next y b) q → (next x a).owner ≠ (next y b).owner := by
    intro x y a b q e hown
    rw [e] at hown
    exact other_ne _ hown
  rcases hv with rfl | ⟨q, rfl⟩
  · rcases hv' with e | ⟨q', e⟩
    · exact e
    · exact absurd ho (hne _ _ _ _ _ e)
  · rcases hv' with e | ⟨q', e⟩
    · exact absurd ho.symm (hne _ _ _ _ _ e.symm)
    · exact (next.inj e).1

/-- A wire on the receiving chain: the keys before it are put aside and the chain moves past it. -/
lemma Synced.advance (h : Synced P sessionId sk count u known s)
    (hk : known side = .next t p ∨ ∃ q, known side = .next (.next t p) q)
    (hi : s.inFlight[i]? = some tr) (hside : tr.sender.other = side)
    (hw : (next t p).Within u) (hseal : SealedOn P sessionId sk count t p tr)
    (hn : (s.device side).session.nRecv ≤ tr.wire.nSend) : Synced P sessionId sk count u known
      { s.setDevice side ((s.device side).moveTo P sk t p tr.wire.nSend) with
        inFlight := s.inFlight.eraseIdx i } := by
  have hid := h.sessionId_eq side
  have ho : side = (next t p).owner.other := by rw [← hside, hseal.sender]
  refine h.receive_known ((h.party side).advance hk ho hseal.nSend) ?_ (eraseIdx_sublist _ _) ?_
  · intro e he
    rcases mem_of_mem_insertAll he with he | he
    · exact h.stored side e he
    · obtain ⟨j, -, rfl⟩ := mem_skippedKeys.1 he
      exact ⟨hid, t, p, hw, rfl, messageKeyAt_chainKey _ _ _ _⟩
  · intro b hb hbs t' p' hw' hseal' hpl
    rcases hpl with hst | ⟨hrecv, hle⟩ | e
    · exact .inl (hasKey_insertAll.2 (.inl hst))
    · -- the other wire is on the same chain, before or behind this one
      have hown : (next t p).owner = (next t' p').owner := by
        rw [← hseal.sender, ← hseal'.sender, ← other_other tr.sender, hside, ← hbs, other_other]
      have hsame := recvTurn_unique hk hrecv hown
      obtain ⟨rfl, rfl⟩ := next.inj hsame
      have hne : tr.wire.nSend ≠ b.wire.nSend := by
        intro e
        refine h.ne_of_mem_eraseIdx hi hb ?_
        rw [hseal.senderDh, hseal'.senderDh, e]
      rcases Nat.lt_or_gt_of_ne hne with hlt | hgt
      · exact .inr (.inl ⟨hk, hlt⟩)
      · refine .inl (hasKey_insertAll.2 (.inr ⟨_, mem_skippedKeys.2
          ⟨b.wire.nSend - (s.device side).session.nRecv, by omega, rfl⟩, ?_⟩))
        simp only [primaryKey, hid]
        rw [show (s.device side).session.nRecv + (b.wire.nSend - (s.device side).session.nRecv) = b.wire.nSend by omega]
    · exact .inr (.inr e)

lemma Synced.consume (h : Synced P sessionId sk count u known s) (hi : s.inFlight[i]? = some tr)
    (hseal : SealedOn P sessionId sk count t p tr) : Synced P sessionId sk count u known { s.setDevice tr.sender.other
        { session := (s.device tr.sender.other).session, skipped := (s.device tr.sender.other).skipped.delete
            (sessionId, P.publicKey p, tr.wire.nSend) } with
      inFlight := s.inFlight.eraseIdx i } := by
  refine h.receive_known (h.party _) ?_ (eraseIdx_sublist _ _) ?_
  · intro e he
    exact h.stored _ e (mem_delete.1 he).1
  · intro b hb hbs t' p' hw' hseal' hpl
    rcases hpl with hst | hpl
    · refine .inl (hasKey_delete.2 ⟨hst, ?_⟩)
      intro e
      simp only [Prod.mk.injEq] at e
      refine h.ne_of_mem_eraseIdx hi hb ?_
      rw [hseal.senderDh, hseal'.senderDh, e.2.1, e.2.2]
    · exact .inr hpl

/-! ### Delivering -/

/-- What the receive transaction stores for a wire opened on the receiving chain of `st`, with the
keys of an older chain put aside. -/
lemma commitReceive_eq_moveTo (d : Device K) (closed : List (DrSkippedMessageKey K))
    (plain : Bytes) (hdh : wire.senderDh = P.publicKey p) (hle : st.nRecv ≤ wire.nSend) :
    commitReceive d (chainOutcome P st (chainKey P (t.chain P sk p) st.nRecv) wire closed plain) =
    Device.moveTo P sk t p wire.nSend ⟨st, d.skipped.insertAll closed⟩ := by
  simp only [commitReceive, chainOutcome, insertAll_append, Device.moveTo, hdh, chainKey_add]
  rw [show st.nRecv + (wire.nSend - st.nRecv + 1) = wire.nSend + 1 by omega]

/-- Every accepted wire keeps the joint invariant. -/
lemma Synced.deliver (hdh : P.DhCommutes) (h : Synced P sessionId sk count u known s) {newPriv : K}
    {out : DrDecryptOutcome K} (hi : s.inFlight[i]? = some tr)
    (hacc : s.receive P newPriv tr = .ok out) :
    ∃ known', Synced P sessionId sk count u known'
      { s.setDevice tr.sender.other (commitReceive (s.device tr.sender.other) out) with
        inFlight := s.inFlight.eraseIdx i } := by
  obtain ⟨t, p, hw, hseal, hpl⟩ := h.sent tr (mem_of_getElem? hi)
  have hid := h.sessionId_eq tr.sender.other
  have hside : tr.sender.other = (next t p).owner.other := by rw [hseal.sender]
  rcases decrypt_ok_cases hacc with
    ⟨e, -, -, -, -, -, hout⟩ | ⟨hnone, -, recvCk, hck, hfits, -, -, hout⟩
  · have hcom : commitReceive (s.device tr.sender.other) (storedOutcome
      (s.device tr.sender.other).session tr.wire out.plaintext) =
          ⟨(s.device tr.sender.other).session, (s.device tr.sender.other).skipped.delete
            (sessionId, P.publicKey p, tr.wire.nSend)⟩ := by
      simp only [commitReceive, storedOutcome, hid, hseal.senderDh]
      rfl
    rw [hout, hcom]
    exact ⟨known, h.consume hi hseal⟩
  · rcases hpl with hst | ⟨hrecv, hn⟩ | hk
    · obtain ⟨e, he, hkey⟩ := hasKey_iff.1 hst
      simp only [primaryKey, Prod.mk.injEq] at hkey
      refine absurd ⟨?_, ?_, hkey.2.2⟩ (hnone e he)
      · rw [hkey.1, hid]
      · rw [hkey.2.1, hseal.senderDh]
    · have hon := h.receivesOn hrecv hside
      have hcur : receiving P newPriv (s.device tr.sender.other).session tr.wire =
          ((s.device tr.sender.other).session, []) := by
        rw [receiving, hseal.senderDh, if_pos hon.peerPub]
      rw [hcur] at hck hout
      obtain rfl := Option.some.inj (hck.symm.trans hon.recvChainKey)
      rw [hout, commitReceive_eq_moveTo _ _ _ hseal.senderDh hn]
      exact ⟨known, h.advance hrecv hi rfl hw hseal hn⟩
    · obtain rfl := h.eq_next_known hw hk
      have hnew : receiving P newPriv (s.device tr.sender.other).session tr.wire =
          (afterRatchet P newPriv (P.publicKey p) (s.device tr.sender.other).session,
            closedKeys P (s.device tr.sender.other).session ((next t p).prevCount count)) := by
        rw [receiving, hseal.senderDh, if_neg (h.peerPub_ne hside hk), hseal.nPrev]
      have hh := h.hear hdh hside hk newPriv
      have hon := hh.receivesOn (.inl (update_self _ _ _)) hside
      have ha := hh.advance (.inl (update_self _ _ _)) hi rfl hw hseal (by rw [setDevice_same]; exact Nat.zero_le _)
      simp only [setDevice_same, setDevice_setDevice] at hon ha
      rw [hnew] at hck hfits hout
      obtain rfl := Option.some.inj (hck.symm.trans hon.recvChainKey)
      have hcom : commitReceive (s.device tr.sender.other) out =
          ((s.device tr.sender.other).hearTurn P newPriv (P.publicKey p)
            ((next t p).prevCount count)).moveTo P sk t p tr.wire.nSend := by
        rw [hout]
        exact commitReceive_eq_moveTo _ _ _ hseal.senderDh hfits.le
      rw [hcom]
      exact ⟨_, ha⟩

lemma synced_init {spk initiatorPriv : K} (hne : P.publicKey initiatorPriv ≠ P.publicKey spk) :
    Synced P sessionId sk (fun _ => 0) (.next (.start spk) initiatorPriv) (fun side => match side with
      | .initiator => .next (.start spk) initiatorPriv
      | .responder => .start spk)
      (init P sessionId sk spk initiatorPriv : System K C) := by
  constructor
  case distinct =>
    refine ⟨fun v hv => ?_, trivial⟩
    rw [show v = .start spk from hv]
    exact hne.symm
  case announced =>
    rintro v (rfl | hv)
    · simp [init, Turns.key]
    · rw [show v = .start spk from hv]
      simp [init, Turns.key]
  case opener => rfl
  case answerer => exact .inr ⟨initiatorPriv, rfl⟩
  case party =>
    intro side
    cases side with
    | initiator =>
      refine .inl ⟨rfl, ?_⟩
      exact
        { sessionId := rfl, rootKey := rfl, selfPriv := rfl, selfPub := rfl, peerPub := rfl
          sendChainKey := ⟨_, rfl, fun _ => rfl⟩, recvChainKey := ⟨_, rfl, fun _ _ e => by cases e⟩
          nSend := rfl, nPrev := rfl, nRecv := Nat.le_refl _ }
    | responder =>
      refine ⟨rfl, ?_⟩
      exact
        { sessionId := rfl, rootKey := rfl, selfPriv := rfl, peerPub := rfl, sendChainKey := rfl
          recvChainKey := rfl, nSend := rfl }
  case stored =>
    intro side e he
    cases side <;> exact absurd he not_mem_nil
  case sent =>
    intro tr htr
    exact absurd htr not_mem_nil
  case once => exact List.Pairwise.nil
  case start => exact fun _ => rfl
  case width => exact fun _ _ => Nat.two_pow_pos 32

/-- Every reachable state of the session has a history of turns. -/
lemma synced_of_run (hdh : P.DhCommutes) {spk initiatorPriv : K} (hne : P.publicKey initiatorPriv ≠ P.publicKey spk)
    (hrun : Relation.ReflTransGen (Step P) (init P sessionId sk spk initiatorPriv) s) : ∃ count u known,
    Synced P sessionId sk count u known s := by
  induction hrun with
  | refl => exact ⟨_, _, _, synced_init hne⟩
  | tail _ hstep ih =>
    obtain ⟨count, u, known, h⟩ := ih
    cases hstep with
    | encrypt side newPriv nonce plaintext aadExtra fresh res => exact h.encrypt fresh res
    | deliver i newPriv sent accepted =>
      obtain ⟨known', h'⟩ := h.deliver hdh sent accepted
      exact ⟨count, u, known', h'⟩

/-! ### Every wire in flight opens -/

lemma Synced.open_stored (haead : P.OpenInvertsSeal) (h : Synced P sessionId sk count u known s)
    (hw : (next t p).Within u) (hseal : SealedOn P sessionId sk count t p tr)
    {e : DrSkippedMessageKey K} (he : e ∈ (s.device side).skipped.rows)
    (hpub : e.peerPub = tr.wire.senderDh) (hctr : e.counter = tr.wire.nSend) :
    P.aeadDecrypt e.messageKey tr.wire.nonce
    (buildAad P sessionId tr.wire.version tr.wire.senderDh tr.aadExtra) tr.wire.ciphertext = some tr.plaintext := by
  obtain ⟨-, t', p', hw', hpub', hkey⟩ := h.stored side e he
  have hsame : next t' p' = next t p := by
    refine hw'.eq_of_publicKey_eq h.distinct hw ?_
    exact hpub'.symm.trans (hpub.trans hseal.senderDh)
  obtain ⟨rfl, rfl⟩ := next.inj hsame
  apply haead
  rw [hkey, hctr, hseal.version, hseal.senderDh]
  exact hseal.ciphertext

lemma Synced.open_current (haead : P.OpenInvertsSeal) (h : Synced P sessionId sk count u known s)
    (hw : (next t p).Within u) (hseal : SealedOn P sessionId sk count t p tr) (hid : st.sessionId = sessionId)
    (hon : Receiving P sk count t p st) (hle : st.nRecv ≤ tr.wire.nSend)
    {closed pre : List (DrSkippedMessageKey K)} (samePeer : Bool)
    (hgap : tr.wire.nSend - st.nRecv ≤ maxSkip)
    (htot : closed.length + (pre.filter fun k => k.sessionId = sessionId).length +
    (tr.wire.nSend - st.nRecv) ≤ maxSkippedTotal) :
    ∃ out, decryptOnChain P samePeer st tr.wire closed pre tr.aadExtra = .ok out ∧ out.plaintext = tr.plaintext := by
  have hwidth : tr.wire.nSend + 1 < 2 ^ 32 := Nat.lt_of_le_of_lt hseal.nSend (h.width _ hw)
  rw [← hid] at htot
  refine ⟨_, decryptOnChain_eq hon.recvChainKey (Skipping.fits hle hgap htot) hwidth ?_, rfl⟩
  rw [messageKeyAt_chainKey, show st.nRecv + (tr.wire.nSend - st.nRecv) = tr.wire.nSend by omega,
    hid, hseal.version, hseal.senderDh]
  exact haead _ _ _ _ _ hseal.ciphertext

/-- **Delivery.** Take two peers initialised from the same shared secret and signed prekey, and any
run of encryptions and deliveries in any order. A wire in flight whose delivery stays within
`MAX_SKIP` and `MAX_SKIPPED_TOTAL` decrypts to the plaintext it was made from. -/
theorem delivered_wire_decrypts (hdh : P.DhCommutes) (haead : P.OpenInvertsSeal)
    {spk initiatorPriv : K} (hne : P.publicKey initiatorPriv ≠ P.publicKey spk)
    (hrun : Relation.ReflTransGen (Step P) (init P sessionId sk spk initiatorPriv) s)
    {tr : Transmission K C} (htr : tr ∈ s.inFlight)
    (hlim : WithinLimits (s.device tr.sender.other) tr.wire) (newPriv : K) :
    ∃ out, s.receive P newPriv tr = .ok out ∧ out.plaintext = tr.plaintext := by
  obtain ⟨count, u, known, h⟩ := synced_of_run hdh hne hrun
  obtain ⟨t, p, hw, hsealed, hpl⟩ := h.sent tr htr
  have hid := h.sessionId_eq tr.sender.other
  have hside : tr.sender.other = (next t p).owner.other := by rw [hsealed.sender]
  unfold receive
  cases hfind : (s.device tr.sender.other).skipped.rows.find? (isStoredFor (s.device tr.sender.other).session tr.wire) with
  | some e =>
    have he := find?_some hfind
    simp only [isStoredFor, decide_eq_true_eq] at he
    refine ⟨_, decrypt_of_stored hsealed.version hfind ?_, rfl⟩
    rw [hid]
    exact h.open_stored haead hw hsealed (mem_of_find?_eq_some hfind) he.2.1 he.2.2
  | none =>
    have hmiss : (s.device tr.sender.other).skipped.hasKey (sessionId, tr.wire.senderDh, tr.wire.nSend) ≠ true := by
      intro hkey
      obtain ⟨e, he, hkey⟩ := hasKey_iff.1 hkey
      simp only [primaryKey, Prod.mk.injEq] at hkey
      have hno := find?_eq_none.1 hfind e he
      simp [isStoredFor, hkey, hid] at hno
    unfold WithinLimits at hlim
    rw [hid] at hlim
    obtain ⟨hgap1, hgap2, htotal⟩ := hlim.resolve_left hmiss
    rcases hpl with hst | ⟨hrecv, hn⟩ | hk
    · rw [hsealed.senderDh] at hmiss
      exact absurd hst hmiss
    · have hon := h.receivesOn hrecv hside
      have hpeer : (s.device tr.sender.other).session.peerPub = some tr.wire.senderDh := by
        rw [hsealed.senderDh]
        exact hon.peerPub
      rw [jumps, if_pos hpeer] at hgap2 htotal
      unfold isStoredFor at hfind
      unfold decrypt
      rw [if_neg (not_not.2 hsealed.version)]
      simp only [hfind, if_pos hpeer]
      exact h.open_current haead hw hsealed hid hon hn true hgap2 (by simpa using htotal)
    · obtain rfl := h.eq_next_known hw hk
      have hpeer : (s.device tr.sender.other).session.peerPub ≠ some tr.wire.senderDh := by
        rw [hsealed.senderDh]
        exact h.peerPub_ne hside hk
      rw [jumps, if_neg hpeer, ← length_closedKeys P] at hgap1 htotal
      rw [jumps, if_neg hpeer] at hgap2
      rw [decrypt_of_new hsealed.version hfind hpeer (h.ratchetReceive_unseen hside hk
        hsealed.nPrev hgap1 (by omega) newPriv)]
      have hh := h.hear hdh hside hk newPriv
      have hon := hh.receivesOn (.inl (update_self _ _ _)) hside
      rw [setDevice_same] at hon
      rw [hsealed.senderDh]
      have hid' : (afterRatchet P newPriv (P.publicKey p) (s.device tr.sender.other).session).sessionId = sessionId := hid
      refine h.open_current haead hw hsealed hid' hon (Nat.zero_le _) false hgap2 ?_
      omega

/-- The symbolic session after the initiator has sent `[1]` and `[2]`. -/
def sentTwo : System Symbol Envelope :=
  let send (s : System Symbol Envelope) (m : Bytes) :=
    let r := encrypt symbolic (.atom 3) [] (s.device .initiator).session m []
    s.encrypted .initiator m [] r.1 r.2
  send (send (init symbolic "dr" (.atom 0) (.atom 1) (.atom 2)) [1]) [2]

lemma sentTwo_reached : Relation.ReflTransGen (Step symbolic)
    (init symbolic "dr" (.atom 0) (.atom 1) (.atom 2)) sentTwo := by
  refine Relation.ReflTransGen.tail (Relation.ReflTransGen.single ?_) (Step.encrypt .initiator (.atom 3) [] [2] [] ?_ rfl)
  · exact Step.encrypt .initiator (.atom 3) [] [1] [] (by decide) rfl
  · decide

/-- There `[2]` overtakes `[1]`, and `[1]` still opens. -/
theorem overtaken_wire_decrypts : ∃ tr₂ tr₁ out₂ s, sentTwo.inFlight = [tr₂, tr₁] ∧
    sentTwo.receive symbolic (.atom 4) tr₂ = .ok out₂ ∧
    s = { sentTwo.setDevice .responder (commitReceive (sentTwo.device .responder) out₂) with
      inFlight := [tr₁] } ∧
    ∃ out₁, s.receive symbolic (.atom 5) tr₁ = .ok out₁ ∧ out₁.plaintext = [1] := by
  refine ⟨_, _, _, _, rfl, rfl, rfl, ?_⟩
  exact delivered_wire_decrypts symbolic_dhCommutes symbolic_openInvertsSeal (by decide)
    (sentTwo_reached.tail (Step.deliver 0 (.atom 4) rfl rfl)) mem_cons_self (.inl (by decide)) (.atom 5)

end PeersTouch.Ratchet
