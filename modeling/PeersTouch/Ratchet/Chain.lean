import PeersTouch.Ratchet.DoubleRatchet

/-!
# Chains, and what `decrypt` does to them

A symmetric chain is the iterate of the second component of `kdf_ck`; message `i` of the chain
that starts at `ck` is sealed under `messageKeyAt P ck i`. In these terms `materialize_skipped`
moves a chain to a target counter and puts aside the message keys in between (`Skipping.advanceTo`),
and `decrypt` has two ways to succeed (`decrypt_ok_cases`): with a stored key, or on the receiving
chain, after a Diffie-Hellman step when the ratchet key is not the current one. Both results about
the ratchet use these lemmas and never the bodies of the functions.
-/

namespace PeersTouch.Ratchet

open Lib Skipping List

variable {K C : Type}

/-! ### Positions on a chain -/

def chainKey (P : Primitives K C) (ck : K) (n : ℕ) : K := (fun c => (P.kdfCk c).2)^[n] ck

/-- The key of message `n` of the chain that starts at `ck`. -/
def messageKeyAt (P : Primitives K C) (ck : K) (n : ℕ) : K := (P.kdfCk (chainKey P ck n)).1

@[simp] lemma chainKey_zero (P : Primitives K C) (ck : K) : chainKey P ck 0 = ck := rfl

lemma chainKey_succ (P : Primitives K C) (ck : K) (n : ℕ) : chainKey P ck (n + 1) = (P.kdfCk (chainKey P ck n)).2 :=
  Function.iterate_succ_apply' _ _ _

lemma chainKey_next (P : Primitives K C) (ck : K) (n : ℕ) : chainKey P (P.kdfCk ck).2 n = chainKey P ck (n + 1) := rfl

lemma chainKey_add (P : Primitives K C) (ck : K) (m n : ℕ) : chainKey P (chainKey P ck m) n = chainKey P ck (m + n) := by
  rw [Nat.add_comm]
  exact (Function.iterate_add_apply _ n m ck).symm

lemma messageKeyAt_chainKey (P : Primitives K C) (ck : K) (m n : ℕ) :
    messageKeyAt P (chainKey P ck m) n = messageKeyAt P ck (m + n) := by
  rw [messageKeyAt, chainKey_add, messageKeyAt]

/-! ### Skipping -/

/-- The keys put aside while a chain moves `gap` steps on from counter `n`. -/
def skippedKeys (P : Primitives K C) (sessionId : String) (peerDh : K) :
    ℕ → K → ℕ → List (DrSkippedMessageKey K)
  | 0, _, _ => []
  | gap + 1, ck, n =>
    { sessionId, peerPub := peerDh, counter := n, messageKey := (P.kdfCk ck).1 } ::
      skippedKeys P sessionId peerDh gap (P.kdfCk ck).2 (n + 1)

variable {sessionId : String} {peerDh : K} {s : Skipping K} {st : DrSessionState K} {nonce : Bytes}
  {out : DrDecryptOutcome K}
  {P : Primitives K C}

lemma mem_skippedKeys {x : DrSkippedMessageKey K} : ∀ {gap : ℕ} {ck : K} {n : ℕ},
    x ∈ skippedKeys P sessionId peerDh gap ck n ↔ ∃ i < gap, x = ⟨sessionId, peerDh, n + i, messageKeyAt P ck i⟩
  | 0, ck, n => by simp [skippedKeys]
  | gap + 1, ck, n => by
    rw [skippedKeys, mem_cons, mem_skippedKeys]
    constructor
    · rintro (rfl | ⟨i, hi, rfl⟩)
      · exact ⟨0, by omega, rfl⟩
      · refine ⟨i + 1, by omega, ?_⟩
        rw [messageKeyAt, chainKey_next, messageKeyAt, Nat.add_assoc, Nat.add_comm 1 i]
    · rintro ⟨i, hi, rfl⟩
      cases i with
      | zero => exact .inl rfl
      | succ i =>
        refine .inr ⟨i, by omega, ?_⟩
        rw [messageKeyAt, messageKeyAt, chainKey_next, Nat.add_assoc, Nat.add_comm 1 i]

lemma length_skippedKeys : ∀ (gap : ℕ) (ck : K) (n : ℕ), (skippedKeys P sessionId peerDh gap ck n).length = gap
  | 0, _, _ => rfl
  | gap + 1, _, _ => by rw [skippedKeys, length_cons, length_skippedKeys]

/-- The chain moved on to the counter `target`. -/
def Skipping.advanceTo (P : Primitives K C) (sessionId : String) (peerDh : K) (target : ℕ)
    (s : Skipping K) : Skipping K where
  recvCk := chainKey P s.recvCk (target - s.nRecv)
  nRecv := target
  newSkipped := s.newSkipped ++ skippedKeys P sessionId peerDh (target - s.nRecv) s.recvCk s.nRecv

lemma Skipping.advanceTo_succ (P : Primitives K C) (sessionId : String) (peerDh : K) (gap : ℕ) (s : Skipping K) :
    advanceTo P sessionId peerDh (s.nRecv + 1 + gap)
        { recvCk := (P.kdfCk s.recvCk).2, nRecv := s.nRecv + 1, newSkipped := s.newSkipped ++
          [{ sessionId, peerPub := peerDh, counter := s.nRecv,
             messageKey := (P.kdfCk s.recvCk).1 }] } =
      s.advanceTo P sessionId peerDh (s.nRecv + (gap + 1)) := by
  have e1 : s.nRecv + (gap + 1) - (s.nRecv + 1) = gap := by omega
  have e3 : s.nRecv + 1 + gap = s.nRecv + (gap + 1) := by omega
  simp [advanceTo, e1, skippedKeys, chainKey_next, e3]

lemma skipLoop_eq : ∀ {gap : ℕ} {s : Skipping K}, s.nRecv + gap < 2 ^ 32 → skipLoop P sessionId peerDh gap s =
    .ok (s.advanceTo P sessionId peerDh (s.nRecv + gap))
  | 0, s, _ => by simp [skipLoop, advanceTo, skippedKeys]
  | gap + 1, s, h => by
    have hadd : checkedAdd s.nRecv = some (s.nRecv + 1) := if_pos (by omega)
    rw [skipLoop, hadd]
    dsimp only
    rw [skipLoop_eq (by dsimp only; omega)]
    exact congrArg Except.ok (s.advanceTo_succ P sessionId peerDh gap)

lemma checkedAdd_eq_some {n m : ℕ} : checkedAdd n = some m ↔ n + 1 < 2 ^ 32 ∧ n + 1 = m := by simp [checkedAdd]

lemma skipLoop_ok : ∀ {gap : ℕ} {s s' : Skipping K}, skipLoop P sessionId peerDh gap s = .ok s' →
    s' = s.advanceTo P sessionId peerDh (s.nRecv + gap)
  | 0, s, s', h => by
    rw [skipLoop, Except.ok.injEq] at h
    simp [← h, advanceTo, skippedKeys]
  | gap + 1, s, s', h => by
    rw [skipLoop] at h
    cases hadd : checkedAdd s.nRecv with
    | none => simp [hadd] at h
    | some m =>
      obtain ⟨-, rfl⟩ := checkedAdd_eq_some.1 hadd
      rw [hadd] at h
      dsimp only at h
      rw [skipLoop_ok h]
      exact s.advanceTo_succ P sessionId peerDh gap

variable {target : ℕ} {pre : List (DrSkippedMessageKey K)}

/-- The bounds of one jump and of the session, for a chain that moves on to the counter `target`. -/
structure Skipping.Fits (sessionId : String) (target : ℕ) (pre : List (DrSkippedMessageKey K))
    (s : Skipping K) : Prop where
  le : s.nRecv ≤ target
  gap : target - s.nRecv ≤ maxSkip
  total : asU32 (asU32 s.newSkipped.length + countSkippedForSession pre sessionId) +
    (target - s.nRecv) ≤ maxSkippedTotal

lemma Skipping.fits (hle : s.nRecv ≤ target) (hgap : target - s.nRecv ≤ maxSkip)
    (htot : s.newSkipped.length + (pre.filter fun k => k.sessionId = sessionId).length +
    (target - s.nRecv) ≤ maxSkippedTotal) : s.Fits sessionId target pre := by
  refine ⟨hle, hgap, ?_⟩
  unfold countSkippedForSession asU32
  omega

lemma materializeSkipped_ok {s' : Skipping K} (h : materializeSkipped P sessionId peerDh target pre s = .ok s') :
    s.Fits sessionId target pre ∧ s' = s.advanceTo P sessionId peerDh target := by
  unfold materializeSkipped at h
  split at h
  · cases h
  · dsimp only at h
    split_ifs at h with hgap htot
    have hs := skipLoop_ok h
    rw [show s.nRecv + (target - s.nRecv) = target by omega] at hs
    refine ⟨⟨by omega, by omega, ?_⟩, hs⟩
    unfold maxSkippedTotal at htot ⊢
    omega

lemma materializeSkipped_eq (h : s.Fits sessionId target pre) (hwidth : target < 2 ^ 32) :
    materializeSkipped P sessionId peerDh target pre s = .ok (s.advanceTo P sessionId peerDh target) := by
  have hle := h.le
  have htot := h.total
  unfold materializeSkipped
  rw [if_neg (by omega)]
  rw [if_neg (Nat.not_lt.2 h.gap), if_neg (by omega), skipLoop_eq (by omega),
    show s.nRecv + (target - s.nRecv) = target by omega]

/-! ### The Diffie-Hellman step of the receiver -/

/-- The session after the Diffie-Hellman step for the ratchet key `senderDh`. -/
def afterRatchet (P : Primitives K C) (newPriv senderDh : K) (state : DrSessionState K) :
    DrSessionState K :=
  let keys := P.kdfRk state.rootKey (P.diffieHellman state.selfPriv senderDh)
  { state with
    rootKey := keys.1, recvChainKey := some keys.2.2, nRecv := 0, peerPub := some senderDh
    selfPriv := newPriv, selfPub := P.publicKey newPriv, sendChainKey := none }

/-- The keys of the old receiving chain that the Diffie-Hellman step puts aside. -/
def closedKeys (P : Primitives K C) (state : DrSessionState K) (nPrev : ℕ) :
    List (DrSkippedMessageKey K) :=
  match state.peerPub, state.recvChainKey with
  | some oldPeer, some recvCk => skippedKeys P state.sessionId oldPeer (nPrev - state.nRecv) recvCk state.nRecv
  | _, _ => []

variable {newPriv : K} {state : DrSessionState K} {wire : DrCiphertextWire K C}

/-- The old receiving chain, if there is one, can be moved on to `n_prev`. -/
def DrSessionState.Closable (state : DrSessionState K) (nPrev : ℕ)
    (pre : List (DrSkippedMessageKey K)) : Prop :=
  ∀ oldPeer recvCk, state.peerPub = some oldPeer → state.recvChainKey = some recvCk →
    Skipping.Fits state.sessionId nPrev pre { recvCk, nRecv := state.nRecv, newSkipped := [] }

variable {newSkipped : List (DrSkippedMessageKey K)}

lemma ratchetReceive_ok (h : ratchetReceive P newPriv state wire pre = .ok (st, newSkipped)) :
    state.Closable wire.nPrev pre ∧ st = afterRatchet P newPriv wire.senderDh state ∧
    newSkipped = closedKeys P state wire.nPrev := by
  unfold ratchetReceive at h
  unfold closedKeys DrSessionState.Closable
  cases hp : state.peerPub with
  | none =>
    simp only [hp] at h
    cases h
    exact ⟨nofun, rfl, rfl⟩
  | some oldPeer =>
    cases hr : state.recvChainKey with
    | none =>
      simp only [hp, hr] at h
      cases h
      exact ⟨nofun, rfl, rfl⟩
    | some recvCk =>
      simp only [hp, hr] at h
      cases hm : materializeSkipped P state.sessionId oldPeer wire.nPrev pre
          { recvCk, nRecv := state.nRecv, newSkipped := [] } with
      | error e => rw [hm] at h; cases h
      | ok s =>
        rw [hm] at h
        cases h
        obtain ⟨hfits, rfl⟩ := materializeSkipped_ok hm
        refine ⟨?_, rfl, rfl⟩
        rintro _ _ ⟨⟩ ⟨⟩
        exact hfits

/-- The Diffie-Hellman step succeeds when the old chain can be finished. -/
lemma ratchetReceive_eq (h : state.Closable wire.nPrev pre) (hwidth : state.peerPub ≠ none → wire.nPrev < 2 ^ 32) :
    ratchetReceive P newPriv state wire pre =
    .ok (afterRatchet P newPriv wire.senderDh state, closedKeys P state wire.nPrev) := by
  unfold ratchetReceive closedKeys
  cases hp : state.peerPub with
  | none => rfl
  | some oldPeer =>
    cases hr : state.recvChainKey with
    | none => rfl
    | some recvCk =>
      dsimp only
      rw [materializeSkipped_eq (h oldPeer recvCk hp hr) (hwidth (by rw [hp]; nofun))]
      rfl

/-! ### What `encrypt` can do -/

/-- The wire `encrypt` sends from the chain of `st`. -/
def wireOf (st : DrSessionState K) (nonce : Bytes) (ct : C) : DrCiphertextWire K C :=
  { st with version := wireVersion, senderDh := st.selfPub, nonce, ciphertext := ct }

variable {ck : K}

/-- On a chain, `encrypt` fails and keeps the state, fails at the last counter with the chain
advanced, or sends the next message of the chain. -/
lemma encryptOnChain_cases (P : Primitives K C) (nonce : Bytes) (plaintext aadExtra : Bytes)
    (hck : st.sendChainKey = some ck) : (∃ e, encryptOnChain P nonce st plaintext aadExtra = (.error e, st)) ∨
    (∃ e, 2 ^ 32 ≤ st.nSend + 1 ∧ encryptOnChain P nonce st plaintext aadExtra =
      (.error e, { st with sendChainKey := some (P.kdfCk ck).2 })) ∨
    (∃ ct, st.nSend + 1 < 2 ^ 32 ∧ P.aeadEncrypt (P.kdfCk ck).1 nonce
        (buildAad P st.sessionId wireVersion st.selfPub aadExtra) plaintext = some ct ∧
      encryptOnChain P nonce st plaintext aadExtra = (.ok (wireOf st nonce ct),
          { st with sendChainKey := some (P.kdfCk ck).2, nSend := st.nSend + 1 })) := by
  unfold encryptOnChain
  rw [hck]
  dsimp only
  cases hct : P.aeadEncrypt (P.kdfCk ck).1 nonce (buildAad P st.sessionId wireVersion st.selfPub aadExtra) plaintext with
  | none => exact .inl ⟨_, rfl⟩
  | some ct =>
    by_cases hw : st.nSend + 1 < 2 ^ 32
    · rw [show checkedAdd st.nSend = some (st.nSend + 1) from if_pos hw]
      exact .inr (.inr ⟨ct, hw, rfl, rfl⟩)
    · rw [show checkedAdd st.nSend = none from if_neg hw]
      exact .inr (.inl ⟨_, Nat.le_of_not_lt hw, rfl⟩)

lemma encryptOnChain_selfPub (P : Primitives K C) (nonce : Bytes) (plaintext aadExtra : Bytes)
    (hck : st.sendChainKey = some ck) : (encryptOnChain P nonce st plaintext aadExtra).2.selfPub = st.selfPub := by
  rcases encryptOnChain_cases P nonce plaintext aadExtra hck with
    ⟨e, he⟩ | ⟨e, -, he⟩ | ⟨ct, -, -, he⟩ <;> rw [he]

/-- What `encrypt` leaves of the receiving half, and what it does to the root key. -/
structure SendFrame (P : Primitives K C) (state st : DrSessionState K) : Prop where
  sessionId : st.sessionId = state.sessionId
  peerPub : st.peerPub = state.peerPub
  recvChainKey : st.recvChainKey = state.recvChainKey
  nRecv : st.nRecv = state.nRecv
  rootKey : st.rootKey = state.rootKey ∨ ∃ dh, st.rootKey = (P.kdfRk state.rootKey dh).1

lemma encryptOnChain_frame (P : Primitives K C) (nonce : Bytes) (st : DrSessionState K) (plaintext aadExtra : Bytes) :
    SendFrame P st (encryptOnChain P nonce st plaintext aadExtra).2 := by
  cases hck : st.sendChainKey with
  | none =>
    rw [encryptOnChain, hck]
    exact ⟨rfl, rfl, rfl, rfl, .inl rfl⟩
  | some ck =>
    rcases encryptOnChain_cases P nonce plaintext aadExtra hck with
      ⟨e, he⟩ | ⟨e, -, he⟩ | ⟨ct, -, -, he⟩
    all_goals
      rw [he]
      exact ⟨rfl, rfl, rfl, rfl, .inl rfl⟩

variable {aadExtra : Bytes}
  {plaintext : Bytes}

lemma encrypt_of_chain (hck : st.sendChainKey = some ck) : encrypt P newPriv nonce st plaintext aadExtra =
    encryptOnChain P nonce st plaintext aadExtra := by
  unfold encrypt
  rw [hck]

lemma encrypt_of_peer {peer : K} (hck : st.sendChainKey = none) (hpeer : st.peerPub = some peer) :
    encrypt P newPriv nonce st plaintext aadExtra =
    encryptOnChain P nonce (ratchetSend P newPriv peer st) plaintext aadExtra := by
  unfold encrypt
  rw [hck, hpeer]

lemma encrypt_of_none (hck : st.sendChainKey = none) (hpeer : st.peerPub = none) :
    encrypt P newPriv nonce st plaintext aadExtra = (.error .uninitializedReceive, st) := by
  unfold encrypt
  rw [hck, hpeer]

lemma encrypt_frame (P : Primitives K C) (newPriv : K) (nonce : Bytes) (st : DrSessionState K)
    (plaintext aadExtra : Bytes) : SendFrame P st (encrypt P newPriv nonce st plaintext aadExtra).2 := by
  cases hck : st.sendChainKey with
  | some ck =>
    rw [encrypt_of_chain hck]
    exact encryptOnChain_frame P nonce st plaintext aadExtra
  | none =>
    cases hpeer : st.peerPub with
    | none =>
      rw [encrypt_of_none hck hpeer]
      exact ⟨rfl, rfl, rfl, rfl, .inl rfl⟩
    | some peer =>
      rw [encrypt_of_peer hck hpeer]
      have h := encryptOnChain_frame P nonce (ratchetSend P newPriv peer st) plaintext aadExtra
      refine ⟨h.sessionId, h.peerPub, h.recvChainKey, h.nRecv, .inr ⟨P.diffieHellman newPriv peer, ?_⟩⟩
      obtain ⟨ck, hck'⟩ : ∃ ck, (ratchetSend P newPriv peer st).sendChainKey = some ck := ⟨_, rfl⟩
      rcases encryptOnChain_cases P nonce plaintext aadExtra hck' with
        ⟨e, he⟩ | ⟨e, -, he⟩ | ⟨ct, -, -, he⟩
      all_goals
        rw [he]
        rfl

/-! ### What `decrypt` can do -/

lemma openNext_ok (h : openNext P st wire s pre aadExtra = .ok out) :
    s.nRecv + 1 < 2 ^ 32 ∧ P.aeadDecrypt (P.kdfCk s.recvCk).1 wire.nonce
        (buildAad P st.sessionId wire.version wire.senderDh aadExtra) wire.ciphertext = some out.plaintext ∧ out =
        { plaintext := out.plaintext, advancedState :=
            { st with recvChainKey := some (P.kdfCk s.recvCk).2, nRecv := s.nRecv + 1 }
          newSkipped := s.newSkipped, consumedSkipped := none } := by
  unfold openNext at h
  dsimp only at h
  split at h
  · cases h
  · rename_i plain hopen
    split at h
    · cases h
    · rename_i m hadd
      split at h
      · cases h
      · obtain ⟨hwidth, rfl⟩ := checkedAdd_eq_some.1 hadd
        cases h
        exact ⟨hwidth, hopen, rfl⟩

/-- The outcome of opening `wire` on the receiving chain `recvCk` of `st`. -/
def chainOutcome (P : Primitives K C) (st : DrSessionState K) (recvCk : K)
    (wire : DrCiphertextWire K C) (newSkipped : List (DrSkippedMessageKey K)) (plain : Bytes) :
    DrDecryptOutcome K where
  plaintext := plain
  advancedState := { st with
    recvChainKey := some (chainKey P recvCk (wire.nSend - st.nRecv + 1))
    nRecv := wire.nSend + 1 }
  newSkipped := newSkipped ++ skippedKeys P st.sessionId wire.senderDh (wire.nSend - st.nRecv) recvCk st.nRecv
  consumedSkipped := none

variable {samePeer : Bool}

lemma decryptOnChain_ok (h : decryptOnChain P samePeer st wire newSkipped pre aadExtra = .ok out) :
    ∃ recvCk, st.recvChainKey = some recvCk ∧
      Skipping.Fits st.sessionId wire.nSend pre { recvCk, nRecv := st.nRecv, newSkipped } ∧
      wire.nSend + 1 < 2 ^ 32 ∧
      P.aeadDecrypt (messageKeyAt P recvCk (wire.nSend - st.nRecv)) wire.nonce
        (buildAad P st.sessionId wire.version wire.senderDh aadExtra) wire.ciphertext = some out.plaintext ∧
      out = chainOutcome P st recvCk wire newSkipped out.plaintext := by
  unfold decryptOnChain at h
  cases hr : st.recvChainKey with
  | none => simp [hr] at h
  | some recvCk =>
    simp only [hr] at h
    split at h
    · cases h
    · split at h
      · cases h
      · rename_i s hm
        obtain ⟨hfits, rfl⟩ := materializeSkipped_ok hm
        obtain ⟨hwidth, hopen, hout⟩ := openNext_ok h
        refine ⟨recvCk, rfl, hfits, hwidth, hopen, ?_⟩
        rw [chainOutcome, chainKey_succ]
        exact hout

lemma decryptOnChain_eq {plain : Bytes} {recvCk : K} (hr : st.recvChainKey = some recvCk)
    (hfits : Skipping.Fits st.sessionId wire.nSend pre { recvCk, nRecv := st.nRecv, newSkipped })
    (hwidth : wire.nSend + 1 < 2 ^ 32)
    (hopen : P.aeadDecrypt (messageKeyAt P recvCk (wire.nSend - st.nRecv)) wire.nonce
      (buildAad P st.sessionId wire.version wire.senderDh aadExtra) wire.ciphertext = some plain) :
    decryptOnChain P samePeer st wire newSkipped pre aadExtra = .ok (chainOutcome P st recvCk wire newSkipped plain) := by
  have hm : materializeSkipped P st.sessionId wire.senderDh wire.nSend pre
      { recvCk, nRecv := st.nRecv, newSkipped } = .ok (advanceTo P st.sessionId wire.senderDh wire.nSend
        { recvCk, nRecv := st.nRecv, newSkipped }) :=
    materializeSkipped_eq hfits (by omega)
  have hadd : checkedAdd wire.nSend = some (wire.nSend + 1) := if_pos hwidth
  have hbudget : ¬ maxSkippedTotal < asU32 (countSkippedForSession pre st.sessionId + asU32 (newSkipped ++
    skippedKeys P st.sessionId wire.senderDh (wire.nSend - st.nRecv) recvCk st.nRecv).length) := by
    have htot := hfits.total
    dsimp only at htot
    rw [length_append, length_skippedKeys]
    unfold countSkippedForSession asU32 at htot ⊢
    omega
  unfold decryptOnChain
  rw [hr]
  dsimp only
  rw [if_neg fun hlt => Nat.not_lt.2 hfits.le hlt.2, hm, chainOutcome, chainKey_succ]
  unfold openNext
  dsimp only [advanceTo]
  rw [show (P.kdfCk (chainKey P recvCk (wire.nSend - st.nRecv))).1 =
    messageKeyAt P recvCk (wire.nSend - st.nRecv) from rfl, hopen, hadd]
  exact if_neg hbudget

/-- The outcome of opening `wire` with a stored key: the state stays. -/
def storedOutcome (state : DrSessionState K) (wire : DrCiphertextWire K C) (plain : Bytes) :
    DrDecryptOutcome K where
  plaintext := plain
  advancedState := state
  newSkipped := []
  consumedSkipped := some (wire.senderDh, wire.nSend)

variable [DecidableEq K]

/-- The session and the put-aside keys with which the receiving chain is entered: unchanged for the
current ratchet key, after the Diffie-Hellman step for any other. -/
def receiving (P : Primitives K C) (newPriv : K) (state : DrSessionState K)
    (wire : DrCiphertextWire K C) : DrSessionState K × List (DrSkippedMessageKey K) :=
  if state.peerPub = some wire.senderDh then (state, [])
  else (afterRatchet P newPriv wire.senderDh state, closedKeys P state wire.nPrev)

@[simp] lemma receiving_sessionId (P : Primitives K C) (newPriv : K) (state : DrSessionState K)
    (wire : DrCiphertextWire K C) : (receiving P newPriv state wire).1.sessionId = state.sessionId := by
  unfold receiving
  split <;> rfl

/-- **The two ways to accept a wire**: with a stored key, or on the receiving chain. -/
lemma decrypt_ok_cases (h : decrypt P newPriv state wire pre aadExtra = .ok out) :
    (∃ sk ∈ pre, sk.sessionId = state.sessionId ∧ sk.peerPub = wire.senderDh ∧ sk.counter = wire.nSend ∧
      P.aeadDecrypt sk.messageKey wire.nonce
        (buildAad P state.sessionId wire.version wire.senderDh aadExtra) wire.ciphertext = some out.plaintext ∧
      out = storedOutcome state wire out.plaintext) ∨
    ((∀ sk ∈ pre, ¬ (sk.sessionId = state.sessionId ∧ sk.peerPub = wire.senderDh ∧ sk.counter = wire.nSend)) ∧
      (state.peerPub ≠ some wire.senderDh → state.Closable wire.nPrev pre) ∧
      ∃ recvCk, (receiving P newPriv state wire).1.recvChainKey = some recvCk ∧ Skipping.Fits state.sessionId wire.nSend pre
        { recvCk, nRecv := (receiving P newPriv state wire).1.nRecv
          newSkipped := (receiving P newPriv state wire).2 } ∧
      wire.nSend + 1 < 2 ^ 32 ∧
      P.aeadDecrypt (messageKeyAt P recvCk (wire.nSend - (receiving P newPriv state wire).1.nRecv))
        wire.nonce (buildAad P state.sessionId wire.version wire.senderDh aadExtra) wire.ciphertext = some out.plaintext ∧
      out = chainOutcome P (receiving P newPriv state wire).1 recvCk wire
        (receiving P newPriv state wire).2 out.plaintext) := by
  unfold decrypt at h
  split at h
  · cases h
  · dsimp only at h
    split at h
    · rename_i sk hfd
      have hsk := find?_some hfd
      simp only [decide_eq_true_eq] at hsk
      split at h
      · cases h
      · rename_i plain hopen
        cases h
        exact .inl ⟨sk, mem_of_find?_eq_some hfd, hsk.1, hsk.2.1, hsk.2.2, hopen, rfl⟩
    · rename_i hfd
      refine .inr ⟨fun sk hsk => by simpa using find?_eq_none.1 hfd sk hsk, ?_⟩
      unfold receiving
      split at h
      · rename_i hp
        rw [if_pos hp]
        exact ⟨fun hne => absurd hp hne, decryptOnChain_ok h⟩
      · rename_i hp
        rw [if_neg hp]
        split at h
        · cases h
        · rename_i st newSkipped hr
          obtain ⟨hclos, rfl, rfl⟩ := ratchetReceive_ok hr
          exact ⟨fun _ => hclos, decryptOnChain_ok h⟩

section

variable {P : Primitives K C} {newPriv : K} {state : DrSessionState K} {wire : DrCiphertextWire K C}
  {pre : List (DrSkippedMessageKey K)} {aadExtra : Bytes}

/-- The test by which `decrypt` picks a stored key. -/
def isStoredFor (state : DrSessionState K) (wire : DrCiphertextWire K C)
    (sk : DrSkippedMessageKey K) : Bool :=
  sk.sessionId = state.sessionId ∧ sk.peerPub = wire.senderDh ∧ sk.counter = wire.nSend

lemma decrypt_of_stored {sk : DrSkippedMessageKey K} {plain : Bytes}
    (hver : wire.version = wireVersion) (hfd : pre.find? (isStoredFor state wire) = some sk)
    (hopen : P.aeadDecrypt sk.messageKey wire.nonce
    (buildAad P state.sessionId wire.version wire.senderDh aadExtra) wire.ciphertext = some plain) :
    decrypt P newPriv state wire pre aadExtra = .ok (storedOutcome state wire plain) := by
  unfold isStoredFor at hfd
  unfold decrypt
  rw [if_neg (not_not.2 hver)]
  simp only [hfd, hopen]
  rfl

lemma decrypt_of_new (hver : wire.version = wireVersion) (hfd : pre.find? (isStoredFor state wire) = none)
    (hpeer : state.peerPub ≠ some wire.senderDh) (hrat : ratchetReceive P newPriv state wire pre =
    .ok (afterRatchet P newPriv wire.senderDh state, closedKeys P state wire.nPrev)) :
    decrypt P newPriv state wire pre aadExtra = decryptOnChain P false (afterRatchet P newPriv wire.senderDh state) wire
    (closedKeys P state wire.nPrev) pre aadExtra := by
  unfold isStoredFor at hfd
  unfold decrypt
  rw [if_neg (not_not.2 hver)]
  simp only [hfd, if_neg hpeer, hrat]

end

end PeersTouch.Ratchet
