import PeersTouch.Ratchet.Chain
import PeersTouch.Ratchet.Symbolic

/-!
# No replay

One device and any wires, honest or not. With ideal primitives every message key is named by its
derivation: the depth of the root key its chain starts from, the chain, and the counter. A
Diffie-Hellman step, also one for an old ratchet key that reappears, starts a chain from a root
deeper than every root before it, and a chain only moves forward; so the keys that have been used,
the keys that are stored and the keys still to be derived never meet (`KeysOnce`). A wire that
opens a second time would open under a used key (`accepted_wire_rejected_later`).
-/

namespace PeersTouch.Ratchet

open Lib KeyedTable Option

variable {K C : Type}

/-! ### Ideal primitives -/

/-- The ways a key comes about. -/
inductive Derivation (K : Type) where
  | sharedRoot (sk : K)
  | ratchetRoot (root dh : K)
  | ratchetRecv (root dh : K)
  | ratchetSend (root dh : K)
  | messageKey (ck : K)
  | nextChain (ck : K)

def Primitives.derive (P : Primitives K C) : Derivation K → K
  | .sharedRoot sk => P.rootFromSharedSecret sk
  | .ratchetRoot root dh => (P.kdfRk root dh).1
  | .ratchetRecv root dh => (P.kdfRk root dh).2.1
  | .ratchetSend root dh => (P.kdfRk root dh).2.2
  | .messageKey ck => (P.kdfCk ck).1
  | .nextChain ck => (P.kdfCk ck).2

/-- Distinct derivations give distinct keys. -/
def Primitives.IdealKdf (P : Primitives K C) : Prop := Function.Injective P.derive

/-- A ciphertext opens only under the key and AAD it was sealed with. -/
def Primitives.IdealAead (P : Primitives K C) : Prop :=
  ∀ key key' nonce aad aad' ct m m', P.aeadDecrypt key nonce aad ct = some m →
    P.aeadDecrypt key' nonce aad' ct = some m' → key = key' ∧ aad = aad'

lemma symbolic_idealKdf : symbolic.IdealKdf := by
  intro a b h
  cases a <;> cases b <;> simp_all [Primitives.derive, symbolic]

lemma symbolic_idealAead : symbolic.IdealAead := by
  intro key key' nonce aad aad' ct m m' h h'
  simp only [symbolic, ite_none_right_eq_some] at h h'
  exact ⟨h.1.1.symm.trans h'.1.1, h.1.2.2.symm.trans h'.1.2.2⟩

/-! ### Names of keys -/

/-- `r` is a root key `n` Diffie-Hellman steps after a shared secret. -/
def RootAt (P : Primitives K C) : ℕ → K → Prop
  | 0, r => ∃ sk, r = P.derive (.sharedRoot sk)
  | n + 1, r => ∃ r' dh, RootAt P n r' ∧ r = P.derive (.ratchetRoot r' dh)

/-- `o` is the first key of a chain made from a root key of depth below `n`. -/
def Origin (P : Primitives K C) (n : ℕ) (o : K) : Prop := ∃ m < n, ∃ r dh, RootAt P m r ∧
    (o = P.derive (.ratchetSend r dh) ∨ o = P.derive (.ratchetRecv r dh))

variable {P : Primitives K C}

lemma RootAt.unique (hkdf : P.IdealKdf) : ∀ {n m : ℕ} {r : K}, RootAt P n r → RootAt P m r → n = m
  | 0, 0, _, _, _ => rfl
  | 0, m + 1, r, ⟨sk, h⟩, ⟨r', dh, _, h'⟩ => by cases hkdf (h.symm.trans h')
  | n + 1, 0, r, ⟨r', dh, _, h⟩, ⟨sk, h'⟩ => by cases hkdf (h.symm.trans h')
  | n + 1, m + 1, r, ⟨r', dh, hr, h⟩, ⟨r'', dh', hr', h'⟩ => by
    obtain ⟨rfl, rfl⟩ := Derivation.ratchetRoot.inj (hkdf (h.symm.trans h'))
    rw [RootAt.unique hkdf hr hr']

lemma Origin.mono {n m : ℕ} {o : K} (h : Origin P n o) (hle : n ≤ m) : Origin P m o := by
  obtain ⟨j, hj, h⟩ := h
  exact ⟨j, Nat.lt_of_lt_of_le hj hle, h⟩

/-- A chain from a root of depth `n` is not one of the chains from shallower roots. -/
lemma Origin.ne_of_rootAt (hkdf : P.IdealKdf) {n : ℕ} {o r dh : K} (ho : Origin P n o)
    (hr : RootAt P n r) : o ≠ P.derive (.ratchetSend r dh) := by
  obtain ⟨m, hm, r', dh', hr', h⟩ := ho
  rintro rfl
  rcases h with h | h
  · obtain ⟨rfl, rfl⟩ := Derivation.ratchetSend.inj (hkdf h)
    exact absurd (hr.unique hkdf hr') (Nat.ne_of_gt hm)
  · cases hkdf h

lemma chainKey_eq_derive (P : Primitives K C) (o : K) (i : ℕ) :
    chainKey P o (i + 1) = P.derive (.nextChain (chainKey P o i)) :=
  chainKey_succ P o i

variable {ck : K}

lemma Origin.ne_nextChain (hkdf : P.IdealKdf) {n : ℕ} {o : K} (ho : Origin P n o) : o ≠ P.derive (.nextChain ck) := by
  obtain ⟨m, -, r, dh, -, rfl | rfl⟩ := ho
  · intro h
    cases hkdf h
  · intro h
    cases hkdf h

lemma chainKey_inj (hkdf : P.IdealKdf) {n m : ℕ} {o o' : K} (ho : Origin P n o)
    (ho' : Origin P m o') : ∀ {i j : ℕ}, chainKey P o i = chainKey P o' j → o = o' ∧ i = j
  | 0, 0, h => ⟨h, rfl⟩
  | 0, j + 1, h => absurd (h.trans (chainKey_eq_derive P o' j)) (ho.ne_nextChain hkdf)
  | i + 1, 0, h => absurd (h.symm.trans (chainKey_eq_derive P o i)) (ho'.ne_nextChain hkdf)
  | i + 1, j + 1, h => by
    rw [chainKey_eq_derive, chainKey_eq_derive] at h
    obtain ⟨e, rfl⟩ := chainKey_inj hkdf ho ho' (Derivation.nextChain.inj (hkdf h))
    exact ⟨e, rfl⟩

lemma messageKeyAt_inj (hkdf : P.IdealKdf) {n m i j : ℕ} {o o' : K} (ho : Origin P n o)
    (ho' : Origin P m o') (h : messageKeyAt P o i = messageKeyAt P o' j) : o = o' ∧ i = j := by
  have h' : P.derive (.messageKey (chainKey P o i)) = P.derive (.messageKey (chainKey P o' j)) := h
  exact chainKey_inj hkdf ho ho' (Derivation.messageKey.inj (hkdf h'))

/-! ### One device -/

variable [DecidableEq K]

/-- A device at the start of a session: nothing is stored for it. -/
def Device.Initial (P : Primitives K C) (d : Device K) : Prop :=
  ((∃ selfPriv sessionId sk peerDh, d.session = initInitiator P selfPriv sessionId sk peerDh) ∨
    ∃ sessionId sk selfPriv, d.session = initResponder P sessionId sk selfPriv) ∧
  ∀ e ∈ d.skipped.rows, e.sessionId ≠ d.session.sessionId

inductive Device.Step (P : Primitives K C) : Device K → Device K → Prop where
  | encrypt {d : Device K} (newPriv : K) (nonce plaintext aadExtra : Bytes)
      {r : Except DrError (DrCiphertextWire K C)} {st : DrSessionState K}
      (result : encrypt P newPriv nonce d.session plaintext aadExtra = (r, st)) :
      Step P d { d with session := st }
  | decrypt {d : Device K} (newPriv : K) (wire : DrCiphertextWire K C) (aadExtra : Bytes)
      {out : DrDecryptOutcome K}
      (accepted : decrypt P newPriv d.session wire d.skipped.rows aadExtra = .ok out) :
      Step P d (commitReceive d out)

def Device.Stores (d : Device K) (e : DrSkippedMessageKey K) : Prop :=
  e ∈ d.skipped.rows ∧ e.sessionId = d.session.sessionId

structure KeysOnce (P : Primitives K C) (used : Set K) (n : ℕ) (d : Device K) : Prop where
  root : RootAt P n d.session.rootKey
  used_named : ∀ k ∈ used, ∃ o i, Origin P n o ∧ k = messageKeyAt P o i
  stored_named : ∀ e, d.Stores e → ∃ o i, Origin P n o ∧ e.messageKey = messageKeyAt P o i
  stored_unused : ∀ e, d.Stores e → e.messageKey ∉ used
  stored_once : ∀ e e', d.Stores e → d.Stores e' → e.messageKey = e'.messageKey → e = e'
  chain : ∀ ck, d.session.recvChainKey = some ck → ∃ o, Origin P n o ∧
    ck = chainKey P o d.session.nRecv ∧
    (∀ i, messageKeyAt P o i ∈ used → i < d.session.nRecv) ∧
    ∀ e i, d.Stores e → e.messageKey = messageKeyAt P o i → i < d.session.nRecv

omit [DecidableEq K] in
lemma keysOnce_initial {d : Device K} (h : d.Initial P) : ∃ n, KeysOnce P ∅ n d := by
  obtain ⟨hinit, hstore⟩ := h
  have hnone : ∀ e, ¬ d.Stores e := fun e he => hstore e he.1 he.2
  have hkeys : ∀ n, RootAt P n d.session.rootKey →
      (∀ ck, d.session.recvChainKey = some ck → Origin P n ck ∧ d.session.nRecv = 0) → KeysOnce P ∅ n d := by
    intro n hroot hch
    constructor
    case root => exact hroot
    case used_named => exact fun k hk => absurd hk (Set.notMem_empty k)
    case stored_named => exact fun e he => absurd he (hnone e)
    case stored_unused => exact fun e he => absurd he (hnone e)
    case stored_once => exact fun e _ he => absurd he (hnone e)
    case chain =>
      intro ck hck
      obtain ⟨ho, hn⟩ := hch ck hck
      refine ⟨ck, ho, ?_, fun i hi => absurd hi (Set.notMem_empty _), fun e _ he => absurd he (hnone e)⟩
      rw [hn, chainKey_zero]
  rcases hinit with ⟨selfPriv, sessionId, sk, peerDh, hs⟩ | ⟨sessionId, sk, selfPriv, hs⟩
  · refine ⟨1, hkeys 1 ?_ ?_⟩
    · rw [hs]
      exact ⟨_, P.diffieHellman selfPriv peerDh, ⟨sk, rfl⟩, rfl⟩
    · rw [hs]
      intro ck hck
      obtain rfl := some.inj hck
      exact ⟨⟨0, Nat.zero_lt_one, _, P.diffieHellman selfPriv peerDh, ⟨sk, rfl⟩, .inr rfl⟩, rfl⟩
  · refine ⟨0, hkeys 0 ?_ ?_⟩
    · rw [hs]
      exact ⟨sk, rfl⟩
    · rw [hs]
      intro ck hck
      cases hck

variable {used : Set K} {n : ℕ} {d : Device K}

omit [DecidableEq K] in
/-- The sending half and a deeper root do not matter. -/
lemma KeysOnce.of_frame (h : KeysOnce P used n d) {st : DrSessionState K}
    (hf : SendFrame P d.session st) : ∃ m, KeysOnce P used m { d with session := st } := by
  have hkeep : ∀ m, n ≤ m → RootAt P m st.rootKey → KeysOnce P used m { d with session := st } := by
    intro m hle hroot
    have hstores : ∀ e, Device.Stores { d with session := st } e → d.Stores e :=
      fun e he => ⟨he.1, he.2.trans hf.sessionId⟩
    constructor
    case root => exact hroot
    case used_named =>
      intro k hk
      obtain ⟨o, i, ho, e⟩ := h.used_named k hk
      exact ⟨o, i, ho.mono hle, e⟩
    case stored_named =>
      intro e he
      obtain ⟨o, i, ho, e⟩ := h.stored_named e (hstores e he)
      exact ⟨o, i, ho.mono hle, e⟩
    case stored_unused => exact fun e he => h.stored_unused e (hstores e he)
    case stored_once => exact fun e e' he he' => h.stored_once e e' (hstores e he) (hstores e' he')
    case chain =>
      intro ck hck
      obtain ⟨o, ho, hpos, hu, hs⟩ := h.chain ck (hf.recvChainKey.symm.trans hck)
      refine ⟨o, ho.mono hle, ?_, ?_, ?_⟩
      · rw [hf.nRecv]
        exact hpos
      · rw [hf.nRecv]
        exact hu
      · rw [hf.nRecv]
        exact fun e i he => hs e i (hstores e he)
  rcases hf.rootKey with e | ⟨dh, e⟩
  · refine ⟨n, hkeep n (Nat.le_refl n) ?_⟩
    rw [e]
    exact h.root
  · exact ⟨n + 1, hkeep (n + 1) (Nat.le_succ n) ⟨_, dh, h.root, e⟩⟩

/-! ### Receiving -/

/-- The device after it has put aside `gap` keys of its receiving chain `ck` under the ratchet key
`peer`. -/
def Device.skip (P : Primitives K C) (peer ck : K) (gap : ℕ) (d : Device K) : Device K where
  session := { d.session with
    recvChainKey := some (chainKey P ck gap), nRecv := d.session.nRecv + gap }
  skipped := d.skipped.insertAll (skippedKeys P d.session.sessionId peer gap ck d.session.nRecv)

variable {e : DrSkippedMessageKey K}

namespace KeysOnce

variable (h : KeysOnce P used n d)
include h

lemma skip (hkdf : P.IdealKdf) (hck : d.session.recvChainKey = some ck) (peer : K) (gap : ℕ) :
    KeysOnce P used n (d.skip P peer ck gap) := by
  obtain ⟨o, ho, rfl, hu, hs⟩ := h.chain ck hck
  have hnew : ∀ e, (d.skip P peer (chainKey P o d.session.nRecv) gap).Stores e → d.Stores e ∨
      ∃ i < gap, e = ⟨d.session.sessionId, peer, d.session.nRecv + i, messageKeyAt P o (d.session.nRecv + i)⟩ := by
    rintro e ⟨hm, hid⟩
    rcases mem_of_mem_insertAll hm with hm | hm
    · exact .inl ⟨hm, hid⟩
    · obtain ⟨i, hi, rfl⟩ := mem_skippedKeys.1 hm
      refine .inr ⟨i, hi, ?_⟩
      rw [messageKeyAt_chainKey]
  constructor
  case root => exact h.root
  case used_named => exact h.used_named
  case stored_named =>
    intro e he
    rcases hnew e he with he | ⟨i, -, rfl⟩
    · exact h.stored_named e he
    · exact ⟨o, _, ho, rfl⟩
  case stored_unused =>
    intro e he
    rcases hnew e he with he | ⟨i, -, rfl⟩
    · exact h.stored_unused e he
    · intro hk
      have := hu _ hk
      omega
  case stored_once =>
    intro e e' he he' hkey
    rcases hnew e he with he | ⟨i, -, rfl⟩
    · rcases hnew e' he' with he' | ⟨j, -, rfl⟩
      · exact h.stored_once e e' he he' hkey
      · have := hs e _ he hkey
        omega
    · rcases hnew e' he' with he' | ⟨j, -, rfl⟩
      · have := hs e' _ he' hkey.symm
        omega
      · obtain ⟨-, e⟩ := messageKeyAt_inj hkdf ho ho hkey
        rw [e]
  case chain =>
    intro ck' hck'
    obtain rfl := some.inj hck'
    refine ⟨o, ho, chainKey_add _ _ _ _, fun i hi => ?_, fun e i he hkey => ?_⟩
    · exact Nat.lt_of_lt_of_le (hu i hi) (Nat.le_add_right _ _)
    · rcases hnew e he with he | ⟨j, hj, rfl⟩
      · exact Nat.lt_of_lt_of_le (hs e i he hkey) (Nat.le_add_right _ _)
      · obtain ⟨-, rfl⟩ := messageKeyAt_inj hkdf ho ho hkey
        exact Nat.add_lt_add_left hj _

omit [DecidableEq K] in
/-- The Diffie-Hellman step: its chain starts from the current root, below which all earlier chains
lie. -/
lemma ratchet (hkdf : P.IdealKdf) (newPriv senderDh : K) :
    KeysOnce P used (n + 1) { d with session := afterRatchet P newPriv senderDh d.session } := by
  have hle := Nat.le_succ n
  constructor
  case root => exact ⟨_, _, h.root, rfl⟩
  case used_named =>
    intro k hk
    obtain ⟨o, i, ho, e⟩ := h.used_named k hk
    exact ⟨o, i, ho.mono hle, e⟩
  case stored_named =>
    intro e he
    obtain ⟨o, i, ho, e⟩ := h.stored_named e he
    exact ⟨o, i, ho.mono hle, e⟩
  case stored_unused => exact h.stored_unused
  case stored_once => exact h.stored_once
  case chain =>
    intro ck hck
    obtain rfl := some.inj hck
    have ho : Origin P (n + 1) (P.derive (.ratchetSend d.session.rootKey (P.diffieHellman d.session.selfPriv senderDh))) :=
      ⟨n, Nat.lt_succ_self n, _, _, h.root, .inl rfl⟩
    refine ⟨_, ho, rfl, fun i hi => ?_, fun e i he hkey => ?_⟩
    · obtain ⟨o', j, ho', e⟩ := h.used_named _ hi
      exact absurd (messageKeyAt_inj hkdf ho' ho e.symm).1 (ho'.ne_of_rootAt hkdf h.root)
    · obtain ⟨o', j, ho', e⟩ := h.stored_named _ he
      exact absurd (messageKeyAt_inj hkdf ho' ho (e.symm.trans hkey)).1 (ho'.ne_of_rootAt hkdf h.root)

/-- Closing the old chain and taking the Diffie-Hellman step. -/
lemma close (hkdf : P.IdealKdf) (newPriv senderDh : K) (nPrev : ℕ) : KeysOnce P used (n + 1)
      { session := afterRatchet P newPriv senderDh d.session
        skipped := d.skipped.insertAll (closedKeys P d.session nPrev) } := by
  unfold closedKeys
  cases hp : d.session.peerPub with
  | none => exact h.ratchet hkdf newPriv senderDh
  | some oldPeer =>
    cases hck : d.session.recvChainKey with
    | none => exact h.ratchet hkdf newPriv senderDh
    | some ck => exact (h.skip hkdf hck oldPeer (nPrev - d.session.nRecv)).ratchet hkdf newPriv senderDh

omit [DecidableEq K] in
lemma take (hkdf : P.IdealKdf) (hck : d.session.recvChainKey = some ck) :
    (P.kdfCk ck).1 ∉ used ∧ KeysOnce P (insert (P.kdfCk ck).1 used) n { d with
      session := { d.session with
          recvChainKey := some (P.kdfCk ck).2
          nRecv := d.session.nRecv + 1 } } := by
  obtain ⟨o, ho, rfl, hu, hs⟩ := h.chain ck hck
  refine ⟨fun hk => Nat.lt_irrefl _ (hu _ hk), ?_⟩
  constructor
  case root => exact h.root
  case used_named =>
    rintro k (rfl | hk)
    · exact ⟨o, _, ho, rfl⟩
    · exact h.used_named k hk
  case stored_named => exact h.stored_named
  case stored_unused =>
    rintro e he (hk | hk)
    · exact Nat.lt_irrefl _ (hs e _ he hk)
    · exact h.stored_unused e he hk
  case stored_once => exact h.stored_once
  case chain =>
    intro ck' hck'
    obtain rfl := some.inj hck'
    refine ⟨o, ho, (chainKey_succ _ _ _).symm, ?_, fun e i he hk => ?_⟩
    · rintro i (hk | hk)
      · obtain ⟨-, rfl⟩ := messageKeyAt_inj hkdf ho ho hk
        exact Nat.lt_succ_self _
      · exact Nat.lt_succ_of_lt (hu i hk)
    · exact Nat.lt_succ_of_lt (hs e i he hk)

lemma consume (he : d.Stores e) : e.messageKey ∉ used ∧ KeysOnce P (insert e.messageKey used) n
      { d with skipped := d.skipped.delete e.primaryKey } := by
  have hold : ∀ x, Device.Stores { d with skipped := d.skipped.delete e.primaryKey } x → d.Stores x ∧ x ≠ e := by
    intro x hx
    obtain ⟨hm, hne⟩ := mem_delete.1 hx.1
    exact ⟨⟨hm, hx.2⟩, fun hxe => hne (congrArg _ hxe)⟩
  refine ⟨h.stored_unused e he, ?_⟩
  constructor
  case root => exact h.root
  case used_named =>
    rintro k (rfl | hk)
    · exact h.stored_named e he
    · exact h.used_named k hk
  case stored_named => exact fun x hx => h.stored_named x (hold x hx).1
  case stored_unused =>
    rintro x hx (hk | hk)
    · exact (hold x hx).2 (h.stored_once x e (hold x hx).1 he hk)
    · exact h.stored_unused x (hold x hx).1 hk
  case stored_once => exact fun x y hx hy => h.stored_once x y (hold x hx).1 (hold y hy).1
  case chain =>
    intro ck hck
    obtain ⟨o, ho, hpos, hu, hs⟩ := h.chain ck hck
    refine ⟨o, ho, hpos, ?_, fun x i hx => hs x i (hold x hx).1⟩
    rintro i (hk | hk)
    · exact hs e i he hk.symm
    · exact hu i hk

/-- **An accepted wire uses up a key that was never used before.** -/
lemma accept (hkdf : P.IdealKdf) {newPriv : K}
    {wire : DrCiphertextWire K C} {aadExtra : Bytes} {out : DrDecryptOutcome K}
    (hacc : decrypt P newPriv d.session wire d.skipped.rows aadExtra = .ok out) :
    ∃ key m, P.aeadDecrypt key wire.nonce
    (buildAad P d.session.sessionId wire.version wire.senderDh aadExtra) wire.ciphertext = some out.plaintext ∧
    key ∉ used ∧ KeysOnce P (insert key used) m (commitReceive d out) := by
  rcases decrypt_ok_cases hacc with
    ⟨e, he, hid, hpub, hctr, hopen, hout⟩ | ⟨-, -, recvCk, hck, hfits, -, hopen, hout⟩
  · obtain ⟨hnew, hk⟩ := h.consume ⟨he, hid⟩
    refine ⟨e.messageKey, n, hopen, hnew, ?_⟩
    have hkey : e.primaryKey = (d.session.sessionId, wire.senderDh, wire.nSend) := by
      rw [DrSkippedMessageKey.primaryKey, hid, hpub, hctr]
    rw [hkey] at hk
    rw [hout]
    exact hk
  · -- both branches of `receiving` leave a device whose keys are apart
    have hrecv : ∃ m, KeysOnce P used m
        { session := (receiving P newPriv d.session wire).1
          skipped := d.skipped.insertAll (receiving P newPriv d.session wire).2 } := by
      unfold receiving
      split
      · exact ⟨n, h⟩
      · exact ⟨n + 1, h.close hkdf newPriv wire.senderDh wire.nPrev⟩
    obtain ⟨m, hm⟩ := hrecv
    have hskip := hm.skip hkdf hck wire.senderDh (wire.nSend - (receiving P newPriv d.session wire).1.nRecv)
    obtain ⟨hnew, hk⟩ := hskip.take hkdf rfl
    refine ⟨_, m, hopen, hnew, ?_⟩
    have hn : (receiving P newPriv d.session wire).1.nRecv +
        (wire.nSend - (receiving P newPriv d.session wire).1.nRecv) = wire.nSend :=
      Nat.add_sub_of_le hfits.le
    simp only [Device.skip, hn] at hk
    rw [hout]
    simp only [commitReceive, chainOutcome, insertAll_append, chainKey_succ]
    exact hk

/-! ### Runs -/

/-- Along a run the used keys only grow. -/
lemma of_run (hkdf : P.IdealKdf) {d' : Device K} (hrun : Relation.ReflTransGen (Device.Step P) d d') :
    ∃ used' m, used ⊆ used' ∧ KeysOnce P used' m d' := by
  induction hrun with
  | refl => exact ⟨used, n, subset_rfl, h⟩
  | @tail b _ _ hstep ih =>
    obtain ⟨used', m, hsub, h'⟩ := ih
    cases hstep with
    | encrypt newPriv nonce plaintext aadExtra res =>
      have hf := encrypt_frame P newPriv nonce b.session plaintext aadExtra
      rw [res] at hf
      obtain ⟨m', h''⟩ := h'.of_frame hf
      exact ⟨used', m', hsub, h''⟩
    | decrypt newPriv wire aadExtra accepted =>
      obtain ⟨key, m', -, -, h''⟩ := h'.accept hkdf accepted
      exact ⟨insert key used', m', hsub.trans (Set.subset_insert _ _), h''⟩

end KeysOnce

/-- **No replay.** In any run of a session in which every accepted outcome is stored, a wire that
was accepted once is rejected every later time, whatever was accepted in between. -/
theorem accepted_wire_rejected_later (hkdf : P.IdealKdf) (haead : P.IdealAead)
    {d₀ d d' : Device K} (hinit : d₀.Initial P)
    (hrun : Relation.ReflTransGen (Device.Step P) d₀ d) {newPriv : K}
    {wire : DrCiphertextWire K C} {aadExtra : Bytes} {out : DrDecryptOutcome K}
    (hacc : decrypt P newPriv d.session wire d.skipped.rows aadExtra = .ok out)
    (hlater : Relation.ReflTransGen (Device.Step P) (commitReceive d out) d')
    (newPriv' : K) (aadExtra' : Bytes) :
    ∃ e, decrypt P newPriv' d'.session wire d'.skipped.rows aadExtra' = .error e := by
  obtain ⟨n₀, h₀⟩ := keysOnce_initial hinit
  obtain ⟨used, n, -, h⟩ := h₀.of_run hkdf hrun
  obtain ⟨key, m, hopen, -, h₁⟩ := h.accept hkdf hacc
  obtain ⟨used', m', hsub, h'⟩ := h₁.of_run hkdf hlater
  cases hres : decrypt P newPriv' d'.session wire d'.skipped.rows aadExtra' with
  | error e => exact ⟨e, rfl⟩
  | ok out' =>
    obtain ⟨key', -, hopen', hnew, -⟩ := h'.accept hkdf hres
    obtain ⟨rfl, -⟩ := haead _ _ _ _ _ _ _ _ hopen hopen'
    exact absurd (hsub (Set.mem_insert key used)) hnew

def firstWire : DrCiphertextWire Symbol Envelope :=
  wireOf (initInitiator symbolic (.atom 2) "dr" (.atom 0) (.atom 1)) []
    (.message (.ratchetSend (.root (.atom 0)) (.atom 3)), [], buildAad symbolic "dr" wireVersion (.atom 2) [], [7])

/-- The responder accepts it once. -/
theorem firstWire_rejected_later : ∃ (out : DrDecryptOutcome Symbol) (d : Device Symbol),
    d = ⟨initResponder symbolic "dr" (.atom 0) (.atom 1), empty⟩ ∧
    decrypt symbolic (.atom 4) d.session firstWire d.skipped.rows [] = .ok out ∧ out.plaintext = [7] ∧
    ∃ e, decrypt symbolic (.atom 5) (commitReceive d out).session firstWire
      (commitReceive d out).skipped.rows [] = .error e := by
  have hacc : ∃ out, decrypt symbolic (.atom 4) (initResponder symbolic "dr" (.atom 0) (.atom 1))
      firstWire [] [] = .ok out ∧ out.plaintext = [7] := ⟨_, rfl, rfl⟩
  obtain ⟨out, hacc, hplain⟩ := hacc
  refine ⟨out, _, rfl, hacc, hplain, ?_⟩
  refine accepted_wire_rejected_later symbolic_idealKdf symbolic_idealAead ?_ .refl hacc .refl (.atom 5) []
  exact ⟨.inr ⟨_, _, _, rfl⟩, fun e he => absurd he List.not_mem_nil⟩

end PeersTouch.Ratchet
