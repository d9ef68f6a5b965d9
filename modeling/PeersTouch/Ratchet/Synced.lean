import PeersTouch.Ratchet.Turns

/-!
# Two devices in one session

Two devices that share a session, with the wires that have been sent and not yet delivered. A step
encrypts on one side, or delivers one of the wires in flight, in any order; a delivered wire leaves
the flight, and the receiver stores what `decrypt` returned.

For every reachable state there is a history of turns and a place of each peer in it (`Synced`): the
peer that opened the last turn speaks on it, the other one listens to it or has not seen it yet.
Every wire in flight then has one of three places (`Awaits`): its key is stored, it is ahead on the
receiving chain, or it belongs to the turn the receiver has not seen.
-/

namespace PeersTouch.Ratchet

open Lib Turns Function Side List

variable {K C : Type}

/-! ### The system -/

/-- A wire in flight, with what it was made from. -/
structure Transmission (K C : Type) where
  sender : Side
  wire : DrCiphertextWire K C
  (plaintext aadExtra : Bytes)

/-- Two devices and the wires between them; `announced` lists the public keys the sessions have
encrypted under. -/
structure System (K C : Type) where
  device : Side → Device K
  inFlight : List (Transmission K C)
  announced : List K

def System.setDevice (s : System K C) (side : Side) (d : Device K) : System K C :=
  { s with device := Function.update s.device side d }

def System.setSession (s : System K C) (side : Side) (st : DrSessionState K) : System K C :=
  s.setDevice side { s.device side with session := st }

@[simp] lemma System.setDevice_same (s : System K C) (side : Side) (d : Device K) :
    (s.setDevice side d).device side = d :=
  update_self _ _ _

variable {side : Side} {st : DrSessionState K} {t : Turns K} {p : K}
  {r : Except DrError (DrCiphertextWire K C)}

lemma System.setDevice_of_ne (s : System K C) {side' : Side} (d : Device K)
    (h : side' ≠ side) : (s.setDevice side d).device side' = s.device side' :=
  update_of_ne h _ _

open Ratchet.System

lemma System.skipped_setSession (s : System K C) (side side' : Side) (st : DrSessionState K) :
    ((s.setSession side st).device side').skipped = (s.device side').skipped := by
  by_cases hs : side' = side
  · rw [hs, setSession, setDevice_same]
  · rw [setSession, setDevice_of_ne _ _ hs]

@[simp] lemma System.setDevice_setDevice (s : System K C) (side : Side) (d d' : Device K) :
    (s.setDevice side d).setDevice side d' = s.setDevice side d' := by
  simp only [setDevice, update_idem]

/-- Both sides right after initialisation, from one shared secret and one signed prekey. -/
def System.init (P : Primitives K C) (sessionId : String) (sk spk initiatorPriv : K) :
    System K C where
  device
    | .initiator => ⟨initInitiator P initiatorPriv sessionId sk (P.publicKey spk), KeyedTable.empty⟩
    | .responder => ⟨initResponder P sessionId sk spk, KeyedTable.empty⟩
  inFlight := []
  announced := [P.publicKey spk, P.publicKey initiatorPriv]

/-- Encrypting, with the result `r` of the call and the session `st` it leaves. -/
def System.encrypted (s : System K C) (side : Side) (plaintext aadExtra : Bytes)
    (r : Except DrError (DrCiphertextWire K C)) (st : DrSessionState K) : System K C :=
  let t := s.setSession side st
  { t with
    announced := st.selfPub :: s.announced, inFlight := match r with
      | .error _ => s.inFlight
      | .ok wire => { sender := side, wire, plaintext, aadExtra } :: s.inFlight }

variable [DecidableEq K]

/-- The call of `decrypt` that delivers a transmission. -/
def System.receive (P : Primitives K C) (s : System K C) (newPriv : K) (tr : Transmission K C) :
    Except DrError (DrDecryptOutcome K) :=
  let d := s.device tr.sender.other
  decrypt P newPriv d.session tr.wire d.skipped.rows tr.aadExtra

/-- Steps of the two-party session. `OsRng` never gives a key pair whose public key was used
before. -/
inductive System.Step (P : Primitives K C) : System K C → System K C → Prop where
  | encrypt {s : System K C} (side : Side) (newPriv : K) (nonce plaintext aadExtra : Bytes)
      {r : Except DrError (DrCiphertextWire K C)} {st : DrSessionState K}
      (fresh : P.publicKey newPriv ∉ s.announced)
      (result : encrypt P newPriv nonce (s.device side).session plaintext aadExtra = (r, st)) :
      Step P s (s.encrypted side plaintext aadExtra r st)
  | deliver {s : System K C} (i : ℕ) (newPriv : K) {tr : Transmission K C}
      {out : DrDecryptOutcome K} (sent : s.inFlight[i]? = some tr)
      (accepted : s.receive P newPriv tr = .ok out) :
      Step P s { s.setDevice tr.sender.other (commitReceive (s.device tr.sender.other) out) with
        inFlight := s.inFlight.eraseIdx i }

def jumps (st : DrSessionState K) (wire : DrCiphertextWire K C) : ℕ × ℕ :=
  if st.peerPub = some wire.senderDh then (0, wire.nSend - st.nRecv)
  else
    (if st.peerPub.isSome ∧ st.recvChainKey.isSome then wire.nPrev - st.nRecv else 0, wire.nSend)

/-- Delivery of `wire` stays within `MAX_SKIP` for every jump and within `MAX_SKIPPED_TOTAL` stored
keys for the session. A wire whose key is stored asks for no jump. -/
def WithinLimits (d : Device K) (wire : DrCiphertextWire K C) : Prop :=
  d.skipped.hasKey (d.session.sessionId, wire.senderDh, wire.nSend) = true ∨
    ((jumps d.session wire).1 ≤ maxSkip ∧ (jumps d.session wire).2 ≤ maxSkip ∧
      (d.skipped.rows.filter fun k => k.sessionId = d.session.sessionId).length +
        (jumps d.session wire).1 + (jumps d.session wire).2 ≤ maxSkippedTotal)

/-! ### Where the peers are -/

section

variable (P : Primitives K C) (sessionId : String) (sk : K) (count : Turns K → ℕ)

structure Waiting (k : K) (st : DrSessionState K) : Prop where
  sessionId : st.sessionId = sessionId
  rootKey : st.rootKey = (Turns.start k).root P sk
  selfPriv : st.selfPriv = k
  peerPub : st.peerPub = none
  sendChainKey : st.sendChainKey = none
  recvChainKey : st.recvChainKey = none
  nSend : st.nSend = count (.start k)

/-- The peer that opened the turn `next t p` and sends on its chain; it receives on the chain of
`t`. At the last counter the sending chain may be ahead of `nSend`, and nothing is sent any more. -/
structure Speaking (t : Turns K) (p : K) (st : DrSessionState K) : Prop where
  sessionId : st.sessionId = sessionId
  rootKey : st.rootKey = (Turns.next t p).root P sk
  selfPriv : st.selfPriv = p
  selfPub : st.selfPub = P.publicKey p
  peerPub : st.peerPub = some (P.publicKey t.key)
  sendChainKey : ∃ ck, st.sendChainKey = some ck ∧
    (st.nSend + 1 < 2 ^ 32 → ck = chainKey P (t.chain P sk p) st.nSend)
  recvChainKey : ∃ ck, st.recvChainKey = some ck ∧
    ∀ t' p', t = .next t' p' → ck = chainKey P (t'.chain P sk p') st.nRecv
  nSend : st.nSend = count (.next t p)
  nPrev : st.nPrev = (Turns.next t p).prevCount count
  nRecv : st.nRecv ≤ count t

/-- The peer that has seen the turn `next t p` of the other one and has not answered it. -/
structure Listening (t : Turns K) (p : K) (st : DrSessionState K) : Prop where
  sessionId : st.sessionId = sessionId
  rootKey : st.rootKey = (Turns.next t p).root P sk
  peerPub : st.peerPub = some (P.publicKey p)
  sendChainKey : st.sendChainKey = none
  recvChainKey : st.recvChainKey = some (chainKey P (t.chain P sk p) st.nRecv)
  nSend : st.nSend = count t
  nRecv : st.nRecv ≤ count (.next t p)

/-- The session of `side`, for which `u` is the last turn it knows of. -/
def PartyAt (side : Side) : Turns K → DrSessionState K → Prop
  | .start k, st => side = .responder ∧ Waiting P sessionId sk count k st
  | .next t p, st =>
    (side = (Turns.next t p).owner ∧ Speaking P sessionId sk count t p st) ∨
    (side = (Turns.next t p).owner.other ∧ Listening P sessionId sk count t p st)

/-- A transmission is message `nSend` of the turn `next t p`. -/
structure SealedOn (t : Turns K) (p : K) (tr : Transmission K C) : Prop where
  sender : tr.sender = (Turns.next t p).owner
  version : tr.wire.version = wireVersion
  senderDh : tr.wire.senderDh = P.publicKey p
  nPrev : tr.wire.nPrev = (Turns.next t p).prevCount count
  nSend : tr.wire.nSend < count (.next t p)
  ciphertext : P.aeadEncrypt (messageKeyAt P (t.chain P sk p) tr.wire.nSend) tr.wire.nonce
    (buildAad P sessionId wireVersion (P.publicKey p) tr.aadExtra) tr.plaintext =
      some tr.wire.ciphertext

/-- The three places of a wire of the turn `next t p` for its receiver `d`, which knows the turns up
to `known`: its key is stored, it is ahead on the receiving chain, or its turn is still to come. -/
def Awaits (d : Device K) (known t : Turns K) (p : K) (nSend : ℕ) : Prop :=
  d.skipped.hasKey (sessionId, P.publicKey p, nSend) = true ∨
    ((known = .next t p ∨ ∃ q, known = .next (.next t p) q) ∧ d.session.nRecv ≤ nSend) ∨ known = t

def StoredOn (u : Turns K) (e : DrSkippedMessageKey K) : Prop :=
  e.sessionId = sessionId ∧ ∃ t p, (Turns.next t p).Within u ∧ e.peerPub = P.publicKey p ∧
    e.messageKey = messageKeyAt P (t.chain P sk p) e.counter

/-- The joint invariant: the history `u`, the last turn each side knows of and the number of
messages of each turn. -/
structure Synced (u : Turns K) (known : Side → Turns K) (s : System K C) : Prop where
  distinct : u.Distinct P
  announced : ∀ v : Turns K, v.Within u → P.publicKey v.key ∈ s.announced
  opener : known u.owner = u
  answerer : known u.owner.other = u ∨ ∃ p, u = .next (known u.owner.other) p
  party : ∀ side, PartyAt P sessionId sk count side (known side) (s.device side).session
  stored : ∀ side, ∀ e ∈ (s.device side).skipped.rows, StoredOn P sessionId sk u e
  sent : ∀ tr ∈ s.inFlight, ∃ t p, (Turns.next t p).Within u ∧
    SealedOn P sessionId sk count t p tr ∧
    Awaits P sessionId (s.device tr.sender.other) (known tr.sender.other) t p tr.wire.nSend
  once : s.inFlight.Pairwise fun a b => (a.wire.senderDh, a.wire.nSend) ≠ (b.wire.senderDh, b.wire.nSend)
  start : ∀ k, count (.start k) = 0
  width : ∀ v : Turns K, v.Within u → count v < 2 ^ 32

end

variable {P : Primitives K C} {sessionId : String} {sk : K} {count count' : Turns K → ℕ}
  {u : Turns K} {known : Side → Turns K} {s : System K C}

/-! ### Changing the counts -/

omit [DecidableEq K] in
/-- A party only sees the counts up to the last turn it knows of, exactly on its own turns and as
upper bounds on the other's. -/
lemma PartyAt.congr_count (hown : ∀ x : Turns K, x.owner = side → x.depth ≤ u.depth → count' x = count x)
    (hle : ∀ x : Turns K, x.depth ≤ u.depth → count x ≤ count' x)
    (h : PartyAt P sessionId sk count side u st) : PartyAt P sessionId sk count' side u st := by
  cases u with
  | start k =>
    obtain ⟨hs, hw⟩ := h
    have e : count' (.start k) = count (.start k) := hown _ hs.symm (Nat.le_refl _)
    exact ⟨hs, { hw with nSend := hw.nSend.trans e.symm }⟩
  | next t p =>
    rcases h with ⟨hs, hp⟩ | ⟨hs, hl⟩
    · have e1 : count' (.next t p) = count (.next t p) := hown _ hs.symm (Nat.le_refl _)
      have e2 : (next t p).prevCount count' = (next t p).prevCount count := by
        apply prevCount_congr
        intro x hx ho
        exact hown x (ho.trans hs.symm) (by omega)
      have e3 : count t ≤ count' t := hle t (Nat.le_succ _)
      exact .inl ⟨hs, { hp with
        nSend := hp.nSend.trans e1.symm, nPrev := hp.nPrev.trans e2.symm
        nRecv := Nat.le_trans hp.nRecv e3 }⟩
    · have ho : t.owner = side := by
        rw [hs]
        exact t.owner.other_other.symm
      have e1 : count' t = count t := hown t ho (Nat.le_succ _)
      have e2 : count (.next t p) ≤ count' (.next t p) := hle _ (Nat.le_refl _)
      exact .inr ⟨hs, { hl with
        nSend := hl.nSend.trans e1.symm, nRecv := Nat.le_trans hl.nRecv e2 }⟩

omit [DecidableEq K] in
lemma SealedOn.congr_count {tr : Transmission K C} (hold : ∀ x : Turns K, x.depth + 2 = (next t p).depth →
    count' x = count x) (hle : count (.next t p) ≤ count' (.next t p)) (h : SealedOn P sessionId sk count t p tr) :
    SealedOn P sessionId sk count' t p tr :=
  { h with
    nPrev := h.nPrev.trans (prevCount_congr fun x hx _ => hold x hx).symm, nSend := Nat.lt_of_lt_of_le h.nSend hle }

/-! ### Where the sides are -/

section

variable (h : Synced P sessionId sk count u known s)
include h

lemma Synced.known_cases (side : Side) : known side = u ∨ side = u.owner.other ∧ ∃ p, u = .next (known side) p := by
  by_cases hs : side = u.owner
  · rw [hs]
    exact .inl h.opener
  · obtain rfl := eq_other_of_ne hs
    rcases h.answerer with ha | ha
    · exact .inl ha
    · exact .inr ⟨rfl, ha⟩

lemma Synced.depth_le_known (side : Side) : u.depth ≤ (known side).depth + 1 := by
  rcases h.known_cases side with e | ⟨-, p, e⟩
  · rw [e]
    exact Nat.le_succ _
  · rw [congrArg depth e]
    exact Nat.le_refl _

lemma Synced.known_within (side : Side) : (known side).Within u := by
  rcases h.known_cases side with e | ⟨-, p, e⟩
  · rw [e]
    exact Turns.Within.refl u
  · rw [e]
    exact .inr (Turns.Within.refl _)

lemma Synced.eq_next_known (hw : (next t p).Within u) (hk : known side = t) : u = .next t p := by
  have hd : u.depth ≤ (known side).depth + 1 := h.depth_le_known _
  rw [hk] at hd
  exact (hw.eq_of_depth_le hd).symm

lemma Synced.announce {l : List K} (hl : ∀ k ∈ s.announced, k ∈ l) :
    Synced P sessionId sk count u known { s with announced := l } :=
  { h with announced := fun v hv => hl _ (h.announced v hv) }

end

/-! ### Encrypting -/

lemma Synced.listening_last (h : Synced P sessionId sk count u known s)
    (hk : known side = .next t p) (ho : side = (next t p).owner.other) : u = .next t p := by
  rcases h.known_cases side with e | ⟨hs, q, e⟩
  · exact e.symm.trans hk
  · -- the opener of the unseen turn would be `side` itself
    exfalso
    rw [hk] at e
    rw [e] at hs
    have e2 : (next (next t p) q).owner.other = (next t p).owner := other_other _
    rw [e2] at hs
    exact other_ne _ (ho.symm.trans hs)

omit [DecidableEq K] in
/-- The Diffie-Hellman step of `encrypt` makes a listening side speak. -/
lemma Listening.ratchetSend (hl : Listening P sessionId sk count t p st) (newPriv : K) (ht : count' t = count t)
    (hp : count' (.next t p) = count (.next t p)) (h0 : count' (.next (.next t p) newPriv) = 0) :
    Speaking P sessionId sk count' (.next t p) newPriv (ratchetSend P newPriv (P.publicKey p) st) := by
  constructor
  case sessionId => exact hl.sessionId
  case rootKey => simp only [Ratchet.ratchetSend, root, hl.rootKey, Turns.key]
  case selfPriv => rfl
  case selfPub => rfl
  case peerPub => exact hl.peerPub
  case sendChainKey =>
    refine ⟨_, rfl, fun _ => ?_⟩
    rw [hl.rootKey]
    rfl
  case recvChainKey =>
    refine ⟨_, hl.recvChainKey, ?_⟩
    intro t' p' e
    obtain ⟨rfl, rfl⟩ := next.inj e
    rfl
  case nSend => exact h0.symm
  case nPrev => exact hl.nSend.trans ht.symm
  case nRecv =>
    rw [hp]
    exact hl.nRecv

variable {newPriv : K}

/-- Opening a turn: the listening side takes the Diffie-Hellman step of `encrypt`. -/
lemma Synced.rotate (h : Synced P sessionId sk count (.next t p) known s)
    (hk : known side = .next t p) (hside : side = (next t p).owner.other)
    (hl : Listening P sessionId sk count t p (s.device side).session) (hnew : P.publicKey newPriv ∉ s.announced) :
    Synced P sessionId sk (update count (.next (.next t p) newPriv) 0)
      (.next (.next t p) newPriv) (update known side (.next (.next t p) newPriv))
      { s.setSession side (ratchetSend P newPriv (P.publicKey p) (s.device side).session) with
        announced := P.publicKey newPriv :: s.announced } := by
  have hcnt : ∀ x : Turns K, x.depth ≤ (next t p).depth → update count (.next (.next t p) newPriv) 0 x = count x := by
    intro x hx
    apply update_of_ne
    rintro rfl
    exact Nat.not_succ_le_self _ hx
  have hoth : (next t p).owner ≠ side := by
    rw [hside]
    exact (other_ne _).symm
  constructor
  case distinct => exact ⟨fun v hv e => hnew (e ▸ h.announced v hv), h.distinct⟩
  case announced =>
    rintro v (rfl | hv)
    · exact mem_cons_self
    · exact mem_cons_of_mem _ (h.announced v hv)
  case opener =>
    rw [show (next (next t p) newPriv).owner = side from hside.symm]
    exact update_self _ _ _
  case answerer =>
    right
    refine ⟨newPriv, ?_⟩
    rw [show (next (next t p) newPriv).owner.other = (next t p).owner from other_other _, update_of_ne hoth, h.opener]
  case party =>
    intro side'
    by_cases hs : side' = side
    · subst hs
      rw [update_self]
      refine .inl ⟨hside, ?_⟩
      simp only [setSession, setDevice_same]
      exact hl.ratchetSend newPriv (hcnt _ (Nat.le_succ _)) (hcnt _ (Nat.le_refl _)) (update_self _ _ _)
    · rw [update_of_ne hs]
      simp only [setSession, setDevice_of_ne _ _ hs]
      have hd := (h.known_within side').depth_le
      exact (h.party side').congr_count (fun x _ hx => hcnt x (Nat.le_trans hx hd))
        (fun x hx => Nat.le_of_eq (hcnt x (Nat.le_trans hx hd)).symm)
  case stored =>
    intro side' e he
    obtain ⟨h1, t', p', hw, h2⟩ := h.stored side' e (skipped_setSession s side side' _ ▸ he)
    exact ⟨h1, t', p', .inr hw, h2⟩
  case sent =>
    intro tr htr
    obtain ⟨t', p', hw, hseal, hplace⟩ := h.sent tr htr
    have hd := hw.depth_le
    refine ⟨t', p', .inr hw, hseal.congr_count (fun x hx => hcnt x (by omega)) (Nat.le_of_eq (hcnt _ hd).symm), ?_⟩
    by_cases hs : tr.sender.other = side
    · rw [hs] at hplace ⊢
      rw [hk] at hplace
      rw [update_self]
      simp only [setSession, setDevice_same]
      rcases hplace with hst | ⟨e | ⟨q, e⟩, hn⟩ | e
      · exact .inl hst
      · exact .inr (.inl ⟨.inr ⟨newPriv, by rw [e]⟩, hn⟩)
      · -- the wire would be the receiver's own
        exfalso
        rw [e] at hside
        have e2 : (next (next t' p') q).owner.other = tr.sender := by
          rw [hseal.sender]
          exact other_other _
        exact other_ne _ (hs.trans (hside.trans e2))
      · exfalso
        rw [← e] at hd
        exact Nat.not_succ_le_self _ hd
    · rw [update_of_ne hs]
      simp only [setSession, setDevice_of_ne _ _ hs]
      exact hplace
  case once => exact h.once
  case start =>
    intro k
    exact h.start k
  case width =>
    rintro v (rfl | hv)
    · rw [update_self]
      exact Nat.two_pow_pos 32
    · rw [hcnt v hv.depth_le]
      exact h.width v hv

section

variable (h : Synced P sessionId sk count u known s)
include h

/-- A speaking side replaces its session and may count more messages on its own turn. -/
lemma Synced.resume (ho : (known side).owner = side) (hcnt : ∀ x : Turns K, x ≠ known side → count' x = count x)
    (hle : count (known side) ≤ count' (known side)) (hstart : ∀ k, count' (.start k) = 0)
    (hwidth : count' (known side) < 2 ^ 32) (hp : PartyAt P sessionId sk count' side (known side) st)
    (hn : st.nRecv = (s.device side).session.nRecv) : Synced P sessionId sk count' u known (s.setSession side st) := by
  have hmono : ∀ x : Turns K, count x ≤ count' x := by
    intro x
    by_cases hx : x = known side
    · rw [hx]
      exact hle
    · exact Nat.le_of_eq (hcnt x hx).symm
  constructor
  case distinct => exact h.distinct
  case announced => exact h.announced
  case opener => exact h.opener
  case answerer => exact h.answerer
  case party =>
    intro side'
    by_cases hs : side' = side
    · subst hs
      simp only [setSession, setDevice_same]
      exact hp
    · simp only [setSession, setDevice_of_ne _ _ hs]
      refine (h.party side').congr_count (fun x hx _ => hcnt x ?_) (fun x _ => hmono x)
      rintro rfl
      exact hs (hx.symm.trans ho)
  case stored => exact fun side' e he => h.stored side' e (skipped_setSession s side side' st ▸ he)
  case sent =>
    intro tr htr
    obtain ⟨t', p', hw, hseal, hplace⟩ := h.sent tr htr
    refine ⟨t', p', hw, hseal.congr_count (fun x hx => hcnt x ?_) (hmono _), ?_⟩
    · -- a turn two below the top is older than anything a side still speaks on
      rintro rfl
      have h1 := hw.depth_le
      have h2 := h.depth_le_known side
      omega
    · by_cases hs : tr.sender.other = side
      · rw [hs] at hplace ⊢
        unfold Awaits at hplace ⊢
        simp only [setSession, setDevice_same, hn]
        exact hplace
      · simp only [setSession, setDevice_of_ne _ _ hs]
        exact hplace
  case once => exact h.once
  case start => exact hstart
  case width =>
    intro v hv
    by_cases hx : v = known side
    · rw [hx]
      exact hwidth
    · rw [hcnt v hx]
      exact h.width v hv

/-- The other side's place when `side` speaks on the turn `next t p`: it listens, has not seen the
turn, or has answered it. -/
lemma Synced.known_other (hk : known side = .next t p) (ho : side = (next t p).owner) :
    (known side.other = .next t p ∨ ∃ q, known side.other = .next (.next t p) q) ∨ known side.other = t := by
  rcases h.known_cases side with e | ⟨-, q, e⟩
  · rw [hk] at e
    rw [← e] at h
    have hans := h.answerer
    rw [← ho] at hans
    rcases hans with e' | ⟨p', e'⟩
    · exact .inl (.inl e')
    · exact .inr (next.inj e').1.symm
  · rw [hk] at e
    have hown : u.owner = side.other := by
      rw [e, ho]
      rfl
    have hop := h.opener
    rw [hown] at hop
    exact .inl (.inr ⟨q, hop.trans e⟩)

end

/-- A side that receives on the chain of the turn `next t p`. -/
structure Receiving (P : Primitives K C) (sk : K) (count : Turns K → ℕ) (t : Turns K) (p : K)
    (st : DrSessionState K) : Prop where
  peerPub : st.peerPub = some (P.publicKey p)
  recvChainKey : st.recvChainKey = some (chainKey P (t.chain P sk p) st.nRecv)
  nRecv : st.nRecv ≤ count (.next t p)

/-- The listener of a turn and the one who has answered it receive on its chain. -/
lemma Synced.receivesOn (h : Synced P sessionId sk count u known s)
    (hk : known side = .next t p ∨ ∃ q, known side = .next (.next t p) q) (ho : side = (next t p).owner.other) :
    Receiving P sk count t p (s.device side).session := by
  have hp := h.party side
  rcases hk with hk | ⟨q, hk⟩
  · rw [hk] at hp
    rcases hp with ⟨hs, -⟩ | ⟨-, hl⟩
    · exact absurd (ho.symm.trans hs) (other_ne _)
    · exact ⟨hl.peerPub, hl.recvChainKey, hl.nRecv⟩
  · rw [hk] at hp
    rcases hp with ⟨-, hs⟩ | ⟨hs, -⟩
    · obtain ⟨ck, hck, e⟩ := hs.recvChainKey
      rw [e t p rfl] at hck
      exact ⟨hs.peerPub, hck, hs.nRecv⟩
    · exact absurd (ho.symm.trans hs).symm (other_ne _)

variable {nonce plaintext aadExtra : Bytes}

lemma Synced.speak (h : Synced P sessionId sk count u known s) (hk : known side = .next t p) (ho : side = (next t p).owner)
    (hs : Speaking P sessionId sk count t p (s.device side).session)
    (hr : encryptOnChain P nonce (s.device side).session plaintext aadExtra = (r, st)) :
    ∃ count', Synced P sessionId sk count' u known (s.encrypted side plaintext aadExtra r st) := by
  obtain ⟨ck, hck, hch⟩ := hs.sendChainKey
  have hw : (next t p).Within u := hk ▸ h.known_within side
  have hkeep : ∀ st', Speaking P sessionId sk count t p st' → st'.nRecv = (s.device side).session.nRecv →
      Synced P sessionId sk count u known (s.setSession side st') := by
    intro st' hst hn
    refine h.resume (by rw [hk]; exact ho.symm) (fun _ _ => rfl) (Nat.le_refl _) h.start ?_ ?_ hn
    · rw [hk]
      exact h.width _ hw
    · rw [hk]
      exact .inl ⟨ho, hst⟩
  rcases encryptOnChain_cases P nonce plaintext aadExtra hck with
    ⟨e, he⟩ | ⟨e, hwide, he⟩ | ⟨ct, hwide, hct, he⟩
  · obtain ⟨rfl, rfl⟩ := Prod.mk.inj (hr.symm.trans he)
    exact ⟨count, (hkeep _ hs rfl).announce fun _ => mem_cons_of_mem _⟩
  · obtain ⟨rfl, rfl⟩ := Prod.mk.inj (hr.symm.trans he)
    have hst : Speaking P sessionId sk count t p
        { (s.device side).session with sendChainKey := some (P.kdfCk ck).2 } :=
      { hs with sendChainKey := ⟨_, rfl, fun hlt => absurd hlt (Nat.not_lt.2 hwide)⟩ }
    exact ⟨count, (hkeep _ hst rfl).announce fun _ => mem_cons_of_mem _⟩
  · obtain ⟨rfl, rfl⟩ := Prod.mk.inj (hr.symm.trans he)
    -- the turn has one message more
    let count' := update count (.next t p) (count (.next t p) + 1)
    have hself : count' (.next t p) = count (.next t p) + 1 := update_self _ _ _
    have hne : ∀ x : Turns K, x ≠ .next t p → count' x = count x := fun x hx => update_of_ne hx _ _
    have hprev : (next t p).prevCount count' = (next t p).prevCount count := by
      apply prevCount_congr
      intro x hx _
      apply hne
      rintro rfl
      omega
    have hstate : Synced P sessionId sk count' u known (s.setSession side
      { (s.device side).session with
        sendChainKey := some (P.kdfCk ck).2, nSend := (s.device side).session.nSend + 1 }) := by
      refine h.resume (by rw [hk]; exact ho.symm) (by rw [hk]; exact hne)
        (by rw [hk, hself]; exact Nat.le_succ _) (fun k => ?_) ?_ ?_ rfl
      · exact h.start k
      · rw [hk, hself, ← hs.nSend]
        exact hwide
      · rw [hk]
        refine .inl ⟨ho, { hs with
          sendChainKey := ⟨_, rfl, fun _ => ?_⟩, nSend := by rw [hself, ← hs.nSend]
          nPrev := hs.nPrev.trans hprev.symm, nRecv := ?_ }⟩
        · rw [chainKey_succ, ← hch hwide]
        · rw [hne t (by intro e; exact absurd (congrArg depth e) (Nat.succ_ne_self _).symm)]
          exact hs.nRecv
    refine ⟨count', { hstate with
      sent := forall_mem_cons.2 ⟨⟨t, p, hw, ?_, ?_⟩, hstate.sent⟩, once := pairwise_cons.2 ⟨?_, hstate.once⟩
      announced := fun v hv => mem_cons_of_mem _ (hstate.announced v hv) }⟩
    · exact
        { sender := ho, version := rfl, senderDh := hs.selfPub, nPrev := hs.nPrev.trans hprev.symm, nSend := by
            rw [hself, ← hs.nSend]
            exact Nat.lt_succ_self _
          ciphertext := by
            rw [hs.sessionId, hs.selfPub] at hct
            rw [messageKeyAt]
            dsimp only [wireOf]
            rw [← hch hwide]
            exact hct }
    · rcases h.known_other hk ho with hrecv | e
      · have hle := (h.receivesOn hrecv (by rw [ho])).nRecv
        refine .inr (.inl ⟨hrecv, ?_⟩)
        dsimp only [wireOf]
        simp only [encrypted, setSession, setDevice_of_ne _ _ (other_ne side)]
        rw [hs.nSend]
        exact hle
      · exact .inr (.inr e)
    · intro b hb e
      obtain ⟨e1, e2⟩ := Prod.mk.inj e
      obtain ⟨t', p', hw', hseal, -⟩ := h.sent b hb
      have hsame : next t p = next t' p' := by
        refine hw.eq_of_publicKey_eq h.distinct hw' ?_
        exact hs.selfPub.symm.trans (e1.trans hseal.senderDh)
      have hlt := hseal.nSend
      rw [← hsame, ← e2, ← hs.nSend] at hlt
      exact Nat.lt_irrefl _ hlt

/-- A listening side opens a turn and sends its first message. -/
lemma Synced.answer (h : Synced P sessionId sk count (.next t p) known s)
    (hk : known side = .next t p) (ho : side = (next t p).owner.other)
    (hl : Listening P sessionId sk count t p (s.device side).session) (hnew : P.publicKey newPriv ∉ s.announced)
    (hr : encryptOnChain P nonce (ratchetSend P newPriv (P.publicKey p) (s.device side).session)
    plaintext aadExtra = (r, st)) : ∃ count', Synced P sessionId sk count' (.next (.next t p) newPriv)
    (update known side (.next (.next t p) newPriv)) (s.encrypted side plaintext aadExtra r st) := by
  have hrot := h.rotate hk ho hl hnew
  have hst : st.selfPub = P.publicKey newPriv := by
    rw [← congrArg (fun x => x.2.selfPub) hr]
    exact encryptOnChain_selfPub P nonce plaintext aadExtra rfl
  have hsp := hrot.party side
  rw [update_self] at hsp
  rcases hsp with ⟨-, hs⟩ | ⟨ho', -⟩
  · have hr' : encryptOnChain P nonce ((s.setSession side (Ratchet.ratchetSend P newPriv
      (P.publicKey p) (s.device side).session)).device side).session plaintext aadExtra = (r, st) := by
      rw [setSession, setDevice_same]
      exact hr
    obtain ⟨count', h'⟩ := hrot.speak (update_self _ _ _) ho hs hr'
    have e : s.encrypted side plaintext aadExtra r st = { encrypted { s.setSession side
            (ratchetSend P newPriv (P.publicKey p) (s.device side).session) with
          announced := P.publicKey newPriv :: s.announced }
        side plaintext aadExtra r st with
      announced := P.publicKey newPriv :: s.announced } := by
      simp only [encrypted, setSession, setDevice, update_self, update_idem, hst]
    refine ⟨count', ?_⟩
    rw [e]
    apply h'.announce
    intro k hk'
    have hk'' : k ∈ st.selfPub :: P.publicKey newPriv :: s.announced := hk'
    simpa [hst] using hk''
  · exact absurd (ho.symm.trans ho') (other_ne _).symm

/-- Every call of `encrypt` keeps the joint invariant. -/
lemma Synced.encrypt (h : Synced P sessionId sk count u known s) (hnew : P.publicKey newPriv ∉ s.announced)
    (hr : encrypt P newPriv nonce (s.device side).session plaintext aadExtra = (r, st)) :
    ∃ count' u' known', Synced P sessionId sk count' u' known' (s.encrypted side plaintext aadExtra r st) := by
  have hp := h.party side
  cases hk : known side with
  | start k =>
    -- the responder has nothing to send on yet: an error, and the state stays
    rw [hk] at hp
    obtain ⟨hs, hw⟩ := hp
    rw [encrypt_of_none hw.sendChainKey hw.peerPub] at hr
    obtain ⟨rfl, rfl⟩ := Prod.mk.inj hr
    have hsame : Synced P sessionId sk count u known (s.setSession side (s.device side).session) := by
      refine h.resume (by rw [hk, hs]; rfl) (fun _ _ => rfl) (Nat.le_refl _) h.start ?_ (h.party side) rfl
      exact h.width _ (h.known_within side)
    exact ⟨count, u, known, hsame.announce fun _ => mem_cons_of_mem _⟩
  | next t p =>
    rw [hk] at hp
    rcases hp with ⟨ho, hs⟩ | ⟨ho, hl⟩
    · obtain ⟨ck, hck, -⟩ := hs.sendChainKey
      rw [encrypt_of_chain hck] at hr
      obtain ⟨count', h'⟩ := h.speak hk ho hs hr
      exact ⟨count', u, known, h'⟩
    · obtain rfl := h.listening_last hk ho
      rw [encrypt_of_peer hl.sendChainKey hl.peerPub] at hr
      obtain ⟨count', h'⟩ := h.answer hk ho hl hnew hr
      exact ⟨count', _, _, h'⟩

end PeersTouch.Ratchet
