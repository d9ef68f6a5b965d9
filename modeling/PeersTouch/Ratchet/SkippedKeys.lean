import PeersTouch.Ratchet.Replay

/-!
# Headers and skipped keys

The AAD of a wire covers the session, the version and the ratchet key, but not the two counters of the
header. `n_send` decides which key opens the wire, but `n_prev` only says how far the old receiving chain
is closed on a Diffie-Hellman turn. So whoever carries the wire can edit it, unless no room for a skipped
key is left (`nPrev_sealed_iff`).

The stored keys of a session stay within `MAX_SKIPPED_TOTAL` and are told apart by ratchet key and counter.
Those under the current ratchet key are below `n_recv` as long as no wire brings back a ratchet key under
which keys with higher counters are stored (`skipped_keys_of_run`).
-/

namespace PeersTouch.Ratchet

open Lib List KeyedTable Option DrSkippedMessageKey

variable {K C : Type} [DecidableEq K] {P : Primitives K C} {newPriv : K} {state : DrSessionState K}
  {wire : DrCiphertextWire K C} {pre : List (DrSkippedMessageKey K)} {aadExtra : Bytes}
  {out : DrDecryptOutcome K}

/-! ### The previous chain length -/

structure DrSessionState.Closes (state : DrSessionState K) (wire : DrCiphertextWire K C)
    (pre : List (DrSkippedMessageKey K)) : Prop where
  fresh : pre.find? (isStoredFor state wire) = none
  turn : state.peerPub ≠ some wire.senderDh
  peer : state.peerPub ≠ none
  chain : state.recvChainKey ≠ none

lemma decrypt_nPrev_of_not_closes (h : ¬state.Closes wire pre) (nPrev : ℕ) :
    decrypt P newPriv state { wire with nPrev } pre aadExtra =
    decrypt P newPriv state wire pre aadExtra := by
  unfold decrypt
  split
  · rfl
  · cases hfd : pre.find? (isStoredFor state wire) with
    | some sk =>
      unfold isStoredFor at hfd
      simp only [hfd]
    | none =>
      have hnew := hfd
      split
      · rfl
      · next hturn =>
        have hrat : ratchetReceive P newPriv state { wire with nPrev } pre =
            ratchetReceive P newPriv state wire pre := by
          unfold ratchetReceive
          cases hpeer : state.peerPub with
          | none => rfl
          | some oldPeer =>
            cases hch : state.recvChainKey with
            | none => rfl
            | some recvCk => exact absurd ⟨hnew, hturn, by simp [hpeer], by simp [hch]⟩ h
        rw [hrat]
        rfl

/-- A wire that closes a chain is opened if `n_prev` and `n_send` are within the bounds. -/
lemma DrSessionState.Closes.decrypt_iff (h : state.Closes wire pre) (hver : wire.version = wireVersion)
    {plain : Bytes} {nPrev : ℕ} (hwidth : nPrev < 2 ^ 32) (hnSend : wire.nSend + 1 < 2 ^ 32)
    (hopen : P.aeadDecrypt (messageKeyAt P (P.kdfRk state.rootKey
    (P.diffieHellman state.selfPriv wire.senderDh)).2.2 wire.nSend) wire.nonce
    (buildAad P state.sessionId wire.version wire.senderDh aadExtra) wire.ciphertext = some plain) :
    (∃ out, decrypt P newPriv state { wire with nPrev } pre aadExtra = .ok out) ↔
    (state.nRecv ≤ nPrev ∧ nPrev - state.nRecv ≤ maxSkip) ∧ wire.nSend ≤ maxSkip ∧
    nPrev - state.nRecv + countSkippedForSession pre state.sessionId + wire.nSend ≤
    maxSkippedTotal := by
  obtain ⟨oldPeer, hpeer⟩ := ne_none_iff_exists'.1 h.peer
  obtain ⟨recvCk, hch⟩ := ne_none_iff_exists'.1 h.chain
  have hlen : (closedKeys P state nPrev).length = nPrev - state.nRecv := by
    simp [closedKeys, hpeer, hch, length_skippedKeys]
  have hcnt : countSkippedForSession pre state.sessionId < 2 ^ 32 := Nat.mod_lt _ (by decide)
  have hrecv : receiving P newPriv state { wire with nPrev } =
      (afterRatchet P newPriv wire.senderDh state, closedKeys P state nPrev) := if_neg h.turn
  constructor
  · rintro ⟨out, hacc⟩
    rcases decrypt_ok_cases hacc with ⟨sk, hsk, hsto⟩ | ⟨-, hclos, ck, -, hfits, -⟩
    · have hno := find?_eq_none.1 h.fresh sk hsk
      simp [isStoredFor, hsto.1, hsto.2.1, hsto.2.2.1] at hno
    · have hclose := hclos h.turn oldPeer recvCk hpeer hch
      rw [hrecv] at hfits
      have hgap : wire.nSend ≤ maxSkip := hfits.gap
      have htot := hfits.total
      simp only [asU32, afterRatchet] at htot
      refine ⟨⟨hclose.le, hclose.gap⟩, hgap, ?_⟩
      have hsmall := hclose.gap
      have htot' := hclose.total
      simp only [length_nil, asU32] at htot' hsmall
      unfold maxSkip maxSkippedTotal at *
      omega
  · rintro ⟨⟨hle, hgap⟩, hjump, htot⟩
    have hclos : state.Closable nPrev pre := by
      intro _ ck _ _
      refine ⟨hle, hgap, ?_⟩
      simp only [length_nil, asU32]
      omega
    have hrat : ratchetReceive P newPriv state { wire with nPrev } pre = _ :=
      ratchetReceive_eq hclos fun _ => hwidth
    have hnew : decrypt P newPriv state { wire with nPrev } pre aadExtra = _ :=
      decrypt_of_new hver h.fresh h.turn hrat
    rw [hnew]
    refine ⟨_, decryptOnChain_eq rfl ⟨Nat.zero_le _, hjump, ?_⟩ hnSend hopen⟩
    simp only [asU32, afterRatchet]
    omega

lemma DrSessionState.Closes.opened (h : state.Closes wire pre)
    (hacc : decrypt P newPriv state wire pre aadExtra = .ok out) : wire.version = wireVersion ∧ wire.nSend + 1 < 2 ^ 32 ∧
    P.aeadDecrypt (messageKeyAt P (P.kdfRk state.rootKey
    (P.diffieHellman state.selfPriv wire.senderDh)).2.2 wire.nSend) wire.nonce
    (buildAad P state.sessionId wire.version wire.senderDh aadExtra) wire.ciphertext = some out.plaintext := by
  refine ⟨?_, ?_⟩
  · by_contra hver
    rw [decrypt, if_pos hver] at hacc
    cases hacc
  · rcases decrypt_ok_cases hacc with ⟨sk, hsk, hsto⟩ | ⟨-, -, ck, hck, -, hnSend, hopen, -⟩
    · have hno := find?_eq_none.1 h.fresh sk hsk
      simp [isStoredFor, hsto.1, hsto.2.1, hsto.2.2.1] at hno
    · have hrecv : receiving P newPriv state wire =
          (afterRatchet P newPriv wire.senderDh state, closedKeys P state wire.nPrev) := if_neg h.turn
      rw [hrecv] at hck hopen
      obtain rfl := some.inj hck
      exact ⟨hnSend, hopen⟩

/-- **When `n_prev` is authentic.**  From the state that accepts a wire, all wires that differ from it in `n_prev`
alone are refused exactly if it closes a receiving chain of which no further key can be put aside: `n_recv` is at
its last value, or the stored keys and those that `n_send` skips fill the budget of the session. -/
theorem nPrev_sealed_iff (hacc : decrypt P newPriv state wire pre aadExtra = .ok out) (hwidth : wire.nPrev < 2 ^ 32) :
    (∀ nPrev < 2 ^ 32, nPrev ≠ wire.nPrev → ∀ newPriv', ∃ e,
        decrypt P newPriv' state { wire with nPrev } pre aadExtra = .error e) ↔
      state.Closes wire pre ∧ (2 ^ 32 ≤ state.nRecv + 1 ∨
        countSkippedForSession pre state.sessionId + wire.nSend = maxSkippedTotal) := by
  by_cases hcloses : state.Closes wire pre
  · obtain ⟨hver, hnSend, hopen⟩ := hcloses.opened hacc
    have hiff : ∀ nPrev < 2 ^ 32, ∀ newPriv', (∃ out, decrypt P newPriv' state { wire with nPrev } pre aadExtra = .ok out) ↔
          (state.nRecv ≤ nPrev ∧ nPrev - state.nRecv ≤ maxSkip) ∧ wire.nSend ≤ maxSkip ∧
            nPrev - state.nRecv + countSkippedForSession pre state.sessionId + wire.nSend ≤ maxSkippedTotal :=
      fun nPrev hlt newPriv' => hcloses.decrypt_iff hver hlt hnSend hopen
    obtain ⟨⟨hle, -⟩, hjump, htotal⟩ := (hiff wire.nPrev hwidth newPriv).1 ⟨out, hacc⟩
    constructor
    · intro h
      refine ⟨hcloses, ?_⟩
      by_contra hroom
      -- one of the two lowest values is not the one of the wire
      obtain ⟨nPrev, hne, hlow, hhigh⟩ : ∃ nPrev, nPrev ≠ wire.nPrev ∧ state.nRecv ≤ nPrev ∧ nPrev ≤ state.nRecv + 1 := by
        by_cases heq : wire.nPrev = state.nRecv
        · exact ⟨state.nRecv + 1, by omega, by omega, le_rfl⟩
        · exact ⟨state.nRecv, Ne.symm heq, le_rfl, by omega⟩
      obtain ⟨e, he⟩ := h nPrev (by omega) hne newPriv
      have hbounds : nPrev - state.nRecv ≤ maxSkip ∧
          nPrev - state.nRecv + countSkippedForSession pre state.sessionId + wire.nSend ≤
            maxSkippedTotal := by
        unfold maxSkip
        omega
      obtain ⟨out', hout'⟩ := (hiff nPrev (by omega) newPriv).2 ⟨⟨hlow, hbounds.1⟩, hjump, hbounds.2⟩
      rw [he] at hout'
      cases hout'
    · rintro ⟨-, hroom⟩ nPrev hlt hne newPriv'
      cases hres : decrypt P newPriv' state { wire with nPrev } pre aadExtra with
      | error e => exact ⟨e, rfl⟩
      | ok out' =>
        obtain ⟨⟨hle', -⟩, -, htotal'⟩ := (hiff nPrev hlt newPriv').1 ⟨out', hres⟩
        omega
  · refine iff_of_false (fun h => ?_) fun h => hcloses h.1
    -- nothing depends on `n_prev`, so any other value does
    obtain ⟨nPrev, hlt, hne⟩ : ∃ nPrev < 2 ^ 32, nPrev ≠ wire.nPrev := by
      by_cases hzero : wire.nPrev = 0
      · exact ⟨1, by decide, by omega⟩
      · exact ⟨0, by decide, Ne.symm hzero⟩
    obtain ⟨e, he⟩ := h nPrev hlt hne newPriv
    rw [decrypt_nPrev_of_not_closes hcloses, hacc] at he
    cases he

/-- A session with the given counter of received messages. -/
def countedSession (nRecv : ℕ) : DrSessionState Symbol where
  sessionId := "dr"
  rootKey := .atom 0
  selfPriv := .atom 1
  selfPub := .atom 1
  peerPub := some (.atom 2)
  sendChainKey := none
  recvChainKey := some (.atom 3)
  nSend := 0
  nRecv := nRecv
  nPrev := 0

def turningWire (nPrev : ℕ) : DrCiphertextWire Symbol Envelope where
  version := wireVersion
  senderDh := .atom 4
  nSend := 0
  nPrev := nPrev
  nonce := []
  ciphertext := (.message (.ratchetSend (.atom 0) (.atom 5)), [], buildAad symbolic "dr" wireVersion (.atom 4) [], [7])

/-- At the last counter no other `n_prev` is accepted. -/
theorem nPrev_sealed_at_last_counter :
    ∃ out, decrypt symbolic (.atom 6) (countedSession (2 ^ 32 - 1)) (turningWire (2 ^ 32 - 1)) [] [] = .ok out ∧
      ∀ nPrev < 2 ^ 32, nPrev ≠ 2 ^ 32 - 1 → ∀ newPriv, ∃ e,
        decrypt symbolic newPriv (countedSession (2 ^ 32 - 1)) (turningWire nPrev) [] [] = .error e := by
  have hacc : ∃ out, decrypt symbolic (.atom 6) (countedSession (2 ^ 32 - 1))
      (turningWire (2 ^ 32 - 1)) [] [] = .ok out := ⟨_, rfl⟩
  obtain ⟨out, hacc⟩ := hacc
  refine ⟨out, hacc, (nPrev_sealed_iff hacc (by decide)).2 ⟨⟨rfl, ?_, nofun, nofun⟩, .inl (by decide)⟩⟩
  decide

/-- The wire is sent after three messages of which one has arrived. With `n_prev` edited the keys of the two
others are not put aside. -/
theorem edited_nPrev_drops_keys :
    (decrypt symbolic (.atom 6) (countedSession 1) (turningWire 3) [] []).map (·.newSkipped.length) = .ok 2 ∧
      (decrypt symbolic (.atom 6) (countedSession 1) { turningWire 3 with nPrev := 1 } [] []).map
        (·.newSkipped.length) = .ok 0 := by
  decide

/-! ### The table of skipped keys -/

/-- A wire arrives. What an accepted one leads to is stored; after an error nothing is. -/
def Device.receive (P : Primitives K C) (newPriv : K) (wire : DrCiphertextWire K C) (aadExtra : Bytes)
    (d : Device K) : Device K :=
  match decrypt P newPriv d.session wire d.skipped.rows aadExtra with
  | .ok out => commitReceive d out
  | .error _ => d

/-- The stored keys are within the budget and told apart by ratchet key and counter, and those of the
current receiving chain are behind it. -/
structure Device.Tidy (d : Device K) : Prop where
  bounded : (d.skipped.rows.filter fun k => k.sessionId = d.session.sessionId).length ≤ maxSkippedTotal
  distinct : ∀ e e', d.Stores e → d.Stores e' → e.peerPub = e'.peerPub → e.counter = e'.counter → e = e'
  behind : ∀ e, d.Stores e → d.session.peerPub = some e.peerPub → e.counter < d.session.nRecv

/-- A wire with a new ratchet key finds no key stored under it with a higher counter. -/
def Device.Forward (d : Device K) (wire : DrCiphertextWire K C) : Prop :=
  (∀ e, d.Stores e → ¬(e.peerPub = wire.senderDh ∧ e.counter = wire.nSend)) → d.session.peerPub ≠ some wire.senderDh →
      ∀ e, d.Stores e → e.peerPub = wire.senderDh → e.counter < wire.nSend

variable {d d' : Device K}

omit [DecidableEq K] in
lemma Device.distinct {e e' : DrSkippedMessageKey K} (he : d.Stores e) (he' : d.Stores e')
    (hpeer : e.peerPub = e'.peerPub) (hctr : e.counter = e'.counter) : e = e' := by
  refine eq_of_key_eq he.1 he'.1 ?_
  rw [primaryKey, primaryKey, he.2, he'.2, hpeer, hctr]

lemma length_newSkipped_le (hbnd : (d.skipped.rows.filter fun k =>
      k.sessionId = d.session.sessionId).length ≤ maxSkippedTotal) {recvCk : K}
    (hclos : d.session.peerPub ≠ some wire.senderDh → d.session.Closable wire.nPrev d.skipped.rows)
    (hfits : Skipping.Fits d.session.sessionId wire.nSend d.skipped.rows
      { recvCk, nRecv := (receiving P newPriv d.session wire).1.nRecv
        newSkipped := (receiving P newPriv d.session wire).2 }) :
    (d.skipped.rows.filter fun k => k.sessionId = d.session.sessionId).length +
      ((receiving P newPriv d.session wire).2.length +
        (wire.nSend - (receiving P newPriv d.session wire).1.nRecv)) ≤ maxSkippedTotal := by
  have hcls : (receiving P newPriv d.session wire).2.length ≤ maxSkip := by
    unfold receiving
    split
    · exact Nat.zero_le _
    · next hturn =>
      unfold closedKeys
      split
      · next hpeer hch =>
        rw [length_skippedKeys]
        exact (hclos hturn _ _ hpeer hch).gap
      · exact Nat.zero_le _
  have htot := hfits.total
  dsimp only at htot
  unfold countSkippedForSession asU32 at htot
  unfold maxSkippedTotal at *
  unfold maxSkip at hcls
  omega

lemma peerPub_ne_of_mem_receiving {e : DrSkippedMessageKey K}
    (he : e ∈ (receiving P newPriv state wire).2) : e.peerPub ≠ wire.senderDh := by
  unfold receiving at he
  split at he
  · cases he
  · next hturn =>
    unfold closedKeys at he
    split at he
    · next hpeer _ =>
      obtain ⟨i, -, rfl⟩ := mem_skippedKeys.1 he
      rintro rfl
      exact hturn hpeer
    · cases he

/-- **One accepted wire** keeps the table tidy if and only if it goes forward. -/
lemma Device.Tidy.commitReceive_iff (h : d.Tidy)
    (hacc : decrypt P newPriv d.session wire d.skipped.rows aadExtra = .ok out) :
    (commitReceive d out).Tidy ↔ d.Forward wire := by
  rcases decrypt_ok_cases hacc with
    ⟨sk, hsk, hid, hpeer, hctr, -, hout⟩ | ⟨hfresh, hclos, recvCk, -, hfits, -, -, hout⟩
  · -- a stored key is deleted, and the session stays
    rw [hout]
    refine iff_of_true ⟨?_, fun e e' => Device.distinct, fun e he => ?_⟩ fun hnone => ?_
    · refine le_trans (List.Sublist.length_le ?_) h.bounded
      exact List.filter_sublist.filter _
    · exact h.behind e ⟨(KeyedTable.mem_delete.1 he.1).1, he.2⟩
    · exact absurd ⟨hpeer, hctr⟩ (hnone sk ⟨hsk, hid⟩)
  · obtain ⟨taken, hsub, hrows⟩ := KeyedTable.rows_insertAll d.skipped
      (chainOutcome P (receiving P newPriv d.session wire).1 recvCk wire
        (receiving P newPriv d.session wire).2 out.plaintext).newSkipped
    have hcur : (receiving P newPriv d.session wire).1.peerPub = some wire.senderDh := by
      unfold receiving
      split
      · assumption
      · rfl
    have hsess : (commitReceive d out).session.sessionId = d.session.sessionId := by
      rw [hout]
      exact receiving_sessionId P newPriv d.session wire
    have hpeer : (commitReceive d out).session.peerPub = some wire.senderDh := by
      rw [hout]
      exact hcur
    have hnRecv : (commitReceive d out).session.nRecv = wire.nSend + 1 := by rw [hout]; rfl
    have hskipped : (commitReceive d out).skipped.rows = d.skipped.rows ++ taken := by
      rw [hout]
      exact hrows
    constructor
    · intro htidy hnone _ e he hunder
      have hkept : (commitReceive d out).Stores e :=
        ⟨by rw [hskipped]; exact List.mem_append_left _ he.1, he.2.trans hsess.symm⟩
      have hlt := htidy.behind e hkept (by rw [hpeer, hunder])
      have hne : e.counter ≠ wire.nSend := fun hctr => hnone e he ⟨hunder, hctr⟩
      omega
    · intro hforward
      refine ⟨?_, fun e e' => Device.distinct, fun e he hunder => ?_⟩
      · rw [hskipped, hsess, List.filter_append, List.length_append]
        have htook := ((List.filter_sublist (p := fun k => k.sessionId = d.session.sessionId)).trans hsub).length_le
        have hnew := length_newSkipped_le h.bounded hclos hfits
        rw [chainOutcome, List.length_append, length_skippedKeys] at htook
        omega
      · rw [hpeer, Option.some.injEq] at hunder
        rw [hnRecv]
        have hmem := he.1
        rw [hskipped, List.mem_append] at hmem
        rcases hmem with hold | hnew
        · have hstores : d.Stores e := ⟨hold, he.2.trans hsess⟩
          by_cases hsame : d.session.peerPub = some wire.senderDh
          · have hlt := h.behind e hstores (by rw [hsame, hunder])
            have hle := hfits.le
            rw [receiving, if_pos hsame] at hle
            exact Nat.lt_succ_of_lt (lt_of_lt_of_le hlt hle)
          · refine Nat.lt_succ_of_lt (hforward (fun e he hhit => ?_) hsame e hstores hunder.symm)
            exact hfresh e he.1 ⟨he.2, hhit⟩
        · rcases List.mem_append.1 (hsub.subset hnew) with hcls | hskip
          · exact absurd hunder.symm (peerPub_ne_of_mem_receiving hcls)
          · obtain ⟨i, hi, rfl⟩ := mem_skippedKeys.1 hskip
            dsimp only
            omega

inductive Device.Moves (P : Primitives K C) : Device K → Device K → Prop where
  | encrypt {d : Device K} (newPriv : K) (nonce plaintext aadExtra : Bytes) :
      Moves P d { d with session := (encrypt P newPriv nonce d.session plaintext aadExtra).2 }
  | receive {d : Device K} (newPriv : K) (wire : DrCiphertextWire K C) (aadExtra : Bytes)
      (forward : d.Forward wire) : Moves P d (d.receive P newPriv wire aadExtra)

lemma Device.Tidy.moves (h : d.Tidy) (hmv : Device.Moves P d d') : d'.Tidy := by
  cases hmv with
  | encrypt newPriv nonce plaintext aadExtra =>
    have hfr := encrypt_frame P newPriv nonce d.session plaintext aadExtra
    refine ⟨?_, fun e e' => Device.distinct, fun e he hpeer => ?_⟩
    · rw [hfr.sessionId]
      exact h.bounded
    · rw [hfr.peerPub] at hpeer
      rw [hfr.nRecv]
      exact h.behind e ⟨he.1, he.2.trans hfr.sessionId⟩ hpeer
  | receive newPriv wire aadExtra forward =>
    unfold Device.receive
    split
    · next hacc => exact (h.commitReceive_iff hacc).2 forward
    · exact h

/-- **The skipped keys of a session.**  In every run in which wires go forward the table is tidy. A wire that is
rejected changes nothing, and an accepted one that does not go forward leaves an untidy table. -/
theorem skipped_keys_of_run {d₀ : Device K} (hinit : d₀.Initial P) (hrun : Relation.ReflTransGen (Device.Moves P) d₀ d) :
    d.Tidy ∧ ∀ newPriv wire aadExtra, (∀ e, decrypt P newPriv d.session wire d.skipped.rows aadExtra = .error e →
        d.receive P newPriv wire aadExtra = d) ∧ ∀ out, decrypt P newPriv d.session wire d.skipped.rows aadExtra = .ok out →
        ((d.receive P newPriv wire aadExtra).Tidy ↔ d.Forward wire) := by
  have htidy : d.Tidy := by
    induction hrun with
    | refl =>
      have hnone : ∀ e, ¬d₀.Stores e := fun e he => hinit.2 e he.1 he.2
      refine ⟨?_, fun e _ he => absurd he (hnone e), fun e he => absurd he (hnone e)⟩
      rw [filter_eq_nil_iff.2 fun e he => by simpa using hinit.2 e he]
      exact Nat.zero_le _
    | tail _ hmoves ih => exact ih.moves hmoves
  refine ⟨htidy, fun newPriv wire aadExtra => ⟨fun e he => ?_, fun out hout => ?_⟩⟩
  · rw [Device.receive, he]
  · rw [Device.receive, hout]
    exact htidy.commitReceive_iff hout

def newResponder : Device Symbol := ⟨initResponder symbolic "dr" (.atom 0) (.atom 1), KeyedTable.empty⟩

/-- After the first wire the table is tidy, and the wire itself is rejected without a change. -/
theorem skipped_keys_after_firstWire : (newResponder.receive symbolic (.atom 4) firstWire []).Tidy ∧
      (newResponder.receive symbolic (.atom 4) firstWire []).session.nRecv = 1 ∧
      (newResponder.receive symbolic (.atom 4) firstWire []).receive symbolic (.atom 5) firstWire [] =
        newResponder.receive symbolic (.atom 4) firstWire [] := by
  have hempty : ∀ e, ¬newResponder.Stores e := fun e he => not_mem_nil he.1
  obtain ⟨htidy, hnext⟩ := skipped_keys_of_run ⟨.inr ⟨_, _, _, rfl⟩, fun e he => absurd he not_mem_nil⟩
    (.single (.receive (.atom 4) firstWire [] fun _ _ e he => absurd he (hempty e)))
  exact ⟨htidy, by decide, (hnext (.atom 5) firstWire []).1 .counterRegression (by rfl)⟩

/-- What the peer seals for a receiver: it derives the chain that the receiver will derive. -/
def sealedFor (state : DrSessionState Symbol) (senderDh : Symbol) (nSend : ℕ) :
    DrCiphertextWire Symbol Envelope :=
  let wire : DrCiphertextWire Symbol Envelope :=
    { version := wireVersion, senderDh, nSend, nPrev := state.nRecv, nonce := []
      ciphertext := (.atom 0, [], buildAad symbolic state.sessionId wireVersion senderDh [], [7]) }
  let chain := (receiving symbolic (.atom 9) state wire).1
  let key := messageKeyAt symbolic (chain.recvChainKey.getD (.atom 0)) (nSend - chain.nRecv)
  { wire with ciphertext := (key, wire.ciphertext.2) }

/-- The responder hears wires of the peer with the given ratchet keys and counters. -/
def hearAll (wires : List (ℕ × ℕ)) : Device Symbol :=
  wires.foldl (fun d w => d.receive symbolic (.atom 9) (sealedFor d.session (.atom w.1) w.2) [])
    newResponder

/-- The peer comes back to its first ratchet key, under which keys 1 and 2 are stored: the new chain is at 1, and
what the peer seals as its message 1 is refused, since it is opened with the stored key. -/
theorem reused_ratchet_key_untidy : ¬(hearAll [(2, 0), (2, 3), (3, 0), (2, 0)]).Tidy ∧
      (decrypt symbolic (.atom 9) (hearAll [(2, 0), (2, 3), (3, 0), (2, 0)]).session
        (sealedFor (hearAll [(2, 0), (2, 3), (3, 0), (2, 0)]).session (.atom 2) 1)
        (hearAll [(2, 0), (2, 3), (3, 0), (2, 0)]).skipped.rows []).map (·.plaintext) = .error .aeadFailure := by
  refine ⟨fun h => ?_, by decide⟩
  have hstored : ∃ e ∈ (hearAll [(2, 0), (2, 3), (3, 0), (2, 0)]).skipped.rows,
      e.sessionId = (hearAll [(2, 0), (2, 3), (3, 0), (2, 0)]).session.sessionId ∧
      (hearAll [(2, 0), (2, 3), (3, 0), (2, 0)]).session.peerPub = some e.peerPub ∧
      (hearAll [(2, 0), (2, 3), (3, 0), (2, 0)]).session.nRecv ≤ e.counter := by
    decide
  obtain ⟨e, he, hid, hpeer, hle⟩ := hstored
  exact absurd (h.behind e ⟨he, hid⟩ hpeer) (not_lt.2 hle)

end PeersTouch.Ratchet
