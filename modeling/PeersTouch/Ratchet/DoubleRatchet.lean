import PeersTouch.Lib.KeyedTable

/-!
# The Double Ratchet of the messaging core

`crypto/double_ratchet.rs`: session state, wire, the two initialisations, `encrypt`, `decrypt` and
`materialize_skipped`, with every error path. The 32-byte strings of the source (private and public
keys, Diffie-Hellman outputs, root, chain and message keys) are one type `K`, ciphertexts a type
`C`; the primitives on them are the fields of `Primitives`. Counters are `u32` in the source: here
they are natural numbers, with `checkedAdd` and `asU32` where the width shows.

The operations that draw from `OsRng` take the drawn value as an argument. `encrypt` has
`&mut DrSessionState`, so it returns the state it leaves behind together with its result, also on
the error paths, which the source takes after it has already written some of the fields.
-/

namespace PeersTouch.Ratchet

open Lib

abbrev Bytes := List UInt8

/-! ### Primitives -/

/-- The cryptographic operations the ratchet is built from: X25519, the three HKDF-SHA256
derivations and AES-256-GCM. -/
structure Primitives (K C : Type) where
  /-- `PublicKey::from(&StaticSecret)`. -/
  publicKey : K → K
  /-- `StaticSecret::diffie_hellman`, private key first. -/
  diffieHellman : K → K → K
  /-- HKDF with `KDF_SK_ROOT_INFO`. -/
  rootFromSharedSecret : K → K
  /-- HKDF with `KDF_RK_INFO`: new root key, `recv_ck`, `send_ck`. -/
  kdfRk : K → K → K × K × K
  /-- HKDF with `KDF_CK_INFO`: message key, next chain key. -/
  kdfCk : K → K × K
  /-- `Aes256Gcm::encrypt` under key, nonce and AAD. -/
  aeadEncrypt : K → Bytes → Bytes → Bytes → Option C
  /-- `Aes256Gcm::decrypt` under key, nonce and AAD. -/
  aeadDecrypt : K → Bytes → Bytes → C → Option Bytes
  /-- The bytes of a 32-byte string. -/
  asSlice : K → Bytes

/-- X25519 commutes: both peers compute the same shared value. -/
def Primitives.DhCommutes {K C : Type} (P : Primitives K C) : Prop :=
  ∀ a b, P.diffieHellman a (P.publicKey b) = P.diffieHellman b (P.publicKey a)

/-- AES-256-GCM opens what it sealed, under the same key, nonce and AAD. -/
def Primitives.OpenInvertsSeal {K C : Type} (P : Primitives K C) : Prop :=
  ∀ key nonce aad plaintext ct, P.aeadEncrypt key nonce aad plaintext = some ct →
    P.aeadDecrypt key nonce aad ct = some plaintext

/-! ### Constants, errors and records -/

def wireVersion : ℕ := 1

def maxSkip : ℕ := 1024

def maxSkippedTotal : ℕ := 4096

inductive DrError where
  | uninitializedReceive | aeadFailure
  | badWireFormat (msg : String)
  | skipTooFar | skipBudgetExhausted | counterRegression
  deriving DecidableEq, Repr

structure DrSessionState (K : Type) where
  sessionId : String
  (rootKey selfPriv selfPub : K)
  (peerPub sendChainKey recvChainKey : Option K)
  (nSend nRecv nPrev : ℕ)

structure DrSkippedMessageKey (K : Type) where
  sessionId : String
  peerPub : K
  counter : ℕ
  messageKey : K
  deriving DecidableEq

structure DrCiphertextWire (K C : Type) where
  version : ℕ
  senderDh : K
  (nSend nPrev : ℕ)
  nonce : Bytes
  ciphertext : C

structure DrDecryptOutcome (K : Type) where
  plaintext : Bytes
  advancedState : DrSessionState K
  newSkipped : List (DrSkippedMessageKey K)
  consumedSkipped : Option (K × ℕ)

/-- `as u32`. -/
def asU32 (n : ℕ) : ℕ := n % 2 ^ 32

/-- `u32::checked_add(1)`. -/
def checkedAdd (n : ℕ) : Option ℕ := if n + 1 < 2 ^ 32 then some (n + 1) else none

/-- `u32::to_be_bytes`. -/
def toBeBytes (n : ℕ) : Bytes :=
  [UInt8.ofNat (n / 2 ^ 24), UInt8.ofNat (n / 2 ^ 16), UInt8.ofNat (n / 2 ^ 8), UInt8.ofNat n]

variable {K C : Type}

/-! ### Initialisation -/

/-- The initiator's session; `selfPriv` is the key pair drawn for it. -/
def initInitiator (P : Primitives K C) (selfPriv : K) (sessionId : String) (sk peerDh : K) :
    DrSessionState K :=
  let rk0 := P.rootFromSharedSecret sk
  let dhOut := P.diffieHellman selfPriv peerDh
  let (rk, recvCk, sendCk) := P.kdfRk rk0 dhOut
  { sessionId, rootKey := rk, selfPriv, selfPub := P.publicKey selfPriv, peerPub := some peerDh
    sendChainKey := some sendCk, recvChainKey := some recvCk, nSend := 0, nRecv := 0, nPrev := 0 }

/-- The responder's session, on the private half of its signed prekey. -/
def initResponder (P : Primitives K C) (sessionId : String) (sk selfPrivBytes : K) :
    DrSessionState K where
  sessionId := sessionId
  rootKey := P.rootFromSharedSecret sk
  selfPriv := selfPrivBytes
  selfPub := P.publicKey selfPrivBytes
  peerPub := none
  sendChainKey := none
  recvChainKey := none
  nSend := 0
  nRecv := 0
  nPrev := 0

/-- The additional data of the AEAD: session, wire version, sender's ratchet key and the caller's
own bytes. -/
def buildAad (P : Primitives K C) (sessionId : String) (version : ℕ) (senderDh : K)
    (extra : Bytes) : Bytes :=
  sessionId.toUTF8.data.toList ++ [0x1f] ++ toBeBytes version ++ [0x1f] ++ P.asSlice senderDh ++ extra

/-! ### Encrypt -/

/-- The Diffie-Hellman step of `encrypt`, taken when there is no sending chain. -/
def ratchetSend (P : Primitives K C) (newPriv peer : K) (state : DrSessionState K) :
    DrSessionState K :=
  let dhOut := P.diffieHellman newPriv peer
  let (rk, _, sendCk) := P.kdfRk state.rootKey dhOut
  { state with
    rootKey := rk, selfPriv := newPriv, selfPub := P.publicKey newPriv, sendChainKey := some sendCk
    nPrev := state.nSend, nSend := 0 }

/-- The part of `encrypt` after the sending chain is there. -/
def encryptOnChain (P : Primitives K C) (nonce : Bytes) (state : DrSessionState K)
    (plaintext aadExtra : Bytes) : Except DrError (DrCiphertextWire K C) × DrSessionState K :=
  match state.sendChainKey with
  | none => (.error .uninitializedReceive, state)
  | some sendCk =>
    let (mk, nextCk) := P.kdfCk sendCk
    let aad := buildAad P state.sessionId wireVersion state.selfPub aadExtra
    match P.aeadEncrypt mk nonce aad plaintext with
    | none => (.error .aeadFailure, state)
    | some ct =>
      match checkedAdd state.nSend with
      | none => (.error (.badWireFormat "n_send overflow"), { state with sendChainKey := some nextCk })
      | some nSend =>
        (.ok { state with
            version := wireVersion, senderDh := state.selfPub, nonce, ciphertext := ct },
          { state with sendChainKey := some nextCk, nSend })

/-- Encrypt one message; `newPriv` and `nonce` are what `OsRng` gives. -/
def encrypt (P : Primitives K C) (newPriv : K) (nonce : Bytes) (state : DrSessionState K)
    (plaintext aadExtra : Bytes) : Except DrError (DrCiphertextWire K C) × DrSessionState K :=
  match state.sendChainKey, state.peerPub with
  | none, none => (.error .uninitializedReceive, state)
  | none, some peer => encryptOnChain P nonce (ratchetSend P newPriv peer state) plaintext aadExtra
  | some _, _ => encryptOnChain P nonce state plaintext aadExtra

/-! ### Decrypt -/

def countSkippedForSession (keys : List (DrSkippedMessageKey K)) (sessionId : String) : ℕ :=
  asU32 (keys.filter fun k => k.sessionId = sessionId).length

/-- A receiving chain under way: chain key, `n_recv` and the skipped keys made so far. -/
structure Skipping (K : Type) where
  recvCk : K
  nRecv : ℕ
  newSkipped : List (DrSkippedMessageKey K)

/-- The loop of `materialize_skipped`: `gap` keys derived and put aside. -/
def skipLoop (P : Primitives K C) (sessionId : String) (peerDh : K) :
    ℕ → Skipping K → Except DrError (Skipping K)
  | 0, s => .ok s
  | gap + 1, s =>
    let (mk, nextCk) := P.kdfCk s.recvCk
    let newSkipped := s.newSkipped ++
      [{ sessionId, peerPub := peerDh, counter := s.nRecv, messageKey := mk }]
    match checkedAdd s.nRecv with
    | none => .error (.badWireFormat "counter overflow")
    | some nRecv => skipLoop P sessionId peerDh gap { recvCk := nextCk, nRecv, newSkipped }

/-- Advance the chain and put aside the message keys below `target` (`until` in the source). -/
def materializeSkipped (P : Primitives K C) (sessionId : String) (peerDh : K) (target : ℕ)
    (preExisting : List (DrSkippedMessageKey K)) (s : Skipping K) : Except DrError (Skipping K) :=
  if target < s.nRecv then
    .error (.badWireFormat ("target counter " ++ toString target ++ " < current n_recv " ++ toString s.nRecv))
  else
    let gap := target - s.nRecv
    if maxSkip < gap then .error .skipTooFar
    else
      let already := asU32 (asU32 s.newSkipped.length + countSkippedForSession preExisting sessionId)
      if maxSkippedTotal < min (already + gap) (2 ^ 32 - 1) then .error .skipBudgetExhausted
      else skipLoop P sessionId peerDh gap s

/-- The branch of `decrypt` for a ratchet key other than the current one: finish the old receiving
chain, take the Diffie-Hellman step, drop the sending chain. -/
def ratchetReceive (P : Primitives K C) (newPriv : K) (state : DrSessionState K)
    (wire : DrCiphertextWire K C) (preSkipped : List (DrSkippedMessageKey K)) :
    Except DrError (DrSessionState K × List (DrSkippedMessageKey K)) := do
  let newSkipped ← match state.peerPub, state.recvChainKey with
    | some oldPeer, some recvCk => do
      let s ← materializeSkipped P state.sessionId oldPeer wire.nPrev preSkipped
        { recvCk, nRecv := state.nRecv, newSkipped := [] }
      pure s.newSkipped
    | _, _ => pure []
  let dhOut := P.diffieHellman state.selfPriv wire.senderDh
  let (rk, _, sendCk) := P.kdfRk state.rootKey dhOut
  pure ({ state with
    rootKey := rk, recvChainKey := some sendCk, nRecv := 0, peerPub := some wire.senderDh
    selfPriv := newPriv, selfPub := P.publicKey newPriv, sendChainKey := none }, newSkipped)

/-- Open the wire with the next key of the chain and advance it, with the final budget check. -/
def openNext (P : Primitives K C) (st : DrSessionState K) (wire : DrCiphertextWire K C)
    (s : Skipping K) (preSkipped : List (DrSkippedMessageKey K)) (aadExtra : Bytes) :
    Except DrError (DrDecryptOutcome K) :=
  let (mk, nextCk) := P.kdfCk s.recvCk
  let aad := buildAad P st.sessionId wire.version wire.senderDh aadExtra
  match P.aeadDecrypt mk wire.nonce aad wire.ciphertext with
  | none => .error .aeadFailure
  | some plain =>
    match checkedAdd s.nRecv with
    | none => .error (.badWireFormat "n_recv overflow")
    | some nRecv =>
      let total := asU32 (countSkippedForSession preSkipped st.sessionId + asU32 s.newSkipped.length)
      if maxSkippedTotal < total then .error .skipBudgetExhausted
      else
        .ok
          { plaintext := plain, advancedState := { st with recvChainKey := some nextCk, nRecv }
            newSkipped := s.newSkipped, consumedSkipped := none }

/-- The tail of `decrypt`: skip to the counter of the wire, open it and advance the chain. -/
def decryptOnChain (P : Primitives K C) (samePeer : Bool) (st : DrSessionState K)
    (wire : DrCiphertextWire K C) (newSkipped preSkipped : List (DrSkippedMessageKey K))
    (aadExtra : Bytes) : Except DrError (DrDecryptOutcome K) :=
  match st.recvChainKey with
  | none => .error .uninitializedReceive
  | some recvCk =>
    if samePeer = true ∧ wire.nSend < st.nRecv then .error .counterRegression
    else
      match materializeSkipped P st.sessionId wire.senderDh wire.nSend preSkipped
          { recvCk, nRecv := st.nRecv, newSkipped } with
      | .error e => .error e
      | .ok s => openNext P st wire s preSkipped aadExtra

variable [DecidableEq K]

/-- Decrypt one wire against the state and the stored skipped keys; `newPriv` is the key pair drawn
if the wire carries a new ratchet key. -/
def decrypt (P : Primitives K C) (newPriv : K) (state : DrSessionState K)
    (wire : DrCiphertextWire K C) (preSkipped : List (DrSkippedMessageKey K)) (aadExtra : Bytes) :
    Except DrError (DrDecryptOutcome K) :=
  if wire.version ≠ wireVersion then
    .error (.badWireFormat ("unsupported version " ++ toString wire.version))
  else
    let stored := preSkipped.find? fun sk =>
      sk.sessionId = state.sessionId ∧ sk.peerPub = wire.senderDh ∧ sk.counter = wire.nSend
    match stored with
    | some sk =>
      let aad := buildAad P state.sessionId wire.version wire.senderDh aadExtra
      match P.aeadDecrypt sk.messageKey wire.nonce aad wire.ciphertext with
      | none => .error .aeadFailure
      | some plain =>
        .ok
          { plaintext := plain, advancedState := state, newSkipped := []
            consumedSkipped := some (wire.senderDh, wire.nSend) }
    | none =>
      if state.peerPub = some wire.senderDh then
        decryptOnChain P true state wire [] preSkipped aadExtra
      else
        match ratchetReceive P newPriv state wire preSkipped with
        | .error e => .error e
        | .ok (st, newSkipped) => decryptOnChain P false st wire newSkipped preSkipped aadExtra

/-! ### Persistence -/

/-- The primary key of `direct_skipped_message_keys`. -/
def DrSkippedMessageKey.primaryKey (sk : DrSkippedMessageKey K) : String × K × ℕ :=
  (sk.sessionId, sk.peerPub, sk.counter)

abbrev SkippedStore (K : Type) := KeyedTable (DrSkippedMessageKey K) DrSkippedMessageKey.primaryKey

structure Device (K : Type) where
  session : DrSessionState K
  skipped : SkippedStore K

/-- The ratchet part of the receive transaction: the session row is replaced, new skipped keys are
inserted with `INSERT OR IGNORE`, then the consumed one is deleted. -/
def commitReceive (d : Device K) (outcome : DrDecryptOutcome K) : Device K :=
  let inserted := d.skipped.insertAll outcome.newSkipped
  { session := outcome.advancedState, skipped := match outcome.consumedSkipped with
    | none => inserted
    | some (peerPublic, counter) => inserted.delete (outcome.advancedState.sessionId, peerPublic, counter) }

end PeersTouch.Ratchet
