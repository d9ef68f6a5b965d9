import PeersTouch.Ratchet.DoubleRatchet

/-!
# Symbolic primitives

The primitives of the ratchet with keys as terms: a derived key is the term of its derivation, a
ciphertext is the tuple it was sealed from, and it opens under exactly that key, nonce and AAD.
They meet every assumption the results about the ratchet make, so those results are about
something.
-/

namespace PeersTouch.Ratchet

/-- Keys as terms. -/
inductive Symbol where
  | atom (n : ℕ)
  | root (sk : Symbol)
  | ratchetRoot (root dh : Symbol)
  | ratchetRecv (root dh : Symbol)
  | ratchetSend (root dh : Symbol)
  | message (ck : Symbol)
  | chain (ck : Symbol)
  deriving DecidableEq

def Symbol.shared : Symbol → Symbol → Symbol
  | .atom a, .atom b => .atom (a + b)
  | _, _ => .atom 0

/-- A sealed message: key, nonce, AAD and plaintext. -/
abbrev Envelope := Symbol × Bytes × Bytes × Bytes

def symbolic : Primitives Symbol Envelope where
  publicKey k := k
  diffieHellman := Symbol.shared
  rootFromSharedSecret := .root
  kdfRk root dh := (.ratchetRoot root dh, .ratchetRecv root dh, .ratchetSend root dh)
  kdfCk ck := (.message ck, .chain ck)
  aeadEncrypt key nonce aad plaintext := some (key, nonce, aad, plaintext)
  aeadDecrypt key nonce aad ct := if ct.1 = key ∧ ct.2.1 = nonce ∧ ct.2.2.1 = aad then some ct.2.2.2 else none
  asSlice _ := []

lemma symbolic_dhCommutes : symbolic.DhCommutes := by
  intro a b
  cases a <;> cases b <;> simp [symbolic, Symbol.shared, Nat.add_comm]

lemma symbolic_openInvertsSeal : symbolic.OpenInvertsSeal := by
  intro key nonce aad plaintext ct h
  obtain rfl := Option.some.inj h
  exact if_pos ⟨rfl, rfl, rfl⟩

end PeersTouch.Ratchet
