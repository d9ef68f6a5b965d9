import PeersTouch.Ratchet.Chain

/-!
# The alternating turns of a session

A session between two peers is a sequence of turns. It starts at the responder's signed prekey; then
the peers alternate, each new turn being a fresh key pair of the peer whose move it is. A turn
`next t p` has one Diffie-Hellman output (of `p` and the key of `t`), hence one root key and one
sending chain, and both peers compute the same ones. This is the abstract picture of the session:
no counters, no stored keys, no wires. The delivery theorem relates the two session states of the
code to positions in it.
-/

namespace PeersTouch.Ratchet

variable {K C : Type}

inductive Side where
  | initiator | responder
  deriving DecidableEq, Repr

def Side.other : Side → Side
  | .initiator => .responder
  | .responder => .initiator

@[simp] lemma Side.other_other (s : Side) : s.other.other = s := by cases s <;> rfl

@[simp] lemma Side.other_ne (s : Side) : s.other ≠ s := by cases s <;> decide

lemma Side.eq_other_of_ne {s s' : Side} (h : s ≠ s') : s = s'.other := by
  cases s <;> cases s' <;> first | rfl | exact absurd rfl h

/-- A history of turns, each given by the private key of the peer that opened it. -/
inductive Turns (K : Type) where
  | start (spk : K)
  | next (t : Turns K) (priv : K)
  deriving DecidableEq

namespace Turns

/-- The private key of the last turn. -/
def key : Turns K → K
  | .start spk => spk
  | .next _ p => p

def owner : Turns K → Side
  | .start _ => .responder
  | .next t _ => t.owner.other

def depth : Turns K → ℕ
  | .start _ => 0
  | .next t _ => t.depth + 1

def root (P : Primitives K C) (sk : K) : Turns K → K
  | .start _ => P.rootFromSharedSecret sk
  | .next t p => (P.kdfRk (t.root P sk) (P.diffieHellman p (P.publicKey t.key))).1

/-- The first key of the sending chain of the turn `next t p`. -/
def chain (P : Primitives K C) (sk : K) (t : Turns K) (p : K) : K :=
  (P.kdfRk (t.root P sk) (P.diffieHellman p (P.publicKey t.key))).2.2

/-- `v` is the history at an earlier or the same moment. -/
def Within (v : Turns K) : Turns K → Prop
  | .start k => v = .start k
  | .next t p => v = .next t p ∨ v.Within t

/-- No public key occurs twice in the history. -/
def Distinct (P : Primitives K C) : Turns K → Prop
  | .start _ => True
  | .next t p => (∀ v : Turns K, v.Within t → P.publicKey v.key ≠ P.publicKey p) ∧ t.Distinct P

lemma Within.refl (u : Turns K) : u.Within u := by
  cases u with
  | start k => rfl
  | next t p => exact .inl rfl

variable {v : Turns K}

lemma Within.depth_le : ∀ {u : Turns K}, v.Within u → v.depth ≤ u.depth
  | .start k, h => Nat.le_of_eq (congrArg depth (show v = .start k from h))
  | .next t p, h => by
    rcases h with rfl | h
    · exact Nat.le_refl _
    · exact Nat.le_succ_of_le h.depth_le

lemma Within.eq_of_depth_le : ∀ {u : Turns K}, v.Within u → u.depth ≤ v.depth → v = u
  | .start _, h, _ => h
  | .next t p, h, hd => by
    rcases h with rfl | h
    · rfl
    · have h1 : v.depth ≤ t.depth := h.depth_le
      have h2 : t.depth + 1 ≤ v.depth := hd
      omega

lemma Within.eq_of_publicKey_eq {P : Primitives K C} {w : Turns K} :
    ∀ {u : Turns K}, u.Distinct P → v.Within u → w.Within u → P.publicKey v.key = P.publicKey w.key → v = w
  | .start k, _, hv, hw, _ => (show v = .start k from hv).trans (show w = .start k from hw).symm
  | .next t p, hd, hv, hw, h => by
    rcases hv with rfl | hv
    · rcases hw with rfl | hw
      · rfl
      · exact absurd h.symm (hd.1 w hw)
    · rcases hw with rfl | hw
      · exact absurd h (hd.1 v hv)
      · exact Within.eq_of_publicKey_eq hd.2 hv hw h

/-- The length of the chain that the opener of a turn had before: what `n_prev` reports. -/
def prevCount (count : Turns K → ℕ) : Turns K → ℕ
  | .next (.next v _) _ => count v
  | _ => 0

/-- `prevCount` only looks two turns back. -/
lemma prevCount_congr {count count' : Turns K → ℕ} :
    ∀ {u : Turns K}, (∀ x : Turns K, x.depth + 2 = u.depth → x.owner = u.owner →
    count' x = count x) → u.prevCount count' = u.prevCount count
  | .start _, _ => rfl
  | .next (.start _) _, _ => rfl
  | .next (.next v _) _, h => h v rfl v.owner.other_other.symm

end Turns

end PeersTouch.Ratchet
