import PeersTouch.Chat.RoundTrip

/-!
# The hash of an authority plan

The command service hashes a membership plan before it stores it, and again when the plan is used.
`fields` lists what is hashed; `canonicalTuple` writes each field after its length. How many
manifests, changes and endpoints there are is not written, so the hash binds the plan only among
plans of one shape.
-/

namespace PeersTouch.Chat

open List

structure KeyPackageReservation where
  id : String
  endpoint : Endpoint
  packageID : String
  keyPackage : Bytes
  packageHash : Hash
  homeStation : StationID
  irreversiblyConsumed : Bool
deriving DecidableEq

def KeyPackageReservation.le (a b : KeyPackageReservation) : Prop :=
  a.endpoint.key < b.endpoint.key ∨ a.endpoint.key = b.endpoint.key ∧
    (a.packageID < b.packageID ∨ a.packageID = b.packageID ∧ a.id ≤ b.id)
deriving Decidable

/-- Reservations that agree in endpoint, package and id keep their order, which the source leaves
open. -/
def sortKeyPackageReservations (values : List KeyPackageReservation) : List KeyPackageReservation :=
  values.insertionSort KeyPackageReservation.le

structure AuthorityPlanInput where
  planID : PlanID
  conversationID : ConversationID
  federationID : FederationID
  authorityEpoch : ℕ
  requester : Endpoint
  preparedName : String
  head : AuthorityHead
  preEndpoints : List Endpoint
  postEndpoints : List Endpoint
  changes : List MembershipChange
  reservations : List KeyPackageReservation
  expiresAt : Time
  manifestHashes : List Hash

def Endpoint.planFields (e : Endpoint) : List Bytes := [bytesOf e.actor, bytesOf e.device]

def MembershipChange.planFields (c : MembershipChange) : List Bytes :=
  [bytesOf c.action.text, bytesOf c.actor, bytesOf c.device, bytesOf c.homeStation, bytesOf c.role.text]

def KeyPackageReservation.planFields (r : KeyPackageReservation) : List Bytes :=
  [bytesOf r.id, bytesOf r.endpoint.actor, bytesOf r.endpoint.device, bytesOf r.packageID,
    r.packageHash.bytes, bytesOf r.homeStation, bytesOf (toString r.irreversiblyConsumed)]

namespace AuthorityPlanInput

/-- The fields that every plan has. The time is a signed number of 64 bits. -/
def headFields (p : AuthorityPlanInput) : List Bytes :=
  [bytesOf "peers-touch/conversation-authority-plan", bytesOf p.planID, bytesOf p.conversationID,
    bytesOf p.federationID, bytesOf (toString p.authorityEpoch), bytesOf p.requester.actor,
    bytesOf p.requester.device, bytesOf p.preparedName, bytesOf (toString p.head.sequence),
    p.head.eventHash.bytes, bytesOf (toString p.head.membershipEpoch), bytesOf (toString p.head.mlsEpoch),
    bytesOf (toString ((unixNano p.expiresAt).bmod (2 ^ 64)))]

def fields (p : AuthorityPlanInput) : List Bytes :=
  p.headFields ++ (p.manifestHashes.flatMap (fun h => [h.bytes]) ++ (p.changes.flatMap MembershipChange.planFields ++
    (p.preEndpoints.flatMap Endpoint.planFields ++ (p.postEndpoints.flatMap Endpoint.planFields ++
        (sortKeyPackageReservations p.reservations).flatMap
          KeyPackageReservation.planFields))))

def authorityPlanHash [Digest] (p : AuthorityPlanInput) : Hash := hashBytes (canonicalTuple p.fields)

/-- The plans agree: the changes by their texts, the reservations in sorted order. -/
def Agrees (p q : AuthorityPlanInput) : Prop :=
  { p with changes := [], reservations := sortKeyPackageReservations p.reservations } =
    { q with changes := [], reservations := sortKeyPackageReservations q.reservations } ∧
  p.changes.map MembershipChange.planFields = q.changes.map MembershipChange.planFields

/-- What the hash leaves open: how many entries the lists have, how long each field is when the
length does not fit 32 bits, the turn of the 64-bit clock, and the packages themselves. -/
structure SameShape (p q : AuthorityPlanInput) : Prop where
  manifests : p.manifestHashes.length = q.manifestHashes.length
  changes : p.changes.length = q.changes.length
  pre : p.preEndpoints.length = q.preEndpoints.length
  post : p.postEndpoints.length = q.postEndpoints.length
  lengths : p.fields.map List.length = q.fields.map List.length
  expiry : |p.expiresAt - q.expiresAt| < 2 ^ 64
  packages : (sortKeyPackageReservations p.reservations).map KeyPackageReservation.keyPackage =
    (sortKeyPackageReservations q.reservations).map KeyPackageReservation.keyPackage

end AuthorityPlanInput

/-! ### Reading the fields back -/

lemma Hash.bytes_inj {a b : Hash} : a.bytes = b.bytes ↔ a = b := by
  refine ⟨fun h => ?_, congrArg Hash.bytes⟩
  have e := newHash_bytes a
  rw [h, newHash_bytes b] at e
  exact (Except.ok.inj e).symm

lemma canonicalTuple_inj {xs ys : List Bytes} (hlen : xs.map length = ys.map length)
    (h : canonicalTuple xs = canonicalTuple ys) : xs = ys := by
  induction xs generalizing ys with
  | nil => exact (map_eq_nil_iff.mp hlen.symm).symm
  | cons x xs ih =>
    obtain _ | ⟨y, ys⟩ := ys
    · simp at hlen
    · obtain ⟨hx, hxs⟩ := cons.inj hlen
      simp only [canonicalTuple, flatMap_cons, hx, append_assoc] at h
      obtain ⟨e, rest⟩ := append_inj (append_cancel_left h) hx
      rw [e, ih hxs rest]

lemma eq_of_bmod_unixNano_eq {a b : ℤ} (hnear : |a - b| < 2 ^ 64)
    (h : (unixNano a).bmod (2 ^ 64) = (unixNano b).bmod (2 ^ 64)) : a = b := by
  have hmod := congrArg (· % ((2 ^ 64 : ℕ) : ℤ)) h
  simp only [unixNano, Int.bmod_emod] at hmod
  rw [abs_lt] at hnear
  omega

/-- Entries that all have the same number of fields are found again when their number is known. -/
lemma map_eq_of_flatMap_eq {α β : Type} (f : α → List β) (n : ℕ) (hf : ∀ a, (f a).length = n)
    {xs ys : List α} {r s : List β} (hlen : xs.length = ys.length)
    (h : xs.flatMap f ++ r = ys.flatMap f ++ s) : xs.map f = ys.map f ∧ r = s := by
  induction xs generalizing ys with
  | nil =>
    obtain rfl := length_eq_zero_iff.mp hlen.symm
    exact ⟨rfl, h⟩
  | cons x xs ih =>
    obtain _ | ⟨y, ys⟩ := ys
    · simp at hlen
    · simp only [flatMap_cons, append_assoc] at h
      obtain ⟨e, rest⟩ := append_inj h ((hf x).trans (hf y).symm)
      obtain ⟨es, hr⟩ := ih (Nat.succ.inj hlen) rest
      exact ⟨by rw [map_cons, map_cons, e, es], hr⟩

lemma Endpoint.planFields_injective : Function.Injective planFields := by
  intro a b h
  simp only [planFields, cons.injEq, bytesOf_inj, and_true] at h
  exact (Endpoint.mk.injEq ..).mpr h

lemma KeyPackageReservation.eq_of_planFields_eq {a b : KeyPackageReservation}
    (h : (a.planFields, a.keyPackage) = (b.planFields, b.keyPackage)) : a = b := by
  have hbool : ∀ x y : Bool, toString x = toString y → x = y := by decide
  simp only [planFields, Prod.mk.injEq, cons.injEq, bytesOf_inj, Hash.bytes_inj] at h
  obtain ⟨⟨id, actor, device, packageID, packageHash, homeStation, consumed, -⟩, package⟩ := h
  exact (KeyPackageReservation.mk.injEq ..).mpr ⟨id, (Endpoint.mk.injEq ..).mpr ⟨actor, device⟩,
    packageID, package, packageHash, homeStation, hbool _ _ consumed⟩

namespace AuthorityPlanInput

variable {p q : AuthorityPlanInput}

lemma agrees_of_fields_eq (shape : p.SameShape q) (h : p.fields = q.fields) : p.Agrees q := by
  obtain ⟨hhead, h⟩ := append_inj h rfl
  -- each list is cut off by its number of entries
  obtain ⟨hmanifests, h⟩ := map_eq_of_flatMap_eq (fun h : Hash => [h.bytes]) 1 (fun _ => rfl) shape.manifests h
  obtain ⟨hchg, h⟩ := map_eq_of_flatMap_eq _ 5 (fun _ => rfl) shape.changes h
  obtain ⟨hpre, h⟩ := map_eq_of_flatMap_eq _ 2 (fun _ => rfl) shape.pre h
  obtain ⟨hpost, h⟩ := map_eq_of_flatMap_eq _ 2 (fun _ => rfl) shape.post h
  have hcnt := congrArg length shape.packages
  rw [length_map, length_map] at hcnt
  obtain ⟨hreservations, -⟩ := map_eq_of_flatMap_eq _ 7 (fun _ => rfl) hcnt (congrArg (· ++ []) h)
  simp only [headFields, cons.injEq, bytesOf_inj, Hash.bytes_inj] at hhead
  obtain ⟨-, planID, conversationID, federationID, epoch, actor, device, name, sequence, event,
    membership, mls, expiry, -⟩ := hhead
  have endpoints := map_injective_iff.mpr Endpoint.planFields_injective
  refine ⟨(mk.injEq ..).mpr ⟨planID, conversationID, federationID, Nat.repr_inj.mp epoch,
    (Endpoint.mk.injEq ..).mpr ⟨actor, device⟩, name, (AuthorityHead.mk.injEq ..).mpr
      ⟨Nat.repr_inj.mp sequence, event, Nat.repr_inj.mp membership, Nat.repr_inj.mp mls⟩,
    endpoints hpre, endpoints hpost, rfl, ?_, eq_of_bmod_unixNano_eq shape.expiry (Int.repr_inj.mp expiry), ?_⟩, hchg⟩
  · refine map_injective_iff.mpr (fun _ _ => KeyPackageReservation.eq_of_planFields_eq) ?_
    simpa only [← zip_map'] using congrArg₂ zip hreservations shape.packages
  · exact map_injective_iff.mpr (fun _ _ e => Hash.bytes_inj.mp (cons.inj e).1) hmanifests

/-- A plan of Alice's with the given endpoints before and after. -/
def planOf (pre post : List Endpoint) : AuthorityPlanInput :=
  { planID := "plan", conversationID := "team", federationID := "federation", authorityEpoch := 1
    requester := ⟨"alice", "phone"⟩, preparedName := "", head := ⟨1, 1, 1, 1⟩, preEndpoints := pre
    postEndpoints := post, changes := [], reservations := [], expiresAt := 0, manifestHashes := [] }

end AuthorityPlanInput

end PeersTouch.Chat
