import PeersTouch.Chat.ValueObject

/-!
# Route addresses

The checks on the addresses of a route statement: `canonical_addresses` and `route_addresses_match_kind` of the
clients (`station-trust/src/lib.rs`), and `canonicalRouteAddresses` and `routeAddressesMatchKind` of the
Station (`station_route_trust.go`). Both take an address apart as a text: it has to end in the suffix of its
kind, and what stands before the suffix has to be an address without peers and circuits. Multiaddresses are
read by one function for both sides; it gives the text that the parsed address prints.

The clients remove the suffix as often as it is there, the Station removes it once, so an address that ends
in its suffix twice is accepted by the clients alone. Apart from that, and from what the parser prints for
the part before the suffix, the two agree (`route_checks_agree_iff`).
-/

namespace PeersTouch.Trust

open Chat List

abbrev Text := List Char

inductive StationRouteKind where
  | direct | circuit
deriving DecidableEq

/-- The fields that the checks read. A `kind` outside the two declared ones is `none`. -/
structure StationRouteStatement where
  (nodePeerID relayPeerID : Text)
  kind : Option StationRouteKind
  addresses : List Text

/-- What an address of the kind ends in. -/
def StationRouteStatement.suffix (s : StationRouteStatement) : StationRouteKind → Text
  | .direct => "/p2p/".toList ++ s.nodePeerID
  | .circuit => "/p2p/".toList ++ (s.relayPeerID ++ "/p2p-circuit/p2p/".toList ++ s.nodePeerID)

/-- What both sides ask of the part before the suffix. -/
def Transport (text : Text) : Prop := text ≠ [] ∧ ¬"/p2p/".toList <:+: text ∧ ¬"/p2p-circuit".toList <:+: text
deriving Decidable

def trimSuffix (suffix raw : Text) : Text := if suffix <:+ raw then raw.take (raw.length - suffix.length) else raw

/-- `trim_end_matches`, with a bound on the number of rounds. -/
def trimEndMatches (suffix : Text) : ℕ → Text → Text
  | 0, raw => raw
  | rounds + 1, raw => if suffix <:+ raw then trimEndMatches suffix rounds (trimSuffix suffix raw) else raw

variable (parse : Text → Option Text)

/-! ### The clients -/

namespace Clients

/-- `trim` and `strings.TrimSpace` remove the same characters. -/
def canonicalAddresses (addresses : List Text) : Prop := addresses ≠ [] ∧ addresses.length ≤ 16 ∧
    (∀ a ∈ addresses, a ≠ [] ∧ trimSpace (.ofList a) = .ofList a ∧ (String.ofList a).utf8ByteSize ≤ 2048) ∧
    addresses.IsChain fun a b => ¬b ≤ a
deriving Decidable

/-- The check of one address. -/
def matchesSuffix (suffix raw : Text) : Prop :=
  parse raw = some raw ∧ suffix <:+ raw ∧ Transport (trimEndMatches suffix raw.length raw) ∧
    parse (trimEndMatches suffix raw.length raw) = some (trimEndMatches suffix raw.length raw)
deriving Decidable

def routeAddressesMatchKind (s : StationRouteStatement) : Prop :=
  ∃ kind ∈ s.kind, ∀ raw ∈ s.addresses, matchesSuffix parse (s.suffix kind) raw
deriving Decidable

def accept (s : StationRouteStatement) : Prop := canonicalAddresses s.addresses ∧ routeAddressesMatchKind parse s
deriving Decidable

end Clients

/-! ### The Station -/

namespace Station

def canonicalRouteAddresses (addresses : List Text) : Prop :=
  (addresses.length ≠ 0 ∧ addresses.length ≤ 16) ∧ addresses.IsChain (· ≤ ·) ∧
    (∀ a ∈ addresses, a ≠ [] ∧ .ofList a = trimSpace (.ofList a) ∧ (String.ofList a).utf8ByteSize ≤ 2048) ∧
    addresses.IsChain (· ≠ ·)
deriving Decidable

/-- The check of one address: what stands before the suffix is parsed, but not compared with what it prints. -/
def matchesSuffix (suffix raw : Text) : Prop :=
  parse raw = some raw ∧ suffix <:+ raw ∧ Transport (trimSuffix suffix raw) ∧ parse (trimSuffix suffix raw) ≠ none
deriving Decidable

def routeAddressesMatchKind (s : StationRouteStatement) : Prop :=
  ∃ kind ∈ s.kind, ∀ raw ∈ s.addresses, matchesSuffix parse (s.suffix kind) raw
deriving Decidable

def accepts (s : StationRouteStatement) : Prop := canonicalRouteAddresses s.addresses ∧ routeAddressesMatchKind parse s
deriving Decidable

end Station

/-! ### Agreement -/

variable {parse}

lemma canonicalRouteAddresses_iff (addresses : List Text) :
    Station.canonicalRouteAddresses addresses ↔ Clients.canonicalAddresses addresses := by
  have hch : addresses.IsChain (fun a b => ¬b ≤ a) ↔ addresses.IsChain (· ≤ ·) ∧ addresses.IsChain (· ≠ ·) := by
    simp only [isChain_iff_getElem, ← forall_and, not_le, lt_iff_le_and_ne]
  simp only [Station.canonicalRouteAddresses, Clients.canonicalAddresses, ne_eq, length_eq_zero_iff, eq_comm]
  tauto

lemma trimSuffix_append (t suffix : Text) : trimSuffix suffix (t ++ suffix) = t := by simp [trimSuffix]

/-- Without a second suffix the clients strip what the Station strips. -/
lemma trimEndMatches_append {t suffix : Text} (hne : suffix ≠ []) (h : ¬suffix <:+ t) :
    trimEndMatches suffix (t ++ suffix).length (t ++ suffix) = t := by
  obtain ⟨n, hn⟩ := Nat.exists_eq_succ_of_ne_zero (n := (t ++ suffix).length) (by simp [hne])
  rw [hn, trimEndMatches, if_pos (suffix_append t suffix), trimSuffix_append]
  cases n with
  | zero => rfl
  | succ n => rw [trimEndMatches, if_neg h]

/-- **The two checks.**  For a statement that one side accepts, the other accepts it too and each address is a
transport address with the suffix behind it once, if and only if no address ends in the suffix twice and what stands
before the suffix is printed as it is written. -/
theorem route_checks_agree_iff {s : StationRouteStatement} {kind : StationRouteKind} (hkind : s.kind = some kind)
    (h : Clients.accept parse s ∨ Station.accepts parse s) : ((Clients.accept parse s ↔ Station.accepts parse s) ∧
        ∀ raw ∈ s.addresses, ∃ t, raw = t ++ s.suffix kind ∧ Transport t ∧ parse t = some t) ↔
      ∀ raw ∈ s.addresses, ¬s.suffix kind ++ s.suffix kind <:+ raw ∧
        parse (trimSuffix (s.suffix kind) raw) = some (trimSuffix (s.suffix kind) raw) := by
  have hpeer : "/p2p/".toList <:+: s.suffix kind := by cases kind <;> exact (prefix_append _ _).isInfix
  generalize hsuffix : s.suffix kind = suffix at hpeer ⊢
  have hne : suffix ≠ [] := fun hnil => absurd (hnil ▸ hpeer) (by decide)
  have htwice : ∀ t, suffix ++ suffix <:+ t ++ suffix ↔ suffix <:+ t := fun t =>
    ⟨fun ⟨u, hu⟩ => ⟨u, append_cancel_right ((append_assoc u _ _).trans hu)⟩,
      fun ⟨u, hu⟩ => ⟨u, by rw [← append_assoc, hu]⟩⟩
  simp only [Clients.accept, Clients.routeAddressesMatchKind, Station.accepts,
    Station.routeAddressesMatchKind, hkind, Option.mem_some_iff, exists_eq_left', hsuffix,
    canonicalRouteAddresses_iff] at h ⊢
  have hcanon : Clients.canonicalAddresses s.addresses := h.elim And.left And.left
  simp only [hcanon, true_and] at h ⊢
  constructor
  · rintro ⟨hiff, hform⟩ raw hraw
    obtain ⟨t, rfl, htransp, hparse⟩ := hform raw hraw
    rw [htwice, trimSuffix_append]
    exact ⟨fun hend => htransp.2.1 (hpeer.trans hend.isInfix), hparse⟩
  · intro hcond
    have hform : ∀ raw ∈ s.addresses, parse raw = some raw ∧ ∃ t, raw = t ++ suffix ∧ Transport t ∧ parse t = some t := by
      intro raw hraw
      have hend : suffix <:+ raw := h.elim (fun h => (h raw hraw).2.1) fun h => (h raw hraw).2.1
      obtain ⟨t, rfl⟩ := hend
      obtain ⟨honce, hprint⟩ := hcond _ hraw
      rw [htwice] at honce
      rw [trimSuffix_append] at hprint
      rcases h with hclients | hstation
      · obtain ⟨hparse, -, htransp, -⟩ := hclients _ hraw
        rw [trimEndMatches_append hne honce] at htransp
        exact ⟨hparse, t, rfl, htransp, hprint⟩
      · obtain ⟨hparse, -, htransp, -⟩ := hstation _ hraw
        rw [trimSuffix_append] at htransp
        exact ⟨hparse, t, rfl, htransp, hprint⟩
    refine ⟨iff_of_true ?_ ?_, fun raw hraw => (hform raw hraw).2⟩
    · intro raw hraw
      obtain ⟨hparse, t, rfl, htransp, hprint⟩ := hform raw hraw
      have honce : ¬suffix <:+ t := fun hend => htransp.2.1 (hpeer.trans hend.isInfix)
      rw [Clients.matchesSuffix, trimEndMatches_append hne honce]
      exact ⟨hparse, suffix_append t suffix, htransp, hprint⟩
    · intro raw hraw
      obtain ⟨hparse, t, rfl, htransp, hprint⟩ := hform raw hraw
      rw [Station.matchesSuffix, trimSuffix_append]
      exact ⟨hparse, suffix_append t suffix, htransp, by simp [hprint]⟩

/-- A parser that knows the loopback address, alone and with the peer `n` once or twice behind it. -/
def loopbackOnly (text : Text) : Option Text :=
  if text ∈ ["/ip4/127.0.0.1".toList, "/ip4/127.0.0.1/p2p/n".toList, "/ip4/127.0.0.1/p2p/n/p2p/n".toList] then
    some text
  else none

/-- A direct route of the node `n` with one address. -/
def directRoute (address : String) : StationRouteStatement := ⟨"n".toList, [], some .direct, [address.toList]⟩

/-- On a route with its suffix once the two sides agree. -/
theorem route_checks_agree_on_loopback : Clients.accept loopbackOnly (directRoute "/ip4/127.0.0.1/p2p/n") ∧
      (Clients.accept loopbackOnly (directRoute "/ip4/127.0.0.1/p2p/n") ↔
        Station.accepts loopbackOnly (directRoute "/ip4/127.0.0.1/p2p/n")) := by
  have hclients : Clients.accept loopbackOnly (directRoute "/ip4/127.0.0.1/p2p/n") := by decide
  exact ⟨hclients, ((route_checks_agree_iff rfl (.inl hclients)).2 (by decide)).1⟩

/-- With the suffix twice the clients accept the route and the Station does not. -/
theorem repeated_suffix_accepted_by_clients : Clients.accept loopbackOnly (directRoute "/ip4/127.0.0.1/p2p/n/p2p/n") ∧
      ¬Station.accepts loopbackOnly (directRoute "/ip4/127.0.0.1/p2p/n/p2p/n") := by
  decide

end PeersTouch.Trust
