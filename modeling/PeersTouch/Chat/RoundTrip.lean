import PeersTouch.Chat.Invariant
import PeersTouch.Chat.WireCodec

/-!
# The round trip of an event over the wire

A follower Station decodes the message of an event and seals the result again; it accepts the event
if that gives the same hash and the same bytes. The two mappings were written independently of each
other. They are inverse to each other but for one point: the decoder takes the blanks off the actor
and off the active endpoints, while a conversation accepts endpoints with blanks around them. So
sealing the decoded record gives the message with its endpoints trimmed (`mapEvent_decoded`), and
the event is accepted exactly when that is the message itself (`roundTrips_iff`).
-/

namespace PeersTouch.Chat

open Lib List RecordInput Conversation Record
open WireFormat

/-! ### Numbers, times and hashes -/

@[simp] lemma toInt64_ofInt64 (z : Int64) : toInt64 (ofInt64 z) = z := by simp [toInt64, ofInt64]

lemma ofInt64_toInt64 {n : ℕ} (h : n < 2 ^ 64) : ofInt64 (toInt64 n) = n := by exact Nat.mod_eq_of_lt h

lemma ofInt64_maximumInt64_ne_zero (z : Int64) : ofInt64 (maximumInt64 1 z) ≠ 0 := by
  intro h
  have hzero : maximumInt64 1 z = 0 := by
    rw [← toInt64_ofInt64 (maximumInt64 1 z), h]
    rfl
  rw [maximumInt64] at hzero
  split_ifs at hzero with hz
  · exact absurd hzero (by decide)
  · rw [hzero] at hz
    exact hz (by decide)

@[simp] lemma asTime_timestampOf (t : Time) : (timestampOf t).asTime = t := by
  have h : ∀ t : Int, (t / 1000000000 - 62135596800 + 62135596800) * 1000000000 + (t % 1000000000).toNat = t := by omega
  exact h t

/-- The times that protobuf takes for valid: the years 1 to 9999. -/
def InWireRange (t : Time) : Prop := 0 ≤ t ∧ t < 315537897600000000000

lemma isValid_timestampOf {t : Time} : (timestampOf t).IsValid ↔ InWireRange t := by
  have h : ∀ t : Int, -62135596800 ≤ t / 1000000000 - 62135596800 ∧
      t / 1000000000 - 62135596800 ≤ 253402300799 ∧ (t % 1000000000).toNat < 1000000000 ↔
      0 ≤ t ∧ t < 315537897600000000000 := by omega
  exact h t

lemma truncateMicros_truncateMicros (t : Time) : truncateMicros (truncateMicros t) = truncateMicros t := by
  have h : ∀ t : Int, t - t % 1000 - (t - t % 1000) % 1000 = t - t % 1000 := by omega
  exact h t

lemma foldl_bigEndian (width n : ℕ) (m : ℕ) : (bigEndian width n).foldl (fun n b => n * 256 + b.toNat) m =
    m * 256 ^ width + n % 256 ^ width := by
  induction width generalizing m with
  | zero => simp [bigEndian, Nat.mod_one]
  | succ width ih =>
    have hcons : bigEndian (width + 1) n = UInt8.ofNat (n / 256 ^ width) :: bigEndian width n := by
      simp [bigEndian, range_succ]
    have hbyte : (UInt8.ofNat (n / 256 ^ width)).toNat = n / 256 ^ width % 256 := UInt8.toNat_ofNat'
    rw [hcons, foldl_cons, ih, hbyte, Nat.pow_succ, Nat.mod_mul]
    ring

lemma newHash_bytes (h : Hash) : newHash h.bytes = .ok h := by
  simp only [newHash, ok_iff, not_not]
  refine ⟨bigEndian_length 32 _, ?_⟩
  rw [Hash.bytes, foldl_bigEndian, Nat.zero_mul, Nat.zero_add]
  rw [Nat.mod_eq_of_lt (by have := h.isLt; omega), BitVec.ofNat_toNat, BitVec.setWidth_eq]

lemma wireHash_bytes (h : Hash) : productionWireHash h.bytes false = .ok h := by
  rw [productionWireHash, if_neg (by simp), newHash_bytes]

lemma wireHash_optionalBytes (h : Hash) : productionWireHash (optionalHashBytes h) true = .ok h := by
  rw [optionalHashBytes]
  split_ifs with h0
  · rw [h0]
    rfl
  · have hne : h.bytes ≠ [] := by
      intro he
      have := bigEndian_length 32 h.toNat
      rw [← Hash.bytes, he] at this
      cases this
    rw [productionWireHash, if_neg (by simp [hne]), newHash_bytes]

lemma sortedHashes_sortedHashes (hs : List Hash) : sortedHashes (sortedHashes hs) = sortedHashes hs :=
  (pairwise_insertionSort _ _).insertionSort_eq

/-! ### Enumerations -/

@[simp] lemma kindToProto_fromProto (k : ConversationKind) : conversationKindToProto
    (productionConversationKindFromProto (conversationKindToProto k)) = conversationKindToProto k := by
  cases k <;> rfl

@[simp] lemma visibilityToProto_fromProto (v : ConversationVisibility) : conversationVisibilityToProto
    (productionConversationVisibilityFromProto (conversationVisibilityToProto v)) =
    conversationVisibilityToProto v := by
  cases v <;> rfl

@[simp] lemma membershipActionToProto_fromProto (a : MembershipAction) : membershipActionToProto
    (productionMembershipActionFromProto (membershipActionToProto a)) = membershipActionToProto a := by
  cases a <;> rfl

@[simp] lemma memberAuthorityActionToProto_fromProto (a : MemberAuthorityAction) : memberAuthorityActionToProto
    (productionMemberAuthorityActionFromProto (memberAuthorityActionToProto a)) = memberAuthorityActionToProto a := by
  cases a <;> rfl

/-! ### Trimming -/

def Endpoint.trimmed (e : Endpoint) : Endpoint := { actor := trimSpace e.actor, device := trimSpace e.device }

namespace Wire

def CryptoEndpoint.trimmed (e : CryptoEndpoint) : CryptoEndpoint :=
  { ptid := trimSpace e.ptid, deviceId := trimSpace e.deviceId }

def AuthoritySnapshot.trimmed (s : AuthoritySnapshot) : AuthoritySnapshot :=
  { s with activeEndpoints := s.activeEndpoints.map CryptoEndpoint.trimmed }

/-- The payload as the decoder gets to see it. -/
def EventPayload.trimmed : EventPayload → EventPayload
  | messageCommitted fact => messageCommitted { fact with sender := fact.sender.map CryptoEndpoint.trimmed }
  | messageEdited messageId editor time => messageEdited messageId (editor.map CryptoEndpoint.trimmed) time
  | messageRetracted messageId retractor time => messageRetracted messageId (retractor.map CryptoEndpoint.trimmed) time
  | reactionCommitted messageId actor reaction removed =>
    reactionCommitted messageId (actor.map CryptoEndpoint.trimmed) reaction removed
  | messagePinCommitted messageId actor removed =>
    messagePinCommitted messageId (actor.map CryptoEndpoint.trimmed) removed
  | conversationUpdated fact => conversationUpdated fact
  | membershipTransitionCommitted fact => membershipTransitionCommitted
      { fact with postState := fact.postState.map AuthoritySnapshot.trimmed }
  | conversationCreated fact =>
    conversationCreated { fact with postState := fact.postState.map AuthoritySnapshot.trimmed }
  | conversationDissolved ptid => conversationDissolved (trimSpace ptid)
  | memberAuthorityCommitted fact => memberAuthorityCommitted
      { fact with postState := fact.postState.map AuthoritySnapshot.trimmed }
  | messageHiddenForActor messageId ptid time => messageHiddenForActor messageId (trimSpace ptid) time
  | messageModerated messageId moderator reasonCode time =>
    messageModerated messageId (moderator.map CryptoEndpoint.trimmed) reasonCode time
  | messageForwarded fact => messageForwarded { fact with sender := fact.sender.map CryptoEndpoint.trimmed }

def EventPayload.postState : EventPayload → Option AuthoritySnapshot
  | membershipTransitionCommitted fact => fact.postState
  | conversationCreated fact => fact.postState
  | memberAuthorityCommitted fact => fact.postState
  | _ => none

lemma EventPayload.postState_trimmed (p : EventPayload) :
    p.trimmed.postState = p.postState.map AuthoritySnapshot.trimmed := by
  cases p <;> rfl

def ConversationEvent.trimmed (e : ConversationEvent) : ConversationEvent := { e with
    actor := e.actor.map CryptoEndpoint.trimmed, payload := e.payload.map EventPayload.trimmed }

end Wire

@[simp] lemma endpointToProto_trimmed (e : Endpoint) : endpointToProto e.trimmed = (endpointToProto e).trimmed :=
  rfl

lemma endpointToProto_injective : Function.Injective endpointToProto := by
  rintro ⟨actor, device⟩ ⟨actor', device'⟩ h
  cases h
  rfl

lemma trimSpace_eq (s : String) : trimSpace s = String.ofList (rdropWhile isSpace (s.toList.dropWhile isSpace)) := rfl

lemma trimSpace_trimSpace (s : String) : trimSpace (trimSpace s) = trimSpace s := by
  rw [trimSpace_eq, trimSpace_eq, String.toList_ofList]
  have hfront := dropWhile_idempotent isSpace s.toList
  generalize s.toList.dropWhile isSpace = front at hfront
  -- What is left has the first character of `front`, if it has any.
  have h : (rdropWhile isSpace front).dropWhile isSpace = rdropWhile isSpace front := by
    rw [dropWhile_eq_self_iff] at hfront ⊢
    intro hpos
    have hpre := rdropWhile_prefix isSpace front
    rw [hpre.getElem hpos]
    exact hfront (hpos.trans_le hpre.length_le)
  rw [h, rdropWhile_idempotent]

lemma validatedString_of_ne {field value : String} (h : trimSpace value ≠ "") :
    validatedString field value = .ok (trimSpace value) := by
  rw [validatedString, failWhen_of_not h]
  rfl

lemma endpointFromWire_endpointToProto {e : Endpoint} (h : e.validate = .ok ()) :
    endpointFromWire (endpointToProto e) = .ok e.trimmed ∧ e.trimmed.validate = .ok () := by
  have hparts : trimSpace e.actor ≠ "" ∧ trimSpace e.device ≠ "" := Endpoint.validate_eq_ok.1 h
  constructor
  · simp only [endpointFromWire, endpointToProto, newEndpoint, newPTID, newDeviceID,
      validatedString_of_ne hparts.1, validatedString_of_ne hparts.2]
    rfl
  · rw [Endpoint.validate_eq_ok]
    exact ⟨by rw [Endpoint.trimmed, trimSpace_trimSpace]; exact hparts.1,
      by rw [Endpoint.trimmed, trimSpace_trimSpace]; exact hparts.2⟩

/-! ### The state after an event -/

/-- What holds of the state that an event shows. -/
structure ConversationState.Shown (s : ConversationState) : Prop where
  scope : s.scope.IsFederation
  members : ∀ m ∈ s.activeMembers, m.Valid ∧ m.Active
  distinct : (s.activeMembers.map Member.actor).Nodup
  devices : ∀ d ∈ s.activeDevices, d.Valid ∧ d.active = true ∧
    ∃ m ∈ s.activeMembers, m.actor = d.endpoint.actor ∧ m.homeStation = d.homeStation
  endpoints : ∀ e ∈ s.activeEndpoints, e.validate = .ok ()

variable {m : Member}

lemma memberFromWire_mapMember (hval : m.Valid) (hact : m.Active) :
    memberFromWire (mapMember m) = .ok { m with joinedAt := 1 } := by
  have hrole : MemberRole.ofText m.role.text = m.role := by
    rcases MemberRole.validate_eq_ok.1 hval.role with h | h | h <;> rw [h] <;> rfl
  have huntil : (m.mutedUntil.map timestampOf).map Wire.Timestamp.asTime = m.mutedUntil := by cases m.mutedUntil <;> simp
  have hmapped : ({ m with
      role := .ofText m.role.text, status := .active, joinedAt := 1, leftAt := 0
      mutedUntil := (m.mutedUntil.map timestampOf).map Wire.Timestamp.asTime } : Member) =
      { m with joinedAt := 1 } := by
    rw [hrole, huntil, ← hval.leftAt_of_active hact, ← show m.status = .active from hact]
  have hok : ({ m with joinedAt := 1 } : Member).Valid := { hval with
      joinedAt_ne := one_ne_zero, joinedAt_lt_leftAt := fun hnot => absurd hact hnot }
  simp only [memberFromWire, mapMember, hmapped, ok_iff, and_true]
  exact Member.validate_eq_ok.2 hok

variable {members : List Member}

lemma homeByActor_of_mem (hnodup : (members.map Member.actor).Nodup) (hm : m ∈ members) :
    homeByActor members m.actor = m.homeStation := by
  have hsome : (members.reverse.find? fun member => member.actor = m.actor).isSome = true := by
    rw [find?_isSome]
    exact ⟨m, mem_reverse.2 hm, by simp⟩
  obtain ⟨m', hm'⟩ := Option.isSome_iff_exists.1 hsome
  have hac : m'.actor = m.actor := by simpa using find?_some hm'
  have hmem : m' ∈ members := mem_reverse.1 (mem_of_find?_eq_some hm')
  rw [homeByActor, hm', inj_on_of_nodup_map hnodup hmem hm hac]
  rfl

lemma deviceFromWire_mapDevice {d : MemberDevice} (sequence : Int64) (hval : d.Valid)
    (hact : d.active = true) (hhome : homeByActor members d.endpoint.actor = d.homeStation) :
    deviceFromWire members sequence (mapDevice d) =
      .ok { d with joinedAt := ofInt64 (maximumInt64 1 sequence) } := by
  have hmapped : ({ d with
      endpoint := ⟨d.endpoint.actor, d.endpoint.device⟩, active := true
      joinedAt := ofInt64 (maximumInt64 1 sequence), leftAt := 0 } : MemberDevice) =
      { d with joinedAt := ofInt64 (maximumInt64 1 sequence) } := by
    rw [← hval.leftAt_of_active hact, ← hact]
  have hok : ({ d with joinedAt := ofInt64 (maximumInt64 1 sequence) } : MemberDevice).Valid :=
    { hval with
      joinedAt_ne := ofInt64_maximumInt64_ne_zero sequence
      joinedAt_lt_leftAt := fun hnot => by rw [hact] at hnot; cases hnot }
  simp only [deviceFromWire, ok_iff]
  refine ⟨_, rfl, not_not.2 hhome, ?_, hmapped⟩
  exact (congrArg MemberDevice.validate hmapped).trans (MemberDevice.validate_eq_ok.2 hok)

lemma federationScope_of_isFederation {scope : Scope} (h : scope.IsFederation) :
    Scope.federationScope scope.federationIDOrEmpty = .ok scope := by
  cases scope with
  | federation id nonempty => exact dif_neg nonempty
  | zero => cases h
  | onStation station nonblank => cases h

variable {s : ConversationState}

/-- A decoded state has the same message but for the blanks around the endpoints. -/
lemma stateFromWire_mapState (h : s.Shown) (sequence : Int64) :
    ∃ s', productionStateFromWire (some (mapConversationState s)) sequence = .ok s' ∧
    mapConversationState s' = (mapConversationState s).trimmed := by
  let joined (m : Member) : Member := { m with joinedAt := 1 }
  have hmems : (s.activeMembers.map mapMember).mapM memberFromWire = .ok (s.activeMembers.map joined) :=
    mapM_map_of_forall fun m hm => memberFromWire_mapMember (h.members m hm).1 (h.members m hm).2
  have hnodup : ((s.activeMembers.map joined).map Member.actor).Nodup := by
    rw [map_map]
    exact h.distinct
  have hdevs : (s.activeDevices.map mapDevice).mapM (deviceFromWire (s.activeMembers.map joined) sequence) =
      .ok (s.activeDevices.map fun d =>
        { d with joinedAt := ofInt64 (maximumInt64 1 sequence) }) := by
    refine mapM_map_of_forall fun d hd => ?_
    obtain ⟨hval, hact, m, hm, hac, hhome⟩ := h.devices d hd
    refine deviceFromWire_mapDevice sequence hval hact ?_
    have hm' : joined m ∈ s.activeMembers.map joined := mem_map_of_mem hm
    have hfnd := homeByActor_of_mem hnodup hm'
    rw [← hac, ← hhome]
    exact hfnd
  have hendpoints : (s.activeEndpoints.map endpointToProto).mapM endpointFromWire =
      .ok (s.activeEndpoints.map Endpoint.trimmed) :=
    mapM_map_of_forall fun e he => (endpointFromWire_endpointToProto (h.endpoints e he)).1
  simp only [productionStateFromWire, ok_iff]
  refine ⟨_, ⟨_, rfl, _, hmems, _, hdevs, _, hendpoints, _, federationScope_of_isFederation h.scope, rfl⟩, ?_⟩
  simp only [mapConversationState, Wire.AuthoritySnapshot.trimmed, map_map,
    kindToProto_fromProto, visibilityToProto_fromProto, toInt64_ofInt64]
  rfl

lemma Conversation.eventState_shown [Digest] {c : Conversation} {n : ℕ} (hval : c.validateState n = .ok ())
    (hsc : c.scope.IsFederation) : c.eventState.Shown := by
  obtain ⟨hmems, hdevs, -⟩ := validateState_eq_ok.1 hval
  constructor
  case scope => exact hsc
  case members =>
    intro m hm
    obtain ⟨hm, hact⟩ := mem_filter.1 hm
    exact ⟨(validateMemberState_eq_ok.1 (hmems m hm)).1, of_decide_eq_true hact⟩
  case distinct => exact pairwise_map.2 (c.members.values_distinct.sublist filter_sublist)
  case devices =>
    intro d hd
    obtain ⟨hd, hact⟩ := mem_filter.1 hd
    obtain ⟨hval, -, m, hm, himp⟩ := validateDeviceState_eq_ok.1 (hdevs d hd)
    obtain ⟨hmactive, hhome⟩ := himp hact
    refine ⟨hval, hact, m, mem_filter.2 ⟨Registry.mem_values_of_find hm, ?_⟩, Registry.key_of_find hm, hhome.symm⟩
    exact decide_eq_true hmactive
  case endpoints =>
    intro e he
    obtain ⟨d, hd, rfl⟩ := mem_map.1 ((mem_insertionSort _).1 he)
    obtain ⟨hd, -⟩ := mem_filter.1 hd
    exact (validateDeviceState_eq_ok.1 (hdevs d hd)).1.endpoint

/-! ### The payload -/

/-- What holds of the fact of an event that leaves the Station. -/
structure Fact.Shown (f : Fact) : Prop where
  state : f.kind.ShowsState → ∃ s, f.postState = some s ∧ s.Shown
  roles : ∀ mutation ∈ f.memberAuthority, ∀ role ∈ mutation.role, role.validate = .ok ()
  kind_ne : f.kind ≠ .systemServiceMessageCommitted

def Kind.carriesCommand : Kind → Bool
  | .conversationCreated | .memberAuthority | .systemServiceMessageCommitted => false
  | _ => true

section

variable [WireFormat]
  {s : PayloadSource} {source : Wire.ChatCommand} {p : Wire.EventPayload}

lemma mapPayload_of_source (hkind : s.fact.kind.carriesCommand = true)
    (hsrc : command.unmarshal s.fact.payload = some source) : mapPayload s = mapCommandPayload s source := by
  unfold mapPayload
  split <;> rename_i hk
  · rw [hk] at hkind
    cases hkind
  · rw [hk] at hkind
    cases hkind
  · rw [hk] at hkind
    cases hkind
  · rw [hsrc]
    rfl

/-- The payload that the decoder makes of `p` gives `p` again, with the blanks taken off. -/
def Rereads (s : PayloadSource) (p : Wire.EventPayload) : Prop :=
  ∀ (wire : Wire.ConversationEvent) (membershipEpoch : ℕ), wire.payload = some p →
    toInt64 membershipEpoch = toInt64 s.membershipEpoch →
    ∃ fact, productionFactFromWire wire = .ok fact ∧ fact.kind = s.fact.kind ∧
      mapPayload { actor := s.actor.trimmed, committedAt := s.committedAt, membershipEpoch, fact } =
        .ok p.trimmed

lemma rereads_created (hkind : s.fact.kind = .conversationCreated) (hshown : s.fact.Shown)
    (h : mapCreated s.fact = .ok p) : Rereads s p := by
  intro wire membershipEpoch hwire _
  simp only [mapCreated, ok_iff] at h
  obtain ⟨created, -, postState, hpost, rfl⟩ := h
  obtain ⟨state, hst, hs⟩ := hshown.state (.inl hkind)
  obtain ⟨state', hdec, hmap⟩ := stateFromWire_mapState hs wire.sequence
  rw [hst] at hpost
  obtain rfl := Option.some.inj hpost
  refine ⟨_, by rw [productionFactFromWire, hwire]; exact bind_eq_ok.2 ⟨state', hdec, rfl⟩, hkind.symm, ?_⟩
  simp only [mapPayload, mapCreated, orFail, Option.elim, Option.map_some, hmap]
  simp only [bind, Except.bind, kindToProto_fromProto]
  rfl

lemma rereads_memberAuthority (hkind : s.fact.kind = .memberAuthority) (hshown : s.fact.Shown)
    (h : mapMemberAuthority s.fact = .ok p) : Rereads s p := by
  intro wire membershipEpoch hwire _
  simp only [mapMemberAuthority, ok_iff] at h
  obtain ⟨mutation, hmut, rfl⟩ := h
  obtain ⟨state, hst, hs⟩ := hshown.state (.inr (.inr hkind))
  obtain ⟨state', hdec, hmap⟩ := stateFromWire_mapState hs wire.sequence
  have hrole : (((mutation.role.map memberRoleToProto).map productionMemberRole).map
      memberRoleToProto) = mutation.role.map memberRoleToProto := by
    have hval := hshown.roles mutation hmut
    cases hr : mutation.role with
    | none => rfl
    | some role =>
      have hval := hval role hr
      cases role with
      | other text => cases hval
      | _ => rfl
  have huntil : (((mutation.mutedUntil.map timestampOf).map Wire.Timestamp.asTime).map
      timestampOf) = mutation.mutedUntil.map timestampOf := by
    cases mutation.mutedUntil <;> simp
  refine ⟨_, by
    rw [productionFactFromWire, hwire]
    exact bind_eq_ok.2 ⟨state', by rw [hst]; exact hdec, rfl⟩, hkind.symm, ?_⟩
  simp only [mapPayload, Fact.plain, mapMemberAuthority, orFail, Option.elim, Option.map_some, hmap]
  simp only [bind, Except.bind, pure, Except.pure, Wire.EventPayload.trimmed, hst,
    Option.map_some, memberAuthorityFromWire, hrole, huntil, memberAuthorityActionToProto_fromProto, toInt64_ofInt64]

/-- A payload that was taken from a command, decoded into a fact with the command `decoded`. -/
lemma rereads_of_command {fact : Fact} {decoded : Wire.ChatCommand}
    (hdec : ∀ wire : Wire.ConversationEvent, wire.payload = some p → productionFactFromWire wire = .ok fact)
    (hpay : fact.payload = command.marshal decoded) (hkind : fact.kind = s.fact.kind)
    (hcmd : fact.kind.carriesCommand = true)
    (hmap : ∀ membershipEpoch, toInt64 membershipEpoch = toInt64 s.membershipEpoch → mapCommandPayload
        { actor := s.actor.trimmed, committedAt := s.committedAt, membershipEpoch, fact } decoded =
          .ok p.trimmed) : Rereads s p := by
  intro wire membershipEpoch hwire hep
  refine ⟨fact, hdec wire hwire, hkind, ?_⟩
  rw [mapPayload_of_source hcmd, hmap membershipEpoch hep]
  rw [hpay, command.unmarshal_marshal]

lemma rereads_settings (hkind : s.fact.kind = .conversationSettings) : Rereads s (.conversationUpdated
      { name := s.fact.settingsPatch.name, description := s.fact.settingsPatch.description
        avatarObjectId := s.fact.settingsPatch.avatarObjectID
        visibility := s.fact.settingsPatch.visibility.map conversationVisibilityToProto }) := by
  refine rereads_of_command (fun wire hwire => by rw [productionFactFromWire, hwire]) rfl hkind.symm rfl fun _ _ => ?_
  have hvisibility : ((s.fact.settingsPatch.visibility.map conversationVisibilityToProto).map
      productionConversationVisibilityFromProto).map conversationVisibilityToProto =
      s.fact.settingsPatch.visibility.map conversationVisibilityToProto := by
    cases s.fact.settingsPatch.visibility <;> simp
  simp only [mapCommandPayload, productionSettingsPatchFromWire, hvisibility]
  rfl

lemma rereads_membership {intent : Wire.MembershipTransitionIntent}
    (hkind : s.fact.kind = .membershipCommitted) (hshown : s.fact.Shown) :
    Rereads s (.membershipTransitionCommitted { intent with
        toMembershipEpoch := toInt64 s.membershipEpoch
        changes := s.fact.membershipChanges.map mapCommittedChange
        postState := s.fact.postState.map mapConversationState }) := by
  intro wire membershipEpoch hwire hep
  obtain ⟨state, hst, hs⟩ := hshown.state (.inr (.inl hkind))
  obtain ⟨state', hdec, hmap⟩ := stateFromWire_mapState hs wire.sequence
  refine ⟨_, by
    rw [productionFactFromWire, hwire]
    exact bind_eq_ok.2 ⟨state', by rw [hst]; exact hdec, rfl⟩, hkind.symm, ?_⟩
  rw [mapPayload_of_source rfl (command.unmarshal_marshal _)]
  simp only [mapCommandPayload, commandFact, Fact.plain, Option.map_some, hmap, hep, hst,
    Wire.EventPayload.trimmed, map_map, Function.comp_def]
  simp [mapCommittedChange, membershipChangeFromWire]

lemma rereads_command (hshown : s.fact.Shown) (h : mapCommandPayload s source = .ok p) : Rereads s p := by
  unfold mapCommandPayload at h
  split at h
  -- One case for each kind with its command, and one for each kind without it, which is refused.
  all_goals first
    | cases h; done
    | obtain rfl := Except.ok.inj h
  all_goals first
    | exact rereads_settings ‹_›
    | exact rereads_membership ‹_› hshown
    | exact rereads_of_command (fun wire hwire => by rw [productionFactFromWire, hwire]) rfl
        (Eq.symm ‹s.fact.kind = _›) rfl fun _ _ => rfl

lemma rereads_of_mapPayload (hshown : s.fact.Shown) (h : mapPayload s = .ok p) : Rereads s p := by
  unfold mapPayload at h
  split at h <;> rename_i hk
  · exact rereads_created hk hshown h
  · exact rereads_memberAuthority hk hshown h
  · exact absurd hk hshown.kind_ne
  · obtain ⟨source, -, h⟩ := bind_eq_ok.1 h
    exact rereads_command hshown h

end

/-! ### Events without blanks -/

lemma mapState_trimmed_iff : (mapConversationState s).trimmed = mapConversationState s ↔
    ∀ e ∈ s.activeEndpoints, e.trimmed = e := by
  have hmap : (mapConversationState s).trimmed = mapConversationState s ↔
      s.activeEndpoints.map (fun e => endpointToProto e.trimmed) = s.activeEndpoints.map endpointToProto := by
    constructor
    · intro h
      have := congrArg Wire.AuthoritySnapshot.activeEndpoints h
      rwa [Wire.AuthoritySnapshot.trimmed, mapConversationState, map_map] at this
    · intro h
      rw [Wire.AuthoritySnapshot.trimmed]
      simp only [mapConversationState, map_map, Function.comp_def]
      simp only [endpointToProto_trimmed] at h
      rw [h]
  rw [hmap, map_inj_left]
  exact forall₂_congr fun e _ => endpointToProto_injective.eq_iff

section

variable [WireFormat]
  {s : PayloadSource} {p : Wire.EventPayload}

lemma trimmed_of_mapPayload (h : mapPayload s = .ok p) (hac : s.actor.trimmed = s.actor)
    (hst : s.fact.kind.ShowsState → ∀ state ∈ s.fact.postState,
    (mapConversationState state).trimmed = mapConversationState state) : p.trimmed = p := by
  have hendpt : (endpointToProto s.actor).trimmed = endpointToProto s.actor := by
    rw [← endpointToProto_trimmed, hac]
  have hptid : trimSpace s.actor.actor = s.actor.actor := congrArg Endpoint.actor hac
  have hpost : s.fact.kind.ShowsState → (s.fact.postState.map mapConversationState).map Wire.AuthoritySnapshot.trimmed =
        s.fact.postState.map mapConversationState := by
    intro hk
    have hst := hst hk
    cases hs : s.fact.postState with
    | none => rfl
    | some state => exact congrArg some (hst state hs)
  unfold mapPayload at h
  split at h <;> rename_i hk
  · have hpost := hpost (.inl hk)
    simp only [mapCreated, ok_iff] at h
    obtain ⟨created, -, postState, hs, rfl⟩ := h
    rw [hs] at hpost
    simp only [Wire.EventPayload.trimmed, hpost]
  · have hpost := hpost (.inr (.inr hk))
    simp only [mapMemberAuthority, ok_iff] at h
    obtain ⟨mutation, -, rfl⟩ := h
    simp only [Wire.EventPayload.trimmed, hpost]
  · obtain rfl := Except.ok.inj h
    simp only [Wire.EventPayload.trimmed, Option.map_some, hendpt]
  · obtain ⟨source, -, h⟩ := bind_eq_ok.1 h
    unfold mapCommandPayload at h
    split at h
    all_goals first
      | cases h; done
      | obtain rfl := Except.ok.inj h
    all_goals first
      | simp only [Wire.EventPayload.trimmed, hpost (.inr (.inl ‹_›))]
      | simp only [Wire.EventPayload.trimmed, Option.map_some, hendpt, hptid]

lemma postState_of_mapPayload (h : mapPayload s = .ok p) (hk : s.fact.kind.ShowsState) :
    p.postState = s.fact.postState.map mapConversationState := by
  rcases hk with hk | hk | hk
  · simp only [mapPayload, hk, mapCreated, ok_iff] at h
    obtain ⟨created, -, postState, hs, rfl⟩ := h
    exact hs.symm
  · simp only [mapPayload, hk, ok_iff] at h
    obtain ⟨source, -, h⟩ := h
    cases hsrc : source.payload with
    | none => simp [mapCommandPayload, hk, hsrc] at h
    | some payload =>
      cases payload with
      | membershipTransition intent =>
        simp only [mapCommandPayload, hk, hsrc, Except.ok.injEq] at h
        rw [← h]
        rfl
      | _ => simp [mapCommandPayload, hk, hsrc] at h
  · simp only [mapPayload, hk, mapMemberAuthority, ok_iff] at h
    obtain ⟨mutation, -, rfl⟩ := h
    rfl

end

/-! ### The event -/

section

variable [Digest] [WireFormat]

def wireOf (r : RecordInput) (hash : Bytes) (payload : Wire.EventPayload) :
    Wire.ConversationEvent :=
  { eventId := r.id, conversationId := r.conversationID, sequence := toInt64 r.sequence
    commandId := r.commandID, actor := some (endpointToProto r.actor)
    previousHash := optionalHashBytes r.previousHash, eventHash := hash
    committedAt := some (timestampOf r.committedAt), deliveryCommitments := r.deliveryCommitments.map Hash.bytes
    membershipEpoch := toInt64 r.membershipEpoch, mlsEpoch := toInt64 r.mlsEpoch
    authorityStationPeerId := r.authorityStation, payload := some payload }

def RecordInput.payloadSource (r : RecordInput) : PayloadSource :=
  { actor := r.actor, committedAt := r.committedAt, membershipEpoch := r.membershipEpoch, fact := r.fact }

variable {input : RecordInput} {record : Record}

lemma protobufSeal_eq_ok : protobufSeal input = .ok record ↔
      input.Sealable ∧ ∃ p, mapPayload input.normalized.payloadSource = .ok p ∧ (let wire := wireOf input.normalized [] p
         let hash := wireHash wire
         let encoded := event.marshal { wire with eventHash := hash.bytes }
         hash ≠ 0 ∧ encoded ≠ [] ∧
          { input.normalized with hash, hashScheme := .transport, encodedBytes := encoded } = record) := by
  simp only [protobufSeal, canonicalSeal, sealTransportRecord, mapEvent, ok_iff, sealRecord_eq_ok]
  constructor
  · rintro ⟨provisional, ⟨r, ⟨hs, rfl⟩, rfl⟩, wire, ⟨p, hp, rfl⟩, hne, henc, -, rfl⟩
    exact ⟨hs, p, hp, hne, henc, rfl⟩
  · rintro ⟨hs, p, hp, hne, henc, rfl⟩
    exact ⟨_, ⟨_, ⟨hs, rfl⟩, rfl⟩, _, ⟨p, hp, rfl⟩, hne, henc, hs, rfl⟩

/-- The input that the decoder reads off the message of `r`, with the fact it made up. -/
def RecordInput.received (r : RecordInput) (fact : Fact) : RecordInput := { r with
    sequence := ofInt64 (toInt64 r.sequence), actor := r.actor.trimmed
    membershipEpoch := ofInt64 (toInt64 r.membershipEpoch), mlsEpoch := ofInt64 (toInt64 r.mlsEpoch)
    fact }

omit [Digest] [WireFormat] in
lemma RecordInput.normalized_received (input : RecordInput) (fact : Fact) :
    (input.normalized.received fact).normalized = input.normalized.received fact := by
  simp only [normalized, received, truncateMicros_truncateMicros, sortedHashes_sortedHashes]

variable {fact : Fact}

omit [Digest] [WireFormat] in
lemma RecordInput.sealable_received (h : input.Sealable) (hseq : input.sequence < 2 ^ 64)
    (hkind : fact.kind = input.fact.kind) :
    (input.normalized.received fact).Sealable ↔ input.normalized.committedAt ≠ 0 := by
  have hs : (input.normalized.received fact).sequence = input.sequence := ofInt64_toInt64 hseq
  refine ⟨fun h' => h'.committedAt_ne, fun htime => ?_⟩
  constructor
  case id_ne => exact h.id_ne
  case conversationID_ne => exact h.conversationID_ne
  case sequence_ne => rw [hs]; exact h.sequence_ne
  case commandID_ne => exact h.commandID_ne
  case actor => exact (endpointFromWire_endpointToProto h.actor).2
  case authorityStation_ne => exact h.authorityStation_ne
  case committedAt_ne => exact htime
  case kind_ne =>
    change fact.kind ≠ _
    rw [hkind]
    exact h.kind_ne
  case genesis => rw [hs]; exact h.genesis
  case chained => rw [hs]; exact h.chained

variable {hash : Hash} {p : Wire.EventPayload}

omit [Digest] in
/-- What the decoder makes of the message of a sealed input. -/
lemma recordFromWire_wireOf {r : Record} (hac : input.actor.validate = .ok ())
    (hfact : productionFactFromWire (wireOf input.normalized hash.bytes p) = .ok fact) :
    productionRecordFromWire (wireOf input.normalized hash.bytes p) = .ok r ↔ InWireRange input.normalized.committedAt ∧
    sealTransportRecord (input.normalized.received fact) hash
    (event.marshal (wireOf input.normalized hash.bytes p)) = .ok r := by
  have hcomms : (input.normalized.deliveryCommitments.map Hash.bytes).mapM
      (fun encoded => productionWireHash encoded false) = .ok (input.normalized.deliveryCommitments.map id) :=
    mapM_map_of_forall fun h _ => wireHash_bytes h
  rw [map_id] at hcomms
  have hendpt := (endpointFromWire_endpointToProto hac).1
  have hfilter : ∀ ts, (wireOf input.normalized hash.bytes p).committedAt.filter (fun ts => ts.IsValid) = some ts ↔
      InWireRange input.normalized.committedAt ∧ timestampOf input.normalized.committedAt = ts := by
    intro ts
    rw [← isValid_timestampOf, wireOf, Option.filter_some]
    split_ifs with hval
    · simp_all
    · simp_all
  simp only [productionRecordFromWire, ok_iff, hfilter, hfact]
  constructor
  · rintro ⟨_, hwire, _, ⟨hrange, rfl⟩, _, hprev, _, hhash, _, he, _, hf, _, hc, h⟩
    obtain rfl := Option.some.inj hwire
    obtain rfl := Except.ok.inj ((wireHash_optionalBytes _).symm.trans hprev)
    obtain rfl := Except.ok.inj ((wireHash_bytes _).symm.trans hhash)
    obtain rfl := Except.ok.inj (hendpt.symm.trans he)
    obtain rfl := Except.ok.inj hf
    obtain rfl := Except.ok.inj (hcomms.symm.trans hc)
    rw [asTime_timestampOf] at h
    exact ⟨hrange, h⟩
  · rintro ⟨hrange, h⟩
    refine ⟨_, rfl, _, ⟨hrange, rfl⟩, _, wireHash_optionalBytes _, _,
      wireHash_bytes _, _, hendpt, _, rfl, _, hcomms, ?_⟩
    rw [asTime_timestampOf]
    exact h

/-- What a follower Station does with an event it was sent: the decoded record, sealed again, has
the same hash and the same bytes, and passes the verification. -/
def Record.RoundTrips (e : Record) : Prop :=
  ∃ wire r s, event.unmarshal e.encodedBytes = some wire ∧
    productionRecordFromWire wire = .ok r ∧ protobufSeal r.input = .ok s ∧
    s.hash = e.hash ∧ s.encodedBytes = e.encodedBytes ∧ r.verify protobufEventSealer = .ok r

/-- The events that survive the way: no blanks around the actor or the active endpoints, and a
commit time that is valid on the wire. -/
structure Record.Transmissible (e : Record) : Prop where
  actor : e.actor.trimmed = e.actor
  endpoints : e.fact.kind.ShowsState → ∀ s ∈ e.fact.postState, ∀ endpoint ∈ s.activeEndpoints,
    endpoint.trimmed = endpoint
  time_ne : e.committedAt ≠ 0
  time : InWireRange e.committedAt

omit [Digest] in
lemma wireOf_trimmed_iff {r : RecordInput} {hash : Bytes} (h : mapPayload r.payloadSource = .ok p) :
    (wireOf r hash p).trimmed = wireOf r hash p ↔ r.actor.trimmed = r.actor ∧
    (r.fact.kind.ShowsState → ∀ s ∈ r.fact.postState, ∀ endpoint ∈ s.activeEndpoints, endpoint.trimmed = endpoint) := by
  constructor
  · intro htrim
    have hac := congrArg Wire.ConversationEvent.actor htrim
    have hp := congrArg Wire.ConversationEvent.payload htrim
    refine ⟨endpointToProto_injective (Option.some.inj hac), fun hk s hs => ?_⟩
    have hpost := p.postState_trimmed
    rw [Option.some.inj hp, postState_of_mapPayload h hk, show r.payloadSource.fact.postState = some s from hs] at hpost
    exact mapState_trimmed_iff.1 (Option.some.inj hpost).symm
  · rintro ⟨hac, hst⟩
    have hp := trimmed_of_mapPayload h hac fun hk s hs => mapState_trimmed_iff.2 (hst hk s hs)
    simp only [Wire.ConversationEvent.trimmed, wireOf, Option.map_some, hp, ← endpointToProto_trimmed, hac]

section

omit [Digest] [WireFormat]

lemma sealTransportRecord_eq_ok {encoded : Bytes} :
    sealTransportRecord input hash encoded = .ok record ↔ hash ≠ 0 ∧ encoded ≠ [] ∧ input.Sealable ∧
        { input.normalized with hash, hashScheme := .transport, encodedBytes := encoded } =
          record := by
  simp [sealTransportRecord, sealRecord_eq_ok]

lemma wireOf_received (r : RecordInput) (fact : Fact) (hash : Bytes) (p : Wire.EventPayload) :
    wireOf (r.received fact) hash p.trimmed = (wireOf r hash p).trimmed := by
  simp only [wireOf, received, Wire.ConversationEvent.trimmed, toInt64_ofInt64, endpointToProto_trimmed, Option.map_some]

end

/-- A complete transport record passes the verification when sealing it again gives the same. -/
lemma Record.verify_of_seal {r s : Record} (hscheme : r.hashScheme = .transport)
    (hhash : r.hash ≠ 0) (hb : r.encodedBytes ≠ [])
    (hsorted : sortedHashes r.deliveryCommitments = r.deliveryCommitments)
    (hseal : protobufSeal r.input = .ok s) (hs : s.hash = r.hash)
    (hs' : s.encodedBytes = r.encodedBytes) : r.verify protobufEventSealer = .ok r := by
  have hload : r.rehydrate = .ok r := by
    simp only [rehydrate, hscheme, ok_iff]
    refine ⟨hhash, hb, by simp, by simp, by simp, ?_⟩
    rw [hsorted, if_neg (by simp), ← hscheme]
  simp only [verify, ok_iff]
  exact ⟨r, hload, s, hseal, by simp [hs, hs'], rfl⟩

lemma roundTrips_iff_of_seal (hseal : protobufSeal input = .ok record) (hshown : input.fact.Shown)
    (hseq : input.sequence < 2 ^ 64) : record.RoundTrips ↔ record.Transmissible := by
  obtain ⟨hs, p, hp, hne, henc, rfl⟩ := protobufSeal_eq_ok.1 hseal
  let hash := wireHash (wireOf input.normalized [] p)
  have hwire : event.unmarshal (event.marshal
      (wireOf input.normalized hash.bytes p)) = some (wireOf input.normalized hash.bytes p) :=
    event.unmarshal_marshal _
  obtain ⟨fact, hfact, hkind, hmap⟩ := rereads_of_mapPayload hshown hp
    (wireOf input.normalized hash.bytes p) _ rfl (toInt64_ofInt64 _)
  have hdec := fun r => recordFromWire_wireOf (r := r) hs.actor hfact
  have hsealable := sealable_received hs hseq hkind
  -- Sealing what was decoded is sealing the trimmed message.
  have hreseal : ∀ s, protobufSeal (input.normalized.received fact) = .ok s →
      s.hash = wireHash (wireOf input.normalized [] p).trimmed ∧
      s.encodedBytes = event.marshal (wireOf input.normalized s.hash.bytes p).trimmed := by
    intro s h
    obtain ⟨-, p', hp', -, -, rfl⟩ := protobufSeal_eq_ok.1 h
    rw [normalized_received] at hp' ⊢
    obtain rfl := Except.ok.inj (hmap.symm.trans hp')
    rw [wireOf_received]
    exact ⟨rfl, rfl⟩
  let decoded : Record := { (input.normalized.received fact).normalized with
      hash, hashScheme := .transport
      encodedBytes := event.marshal (wireOf input.normalized hash.bytes p) }
  have hsorted : sortedHashes decoded.deliveryCommitments = decoded.deliveryCommitments := sortedHashes_sortedHashes _
  have hinp : decoded.input = input.normalized.received fact := by
    rw [Record.input, hsorted]
    exact normalized_received input fact
  constructor
  · rintro ⟨wire, r, s, hu, hr, hs', hhash, hb, -⟩
    obtain rfl := Option.some.inj (hwire.symm.trans hu)
    obtain ⟨hrange, hr⟩ := (hdec r).1 hr
    obtain ⟨-, -, hok, hr⟩ := sealTransportRecord_eq_ok.1 hr
    obtain rfl : decoded = r := hr
    rw [hinp] at hs'
    rw [(hreseal s hs').2, hhash] at hb
    obtain ⟨hac, hst⟩ := (wireOf_trimmed_iff hp).1 (event.marshal_injective hb)
    exact ⟨hac, hst, hsealable.1 hok, hrange⟩
  · intro h
    have htrim : ∀ bytes, (wireOf input.normalized bytes p).trimmed = wireOf input.normalized bytes p :=
      fun _ => (wireOf_trimmed_iff hp).2 ⟨h.actor, h.endpoints⟩
    have hok := hsealable.2 h.time_ne
    obtain ⟨s, hs'⟩ : ∃ s, protobufSeal decoded.input = .ok s := by
      rw [hinp]
      refine ⟨_, protobufSeal_eq_ok.2 ⟨hok, p.trimmed, ?_, ?_, ?_, rfl⟩⟩
      · rw [normalized_received]
        exact hmap
      · rw [normalized_received, wireOf_received, htrim]
        exact hne
      · rw [normalized_received, wireOf_received, htrim]
        exact henc
    obtain ⟨hhash, hb⟩ := hreseal s (hinp ▸ hs')
    rw [htrim] at hhash hb
    rw [hhash] at hb
    have hr : productionRecordFromWire (wireOf input.normalized hash.bytes p) = .ok decoded :=
      (hdec decoded).2 ⟨h.time, sealTransportRecord_eq_ok.2 ⟨hne, henc, hok, rfl⟩⟩
    exact ⟨_, decoded, s, hwire, hr, hs', hhash, hb, decoded.verify_of_seal rfl hne henc hsorted hs' hhash hb⟩

/-- The events that a conversation commits for other Stations, with the state after them. -/
inductive Emits : Conversation → Record → Prop
  | created {creation : Creation} {c : Conversation} {t : Transition} :
      creation.run = .ok (c, t) → creation.input.eventSealer = some protobufEventSealer →
      Emits c t.event
  | operated {events : List Record} {op : Operation} {c c' : Conversation} {t : Transition} :
      History events c → op.run.call c = (.ok t, c') →
      op.eventSealer = some protobufEventSealer → ¬op.IsServiceMessage → Emits c' t.event

lemma Emits.sealed {c : Conversation} {e : Record} (h : Emits c e) (hsc : c.scope.IsFederation) :
    ∃ input : RecordInput, protobufSeal input = .ok e ∧ input.fact.Shown ∧ input.sequence < 2 ^ 64 := by
  cases h with
  | created hrun hsealer =>
    obtain ⟨c₀, fact, hgen, hcom⟩ := Creation.run_returns hrun
    obtain ⟨commandID, actor, commitments, s, hs, hseal⟩ := hcom.sealed
    obtain rfl := Option.some.inj (hsealer.symm.trans hs)
    have hscope₀ : c₀.scope.IsFederation := by rw [hcom.state] at hsc; exact hsc
    refine ⟨_, hseal, ⟨fun _ => ⟨_, hgen.postState, ?_⟩, ?_, ?_⟩, next_lt _⟩
    · exact eventState_shown hgen.ready.valid hscope₀
    · intro mutation hmut
      cases hgen.memberAuthority.symm.trans hmut
    · exact fun hk => by cases hgen.kind.symm.trans hk
  | operated hhist hrun hsealer hservice =>
    obtain ⟨candidate, fact, hp, -, hkind, hcom⟩ := Operation.run_returns hrun
    obtain ⟨commandID, actor, commitments, s, hs, hseal⟩ := hcom.sealed
    obtain rfl := Option.some.inj (hsealer.symm.trans hs)
    have hsc' : candidate.scope.IsFederation := by rw [hcom.state] at hsc; exact hsc
    have hsound := hhist.linked.sound
    have hnext := hcom.next_eq (by rw [hp.sequence]; exact hsound.sequence_lt)
    rw [hp.sequence] at hnext
    refine ⟨_, hseal, ⟨fun hk => ⟨_, hp.postState hk, ?_⟩, hp.roles, ?_⟩, next_lt _⟩
    · exact eventState_shown (hp.valid hsound.ready.valid hnext) hsc'
    · exact fun hk => hservice (hkind hk)

/-- **The round trip.**  An event of a federated conversation that was sent to another Station is
decoded and sealed again to the same hash and the same bytes exactly when it is transmissible. -/
theorem roundTrips_iff {c : Conversation} {e : Record} (h : Emits c e)
    (hscope : c.scope.IsFederation) : e.RoundTrips ↔ e.Transmissible := by
  obtain ⟨input, hseal, hshown, hseq⟩ := h.sealed hscope
  exact roundTrips_iff_of_seal hseal hshown hseq

end

section

attribute [local instance] checksum
attribute [local instance] plainFormat

set_option maxRecDepth 10000 in
theorem roundTrips_iff_of_soloGroup :
    ∃ c t, (soloGroup laptop protobufEventSealer).run = .ok (c, t) ∧ c.scope.IsFederation ∧
      (t.event.RoundTrips ↔ t.event.Transmissible) := by
  have hok : ((soloGroup laptop protobufEventSealer).run.map fun p =>
      decide p.1.scope.IsFederation) = .ok true := by decide
  obtain ⟨⟨c, t⟩, hrun, hscope⟩ := map_eq_ok.1 hok
  have hscope := of_decide_eq_true hscope
  exact ⟨c, t, hrun, hscope, roundTrips_iff (.created hrun rfl) hscope⟩

set_option maxRecDepth 10000 in
/-- A group whose only device has a blank at the end of its name: its first event is decoded and
then refused. -/
theorem blank_device_refused :
    ∃ c t wire r, (soloGroup { actor := "alice", device := "laptop " } protobufEventSealer).run =
        .ok (c, t) ∧ Emits c t.event ∧ c.scope.IsFederation ∧
      event.unmarshal t.event.encodedBytes = some wire ∧
      productionRecordFromWire wire = .ok r ∧
      r.verify protobufEventSealer = .error (newError .hashChainInvalid "event.verify" "event"
        "does not match the configured canonical encoding") ∧
      ¬t.event.RoundTrips := by
  have hok : ((soloGroup { actor := "alice", device := "laptop " } protobufEventSealer).run.map
      fun p => decide p.1.scope.IsFederation) = .ok true := by decide
  have hrefused : ((soloGroup { actor := "alice", device := "laptop " } protobufEventSealer).run.map fun p =>
        (event.unmarshal p.2.event.encodedBytes).map fun wire =>
          (productionRecordFromWire wire).map fun r => r.verify protobufEventSealer) =
      .ok (some (.ok (.error (newError .hashChainInvalid "event.verify" "event"
        "does not match the configured canonical encoding")))) := by decide
  obtain ⟨⟨c, t⟩, hrun, hscope⟩ := map_eq_ok.1 hok
  rw [hrun] at hrefused
  obtain ⟨wire, hwire, hrefused⟩ := Option.map_eq_some_iff.1 (Except.ok.inj hrefused)
  obtain ⟨r, hr, hver⟩ := map_eq_ok.1 hrefused
  refine ⟨c, t, wire, r, hrun, .created hrun rfl, of_decide_eq_true hscope, hwire, hr, hver, ?_⟩
  rintro ⟨wire', r', s, hwire', hr', -, -, -, hver'⟩
  obtain rfl := Option.some.inj (hwire.symm.trans hwire')
  obtain rfl := Except.ok.inj (hr.symm.trans hr')
  cases hver.symm.trans hver'

end

end PeersTouch.Chat
