import PeersTouch.Chat.Invariant

/-!
# What a batch of membership changes does to one actor and one device

A membership transition applies its changes one after the other. `validateMembershipChangeBatch`
lets a batch name an actor once and a device once, so what a batch does to one member is what the
one change about it does (`member_of_batch`). Two questions about groups are answered with this:
whether the device that authored a transition is still in the group afterwards
(`committer_survives_iff`), and who can make somebody an admin (`owner_grants_admin_iff`).
-/

namespace PeersTouch.Chat

open Conversation Option MemberDevice List Operation ChangeBatch Member

open Lib Method Registry MembershipChange

/-! ### What a change is about -/

namespace MembershipChange

def OnMember (x : MembershipChange) : Prop := match x.action with
  | .addActor | .removeActor | .leave | .changeRole => True
  | .addDevice | .removeDevice | .other _ => False

def OnDevice (x : MembershipChange) : Prop := match x.action with
  | .addActor => x.device ≠ ""
  | .addDevice | .removeDevice => True
  | .removeActor | .leave | .changeRole | .other _ => False

def Turns (x : MembershipChange) (old new : Option Member) : Prop := match x.action with
  | .addActor => (∀ m ∈ old, ¬m.Active) ∧ ∃ m ∈ new, m.Active ∧ m.role = x.role
  | .removeActor | .leave => (∃ m ∈ old, m.Active) ∧ ∀ m ∈ new, ¬m.Active
  | .changeRole => ∃ m ∈ old, m.Active ∧ new = some { m with role := x.role }
  | .addDevice | .removeDevice | .other _ => new = old

/-- The change takes the endpoint out of the group, or the actor it belongs to. -/
def Removes (x : MembershipChange) (endpoint : Endpoint) : Prop := match x.action with
  | .removeActor | .leave => x.actor = endpoint.actor
  | .removeDevice => x.endpoint.key = endpoint.key
  | .addActor | .changeRole | .addDevice | .other _ => False

instance (x : MembershipChange) (endpoint : Endpoint) : Decidable (x.Removes endpoint) := by
  unfold Removes
  split <;> infer_instance

end MembershipChange

lemma MemberDevice.eq_of_remove {d d' : MemberDevice} {sequence : ℕ}
    (h : d.remove sequence = .ok d') : d' = { d with active := false, leftAt := sequence } := by
  simp only [remove, ok_iff] at h
  exact h.2.symm

/-! ### A batch names everything once -/

namespace Conversation

namespace ChangeBatch

variable {b b' : ChangeBatch} {x : MembershipChange}

lemma recordDevice_eq_ok : b.recordDevice x = .ok b' ↔ x.endpoint.key ∉ b.endpointChanges ∧
      { b with
        endpointChanges := x.endpoint.key :: b.endpointChanges
        deviceChanges := x.actor :: b.deviceChanges } = b' := by
  simp [recordDevice]

def Names (b : ChangeBatch) (actor : PTID) : Prop :=
  (b.actorLifecycle.lookup actor).isSome = true ∨ actor ∈ b.roleChanges

/-- What recording a change `x` does to the names that are taken. -/
structure Records (b : ChangeBatch) (x : MembershipChange) (b' : ChangeBatch) : Prop where
  actors : ∀ actor, b.Names actor → b'.Names actor
  endpoints : ∀ key ∈ b.endpointChanges, key ∈ b'.endpointChanges
  actor : x.OnMember → ¬b.Names x.actor ∧ b'.Names x.actor
  endpoint : x.OnDevice → x.endpoint.key ∉ b.endpointChanges ∧ x.endpoint.key ∈ b'.endpointChanges

lemma recordDevice_records (h : b.recordDevice x = .ok b') (hx : ¬x.OnMember) : b.Records x b' := by
  obtain ⟨hnew, rfl⟩ := recordDevice_eq_ok.1 h
  exact ⟨fun _ ha => ha, fun _ hk => mem_cons_of_mem _ hk, fun hm => absurd hm hx, fun _ => ⟨hnew, mem_cons_self⟩⟩

lemma lifecycle_names (h : b.recordLifecycle x = .ok b') : (∀ actor, b.Names actor → b'.Names actor) ∧
    ¬b.Names x.actor ∧ b'.Names x.actor ∧ b'.endpointChanges = b.endpointChanges := by
  simp only [recordLifecycle, ok_iff, not_or, Bool.not_eq_true] at h
  obtain ⟨⟨hnone, -⟩, hrole, rfl⟩ := h
  refine ⟨?_, ?_, ?_, rfl⟩
  · rintro actor (ha | ha)
    · left
      rw [lookup_cons]
      split
      · rfl
      · exact ha
    · exact .inr ha
  · rintro (ha | ha)
    · rw [hnone] at ha
      cases ha
    · exact hrole ha
  · left
    simp

lemma lifecycle_records (h : b.recordLifecycle x = .ok b') (hx : ¬x.OnDevice) : b.Records x b' := by
  obtain ⟨hkeep, hnew, htook, hends⟩ := lifecycle_names h
  exact ⟨hkeep, fun _ hk => hends ▸ hk, fun _ => ⟨hnew, htook⟩, fun hd => absurd hd hx⟩

lemma record_records (h : b.record x = .ok b') : b.Records x b' := by
  rw [record, bind_eq_ok, exists_unit] at h
  obtain ⟨hval, h⟩ := h
  cases ha : x.action with
  | addActor =>
    simp only [ha, bind_eq_ok] at h
    obtain ⟨b₁, hlife, hdev⟩ := h
    obtain ⟨hkeep, hnew, htook, hends⟩ := lifecycle_names hlife
    split at hdev
    · -- the actor comes with a device, which is recorded as well
      obtain ⟨hfresh, rfl⟩ := recordDevice_eq_ok.1 hdev
      refine ⟨fun a h => hkeep a h, fun k hk => ?_, fun _ => ⟨hnew, htook⟩, fun _ => ?_⟩
      · exact mem_cons_of_mem _ (hends ▸ hk)
      · exact ⟨hends ▸ hfresh, mem_cons_self⟩
    · next hnone =>
      obtain rfl := pure_eq_ok.1 hdev
      refine ⟨hkeep, fun k hk => hends ▸ hk, fun _ => ⟨hnew, htook⟩, fun hd => ?_⟩
      rw [OnDevice, ha] at hd
      exact absurd hd hnone
  | removeActor | leave =>
    simp only [ha] at h
    exact lifecycle_records h (by simp [OnDevice, ha])
  | changeRole =>
    simp only [ha, ok_iff] at h
    obtain ⟨hnone, hrole, rfl⟩ := h
    refine ⟨?_, fun _ hk => hk, fun _ => ⟨?_, .inr mem_cons_self⟩, fun hd => ?_⟩
    · rintro actor (hl | hr)
      · exact .inl hl
      · exact .inr (mem_cons_of_mem _ hr)
    · rintro (hl | hr)
      · exact hnone hl
      · exact hrole hr
    · simp [OnDevice, ha] at hd
  | addDevice | removeDevice =>
    simp only [ha, ok_iff] at h
    exact recordDevice_records h.2 (by simp [OnMember, ha])
  | other text =>
    simp only [ha] at h
    obtain rfl := pure_eq_ok.1 h
    refine ⟨fun _ hn => hn, fun _ hk => hk, fun hm => ?_, fun hd => ?_⟩
    · simp [OnMember, ha] at hm
    · simp [OnDevice, ha] at hd

end ChangeBatch

variable {changes : List MembershipChange}

section

variable (h : validateMembershipChangeBatch changes = .ok ())
include h

lemma recorded_of_validateBatch : ∃ b, changes.foldlM record .empty = .ok b := by
  simp only [validateMembershipChangeBatch, ok_iff] at h
  obtain ⟨-, b, hb, -⟩ := h
  exact ⟨b, hb⟩

lemma members_distinct (actor : PTID) : changes.Pairwise fun x y =>
    x.OnMember ∧ x.actor = actor → ¬(y.OnMember ∧ y.actor = actor) := by
  obtain ⟨b, hb⟩ := recorded_of_validateBatch h
  obtain ⟨-, hpair⟩ := foldlM_pairwise (T := ChangeBatch.Names) (N := fun x actor => x.OnMember ∧ x.actor = actor)
    (fun b x b' a hstep => (record_records hstep).actors a)
    (fun b x b' a hstep hx => hx.2 ▸ (record_records hstep).actor hx.1) hb
  exact hpair.imp fun hxy => hxy actor

lemma devices_distinct (key : String) : changes.Pairwise fun x y =>
    x.OnDevice ∧ x.endpoint.key = key → ¬(y.OnDevice ∧ y.endpoint.key = key) := by
  obtain ⟨b, hb⟩ := recorded_of_validateBatch h
  obtain ⟨-, hpair⟩ := foldlM_pairwise (T := fun b key => key ∈ b.endpointChanges)
    (N := fun x key => x.OnDevice ∧ x.endpoint.key = key) (fun b x b' k hstep => (record_records hstep).endpoints k)
    (fun b x b' k hstep hx => hx.2 ▸ (record_records hstep).endpoint hx.1) hb
  exact hpair.imp fun hxy => hxy key

end

/-! ### What one change does -/

variable {x : MembershipChange} {sequence : ℕ} {c c' : Conversation} {u : Unit}

lemma addDevice_members (h : (addDevice x sequence).call c = (.ok u, c')) : c'.members = c.members := by
  obtain ⟨-, device, -, rfl⟩ := addDevice_returns.1 h
  rfl

variable {actor : PTID}

lemma memberOf_of_find {m : Member} (h : c.members.find actor = some m) : c.memberOf actor = m := by
  rw [memberOf, h]
  rfl

lemma applyChange_members (h : (applyMembershipChange x sequence).call c = (.ok u, c')) :
    (x.OnMember ∧ ∃ m, m.actor = x.actor ∧ c'.members = c.members.insert m ∧ x.Turns (c.members.find x.actor) (some m)) ∨
    ¬x.OnMember ∧ c'.members = c.members := by
  rw [applyMembershipChange, lift_bind_returns, exists_unit] at h
  obtain ⟨-, h⟩ := h
  -- leaving and being removed differ in the status alone
  have hrem : ∀ status, (removeActor x sequence status).call c = (.ok u, c') →
      ∃ m, m.actor = x.actor ∧ c'.members = c.members.insert m ∧ (∃ m ∈ c.members.find x.actor, m.Active) ∧ ¬m.Active := by
    intro status h
    obtain ⟨hact, -, updated, hleave, devices, -, rfl⟩ := removeActor_returns.1 h
    obtain ⟨m, hm, hm'⟩ := isActiveMember_iff.1 hact
    have hac : m.actor = x.actor := key_of_find hm
    rw [memberOf_of_find hm] at hleave
    simp only [Member.leave, ok_iff] at hleave
    obtain ⟨-, hstat, rfl⟩ := hleave
    refine ⟨_, ?_, rfl, ⟨m, hm, hm'⟩, ?_⟩
    · exact hac
    · rintro rfl
      exact hstat ⟨by decide, by decide⟩
  cases ha : x.action with
  | addActor =>
    simp only [ha] at h
    obtain ⟨hinact, -, added, hadded, h⟩ := addActor_returns.1 h
    have hmems : c'.members = c.members.insert added := by
      split at h
      · exact addDevice_members h
      · obtain ⟨-, rfl⟩ := pure_returns.1 h
        rfl
    simp only [Member.create, ok_iff] at hadded
    obtain ⟨-, -, rfl⟩ := hadded
    refine .inl ⟨by simp [OnMember, ha], _, rfl, hmems, ?_⟩
    rw [Turns, ha]
    refine ⟨fun m hm hact => ?_, _, rfl, rfl, rfl⟩
    rw [isActiveMember_iff.2 ⟨m, hm, hact⟩] at hinact
    cases hinact
  | removeActor =>
    simp only [ha] at h
    obtain ⟨m, hac, hmems, hold, hnew⟩ := hrem .removed h
    refine .inl ⟨by simp [OnMember, ha], m, hac, hmems, ?_⟩
    rw [Turns, ha]
    exact ⟨hold, by rintro _ ⟨⟩; exact hnew⟩
  | leave =>
    simp only [ha] at h
    obtain ⟨m, hac, hmems, hold, hnew⟩ := hrem .left h
    refine .inl ⟨by simp [OnMember, ha], m, hac, hmems, ?_⟩
    rw [Turns, ha]
    exact ⟨hold, by rintro _ ⟨⟩; exact hnew⟩
  | changeRole =>
    simp only [ha] at h
    obtain ⟨hact, -, -, updated, hrole, rfl⟩ := changeRole_returns.1 h
    obtain ⟨m, hm, hm'⟩ := isActiveMember_iff.1 hact
    have hac : m.actor = x.actor := key_of_find hm
    rw [memberOf_of_find hm] at hrole
    simp only [Member.withRole, ok_iff] at hrole
    obtain ⟨-, rfl⟩ := hrole
    refine .inl ⟨by simp [OnMember, ha], _, ?_, rfl, ?_⟩
    · exact hac
    · rw [Turns, ha]
      exact ⟨m, hm, hm', rfl⟩
  | addDevice =>
    simp only [ha] at h
    exact .inr ⟨by simp [OnMember, ha], addDevice_members (addMemberDevice_returns.1 h).2.2⟩
  | removeDevice =>
    simp only [ha] at h
    obtain ⟨device, -, removed, -, rfl⟩ := removeDevice_returns.1 h
    exact .inr ⟨by simp [OnMember, ha], rfl⟩
  | other text =>
    simp only [ha] at h
    cases (lift_returns.1 h).1

lemma member_of_batch (hbat : validateMembershipChangeBatch changes = .ok ())
    (h : (forM changes (applyMembershipChange · sequence)).call c = (.ok u, c')) (actor : PTID) :
    (∃ x ∈ changes, (x.OnMember ∧ x.actor = actor) ∧ x.Turns (c.members.find actor) (c'.members.find actor)) ∨
    (∀ x ∈ changes, ¬(x.OnMember ∧ x.actor = actor)) ∧ c'.members.find actor = c.members.find actor := by
  refine forM_returns_touched (v := fun c : Conversation => c.members.find actor) (members_distinct hbat actor) ?_ ?_ h
  · intro x s s' hstep hx
    rcases applyChange_members hstep with ⟨hon, m, hm, hmems, -⟩ | ⟨-, hmems⟩
    · rw [hmems]
      exact find_insert_of_ne _ fun e => hx ⟨hon, hm ▸ e⟩
    · rw [hmems]
  · rintro x s s' hstep ⟨hon, rfl⟩
    rcases applyChange_members hstep with ⟨-, m, hm, hmems, htrn⟩ | ⟨hnot, -⟩
    · rw [hmems, ← hm, find_insert_self, hm]
      exact htrn
    · exact absurd hon hnot

/-! ### Devices -/

def ActiveKey (c : Conversation) (key : String) : Prop := ∃ d ∈ c.devices.find key, d.active = true

lemma addDevice_devices (h : (addDevice x sequence).call c = (.ok u, c')) :
    ¬c.ActiveKey x.endpoint.key ∧ ∀ key, x.endpoint.key ≠ key → c'.devices.find key = c.devices.find key := by
  obtain ⟨hinact, device, hdev, rfl⟩ := addDevice_returns.1 h
  simp only [MemberDevice.create, ok_iff] at hdev
  obtain ⟨-, -, rfl⟩ := hdev
  refine ⟨?_, fun key hkey => find_insert_of_ne _ hkey⟩
  rintro ⟨d, hd, hact⟩
  rw [isActiveEndpoint_iff.2 ⟨d, hd, hact⟩] at hinact
  cases hinact

lemma removeDevice_devices (h : (removeDevice x sequence).call c = (.ok u, c')) : ¬c'.ActiveKey x.endpoint.key ∧
    (∃ d ∈ c.devices.find x.endpoint.key, d.endpoint.key = x.endpoint.key) ∧
    ∀ key, x.endpoint.key ≠ key → c'.devices.find key = c.devices.find key := by
  obtain ⟨device, hfnd, removed, hrem, rfl⟩ := removeDevice_returns.1 h
  obtain ⟨hfd, -⟩ := filter_eq_some_iff.1 hfnd
  have hdev : device.key = x.endpoint.key := key_of_find hfd
  rw [eq_of_remove hrem]
  refine ⟨?_, ⟨device, hfd, hdev⟩, fun key hkey => ?_⟩
  · rintro ⟨d, hd, hact⟩
    rw [← hdev] at hd
    obtain rfl := some.inj ((find_insert_self _ _).symm.trans hd)
    cases hact
  · exact find_insert_of_ne _ fun e => hkey (hdev.symm.trans e)

lemma withoutDevicesOf_find {devices : Registry MemberDevice MemberDevice.key}
    (h : c.withoutDevicesOf actor sequence = .ok devices) (key : String) : devices.find key = c.devices.find key ∨
    ∃ d ∈ c.devices.find key, d.endpoint.actor = actor ∧ ∃ d' ∈ devices.find key, d'.active = false := by
  have hkey : ∀ d d' : MemberDevice, (if d.endpoint.actor = actor ∧ d.active = true then
    d.remove sequence else .ok d) = .ok d' → d'.key = d.key := by
    intro d d' hd
    split at hd
    · rw [eq_of_remove hd]
      rfl
    · cases hd
      rfl
  rcases Registry.find_updateM hkey h key with ⟨d, d', hd, hstep, hd'⟩ | ⟨hnone, hnone'⟩
  · split at hstep
    · next hof =>
      right
      refine ⟨d, hd, hof.1, d', hd', ?_⟩
      rw [eq_of_remove hstep]
    · cases hstep
      left
      rw [hd, hd']
  · left
    rw [hnone, hnone']

lemma applyChange_device (h : (applyMembershipChange x sequence).call c = (.ok u, c')) (key : String) :
    c'.devices.find key = c.devices.find key ∨ (x.OnDevice ∧ x.endpoint.key = key ∧ ¬c.ActiveKey key) ∨
    (¬c'.ActiveKey key ∧ ∃ d ∈ c.devices.find key, x.Removes d.endpoint) := by
  rw [applyMembershipChange, lift_bind_returns, exists_unit] at h
  obtain ⟨-, h⟩ := h
  have hadd : ∀ c₁ c₂ : Conversation, (addDevice x sequence).call c₁ = (.ok u, c₂) → x.OnDevice →
      c₂.devices.find key = c₁.devices.find key ∨ (x.OnDevice ∧ x.endpoint.key = key ∧ ¬c₁.ActiveKey key) := by
    intro c₁ c₂ h hon
    obtain ⟨hinact, hoth⟩ := addDevice_devices h
    by_cases hkey : x.endpoint.key = key
    · exact .inr ⟨hon, hkey, hkey ▸ hinact⟩
    · exact .inl (hoth key hkey)
  have hremove : ∀ status, (removeActor x sequence status).call c = (.ok u, c') → c'.devices.find key = c.devices.find key ∨
        ¬c'.ActiveKey key ∧ ∃ d ∈ c.devices.find key, d.endpoint.actor = x.actor := by
    intro status h
    obtain ⟨-, -, updated, -, devices, hdevs, rfl⟩ := removeActor_returns.1 h
    rcases withoutDevicesOf_find hdevs key with hsame | ⟨d, hd, hac, d', hd', hinact⟩
    · exact .inl hsame
    · refine .inr ⟨?_, d, hd, hac⟩
      rintro ⟨e, he, hact⟩
      obtain rfl := some.inj (hd'.symm.trans he)
      rw [hinact] at hact
      cases hact
  cases ha : x.action with
  | addActor =>
    simp only [ha] at h
    obtain ⟨-, -, added, -, h⟩ := addActor_returns.1 h
    split at h
    · next hdev =>
      rcases hadd _ _ h (by rw [OnDevice, ha]; exact hdev) with hsame | hnew
      · exact .inl hsame
      · exact .inr (.inl hnew)
    · obtain ⟨-, rfl⟩ := pure_returns.1 h
      exact .inl rfl
  | removeActor | leave =>
    simp only [ha] at h
    rcases hremove _ h with hsame | ⟨hgone, d, hd, hac⟩
    · exact .inl hsame
    · refine .inr (.inr ⟨hgone, d, hd, ?_⟩)
      rw [Removes, ha]
      exact hac.symm
  | changeRole =>
    simp only [ha] at h
    obtain ⟨-, -, -, updated, -, rfl⟩ := changeRole_returns.1 h
    exact .inl rfl
  | addDevice =>
    simp only [ha] at h
    rcases hadd _ _ (addMemberDevice_returns.1 h).2.2 (by simp [OnDevice, ha]) with hsame | hnew
    · exact .inl hsame
    · exact .inr (.inl hnew)
  | removeDevice =>
    simp only [ha] at h
    obtain ⟨hgone, ⟨d, hd, hdev⟩, hoth⟩ := removeDevice_devices h
    by_cases hkey : x.endpoint.key = key
    · subst hkey
      refine .inr (.inr ⟨hgone, d, hd, ?_⟩)
      rw [Removes, ha]
      exact hdev.symm
    · exact .inl (hoth key hkey)
  | other text =>
    simp only [ha] at h
    cases (lift_returns.1 h).1

/-! ### Endpoints that stay -/

variable {e : Endpoint}

lemma mem_activeEndpoints : e ∈ c.activeEndpoints ↔ c.isActiveMember e.actor = true ∧
    ∃ d ∈ c.devices.find e.key, d.active = true ∧ d.endpoint = e := by
  simp only [activeEndpoints, sortEndpoints, List.mem_insertionSort, List.mem_map, List.mem_filter, Bool.and_eq_true]
  constructor
  · rintro ⟨d, ⟨hd, hact, hmem⟩, rfl⟩
    exact ⟨hmem, d, Registry.mem_values.1 hd, hact, rfl⟩
  · rintro ⟨hmem, d, hd, hact, rfl⟩
    exact ⟨d, ⟨Registry.mem_values_of_find hd, hact, hmem⟩, rfl⟩

lemma isActiveMember_of_change (h : (applyMembershipChange x sequence).call c = (.ok u, c'))
    (hx : ¬x.Removes e) (hact : c.isActiveMember e.actor = true) : c'.isActiveMember e.actor = true := by
  obtain ⟨m, hm, hm'⟩ := isActiveMember_iff.1 hact
  rcases applyChange_members h with ⟨hon, m₁, hm₁, hmems, htrn⟩ | ⟨-, hmems⟩
  · by_cases hac : x.actor = e.actor
    · refine isActiveMember_iff.2 ⟨m₁, ?_, ?_⟩
      · rw [hmems, ← hac, ← hm₁, find_insert_self]
      · rw [hac, hm] at htrn
        unfold Turns at htrn
        unfold Removes at hx
        cases ha : x.action <;> simp only [ha] at htrn hx
        case addActor => exact absurd hm' (htrn.1 m rfl)
        case removeActor => exact absurd hac hx
        case leave => exact absurd hac hx
        case changeRole =>
          obtain ⟨m₂, hm₂, hactive₂, hnew⟩ := htrn
          rw [some.inj hnew]
          exact hactive₂
        case addDevice => exact some.inj htrn ▸ hm'
        case removeDevice => exact some.inj htrn ▸ hm'
        case other => exact some.inj htrn ▸ hm'
    · refine isActiveMember_iff.2 ⟨m, ?_, hm'⟩
      rw [hmems, find_insert_of_ne _ fun e => hac (hm₁.symm.trans e), hm]
  · exact isActiveMember_iff.2 ⟨m, by rw [hmems, hm], hm'⟩

lemma mem_activeEndpoints_of_change (h : (applyMembershipChange x sequence).call c = (.ok u, c'))
    (hx : ¬x.Removes e) (he : e ∈ c.activeEndpoints) : e ∈ c'.activeEndpoints := by
  obtain ⟨hmem, d, hd, hact, hendpt⟩ := mem_activeEndpoints.1 he
  refine mem_activeEndpoints.2 ⟨isActiveMember_of_change h hx hmem, ?_⟩
  rcases applyChange_device h e.key with hsame | ⟨-, -, hinact⟩ | ⟨-, d₁, hd₁, hgone⟩
  · exact ⟨d, by rw [hsame]; exact hd, hact, hendpt⟩
  · exact absurd ⟨d, hd, hact⟩ hinact
  · obtain rfl := some.inj (hd.symm.trans hd₁)
    rw [hendpt] at hgone
    exact absurd hgone hx

/-- Nobody whom a batch removes is left in the group after it. -/
lemma not_mem_activeEndpoints_of_batch (hbat : validateMembershipChangeBatch changes = .ok ())
    (h : (forM changes (applyMembershipChange · sequence)).call c = (.ok u, c'))
    (hmem : x ∈ changes) (hx : x.Removes e) : e ∉ c'.activeEndpoints := by
  intro he
  obtain ⟨hmember, d, hd, hact, -⟩ := mem_activeEndpoints.1 he
  -- no other change of the batch names the actor, so it stays away once it is gone
  have hac : x.OnMember → x.actor = e.actor →
      (∀ old m, x.Turns old (some m) → ¬m.Active) → c'.isActiveMember e.actor = false := by
    intro hon hac htrn
    refine forM_returns_settled (Q := fun c => c.isActiveMember e.actor = false)
      (members_distinct hbat e.actor) hmem ⟨hon, hac⟩ ?_ ?_ h
    · intro s s' hstep
      rcases applyChange_members hstep with ⟨-, m, hm, hmems, ht⟩ | ⟨hnot, -⟩
      · rw [isActiveMember, hmems, ← hac, ← hm]
        simpa using htrn _ _ ht
      · exact absurd hon hnot
    · intro y s s' hstep hy hs
      rw [isActiveMember] at hs ⊢
      rcases applyChange_members hstep with ⟨hon', m, hm, hmems, -⟩ | ⟨-, hmems⟩
      · rw [hmems, find_insert_of_ne _ fun e' => hy ⟨hon', hm.symm.trans e'⟩]
        exact hs
      · rw [hmems]
        exact hs
  cases ha : x.action with
  | removeActor | leave =>
    simp only [Removes, ha] at hx
    rw [hac (by simp [OnMember, ha]) hx ?_] at hmember
    · cases hmember
    · intro old m ht
      rw [Turns, ha] at ht
      exact ht.2 m rfl
  | removeDevice =>
    simp only [Removes, ha] at hx
    have hon : x.OnDevice := by simp [OnDevice, ha]
    refine forM_returns_settled (Q := fun c => ¬c.ActiveKey e.key)
      (devices_distinct hbat e.key) hmem ⟨hon, hx⟩ ?_ ?_ h ⟨d, hd, hact⟩
    · intro s s' hstep
      rw [applyMembershipChange, lift_bind_returns, exists_unit, ha] at hstep
      exact hx ▸ (removeDevice_devices hstep.2).1
    · intro y s s' hstep hy hs
      rcases applyChange_device hstep e.key with hsame | ⟨hon', hkey, -⟩ | ⟨hgone, -⟩
      · rw [ActiveKey, hsame]
        exact hs
      · exact absurd ⟨hon', hkey⟩ hy
      · exact hgone
  | addActor => simp [Removes, ha] at hx
  | changeRole => simp [Removes, ha] at hx
  | addDevice => simp [Removes, ha] at hx
  | other text => simp [Removes, ha] at hx

end Conversation

/-! ### The author of a transition -/

section

variable [Digest] {c c' : Conversation} {t : Transition}
  {deliveries : List PreparedDelivery} {objectIDs : List ObjectID} {sealer : Option Sealer}
  {commandID : CommandID} {actor : Endpoint}
  {fact : Fact} {time : Time}

lemma Conversation.commit_actor (h : (commit commandID actor fact deliveries objectIDs time sealer).call c = (.ok t, c')) :
    t.event.actor = actor := by
  obtain ⟨-, commitments, -, s, -, record, hseal, -, rfl, -⟩ := commit_returns.1 h
  obtain ⟨hash, scheme, encoded, hsealed, -⟩ := s.sealed hseal
  obtain ⟨-, rfl⟩ := sealRecord_eq_ok.1 hsealed
  rfl

lemma Conversation.commit_roster (h : (commit commandID actor fact deliveries objectIDs time sealer).call c = (.ok t, c')) :
    c'.members = c.members ∧ c'.devices = c.devices := by
  obtain ⟨-, commitments, -, s, -, record, -, -, -, rfl⟩ := commit_returns.1 h
  exact ⟨rfl, rfl⟩

omit [Digest] in
lemma Conversation.sender_of_validateCommandBase {cmd : Command} (hkind : c.kind = .group)
    (h : c.validateCommandBase cmd = .ok ()) :
    c.isActiveMember cmd.sender.actor = true ∧ c.ActiveKey cmd.sender.key := by
  simp only [validateCommandBase, requireWritableSender, ok_iff] at h
  obtain ⟨-, ⟨-, hsnd⟩, -⟩ := h
  rw [Bool.not_eq_false, isActiveMemberEndpoint, hkind] at hsnd
  simp only [Bool.and_eq_true] at hsnd
  exact ⟨hsnd.1.2, isActiveEndpoint_iff.1 hsnd.2⟩

/-- **The committer of a membership change.**  The device that authored an accepted transition is an
active endpoint before and after it exactly when the device stored under its key is its own, and no
change of the batch removes its actor or that device. -/
theorem committer_survives_iff {transition : MembershipTransition}
    (h : (applyMembershipTransition transition).call c = (.ok t, c')) :
    (transition.sender ∈ c.activeEndpoints ∧ transition.sender ∈ c'.activeEndpoints) ↔
      (∀ d ∈ c.devices.find transition.sender.key, d.endpoint = transition.sender) ∧
        ∀ x ∈ transition.changes, ¬x.Removes transition.sender := by
  obtain ⟨hcheck, candidate, hchanges, -, -, hcommit⟩ := applyMembershipTransition_returns.1 h
  obtain ⟨hkind, hbase, -, -, -, hbatch⟩ := validateMembershipTransition_eq_ok.1 hcheck
  have hchanges := forM_applyMembershipChange_of_authored hchanges
  obtain ⟨hmems, hdevs⟩ := commit_roster hcommit
  have hafter : c'.activeEndpoints = candidate.activeEndpoints := by
    simp only [activeEndpoints, isActiveMember, hmems, hdevs]
    rfl
  rw [hafter]
  constructor
  · rintro ⟨hbefore, hstays⟩
    refine ⟨fun d hd => ?_, fun x hx hremoves => ?_⟩
    · obtain ⟨-, d', hd', -, hendpt⟩ := mem_activeEndpoints.1 hbefore
      rw [some.inj (hd.symm.trans hd'), hendpt]
    · exact not_mem_activeEndpoints_of_batch hbatch hchanges hx hremoves hstays
  · rintro ⟨hown, hkept⟩
    obtain ⟨hact, d, hd, hd'⟩ := sender_of_validateCommandBase hkind hbase
    have hbefore : transition.sender ∈ c.activeEndpoints := mem_activeEndpoints.2 ⟨hact, d, hd, hd', hown d hd⟩
    refine ⟨hbefore, ?_⟩
    refine forM_returns_invariant (P := fun c => transition.sender ∈ c.activeEndpoints) ?_ hbefore hchanges
    intro x s s' hx hs hstep
    exact mem_activeEndpoints_of_change hstep (hkept x hx) hs

/-! ### Who makes an admin -/

def Conversation.IsAdmin (c : Conversation) (actor : PTID) : Prop :=
  ∃ m ∈ c.members.find actor, m.Active ∧ m.role = .admin
deriving Decidable

/-- The change makes an admin of somebody who is none. -/
def Conversation.GrantsAdmin (c : Conversation) (x : MembershipChange) : Prop :=
  (x.action = .addActor ∨ x.action = .changeRole) ∧ x.role = .admin ∧ ¬c.IsAdmin x.actor

def Operation.LeavesAdminsToOwner (c : Conversation) : Operation → Prop
  | .membership transition => transition.sender.actor = c.owner ∨ ∀ x ∈ transition.changes, ¬c.GrantsAdmin x
  | _ => True

variable {changes : List MembershipChange} {sequence : ℕ}

section

omit [Digest]

lemma Conversation.grants_of_isAdmin {u : Unit} (hbat : validateMembershipChangeBatch changes = .ok ())
    (h : (forM changes (applyMembershipChange · sequence)).call c = (.ok u, c')) {actor : PTID}
    (haft : c'.IsAdmin actor) (hbef : ¬c.IsAdmin actor) : ∃ x ∈ changes, c.GrantsAdmin x := by
  obtain ⟨m, hm, hact, hrole⟩ := haft
  rcases member_of_batch hbat h actor with ⟨x, hx, ⟨hon, rfl⟩, htrn⟩ | ⟨-, hsame⟩
  · rw [show c'.members.find x.actor = some m from hm] at htrn
    unfold Turns at htrn
    unfold OnMember at hon
    refine ⟨x, hx, ?_⟩
    cases ha : x.action <;> simp only [ha] at htrn hon
    case addActor =>
      obtain ⟨-, m', hm', -, hrole'⟩ := htrn
      obtain rfl := some.inj hm'
      exact ⟨.inl ha, hrole'.symm.trans hrole, hbef⟩
    case changeRole =>
      obtain ⟨m', -, -, hnew⟩ := htrn
      obtain rfl := some.inj hnew
      exact ⟨.inr ha, hrole, hbef⟩
    case removeActor => exact absurd hact (htrn.2 m rfl)
    case leave => exact absurd hact (htrn.2 m rfl)
  · exact absurd ⟨m, hsame ▸ hm, hact, hrole⟩ hbef

/-- And whom a change makes an admin is one after the batch. -/
lemma Conversation.isAdmin_of_grants {u : Unit} (hbat : validateMembershipChangeBatch changes = .ok ())
    (h : (forM changes (applyMembershipChange · sequence)).call c = (.ok u, c'))
    {x : MembershipChange} (hx : x ∈ changes) (hgrants : c.GrantsAdmin x) : c'.IsAdmin x.actor := by
  obtain ⟨hactn, hrole, -⟩ := hgrants
  have hon : x.OnMember := by
    unfold OnMember
    rcases hactn with ha | ha <;> simp [ha]
  rcases member_of_batch hbat h x.actor with ⟨y, hy, hony, htrn⟩ | ⟨hnone, -⟩
  · -- the change about the actor is `x` itself
    obtain rfl : y = x := by
      by_contra hne
      have : Std.Symm fun a b : MembershipChange =>
          a.OnMember ∧ a.actor = x.actor → ¬(b.OnMember ∧ b.actor = x.actor) :=
        ⟨fun a b hab hb ha => hab ha hb⟩
      exact (members_distinct hbat x.actor).forall hy hx hne hony ⟨hon, rfl⟩
    unfold Turns at htrn
    rcases hactn with ha | ha <;> simp only [ha] at htrn
    · obtain ⟨-, m, hm, hact, hmrole⟩ := htrn
      exact ⟨m, hm, hact, hmrole.trans hrole⟩
    · obtain ⟨m, -, hact, hnew⟩ := htrn
      exact ⟨_, hnew, hact, hrole⟩
  · exact absurd ⟨hon, rfl⟩ (hnone x hx)

lemma Member.eq_of_withAuthorityState {m m' : Member} {role : Option MemberRole} {muted : Option Bool}
    {mutedUntil : Option Time} (h : m.withAuthorityState role muted mutedUntil = .ok m') : m'.actor = m.actor ∧
    m'.status = m.status ∧ m'.role = role.getD m.role := by
  rcases muted with _ | _ | _ <;> simp only [withAuthorityState, ok_iff] at h
  case some.true =>
    obtain ⟨-, -, rfl⟩ := h
    exact ⟨rfl, rfl, rfl⟩
  all_goals
    obtain ⟨-, -, -, rfl⟩ := h
    exact ⟨rfl, rfl, rfl⟩

end

/-- Whoever changes a role or hands over the ownership is the owner. -/
lemma Conversation.owner_of_memberAuthority {cmd : MemberAuthorityCommand}
    (hsound : Sound c) (h : (applyMemberAuthority cmd).call c = (.ok t, c')) {actor : PTID}
    (haft : c'.IsAdmin actor) (hbef : ¬c.IsAdmin actor) : cmd.sender.actor = c.owner := by
  obtain ⟨hcheck, mutation, hauth, cand, hmut, -, -, hcom⟩ := applyMemberAuthority_returns.1 h
  obtain ⟨hmems, -⟩ := commit_roster hcom
  obtain ⟨m, hm, hact, hrole⟩ := haft
  replace hm : cand.members.find actor = some m := hmems ▸ hm
  simp only [validateMemberAuthority, validateCommand, ok_iff, not_not] at hcheck
  obtain ⟨hkind, -, ⟨hbase, -⟩, -⟩ := hcheck
  obtain ⟨hsnd, -⟩ := sender_of_validateCommandBase hkind hbase
  rw [authorizedMutation] at hauth
  cases hactn : cmd.action with
  | updateMember =>
    simp only [hactn, ok_iff] at hauth
    obtain ⟨hupd, rfl⟩ := hauth
    obtain ⟨htgt, updated, hupdated, rfl⟩ := (applyAuthority_update_returns rfl).1 hmut
    obtain ⟨m₀, hm₀, hactive₀⟩ := isActiveMember_iff.1 htgt
    rw [memberOf_of_find hm₀] at hupdated
    obtain ⟨hac, hstat, hnewrole⟩ := eq_of_withAuthorityState hupdated
    simp only [checkUpdateMember, ok_iff, not_and, not_not] at hupd
    obtain ⟨-, -, -, -, howner, -, -⟩ := hupd
    have hassigned : ¬cmd.role = none := by
      -- without a new role nobody becomes an admin
      intro hnone
      refine hbef ?_
      rw [Registry.find_insert] at hm
      split at hm
      · next hkey =>
        obtain rfl := some.inj hm
        rw [hnone] at hnewrole
        refine ⟨m₀, ?_, hactive₀, hnewrole.symm.trans hrole⟩
        rw [← hkey, hac, key_of_find hm₀]
        exact hm₀
      · exact ⟨m, hm, hact, hrole⟩
    obtain ⟨sender, hfnd, hsnd⟩ := isActiveMember_iff.1 hsnd
    have hsenderRole := howner hassigned
    rw [memberOf_of_find hfnd] at hsenderRole
    obtain ⟨-, -, -, -, hval⟩ := validateState_eq_ok.1 hsound.ready.valid
    obtain ⟨owner, howner, -, -, huniq, -⟩ := owner_of_validateOwnerInvariant hkind hval
    have heq := huniq sender (Registry.mem_values_of_find hfnd) hsnd hsenderRole
    calc cmd.sender.actor = sender.actor := (key_of_find hfnd).symm
      _ = owner.actor := by rw [heq]
      _ = c.owner := key_of_find howner
  | transferOwnership =>
    simp only [hactn, checkTransferOwnership, ok_iff, not_or, not_not] at hauth
    exact hauth.1.1.1
  | other text => simp [hactn, throw] at hauth

/-- **Who makes an admin.**  At every accepted event of a conversation's life: everybody whom the
event makes an admin was made one by the owner of that moment, exactly when the operation is not a
membership transition in which somebody else adds an admin or promotes to one. -/
theorem owner_grants_admin_iff {events : List Record} {op : Operation} (hlife : History events c)
    (h : op.run.call c = (.ok t, c')) : (∀ actor, c'.IsAdmin actor → ¬c.IsAdmin actor → t.event.actor.actor = c.owner) ↔
      op.LeavesAdminsToOwner c := by
  have hsound := hlife.linked.sound
  have hother : c'.members = c.members → op.LeavesAdminsToOwner c →
      ((∀ actor, c'.IsAdmin actor → ¬c.IsAdmin actor → t.event.actor.actor = c.owner) ↔ op.LeavesAdminsToOwner c) := by
    intro hmems htrivial
    refine iff_of_true (fun actor hafter hbefore => absurd ?_ hbefore) htrivial
    rw [Conversation.IsAdmin, ← hmems]
    exact hafter
  cases op with
  | membership transition =>
    obtain ⟨hcheck, candidate, hchanges, -, -, hcommit⟩ := applyMembershipTransition_returns.1 h
    obtain ⟨-, -, -, -, -, hbatch⟩ := validateMembershipTransition_eq_ok.1 hcheck
    have hchanges := forM_applyMembershipChange_of_authored hchanges
    have hmems : c'.members = candidate.members := (commit_roster hcommit).1
    have hadmin : ∀ actor, c'.IsAdmin actor ↔ candidate.IsAdmin actor := by
      intro actor
      rw [Conversation.IsAdmin, Conversation.IsAdmin, hmems]
    rw [commit_actor hcommit]
    constructor
    · intro hall
      by_cases howner : transition.sender.actor = c.owner
      · exact .inl howner
      · refine .inr fun x hx hgrants => howner ?_
        have hafter := isAdmin_of_grants hbatch hchanges hx hgrants
        exact hall x.actor ((hadmin _).2 hafter) hgrants.2.2
    · rintro (howner | hnone) actor hafter hbefore
      · exact howner
      · obtain ⟨x, hx, hgrants⟩ := grants_of_isAdmin hbatch hchanges ((hadmin _).1 hafter) hbefore
        exact absurd hgrants (hnone x hx)
  | memberAuthority cmd =>
    refine iff_of_true (fun actor hafter hbefore => ?_) trivial
    obtain ⟨-, mutation, -, candidate, -, -, -, hcommit⟩ := applyMemberAuthority_returns.1 h
    rw [commit_actor hcommit]
    exact owner_of_memberAuthority hsound h hafter hbefore
  | command cmd =>
    obtain ⟨-, -, -, hcommit⟩ := applyCommand_returns.1 h
    exact hother (commit_roster hcommit).1 trivial
  | settings cmd =>
    obtain ⟨-, -, -, hcommit⟩ := updateSettings_returns.1 h
    exact hother (commit_roster hcommit).1 trivial
  | dissolve cmd =>
    obtain ⟨-, -, -, hcommit⟩ := dissolve_returns.1 h
    exact hother (commit_roster hcommit).1 trivial
  | systemServiceMessage input =>
    obtain ⟨-, hcommit⟩ := commitSystemServiceMessage_returns.1 h
    exact hother (commit_roster hcommit).1 trivial

/-! ### A group of two -/

def phone : Endpoint := { actor := "bob", device := "phone" }

omit [Digest] in
lemma fed_ne_empty : "fed" ≠ "" := by decide

def pairGroup : Creation := .group
    { id := "pair", kind := .group, scope := .federation "fed" fed_ne_empty
      authorityStation := "home", authorityEpoch := 1, owner := laptop.actor
      participants := [{ actor := laptop.actor, homeStation := "home", role := .owner },
        { actor := phone.actor, homeStation := "home", role := .admin }]
      devices := [laptop, phone].map fun endpoint =>
        { endpoint, homeStation := "home", active := true, joinedAt := 1, leftAt := 0 }
      settings := { name := "pair", description := "", avatarObjectID := "", visibility := .publicVisibility }
      commandID := "create", creator := laptop, deliveries := [notice laptop .publicEvent, notice phone .mlsWelcome]
      eventPayload := [1], createdAt := 5000000, eventSealer := some systemSealer, genesisRecipients := [] }

/-- One change of the group, by `sender`, after which the endpoints `post` are left. -/
def changeBy (c : Conversation) (sender : Endpoint) (change : MembershipChange)
    (post : List Endpoint) : MembershipTransition :=
  let bare : MembershipTransition :=
    { id := "change", conversationID := c.id, authorityStation := c.authorityStation, sender
      observedMembershipEpoch := c.head.membershipEpoch, observedMLSEpoch := c.head.mlsEpoch
      deliveryPlanHash := 1, kind := .membershipCommitted, messageID := "", replyToMessageID := ""
      threadRootMessageID := "", reaction := "", reasonCode := "", payload := [1], deliveries := []
      requiredEndpoints := endpointUnion c.activeEndpoints post, objectIDs := []
      committedAt := 6000000, eventSealer := some systemSealer
      transitionID := "transition", authorityPlanID := "plan", authorityPlanHash := 1
      fromMembership := c.head.membershipEpoch, fromMLS := c.head.mlsEpoch
      toMLS := next c.head.mlsEpoch, changes := [change], preEndpoints := c.activeEndpoints
      postEndpoints := post, leaveIntentID := "" }
  { bare with
    deliveries := bare.requiredEndpoints.map fun endpoint =>
      notice endpoint (Conversation.expectedMembershipDeliveryKind bare (notice endpoint .publicEvent)) }

def removeBob : MembershipChange :=
  { action := .removeActor, actor := "bob", device := "", homeStation := "home", role := .member }

def addCarol : MembershipChange :=
  { action := .addActor, actor := "carol", device := "tablet", homeStation := "home", role := .admin }

end

section

attribute [local instance] checksum

lemma bob_removes_himself : ∃ c t c' t', pairGroup.run = .ok (c, t) ∧
    (membership (changeBy c phone removeBob [laptop])).run.call c = (.ok t', c') ∧
    c.activeEndpoints = [laptop, phone] ∧ c'.activeEndpoints = [laptop] := by
  have h : (pairGroup.run.map fun p =>
      let after := (membership (changeBy p.1 phone removeBob [laptop])).run.call p.1
      (after.1.isOk, p.1.activeEndpoints, after.2.activeEndpoints)) = .ok (true, [laptop, phone], [laptop]) := by
    set_option maxRecDepth 10000 in decide +kernel
  obtain ⟨⟨c, t⟩, hrun, h⟩ := map_eq_ok.1 h
  simp only [Prod.mk.injEq] at h
  obtain ⟨hok, hbef, haft⟩ := h
  obtain ⟨t', ht'⟩ := isOk_iff.1 hok
  exact ⟨c, t, _, t', hrun, Prod.ext ht' rfl, hbef, haft⟩

lemma bob_adds_carol : ∃ c t c' t', pairGroup.run = .ok (c, t) ∧ (membership (changeBy c phone addCarol
    [laptop, phone, ⟨"carol", "tablet"⟩])).run.call c = (.ok t', c') ∧
    phone ∈ c.activeEndpoints ∧ c.owner = "alice" ∧ ¬c.IsAdmin "carol" ∧ c'.IsAdmin "carol" := by
  have h : (pairGroup.run.map fun p =>
      let after := (membership (changeBy p.1 phone addCarol [laptop, phone, ⟨"carol", "tablet"⟩])).run.call p.1
      (after.1.isOk, decide (phone ∈ p.1.activeEndpoints ∧ p.1.owner = "alice" ∧
        ¬p.1.IsAdmin "carol" ∧ after.2.IsAdmin "carol"))) = .ok (true, true) := by
    set_option maxRecDepth 10000 in decide +kernel
  obtain ⟨⟨c, t⟩, hrun, h⟩ := map_eq_ok.1 h
  simp only [Prod.mk.injEq, decide_eq_true_eq] at h
  obtain ⟨hok, hfacts⟩ := h
  obtain ⟨t', ht'⟩ := isOk_iff.1 hok
  exact ⟨c, t, _, t', hrun, Prod.ext ht' rfl, hfacts⟩

/-- Bob adds Carol and stays. -/
theorem committer_survives_adding_carol : ∃ c t c' t', pairGroup.run = .ok (c, t) ∧
      (applyMembershipTransition (changeBy c phone addCarol
        [laptop, phone, ⟨"carol", "tablet"⟩])).call c = (.ok t', c') ∧ phone ∈ c'.activeEndpoints := by
  obtain ⟨c, t, c', t', hrun, h, hbefore, -⟩ := bob_adds_carol
  have hkept : (∀ d ∈ c.devices.find phone.key, d.endpoint = phone) ∧ ∀ x ∈ [addCarol], ¬x.Removes phone := by
    refine ⟨fun d hd => ?_, by decide⟩
    obtain ⟨-, d', hd', -, hendpt⟩ := mem_activeEndpoints.1 hbefore
    rw [some.inj (hd.symm.trans hd'), hendpt]
  exact ⟨c, t, c', t', hrun, h, ((committer_survives_iff h).2 hkept).2⟩

/-- Bob removes himself: the transition is accepted and its author is gone. -/
theorem committer_removes_itself : ∃ c t c' t', pairGroup.run = .ok (c, t) ∧
      (applyMembershipTransition (changeBy c phone removeBob [laptop])).call c =
        (.ok t', c') ∧ phone ∈ c.activeEndpoints ∧ phone ∉ c'.activeEndpoints := by
  obtain ⟨c, t, c', t', hrun, h, hbefore, hafter⟩ := bob_removes_himself
  refine ⟨c, t, c', t', hrun, h, ?_, ?_⟩
  · rw [hbefore]
    decide
  · rw [hafter]
    decide

/-- When Bob removes himself, no admin is made. -/
theorem owner_grants_admin_removing_bob : ∃ c t c' t', pairGroup.run = .ok (c, t) ∧
      (membership (changeBy c phone removeBob [laptop])).run.call c = (.ok t', c') ∧
      ∀ actor, c'.IsAdmin actor → ¬c.IsAdmin actor → t'.event.actor.actor = c.owner := by
  obtain ⟨c, t, c', t', hrun, h, -⟩ := bob_removes_himself
  have hnone : ∀ x ∈ [removeBob], ¬c.GrantsAdmin x := by
    intro x hx
    obtain rfl := mem_singleton.1 hx
    rintro ⟨haction, -⟩
    exact absurd haction (by decide)
  exact ⟨c, t, c', t', hrun, h, (owner_grants_admin_iff (.created hrun) h).2 (.inr hnone)⟩

/-- Bob, who is not the owner, makes Carol an admin. -/
theorem admin_grants_admin : ∃ c t c' t', pairGroup.run = .ok (c, t) ∧ (membership (changeBy c phone addCarol
        [laptop, phone, ⟨"carol", "tablet"⟩])).run.call c = (.ok t', c') ∧
      c'.IsAdmin "carol" ∧ ¬c.IsAdmin "carol" ∧ t'.event.actor.actor ≠ c.owner := by
  obtain ⟨c, t, c', t', hrun, h, -, howner, hbefore, hafter⟩ := bob_adds_carol
  obtain ⟨-, candidate, -, -, -, hcommit⟩ := applyMembershipTransition_returns.1 h
  refine ⟨c, t, c', t', hrun, h, hafter, hbefore, ?_⟩
  rw [commit_actor hcommit, howner]
  change phone.actor ≠ "alice"
  decide

end

end PeersTouch.Chat
