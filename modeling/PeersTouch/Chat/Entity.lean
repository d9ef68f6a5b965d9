import PeersTouch.Chat.ValueObject

/-!
# Members, member devices and membership changes

The entities of `domain/entity`. Each of them has a `validate` that the aggregate calls on every
state it is about to commit; what a valid member or device satisfies is stated here once, as
`validate_eq_ok`.
-/

namespace PeersTouch.Chat

open Lib

/-! ### Members -/

structure Member where
  actor : PTID
  role : MemberRole
  status : MemberStatus
  homeStation : StationID
  (joinedAt leftAt : ℕ)
  muted : Bool
  mutedUntil : Option Time
deriving DecidableEq

namespace Member

/-- What a lookup of an unknown actor returns. -/
def zero : Member :=
  { actor := "", role := .other "", status := .other "", homeStation := "", joinedAt := 0
    leftAt := 0, muted := false, mutedUntil := none }

def Active (m : Member) : Prop := m.status = .active
deriving Decidable

/-- `NewMember`. -/
def create (actor : PTID) (role : MemberRole) (homeStation : StationID) (joinedAt : ℕ) :
    Except Error Member := do
  failWhen (actor = "" ∨ homeStation = "" ∨ joinedAt = 0) (invalid "entity.new_member" "member"
    "actor, home Station, and joined sequence are required")
  role.validate
  return { actor, role, status := .active, homeStation, joinedAt, leftAt := 0, muted := false, mutedUntil := none }

/-- A mute without an end lasts; one with an end lasts until then. -/
def MutedAt (m : Member) (time : Time) : Prop := m.muted = true ∧ ∀ ends ∈ m.mutedUntil, time < ends
deriving Decidable

def validate (m : Member) : Except Error Unit := do
  failWhen (m.actor = "" ∨ m.homeStation = "" ∨ m.joinedAt = 0) (invalid "entity.validate_member" "member"
    "actor, home Station, and joined sequence are required")
  m.role.validate
  m.status.validate
  failWhen (m.Active ∧ m.leftAt ≠ 0) (invalid "entity.validate_member" "left_sequence" "must be zero for an active member")
  failWhen (¬m.Active ∧ m.leftAt ≤ m.joinedAt) (invalid "entity.validate_member" "left_sequence"
    "must follow the joined sequence for an inactive member")
  failWhen (m.muted = false ∧ m.mutedUntil ≠ none) (invalid "entity.validate_member" "muted_until" "requires muted state")
  failWhen (m.mutedUntil = some 0) (invalid "entity.validate_member" "muted_until" "must be a valid timestamp")

def withRole (m : Member) (role : MemberRole) : Except Error Member := do
  role.validate
  return { m with role }

/-- A new role, a new mute, or both. An end of the mute needs a mute. -/
def withAuthorityState (m : Member) (role : Option MemberRole) (muted : Option Bool)
    (mutedUntil : Option Time) : Except Error Member := do
  (role.elim (.ok ()) MemberRole.validate : Except Error Unit)
  let m := { m with role := role.getD m.role }
  match muted with
  | none =>
    failWhen (mutedUntil ≠ none) (invalid "entity.update_member_authority" "muted_until" "requires an explicit muted value")
    m.validate
    return m
  | some true =>
    let m := { m with muted := true, mutedUntil := mutedUntil.map truncateMicros }
    m.validate
    return m
  | some false =>
    failWhen (mutedUntil ≠ none) (invalid "entity.update_member_authority" "muted_until"
      "must be absent when muted is false")
    let m := { m with muted := false, mutedUntil := none }
    m.validate
    return m

def leave (m : Member) (sequence : ℕ) (status : MemberStatus) : Except Error Member := do
  failWhen (¬m.Active ∨ sequence = 0) (newError .membershipConflict "entity.leave_member" "member"
    "active membership and sequence are required")
  failWhen (status ≠ .left ∧ status ≠ .removed) (invalid "entity.leave_member" "status" "must be left or removed")
  return { m with status, leftAt := sequence }

end Member

/-! ### Member devices -/

structure MemberDevice where
  endpoint : Endpoint
  homeStation : StationID
  active : Bool
  (joinedAt leftAt : ℕ)
deriving DecidableEq

namespace MemberDevice

def key (d : MemberDevice) : String := d.endpoint.key

/-- `NewMemberDevice`. -/
def create (endpoint : Endpoint) (homeStation : StationID) (joinedAt : ℕ) :
    Except Error MemberDevice := do
  endpoint.validate
  failWhen (homeStation = "" ∨ joinedAt = 0) (invalid "entity.new_member_device" "device"
    "home Station and joined sequence are required")
  return { endpoint, homeStation, active := true, joinedAt, leftAt := 0 }

def remove (d : MemberDevice) (sequence : ℕ) : Except Error MemberDevice := do
  failWhen (d.active = false ∨ sequence = 0) (newError .deviceConflict "entity.remove_member_device" "device"
    "active device and sequence are required")
  return { d with active := false, leftAt := sequence }

def validate (d : MemberDevice) : Except Error Unit := do
  d.endpoint.validate
  failWhen (d.homeStation = "" ∨ d.joinedAt = 0) (invalid "entity.validate_member_device" "device"
    "home Station and joined sequence are required")
  failWhen (d.active = true ∧ d.leftAt ≠ 0)
    (invalid "entity.validate_member_device" "left_sequence" "must be zero for an active device")
  failWhen (d.active = false ∧ d.leftAt ≤ d.joinedAt) (invalid "entity.validate_member_device" "left_sequence"
    "must follow the joined sequence for an inactive device")

end MemberDevice

/-! ### Membership changes -/

inductive MembershipAction where
  | addActor | removeActor | leave | changeRole | addDevice | removeDevice
  | other (text : String)
deriving DecidableEq

def MembershipAction.text : MembershipAction → String
  | addActor => "add_actor"
  | removeActor => "remove_actor"
  | leave => "leave"
  | changeRole => "change_role"
  | addDevice => "add_device"
  | removeDevice => "remove_device"
  | other text => text

structure MembershipChange where
  action : MembershipAction
  actor : PTID
  device : DeviceID
  homeStation : StationID
  role : MemberRole
deriving DecidableEq

namespace MembershipChange

def endpoint (c : MembershipChange) : Endpoint := { actor := c.actor, device := c.device }

def validate (c : MembershipChange) : Except Error Unit := do
  failWhen (c.actor = "") (invalid "entity.membership_change" "actor" "is required")
  match c.action with
  | .addActor =>
    failWhen (c.homeStation = "") (invalid "entity.membership_change" "home_station" "is required when adding an actor")
    c.role.validate
  | .removeActor | .leave => return ()
  | .changeRole => c.role.validate
  | .addDevice =>
    failWhen (c.device = "" ∨ c.homeStation = "")
      (invalid "entity.membership_change" "device" "device and home Station are required")
  | .removeDevice => failWhen (c.device = "") (invalid "entity.membership_change" "device" "is required")
  | .other _ => throw (newError .unsupportedTransition "entity.membership_change" "action" "is not supported")

end MembershipChange

/-! ### What a successful check establishes -/

lemma MemberRole.validate_eq_ok {r : MemberRole} : r.validate = .ok () ↔ r = .member ∨ r = .admin ∨ r = .owner := by
  cases r <;> simp [MemberRole.validate]

lemma Endpoint.validate_eq_ok {e : Endpoint} : e.validate = .ok () ↔ trimSpace e.actor ≠ "" ∧ trimSpace e.device ≠ "" := by
  simp [Endpoint.validate, newPTID, newDeviceID, validatedString]

structure Member.Valid (m : Member) : Prop where
  actor_ne : m.actor ≠ ""
  homeStation_ne : m.homeStation ≠ ""
  joinedAt_ne : m.joinedAt ≠ 0
  role : m.role.validate = .ok ()
  status : m.status.validate = .ok ()
  leftAt_of_active : m.Active → m.leftAt = 0
  joinedAt_lt_leftAt : ¬m.Active → m.joinedAt < m.leftAt
  muted_of_until : m.mutedUntil ≠ none → m.muted = true
  until_ne_zero : m.mutedUntil ≠ some 0

lemma Member.validate_eq_ok {m : Member} : m.validate = .ok () ↔ m.Valid := by
  simp only [Member.validate, ok_iff, not_or, not_and, not_not, not_le]
  constructor
  · rintro ⟨⟨ha, hh, hj⟩, hr, hs, hl, hl', hm, hz⟩
    exact ⟨ha, hh, hj, hr, hs, hl, hl', fun h => by simpa using fun hf => h (hm hf), hz⟩
  · intro h
    refine ⟨⟨h.actor_ne, h.homeStation_ne, h.joinedAt_ne⟩, h.role, h.status, h.leftAt_of_active,
      h.joinedAt_lt_leftAt, ?_, h.until_ne_zero⟩
    intro hm
    by_contra hu
    rw [h.muted_of_until hu] at hm
    cases hm

structure MemberDevice.Valid (d : MemberDevice) : Prop where
  endpoint : d.endpoint.validate = .ok ()
  homeStation_ne : d.homeStation ≠ ""
  joinedAt_ne : d.joinedAt ≠ 0
  leftAt_of_active : d.active = true → d.leftAt = 0
  joinedAt_lt_leftAt : d.active = false → d.joinedAt < d.leftAt

lemma MemberDevice.validate_eq_ok {d : MemberDevice} : d.validate = .ok () ↔ d.Valid := by
  simp only [MemberDevice.validate, ok_iff, not_or, not_and, not_not, not_le]
  constructor
  · rintro ⟨he, ⟨hh, hj⟩, hl, hl'⟩
    exact ⟨he, hh, hj, hl, hl'⟩
  · intro h
    exact ⟨h.endpoint, ⟨h.homeStation_ne, h.joinedAt_ne⟩, h.leftAt_of_active, h.joinedAt_lt_leftAt⟩

end PeersTouch.Chat
