import PeersTouch.Chat.Creation

/-!
# What an accepted operation does

An accepted operation of a conversation has two parts. It prepares the state that the event will
be committed on (`Prepared`), and it commits one event on that state (`Committed`). The theorem
`Operation.run_returns` says so for all operations at once; everything that is proved about runs of
the aggregate goes through it.
-/

namespace PeersTouch.Chat

open Lib Method List Registry
open Conversation

/-! ### The checks of a state -/

namespace Conversation

section

variable [Digest] {c : Conversation} {n : ℕ}

lemma validateState_eq_ok : c.validateState n = .ok () ↔ (∀ m ∈ c.members.values, validateMemberState n m = .ok ()) ∧
    (∀ d ∈ c.devices.values, c.validateDeviceState n d = .ok ()) ∧ ¬(c.members.size = 0 ∨ c.devices.size = 0) ∧
    c.validateDirectInvariant = .ok () ∧ c.validateOwnerInvariant = .ok () := by
  simp [validateState]

section

omit [Digest]

lemma validateMemberState_eq_ok {m : Member} :
    validateMemberState n m = .ok () ↔ m.Valid ∧ m.joinedAt ≤ n ∧ m.leftAt ≤ n := by
  simp [validateMemberState, Member.validate_eq_ok]

lemma validateDeviceState_eq_ok {d : MemberDevice} : c.validateDeviceState n d = .ok () ↔
    d.Valid ∧ (d.joinedAt ≤ n ∧ d.leftAt ≤ n) ∧ ∃ m, c.members.find d.endpoint.actor = some m ∧
    (d.active = true → m.Active ∧ d.homeStation = m.homeStation) := by
  simp only [validateDeviceState, ok_iff, MemberDevice.validate_eq_ok]
  rw [memberOf]
  cases c.members.find d.endpoint.actor with
  | none => simp
  | some m => simp

lemma isActiveMember_iff {actor : PTID} :
    c.isActiveMember actor = true ↔ ∃ m, c.members.find actor = some m ∧ m.Active := by
  rw [isActiveMember]
  cases c.members.find actor <;> simp

lemma isActiveEndpoint_iff {endpoint : Endpoint} : c.isActiveEndpoint endpoint = true ↔
    ∃ d, c.devices.find endpoint.key = some d ∧ d.active = true := by
  rw [isActiveEndpoint]
  cases c.devices.find endpoint.key <;> simp

end

lemma validateState_mono {n' : ℕ} (hn : n ≤ n') (h : c.validateState n = .ok ()) : c.validateState n' = .ok () := by
  rw [validateState_eq_ok] at h ⊢
  obtain ⟨hm, hd, hrest⟩ := h
  refine ⟨fun m hmem => ?_, fun d hmem => ?_, hrest⟩
  · have h := validateMemberState_eq_ok.1 (hm m hmem)
    exact validateMemberState_eq_ok.2 ⟨h.1, h.2.1.trans hn, h.2.2.trans hn⟩
  · have h := validateDeviceState_eq_ok.1 (hd d hmem)
    exact validateDeviceState_eq_ok.2 ⟨h.1, ⟨h.2.1.1.trans hn, h.2.1.2.trans hn⟩, h.2.2⟩

lemma owner_found_of_group (h : c.validateState n = .ok ()) (hkind : c.kind = .group) :
    (c.members.find c.owner).isSome = true := by
  obtain ⟨-, -, -, -, howner⟩ := validateState_eq_ok.1 h
  simp only [validateOwnerInvariant, hkind, ne_eq, not_true, if_false, ok_iff, not_or, Bool.not_eq_false] at howner
  exact howner.1.1

lemma validateState_withEpochs (hkind : c.kind = .group) (membershipEpoch mlsEpoch : ℕ) :
    (c.withEpochs membershipEpoch mlsEpoch).validateState n = c.validateState n := by
  have hdirect : ∀ c' : Conversation, c'.kind = .group → c'.validateDirectInvariant = .ok () := by
    intro c' h
    simp [validateDirectInvariant, h]
  have h : (c.withEpochs membershipEpoch mlsEpoch).validateDirectInvariant = c.validateDirectInvariant :=
    (hdirect (c.withEpochs membershipEpoch mlsEpoch) hkind).trans (hdirect c hkind).symm
  simp only [validateState, h]
  rfl

end

end Conversation

/-! ### Committing -/

section

variable [Digest]

/-- One event was committed on the state `c`, which became `c'`. -/
structure Committed (c : Conversation) (fact : Fact) (time : Time) (sealer : Option Sealer)
    (t : Transition) (c' : Conversation) : Prop where
  input : ∃ commandID actor commitments,
    (c.recordInput commandID actor fact commitments time).Sealable ∧
      t.event.toRecordInput = (c.recordInput commandID actor fact commitments time).normalized
  sealed : ∃ commandID actor commitments s, sealer = some s ∧
    s.sealEvent (c.recordInput commandID actor fact commitments time) = .ok t.event
  hash_ne : t.event.hash ≠ 0
  state : c' = c.advance t.event time

namespace Conversation

variable {deliveries : List PreparedDelivery} {objectIDs : List ObjectID} {commandID : CommandID}
  {actor : Endpoint}
  {fact : Fact} {time : Time} {sealer : Option Sealer} {t : Transition}

lemma commit_returns {c c' : Conversation} :
    (commit commandID actor fact deliveries objectIDs time sealer).call c = (.ok t, c') ↔
      ¬(commandID = "" ∨ actor.validate ≠ .ok () ∨ time = 0) ∧ ∃ commitments,
        buildDeliveryCommitments c.id (deterministicEventID c.id commandID) deliveries = .ok commitments ∧
        ∃ s, sealer = some s ∧ ∃ record, s.sealEvent (c.recordInput commandID actor fact commitments time) = .ok record ∧
          record.hashScheme = .transport ∧
          { event := record, deliveries, objectIDs, recipientActors := c.activeMemberActors } = t ∧
          c.advance record time = c' := by
  simp [commit, receiver_bind_call]

lemma committed_of_commit {c c' : Conversation}
    (h : (commit commandID actor fact deliveries objectIDs time sealer).call c = (.ok t, c')) :
    Committed c fact time sealer t c' := by
  obtain ⟨-, commitments, -, s, hs, record, hseal, hscheme, rfl, rfl⟩ := commit_returns.1 h
  obtain ⟨hash, scheme, encoded, hsealed, hne⟩ := s.sealed hseal
  obtain ⟨hsealable, rfl⟩ := sealRecord_eq_ok.1 hsealed
  exact ⟨⟨commandID, actor, commitments, hsealable, rfl⟩, ⟨commandID, actor, commitments, s, hs, hseal⟩, hne hscheme, rfl⟩

lemma actor_of_commit {c c' : Conversation}
    (h : (commit commandID actor fact deliveries objectIDs time sealer).call c = (.ok t, c')) : t.event.actor = actor := by
  obtain ⟨-, commitments, -, s, -, record, hseal, -, rfl, -⟩ := commit_returns.1 h
  obtain ⟨_, _, _, hsealed, -⟩ := s.sealed hseal
  obtain ⟨-, rfl⟩ := sealRecord_eq_ok.1 hsealed
  rfl

end Conversation

namespace Committed

variable {c c' : Conversation} {fact : Fact} {time : Time} {sealer : Option Sealer}
  {t : Transition}

section

variable (h : Committed c fact time sealer t c')
include h

lemma sequence : t.event.sequence = next c.head.sequence := by
  obtain ⟨_, _, _, -, e⟩ := h.input
  rw [e]
  rfl

lemma previousHash : t.event.previousHash = c.head.eventHash := by
  obtain ⟨_, _, _, -, e⟩ := h.input
  rw [e]
  rfl

lemma fact_eq : t.event.fact = fact := by
  obtain ⟨_, _, _, -, e⟩ := h.input
  rw [e]
  rfl

lemma time_ne : time ≠ 0 := by
  obtain ⟨_, _, _, hs, -⟩ := h.input
  exact hs.committedAt_ne

lemma next_eq (hlt : c.head.sequence < 2 ^ 64) : next c.head.sequence = c.head.sequence + 1 := by
  obtain ⟨_, _, _, hs, -⟩ := h.input
  exact next_of_ne_zero hlt hs.sequence_ne

end

end Committed

/-! ### Preparing the state of an event -/

def Kind.RaisesMembership (k : Kind) : Prop := k = .membershipCommitted ∨ k = .memberAuthority
deriving Decidable

def Kind.ShowsState (k : Kind) : Prop := k = .conversationCreated ∨ k.RaisesMembership

/-- The events that leave the state of the conversation alone. -/
def Kind.Ordinary : Kind → Prop
  | .messageCommitted | .messageEdited | .messageRetracted | .messageHiddenForActor
  | .messageModerated | .messageForwarded | .reactionCommitted | .messagePinCommitted => True
  | _ => False

/-- How much an operation adds to the membership epoch and to the MLS epoch. -/
def Operation.raises : Operation → ℕ × ℕ
  | .membership _ => (1, 1)
  | .memberAuthority _ => (1, 0)
  | _ => (0, 0)

/-- The same, read off the kind of an event. -/
def Kind.raises (k : Kind) : ℕ × ℕ := (if k.RaisesMembership then 1 else 0, if k = .membershipCommitted then 1 else 0)

/-- From the state `c`, an operation prepared the state `candidate` for an event with the fact
`fact`. -/
structure Prepared (c candidate : Conversation) (fact : Fact) : Prop where
  id : candidate.id = c.id
  kind : candidate.kind = c.kind
  scope : candidate.scope = c.scope
  authorityStation : candidate.authorityStation = c.authorityStation
  authorityEpoch : candidate.authorityEpoch = c.authorityEpoch
  createdAt : candidate.createdAt = c.createdAt
  status : candidate.status = c.status ∨ candidate.status = .dissolved
  settings : c.settings.validate = .ok () → candidate.settings.validate = .ok ()
  sequence : candidate.head.sequence = c.head.sequence
  eventHash : candidate.head.eventHash = c.head.eventHash
  membershipEpoch : candidate.head.membershipEpoch =
    if fact.kind.RaisesMembership then next c.head.membershipEpoch else c.head.membershipEpoch
  mlsEpoch : candidate.head.mlsEpoch =
    if fact.kind = .membershipCommitted then next c.head.mlsEpoch else c.head.mlsEpoch
  group_of_raises : fact.kind.RaisesMembership → c.kind = .group
  postState : fact.kind.ShowsState → fact.postState = some candidate.eventState
  roles : ∀ mutation ∈ fact.memberAuthority, ∀ role ∈ mutation.role, role.validate = .ok ()
  valid : c.validateState c.head.sequence = .ok () → next c.head.sequence = c.head.sequence + 1 →
      candidate.validateState (next c.head.sequence) = .ok ()
  owner_found : (c.members.find c.owner).isSome = true →
    (candidate.members.find candidate.owner).isSome = true

namespace Prepared

variable {c : Conversation}

lemma same {fact : Fact} (hkind : ¬fact.kind.ShowsState)
    (hauth : fact.memberAuthority = none) {status : ConversationStatus}
    {settings : ConversationSettings}
    (hstat : status = c.status ∨ status = .dissolved)
    (hset : c.settings.validate = .ok () → settings.validate = .ok ()) :
    Prepared c { c with status, settings } fact where
  id := rfl
  kind := rfl
  scope := rfl
  authorityStation := rfl
  authorityEpoch := rfl
  createdAt := rfl
  status := hstat
  settings := hset
  sequence := rfl
  eventHash := rfl
  membershipEpoch := (if_neg fun h => hkind (.inr h)).symm
  mlsEpoch := (if_neg fun h => hkind (.inr (.inl h))).symm
  group_of_raises h := absurd (.inr h) hkind
  postState h := absurd h hkind
  roles mutation h := by rw [hauth] at h; cases h
  valid h hnext := by
    rw [hnext]
    exact validateState_mono (Nat.le_succ _) h
  owner_found h := h

end Prepared

/-! ### Membership changes -/

namespace Conversation

variable {change : MembershipChange} {sequence : ℕ} {c c' : Conversation} {u : Unit}

omit [Digest]

lemma addDevice_returns : (addDevice change sequence).call c = (.ok u, c') ↔ c.isActiveEndpoint change.endpoint = false ∧
        ∃ device, MemberDevice.create change.endpoint change.homeStation sequence = .ok device ∧
          { c with devices := c.devices.insert device } = c' := by
  simp [addDevice, receiver_bind_call]

lemma addActor_returns : (addActor change sequence).call c = (.ok u, c') ↔
      c.isActiveMember change.actor = false ∧ change.role ≠ .owner ∧
        ∃ added, Member.create change.actor change.role change.homeStation sequence = .ok added ∧
          (if change.device ≠ "" then addDevice change sequence else pure ()).call
            { c with members := c.members.insert added } = (.ok u, c') := by
  simp [addActor, receiver_bind_call]

variable {status : MemberStatus} {changes : List MembershipChange}

lemma removeActor_returns : (removeActor change sequence status).call c = (.ok u, c') ↔
      c.isActiveMember change.actor = true ∧ change.actor ≠ c.owner ∧
        ∃ updated, (c.memberOf change.actor).leave sequence status = .ok updated ∧
          ∃ devices, c.withoutDevicesOf change.actor sequence = .ok devices ∧
            { c with members := c.members.insert updated, devices } = c' := by
  simp [removeActor, receiver_bind_call]

lemma changeRole_returns : (changeRole change).call c = (.ok u, c') ↔
      c.isActiveMember change.actor = true ∧ (change.actor ≠ c.owner → change.role ≠ .owner) ∧
        (change.actor = c.owner → change.role = .owner) ∧
        ∃ updated, (c.memberOf change.actor).withRole change.role = .ok updated ∧
          { c with members := c.members.insert updated } = c' := by
  simp [changeRole, receiver_bind_call]

lemma addMemberDevice_returns : (addMemberDevice change sequence).call c = (.ok u, c') ↔
    c.isActiveMember change.actor = true ∧ change.homeStation = (c.memberOf change.actor).homeStation ∧
    (addDevice change sequence).call c = (.ok u, c') := by
  simp [addMemberDevice, receiver_bind_call]

lemma removeDevice_returns : (removeDevice change sequence).call c = (.ok u, c') ↔
      ∃ device, (c.devices.find change.endpoint.key).filter (fun device => device.active) = some device ∧
        ∃ removed, device.remove sequence = .ok removed ∧
          { c with devices := c.devices.insert removed } = c' := by
  simp [removeDevice, receiver_bind_call]

/-- A state that differs from `c` in members and devices only. -/
def SameExceptRoster (c c' : Conversation) : Prop := ∃ members devices, c' = { c with members, devices }

lemma SameExceptRoster.trans {c₁ c₂ c₃ : Conversation} (h : SameExceptRoster c₁ c₂)
    (h' : SameExceptRoster c₂ c₃) : SameExceptRoster c₁ c₃ := by
  obtain ⟨_, _, rfl⟩ := h
  obtain ⟨members, devices, rfl⟩ := h'
  exact ⟨members, devices, rfl⟩

lemma addDevice_sameExceptRoster (h : (addDevice change sequence).call c = (.ok u, c')) : SameExceptRoster c c' := by
  obtain ⟨-, device, -, rfl⟩ := addDevice_returns.1 h
  exact ⟨_, _, rfl⟩

lemma addActor_sameExceptRoster (h : (addActor change sequence).call c = (.ok u, c')) : SameExceptRoster c c' := by
  obtain ⟨-, -, added, -, h⟩ := addActor_returns.1 h
  split at h
  · exact SameExceptRoster.trans ⟨_, _, rfl⟩ (addDevice_sameExceptRoster h)
  · obtain ⟨-, rfl⟩ := pure_returns.1 h
    exact ⟨_, _, rfl⟩

lemma removeActor_sameExceptRoster
    (h : (removeActor change sequence status).call c = (.ok u, c')) : SameExceptRoster c c' := by
  obtain ⟨-, -, updated, -, devices, -, rfl⟩ := removeActor_returns.1 h
  exact ⟨_, _, rfl⟩

lemma applyChange_sameExceptRoster (h : (applyMembershipChange change sequence).call c = (.ok u, c')) :
    SameExceptRoster c c' := by
  rw [applyMembershipChange, lift_bind_returns] at h
  obtain ⟨-, -, h⟩ := h
  split at h
  · exact addActor_sameExceptRoster h
  · exact removeActor_sameExceptRoster h
  · exact removeActor_sameExceptRoster h
  · obtain ⟨-, -, -, updated, -, rfl⟩ := changeRole_returns.1 h
    exact ⟨_, _, rfl⟩
  · exact addDevice_sameExceptRoster (addMemberDevice_returns.1 h).2.2
  · obtain ⟨device, -, removed, -, rfl⟩ := removeDevice_returns.1 h
    exact ⟨_, _, rfl⟩
  · cases (lift_returns.1 h).1

lemma forM_applyChange_sameExceptRoster (h : (forM changes (applyMembershipChange · sequence)).call c = (.ok u, c')) :
    SameExceptRoster c c' := by
  refine forM_returns_invariant ?_ ⟨_, _, rfl⟩ h
  exact fun change s s' _ hs hstep => hs.trans (applyChange_sameExceptRoster hstep)

lemma forM_applyMembershipChange_of_authored {operation : String} {owner sender : PTID}
    (h : (forM changes (applyAuthoredChange operation owner sender sequence)).call c =
    (.ok u, c')) : (forM changes (applyMembershipChange · sequence)).call c = (.ok u, c') := by
  refine forM_returns_mono (fun change s s' hstep => ?_) h
  rw [applyAuthoredChange, lift_bind_returns] at hstep
  exact hstep.choose_spec.2

/-! ### Member authority -/

variable {mutation : MemberAuthorityMutation}

lemma applyAuthority_update_returns (ha : mutation.action = .updateMember) :
    (applyMemberAuthorityMutation mutation).call c = (.ok u, c') ↔ c.isActiveMember mutation.target = true ∧
        ∃ updated, (c.memberOf mutation.target).withAuthorityState mutation.role mutation.muted
            mutation.mutedUntil = .ok updated ∧
          { c with members := c.members.insert updated } = c' := by
  simp [applyMemberAuthorityMutation, ha, receiver_bind_call]

lemma applyAuthority_frame (h : (applyMemberAuthorityMutation mutation).call c = (.ok u, c')) :
    ∃ members owner, c' = { c with members, owner } := by
  cases ha : mutation.action with
  | updateMember =>
    obtain ⟨-, updated, -, rfl⟩ := (applyAuthority_update_returns ha).1 h
    exact ⟨_, _, rfl⟩
  | transferOwnership =>
    simp only [applyMemberAuthorityMutation, ha, receiver_bind_call, lift_bind_returns, assign_returns] at h
    obtain ⟨-, -, -, -, _, -, _, -, rfl⟩ := h
    exact ⟨_, _, rfl⟩
  | other text =>
    simp only [applyMemberAuthorityMutation, ha, receiver_bind_call, lift_bind_returns, lift_returns] at h
    obtain ⟨-, -, h, -⟩ := h
    cases h

end Conversation

/-! ### The operations -/

namespace Conversation

variable {c c' : Conversation} {t : Transition}
  {transition : MembershipTransition} {command : MemberAuthorityCommand}
  {input : SystemServiceMessageInput}

lemma applyMembershipTransition_returns : (applyMembershipTransition transition).call c = (.ok t, c') ↔
      c.validateMembershipTransition transition = .ok () ∧ ∃ candidate,
        (forM transition.changes (applyAuthoredChange "aggregate.apply_membership" c.owner
          transition.sender.actor (next c.head.sequence))).call c = (.ok (), candidate) ∧
        candidate.validateState (next c.head.sequence) = .ok () ∧
        validateMembershipDeliveries transition c.activeEndpoints candidate.activeEndpoints = .ok () ∧
        (commit transition.id transition.sender
          { Fact.newMembershipTransition transition.changes transition.payload with
            postState := some (candidate.withEpochs (next candidate.head.membershipEpoch) transition.toMLS).eventState }
          transition.deliveries transition.objectIDs transition.committedAt
          transition.eventSealer).call
          (candidate.withEpochs (next candidate.head.membershipEpoch) transition.toMLS) = (.ok t, c') := by
  rw [applyMembershipTransition, receiver_bind_call, lift_bind_returns]
  simp [receiver_bind_call]

lemma applyMemberAuthority_returns : (applyMemberAuthority command).call c = (.ok t, c') ↔
      c.validateMemberAuthority command = .ok () ∧ ∃ mutation, c.authorizedMutation command = .ok mutation ∧
      ∃ candidate, (applyMemberAuthorityMutation mutation).call c = (.ok (), candidate) ∧
        (command.action = .updateMember → ¬EqualMemberAuthorityState (c.memberOf command.target)
          (candidate.memberOf command.target)) ∧ (candidate.withEpochs (next candidate.head.membershipEpoch)
          candidate.head.mlsEpoch).validateState (next candidate.head.sequence) = .ok () ∧
        (commit command.id command.sender { Fact.newMemberAuthority mutation command.payload with
            postState := some (candidate.withEpochs (next candidate.head.membershipEpoch)
              candidate.head.mlsEpoch).eventState }
          command.deliveries command.objectIDs command.committedAt command.eventSealer).call
          (candidate.withEpochs (next candidate.head.membershipEpoch) candidate.head.mlsEpoch) = (.ok t, c') := by
  simp only [applyMemberAuthority, receiver_bind_call, lift_bind_returns, onClone_returns]
  simp only [bind_returns (m := applyMemberAuthorityMutation _), receiver_bind_call,
    lift_bind_returns, assign_bind_call, ok_iff, not_and]
  rfl

lemma applyCommand_returns {command : Command} : (applyCommand command).call c = (.ok t, c') ↔
    ¬(command.kind = .membershipCommitted ∨ command.kind = .conversationSettings ∨
    command.kind = .conversationDissolved ∨ command.kind = .conversationCreated) ∧
    c.validateCommand command = .ok () ∧ c.validateOrdinaryCommand command = .ok () ∧ (commit command.id command.sender
    (Fact.newCommandCommitted command.kind command.messageID command.payload)
    command.deliveries command.objectIDs command.committedAt command.eventSealer).call c = (.ok t, c') := by
  simp [applyCommand, receiver_bind_call]

lemma updateSettings_returns {command : SettingsCommand} : (updateSettings command).call c = (.ok t, c') ↔
      c.validateCommand command.toCommand = .ok () ∧ command.patch.validate = .ok () ∧
      ¬(c.kind = .group ∧ ¬(c.memberOf command.sender.actor).role.CanManageMembership) ∧
      (commit command.id command.sender (Fact.newSettingsChanged command.patch.normalized command.payload)
        command.deliveries command.objectIDs command.committedAt command.eventSealer).call
        { c with settings := c.settings.apply command.patch.normalized } = (.ok t, c') := by
  simp [updateSettings, receiver_bind_call]

lemma dissolve_returns {command : DissolveCommand} : (dissolve command).call c = (.ok t, c') ↔
      c.kind = .group ∧ c.validateCommand command.toCommand = .ok () ∧ command.sender.actor = c.owner ∧
      (commit command.id command.sender (Fact.newConversationDissolved command.payload)
        command.deliveries command.objectIDs command.committedAt command.eventSealer).call
        { c with status := .dissolved } = (.ok t, c') := by
  simp [dissolve, receiver_bind_call]

lemma commitSystemServiceMessage_returns : (commitSystemServiceMessage input).call c = (.ok t, c') ↔
    c.validateSystemServiceMessage input = .ok () ∧ (commit input.commandID input.sender
    (Fact.newSystemServiceMessage input.messageID input.payload) input.deliveries []
    input.committedAt input.eventSealer).call c = (.ok t, c') := by
  simp [commitSystemServiceMessage, receiver_bind_call]

section

omit [Digest]

lemma validateMembershipTransition_eq_ok : c.validateMembershipTransition transition = .ok () ↔
    c.kind = .group ∧ c.validateCommandBase transition.toCommand = .ok () ∧
    (transition.kind = .membershipCommitted ∧ transition.transitionID ≠ "" ∧
    transition.authorityPlanID ≠ "" ∧ transition.authorityPlanHash ≠ 0 ∧
    transition.fromMembership = c.head.membershipEpoch ∧
    transition.fromMLS = c.head.mlsEpoch ∧ transition.toMLS = next c.head.mlsEpoch) ∧
    transition.deliveryPlanHash = transition.authorityPlanHash ∧
    (c.memberOf transition.sender.actor).role.CanManageMembership ∧
    validateMembershipChangeBatch transition.changes = .ok () := by
  simp [validateMembershipTransition]

lemma authorizedMutation_returns
    {mutation : MemberAuthorityMutation} (h : c.authorizedMutation command = .ok mutation) :
    (∀ role ∈ mutation.role, role.validate = .ok ()) ∧ mutation.fromMembershipEpoch = c.head.membershipEpoch ∧
    mutation.toMembershipEpoch = next c.head.membershipEpoch := by
  rw [authorizedMutation] at h
  cases hactn : command.action with
  | updateMember =>
    simp only [hactn, checkUpdateMember, ok_iff] at h
    obtain ⟨⟨-, -, -, hroles, -⟩, rfl⟩ := h
    refine ⟨fun role hrole => ?_, rfl, rfl⟩
    rw [MemberRole.validate_eq_ok]
    by_contra hnot
    exact hroles ⟨role, hrole, fun e => hnot (.inl e), fun e => hnot (.inr (.inl e))⟩
  | transferOwnership =>
    simp only [hactn, ok_iff] at h
    obtain ⟨-, rfl⟩ := h
    refine ⟨?_, rfl, rfl⟩
    rintro role ⟨⟩
    rfl
  | other text => simp [hactn, throw] at h

lemma kind_of_ordinaryFields {command : Command}
    (h : c.validateOrdinaryFields command = .ok ()) : command.kind.Ordinary := by
  cases hk : command.kind
  case messageCommitted | messageEdited | messageRetracted | messageHiddenForActor |
      messageModerated | messageForwarded | reactionCommitted | messagePinCommitted => trivial
  all_goals simp [validateOrdinaryFields, hk, throw] at h

lemma homes_of_validateServiceMessage (h : c.validateSystemServiceMessage input = .ok ()) :
    c.kind = .direct ∧ ∀ m ∈ c.members.values, m.Active → m.homeStation = c.authorityStation := by
  simp only [validateSystemServiceMessage, ok_iff, not_or, not_not, Bool.not_eq_false] at h
  obtain ⟨hkind, -, ⟨-, -, hdist⟩, -, -, ⟨hsnd, hrcp⟩, hlen, ⟨hhome, hhome'⟩, -⟩ := h
  have hof : ∀ m ∈ c.members.values, c.memberOf m.actor = m := by
    intro m hm
    rw [memberOf, mem_values.1 hm]
    rfl
  have hmem : ∀ m ∈ c.members.values, m.Active → m.actor ∈ c.activeMemberActors := by
    intro m hm hact
    exact mem_map_of_mem (mem_filter.2 ⟨hm, decide_eq_true hact⟩)
  have hfnd : ∀ actor, c.isActiveMember actor = true → actor ∈ c.activeMemberActors := by
    intro actor h
    obtain ⟨m, hm, hact⟩ := isActiveMember_iff.1 h
    rw [← key_of_find hm]
    exact hmem m (mem_values_of_find hm) hact
  refine ⟨hkind, fun m hm hact => ?_⟩
  obtain ⟨x, y, hxy⟩ := length_eq_two.1 hlen
  have hcases : m.actor = input.senderActor ∨ m.actor = input.recipient := by grind
  rcases hcases with h | h
  · rw [← h, hof m hm] at hhome
    exact hhome
  · rw [← h, hof m hm] at hhome'
    exact hhome'

end

end Conversation

/-! ### What the operations prepare -/

/-- From the state `c`, an operation made another state for an event with the fact `fact`. -/
inductive Effect (c : Conversation) (fact : Fact) : Conversation → Prop
  | ordinary : fact.kind.Ordinary → fact.postState = none → fact.memberAuthority = none →
      Effect c fact c
  | settings : fact.kind = .conversationSettings → fact.postState = none →
      fact.memberAuthority = none → fact.settingsPatch.validate = .ok () →
      Effect c fact { c with settings := c.settings.apply fact.settingsPatch }
  | dissolved : fact.kind = .conversationDissolved → fact.postState = none →
      fact.memberAuthority = none → c.kind = .group →
      Effect c fact { c with status := .dissolved }
  | serviceMessage : fact.kind = .systemServiceMessageCommitted → fact.postState = none →
      fact.memberAuthority = none → c.kind = .direct →
      (∀ m ∈ c.members.values, m.Active → m.homeStation = c.authorityStation) → Effect c fact c
  | membership {candidate : Conversation} : fact.kind = .membershipCommitted → c.kind = .group →
      validateMembershipChangeBatch fact.membershipChanges = .ok () →
      (forM fact.membershipChanges (applyMembershipChange · (next c.head.sequence))).call c =
          (.ok (), candidate) →
      candidate.validateState (next c.head.sequence) = .ok () →
      fact.postState = some (candidate.withEpochs (next c.head.membershipEpoch)
        (next c.head.mlsEpoch)).eventState →
      fact.memberAuthority = none →
      Effect c fact (candidate.withEpochs (next c.head.membershipEpoch) (next c.head.mlsEpoch))
  | memberAuthority {candidate : Conversation} {mutation : MemberAuthorityMutation} :
      fact.kind = .memberAuthority → c.kind = .group → fact.memberAuthority = some mutation →
      (∀ role ∈ mutation.role, role.validate = .ok ()) →
      mutation.fromMembershipEpoch = c.head.membershipEpoch →
      mutation.toMembershipEpoch = next c.head.membershipEpoch →
      (applyMemberAuthorityMutation mutation).call c = (.ok (), candidate) →
      (candidate.withEpochs (next c.head.membershipEpoch) c.head.mlsEpoch).validateState
        (next c.head.sequence) = .ok () →
      fact.postState = some (candidate.withEpochs (next c.head.membershipEpoch)
        c.head.mlsEpoch).eventState →
      Effect c fact (candidate.withEpochs (next c.head.membershipEpoch) c.head.mlsEpoch)

namespace Effect

variable {c candidate : Conversation} {fact : Fact}

lemma prepared_of_raises {mlsEpoch : ℕ} (hkind : c.kind = .group)
    (hfr : ∃ members devices owner, candidate = { c with members, devices, owner })
    (hraises : fact.kind.RaisesMembership) (hmls : mlsEpoch =
    if fact.kind = .membershipCommitted then next c.head.mlsEpoch else c.head.mlsEpoch)
    (hval : (candidate.withEpochs (next c.head.membershipEpoch) mlsEpoch).validateState (next c.head.sequence) = .ok ())
    (hpost : fact.postState = some (candidate.withEpochs (next c.head.membershipEpoch) mlsEpoch).eventState)
    (hroles : ∀ mutation ∈ fact.memberAuthority, ∀ role ∈ mutation.role, role.validate = .ok ()) :
    Prepared c (candidate.withEpochs (next c.head.membershipEpoch) mlsEpoch) fact := by
  obtain ⟨members, devices, owner, rfl⟩ := hfr
  constructor
  case id => rfl
  case kind => rfl
  case scope => rfl
  case authorityStation => rfl
  case authorityEpoch => rfl
  case createdAt => rfl
  case status => exact .inl rfl
  case settings => exact fun h => h
  case sequence => rfl
  case eventHash => rfl
  case membershipEpoch => rw [if_pos hraises]; rfl
  case mlsEpoch => exact hmls
  case group_of_raises => exact fun _ => hkind
  case postState => exact fun _ => hpost
  case roles => exact hroles
  case valid => exact fun _ _ => hval
  case owner_found => exact fun _ => owner_found_of_group hval hkind

lemma prepared (h : Effect c fact candidate) : Prepared c candidate fact := by
  cases h with
  | ordinary hkind _ hauth =>
    refine .same ?_ hauth (.inl rfl) id
    rintro (hk | hk | hk) <;> rw [hk] at hkind <;> exact hkind
  | settings hkind _ hauth hpatch =>
    refine .same ?_ hauth (.inl rfl) fun hs => ConversationSettings.validate_apply hs hpatch
    rintro (hk | hk | hk) <;> cases hkind.symm.trans hk
  | dissolved hkind _ hauth _ =>
    refine .same ?_ hauth (.inr rfl) id
    rintro (hk | hk | hk) <;> cases hkind.symm.trans hk
  | serviceMessage hkind _ hauth _ _ =>
    refine .same ?_ hauth (.inl rfl) id
    rintro (hk | hk | hk) <;> cases hkind.symm.trans hk
  | membership hkind hgroup _ hchg hval hpost hauth =>
    obtain ⟨members, devices, rfl⟩ := forM_applyChange_sameExceptRoster hchg
    refine prepared_of_raises hgroup ⟨members, devices, c.owner, rfl⟩ (.inl hkind) ?_ ?_ hpost ?_
    · rw [if_pos hkind]
    · refine (validateState_withEpochs ?_ _ _).trans hval
      exact hgroup
    · intro mutation hmut
      rw [hauth] at hmut
      cases hmut
  | memberAuthority hkind hgroup hauth hroles _ _ hmut hval hpost =>
    obtain ⟨members, owner, rfl⟩ := applyAuthority_frame hmut
    refine prepared_of_raises hgroup ⟨members, c.devices, owner, rfl⟩ (.inr hkind) ?_ hval hpost ?_
    · rw [if_neg (by simp [hkind])]
    · intro m hm
      obtain rfl := Option.some.inj (hauth.symm.trans hm)
      exact hroles

end Effect

/-- The one operation whose events stay on the Station. -/
def Operation.IsServiceMessage : Operation → Prop
  | .systemServiceMessage _ => True
  | _ => False

variable {op : Operation} {t : Transition}

/-- **An accepted operation** makes a state and commits one event on it. -/
lemma Operation.effect {c c' : Conversation} (h : op.run.call c = (.ok t, c')) : ∃ candidate fact,
    Effect c fact candidate ∧ fact.kind.raises = op.raises ∧ (fact.kind = .systemServiceMessageCommitted →
    op.IsServiceMessage) ∧ Committed candidate fact op.committedAt op.eventSealer t c' := by
  cases op with
  | command cmd =>
    obtain ⟨-, -, hord, hcom⟩ := applyCommand_returns.1 h
    have hflds : c.validateOrdinaryFields cmd = .ok () := by
      rw [validateOrdinaryCommand, bind_eq_ok, exists_unit] at hord
      exact hord.1
    have hkind := kind_of_ordinaryFields hflds
    refine ⟨c, _, .ordinary hkind rfl rfl, ?_, fun hs => ?_, committed_of_commit hcom⟩
    · have hnot : ¬cmd.kind.RaisesMembership := by
        rintro (hk | hk) <;> rw [hk] at hkind <;> exact hkind
      show cmd.kind.raises = (0, 0)
      rw [Kind.raises, if_neg hnot, if_neg fun hk => hnot (.inl hk)]
    · rw [show cmd.kind = _ from hs] at hkind
      exact hkind.elim
  | membership transition =>
    obtain ⟨hcheck, candidate, hchg, hval, -, hcom⟩ := applyMembershipTransition_returns.1 h
    obtain ⟨hkind, -, ⟨-, -, -, -, -, -, hmls⟩, -, -, hbat⟩ := validateMembershipTransition_eq_ok.1 hcheck
    have hchg := forM_applyMembershipChange_of_authored hchg
    obtain ⟨members, devices, rfl⟩ := forM_applyChange_sameExceptRoster hchg
    rw [hmls] at hcom
    exact ⟨_, _, .membership rfl hkind hbat hchg hval rfl rfl, rfl,
      fun hs => absurd hs (of_decide_eq_false rfl), committed_of_commit hcom⟩
  | memberAuthority cmd =>
    obtain ⟨hcheck, mutation, hauth, candidate, hmut, -, hval, hcom⟩ := applyMemberAuthority_returns.1 h
    have hkind : c.kind = .group := by
      rw [validateMemberAuthority, bind_eq_ok, exists_unit, failWhen_eq_ok, not_not] at hcheck
      exact hcheck.1
    obtain ⟨hroles, hfrom, hto⟩ := authorizedMutation_returns hauth
    obtain ⟨members, owner, rfl⟩ := applyAuthority_frame hmut
    exact ⟨_, _, .memberAuthority rfl hkind rfl hroles hfrom hto hmut hval rfl, rfl,
      fun hs => absurd hs (of_decide_eq_false rfl), committed_of_commit hcom⟩
  | settings cmd =>
    obtain ⟨-, hpatch, -, hcom⟩ := updateSettings_returns.1 h
    exact ⟨_, _, .settings rfl rfl rfl hpatch, rfl,
      fun hs => absurd hs (of_decide_eq_false rfl), committed_of_commit hcom⟩
  | dissolve cmd =>
    obtain ⟨hkind, -, -, hcom⟩ := dissolve_returns.1 h
    exact ⟨_, _, .dissolved rfl rfl rfl hkind, rfl,
      fun hs => absurd hs (of_decide_eq_false rfl), committed_of_commit hcom⟩
  | systemServiceMessage input =>
    obtain ⟨hcheck, hcom⟩ := commitSystemServiceMessage_returns.1 h
    obtain ⟨hkind, hhomes⟩ := homes_of_validateServiceMessage hcheck
    exact ⟨c, _, .serviceMessage rfl rfl rfl hkind hhomes, rfl, fun _ => trivial, committed_of_commit hcom⟩

lemma Operation.run_returns {c c' : Conversation} (h : op.run.call c = (.ok t, c')) : ∃ candidate fact,
    Prepared c candidate fact ∧ fact.kind.raises = op.raises ∧ (fact.kind = .systemServiceMessageCommitted →
    op.IsServiceMessage) ∧ Committed candidate fact op.committedAt op.eventSealer t c' := by
  obtain ⟨candidate, fact, heff, hrest⟩ := op.effect h
  exact ⟨candidate, fact, heff.prepared, hrest⟩

end

end PeersTouch.Chat
