import PeersTouch.Chat.Transitions

/-!
# The invariant of a conversation and its events

A conversation is created by one of the creations and then goes through any sequence of operations,
accepted or refused (`History`). `Sound` collects what holds of every state on the way; it is kept
by committing an event on a state that is ready for it (`Ready`), and both the creations and the
operations commit on such states only. From it follow the hash chain and the epochs of the events,
the owner of a group and the homes of the devices (`LifeInvariant`).

`Sound` is also what loading a stored conversation checks, with one exception: the commit time of
an operation may lie before the creation (`rehydrate_snapshot_iff`).
-/

namespace PeersTouch.Chat

open Lib Method Conversation List Option Creation
open Registry

section

variable [Digest]

/-! ### States that an event can be committed on -/

/-- What holds of a state that an event with sequence `n` is about to be committed on. -/
structure Ready (c : Conversation) (n : ℕ) : Prop where
  id_ne : c.id ≠ ""
  scope_ne : c.scope ≠ .zero
  authorityStation_ne : c.authorityStation ≠ ""
  authorityEpoch_ne : c.authorityEpoch ≠ 0
  createdAt_ne : c.createdAt ≠ 0
  kind : c.kind.validate = .ok ()
  status : c.status.validate = .ok ()
  settings : c.settings.validate = .ok ()
  federated : c.kind = .group → c.scope.IsFederation
  mls_pos : c.kind = .group → c.head.mlsEpoch ≠ 0
  mls_le : c.kind = .group → c.head.mlsEpoch ≤ c.head.membershipEpoch
  membership_le : c.kind = .group → c.head.membershipEpoch ≤ n
  valid : c.validateState n = .ok ()
  owner_found : (c.members.find c.owner).isSome = true

/-- What holds of a conversation after every event. -/
structure Sound (c : Conversation) : Prop where
  ready : Ready c c.head.sequence
  sequence_ne : c.head.sequence ≠ 0
  sequence_lt : c.head.sequence < 2 ^ 64
  eventHash_ne : c.head.eventHash ≠ 0
  updatedAt_ne : c.updatedAt ≠ 0

variable {c : Conversation} {t : Transition} {sealer : Option Sealer} {fact : Fact} {time : Time}
  {op : Operation} {creation : Creation} {events : List Record}
  {c' : Conversation}

lemma Committed.sound (h : Committed c fact time sealer t c') (hrdy : Ready c (next c.head.sequence)) : Sound c' := by
  have hseq : c'.head.sequence = next c.head.sequence := by rw [h.state, ← h.sequence]; rfl
  have hne : next c.head.sequence ≠ 0 := by
    obtain ⟨_, _, _, hs, -⟩ := h.input
    exact hs.sequence_ne
  constructor
  case ready =>
    rw [hseq, h.state]
    exact { hrdy with }
  case sequence_ne => rwa [hseq]
  case sequence_lt => rw [hseq]; exact next_lt _
  case eventHash_ne => rw [h.state]; exact h.hash_ne
  case updatedAt_ne => rw [h.state]; exact h.time_ne

lemma Prepared.ready {cand : Conversation} (h : Prepared c cand fact) (hc : Sound c)
    (hnext : next c.head.sequence = c.head.sequence + 1) : Ready cand (next cand.head.sequence) := by
  have hrdy := hc.ready
  have hlt := next_lt c.head.sequence
  -- Neither epoch runs ahead of the sequence, so neither wraps around before it.
  have hepochs : c.kind = .group → next c.head.mlsEpoch = c.head.mlsEpoch + 1 ∧
        next c.head.membershipEpoch = c.head.membershipEpoch + 1 := by
    intro hg
    have h₁ := hrdy.mls_le hg
    have h₂ := hrdy.membership_le hg
    exact ⟨next_of_lt (by omega), next_of_lt (by omega)⟩
  rw [h.sequence, hnext]
  constructor
  case id_ne => rw [h.id]; exact hrdy.id_ne
  case scope_ne => rw [h.scope]; exact hrdy.scope_ne
  case authorityStation_ne => rw [h.authorityStation]; exact hrdy.authorityStation_ne
  case authorityEpoch_ne => rw [h.authorityEpoch]; exact hrdy.authorityEpoch_ne
  case createdAt_ne => rw [h.createdAt]; exact hrdy.createdAt_ne
  case kind => rw [h.kind]; exact hrdy.kind
  case status =>
    rcases h.status with e | e
    · rw [e]; exact hrdy.status
    · rw [e]; rfl
  case settings => exact h.settings hrdy.settings
  case federated => rw [h.kind, h.scope]; exact hrdy.federated
  case mls_pos =>
    rw [h.kind, h.mlsEpoch]
    intro hg
    have := hrdy.mls_pos hg
    split_ifs
    · rw [(hepochs hg).1]; omega
    · exact this
  case mls_le =>
    rw [h.kind, h.mlsEpoch, h.membershipEpoch]
    intro hg
    have := hrdy.mls_le hg
    rw [(hepochs hg).1, (hepochs hg).2]
    split_ifs with hm hr hr
    · omega
    · exact absurd (.inl hm) hr
    · omega
    · exact this
  case membership_le =>
    rw [h.kind, h.membershipEpoch]
    intro hg
    have := hrdy.membership_le hg
    rw [(hepochs hg).2]
    split_ifs <;> omega
  case valid => rw [← hnext]; exact h.valid hrdy.valid hnext
  case owner_found => exact h.owner_found hrdy.owner_found

lemma Operation.sound (hc : Sound c) (h : op.run.call c = (.ok t, c')) : Sound c' := by
  obtain ⟨cand, fact, hp, -, -, hcom⟩ := op.run_returns h
  have hnext : next c.head.sequence = c.head.sequence + 1 := by
    have := hcom.next_eq (by rw [hp.sequence]; exact hc.sequence_lt)
    rwa [hp.sequence] at this
  exact hcom.sound (hp.ready hc hnext)

/-! ### Creation -/

omit [Digest] in
lemma Conversation.active_of_addInitialDevice {members : Registry Member Member.actor} {initial : List MemberDevice}
    {devices : Registry MemberDevice MemberDevice.key}
    (h : initial.foldlM (addInitialDevice members) ∅ = .ok devices) : ∀ d ∈ devices.values, d.active = true := by
  refine foldlM_invariant (P := fun ds : Registry MemberDevice MemberDevice.key => ∀ d ∈ ds.values, d.active = true) ?_ ?_ h
  · intro ds d ds' _ hds hadd d' hd'
    simp only [addInitialDevice, ok_iff, addNew_eq_ok, not_or, Bool.not_eq_false] at hadd
    obtain ⟨-, ⟨hact, -⟩, member, -, -, -, rfl⟩ := hadd
    rw [mem_values, find_insert] at hd'
    split_ifs at hd' with hkey
    · obtain rfl := some.inj hd'
      exact hact
    · exact hds d' (mem_values.2 hd')
  · intro d hd
    cases hd

/-- A creation builds a state that is ready for the genesis event. -/
lemma Conversation.initial_ready {input : CreateInput} {membershipEpoch mlsEpoch : ℕ}
    (hmls : input.kind = .group → mlsEpoch ≠ 0) (hle : mlsEpoch ≤ membershipEpoch) (hone : membershipEpoch ≤ 1)
    (h : initial input membershipEpoch mlsEpoch = .ok c) :
    Ready c 1 ∧ c.head = { sequence := 0, eventHash := 0, membershipEpoch, mlsEpoch } ∧
      c.kind = input.kind ∧ c.status = .active ∧ c.createdAt = input.createdAt ∧
      ∀ d ∈ c.devices.values, d.active = true := by
  simp only [initial, ok_iff, not_or, not_and] at h
  obtain ⟨⟨hid, hsc, hstn, hep, -, -, hcre⟩, hfederated, hkind, hset,
    members, -, owner, howner, -, devices, hdevs, hval, -, -, -, -, -, rfl⟩ := h
  refine ⟨?_, rfl, rfl, rfl, rfl, active_of_addInitialDevice hdevs⟩
  constructor
  case id_ne => exact hid
  case scope_ne => exact hsc
  case authorityStation_ne => exact hstn
  case authorityEpoch_ne => exact hep
  case createdAt_ne => exact hcre
  case kind => exact hkind
  case status => rfl
  case settings => exact hset
  case federated => exact fun hg => not_not.1 (hfederated hg)
  case mls_pos => exact hmls
  case mls_le => exact fun _ => hle
  case membership_le => exact fun _ => hone
  case valid => exact hval
  case owner_found => exact isSome_iff_exists.2 ⟨owner, howner⟩

structure Genesis (time : Time) (c₀ : Conversation) (fact : Fact) : Prop where
  ready : Ready c₀ 1
  sequence : c₀.head.sequence = 0
  eventHash : c₀.head.eventHash = 0
  createdAt : c₀.createdAt = time
  status : c₀.status = .active
  membershipEpoch : c₀.head.membershipEpoch = 1
  mlsEpoch : c₀.kind = .group → c₀.head.mlsEpoch = 1
  devices : ∀ d ∈ c₀.devices.values, d.active = true
  kind : fact.kind = .conversationCreated
  created : fact.created = some
    { c₀ with name := c₀.settings.name, members := c₀.activeMemberActors }
  postState : fact.postState = some c₀.eventState
  memberAuthority : fact.memberAuthority = none

lemma Creation.run_returns (h : creation.run = .ok (c, t)) : ∃ c₀ fact, Genesis creation.input.createdAt c₀ fact ∧
    Committed c₀ fact creation.input.createdAt creation.input.eventSealer t c := by
  -- All three end in `create`, with epochs that suit the kind they set.
  have hcreate : ∀ {input : CreateInput} {mlsEpoch : ℕ}, (input.kind = .group → mlsEpoch = 1) → mlsEpoch ≤ 1 →
      create input 1 mlsEpoch = .ok (c, t) → ∃ c₀ fact, Genesis input.createdAt c₀ fact ∧
        Committed c₀ fact input.createdAt input.eventSealer t c := by
    intro input mlsEpoch hmls hle h
    rw [create, bind_eq_ok] at h
    obtain ⟨c₀, hinit, hcom⟩ := h
    obtain ⟨hrdy, hhead, hkind, hstat, hcre, hdevs⟩ :=
      initial_ready (fun hg => by rw [hmls hg]; exact one_ne_zero) hle le_rfl hinit
    refine ⟨c₀, _, ?_, committed_of_commit (construct_eq_ok.1 hcom)⟩
    exact ⟨hrdy, by rw [hhead], by rw [hhead], hcre, hstat, by rw [hhead],
      fun hg => by rw [hhead]; exact hmls (hkind.symm.trans hg), hdevs, rfl, rfl, rfl, rfl⟩
  cases creation with
  | direct input =>
    simp only [run, createDirect, ok_iff] at h
    obtain ⟨-, pair, -, id, -, -, h⟩ := h
    have := hcreate (fun hg => by cases hg) (by omega) h
    exact this
  | group input =>
    simp only [run, createGroup, ok_iff] at h
    have := hcreate (fun _ => rfl) le_rfl h.2
    exact this
  | systemDirect input =>
    simp only [run, createSystemDirect, ok_iff] at h
    obtain ⟨pair, -, -, id, -, -, h⟩ := h
    have := hcreate (fun hg => by cases hg) (by omega) h
    exact this

lemma Creation.sound (h : creation.run = .ok (c, t)) : Sound c := by
  obtain ⟨c₀, fact, hgen, hcom⟩ := creation.run_returns h
  refine hcom.sound ?_
  rw [hgen.sequence]
  exact hgen.ready

/-! ### Refused operations -/

lemma Conversation.commit_atomic {commandID : CommandID} {actor : Endpoint} {deliveries : List PreparedDelivery}
    {objectIDs : List ObjectID} : Atomic (commit commandID actor fact deliveries objectIDs time sealer) :=
  .receiver_bind fun _ => .lift_bind _ fun _ => .lift_bind _ fun _ => .lift_bind _ fun _ =>
    .lift_bind _ fun _ => .lift_bind _ fun _ => atomic_assign_pure _ _

lemma Operation.run_atomic (op : Operation) : Atomic op.run := by
  cases op with
  | command cmd =>
    exact .receiver_bind fun _ => .lift_bind _ fun _ => .lift_bind _ fun _ => .lift_bind _ fun _ => commit_atomic
  | membership transition => exact .receiver_bind fun _ => .lift_bind _ fun _ => atomic_onClone _
  | memberAuthority cmd => exact .receiver_bind fun _ => .lift_bind _ fun _ => .lift_bind _ fun _ => atomic_onClone _
  | settings cmd | dissolve cmd =>
    exact .receiver_bind fun _ => .lift_bind _ fun _ => .lift_bind _ fun _ => .lift_bind _ fun _ => atomic_onClone _
  | systemServiceMessage input => exact .receiver_bind fun _ => .lift_bind _ fun _ => commit_atomic

/-! ### The chain of the events -/

/-- `event` is the next event after `previous`. -/
structure Follows (previous event : Record) : Prop where
  sequence : event.sequence = previous.sequence + 1
  previousHash : event.previousHash = previous.hash
  membershipEpoch : event.membershipEpoch = previous.membershipEpoch + event.fact.kind.raises.1
  mlsEpoch : event.mlsEpoch = previous.mlsEpoch + event.fact.kind.raises.2

structure HeadIs (c : Conversation) (e : Record) : Prop where
  sequence : c.head.sequence = e.sequence
  eventHash : c.head.eventHash = e.hash
  membershipEpoch : c.head.membershipEpoch = e.membershipEpoch
  mlsEpoch : c.head.mlsEpoch = e.mlsEpoch

lemma Committed.headIs (h : Committed c fact time sealer t c') : HeadIs c' t.event := by
  obtain ⟨_, _, _, -, e⟩ := h.input
  rw [h.state]
  exact ⟨rfl, rfl, by rw [e]; rfl, by rw [e]; rfl⟩

lemma Operation.follows {e : Record} (hc : Sound c) (hhead : HeadIs c e) (h : op.run.call c = (.ok t, c')) :
    Follows e t.event ∧ HeadIs c' t.event ∧ t.event.fact.kind.raises = op.raises := by
  obtain ⟨cand, fact, hp, hraises, -, hcom⟩ := op.run_returns h
  refine ⟨?_, hcom.headIs, by rw [hcom.fact_eq, hraises]⟩
  have hlt : cand.head.sequence < 2 ^ 64 := by rw [hp.sequence]; exact hc.sequence_lt
  have hnext := hcom.next_eq hlt
  have hlt' := next_lt cand.head.sequence
  rw [hnext, hp.sequence] at hlt'
  obtain ⟨_, _, _, -, einput⟩ := hcom.input
  have hm : t.event.membershipEpoch = cand.head.membershipEpoch := by rw [einput]; rfl
  have hl : t.event.mlsEpoch = cand.head.mlsEpoch := by rw [einput]; rfl
  constructor
  case sequence => rw [hcom.sequence, hnext, hp.sequence, hhead.sequence]
  case previousHash => rw [hcom.previousHash, hp.eventHash, hhead.eventHash]
  case membershipEpoch =>
    rw [hm, hp.membershipEpoch, hcom.fact_eq, ← hhead.membershipEpoch]
    dsimp only [Kind.raises]
    split_ifs with hr
    · have := hc.ready.membership_le (hp.group_of_raises hr)
      exact next_of_lt (by omega)
    · rfl
  case mlsEpoch =>
    rw [hl, hp.mlsEpoch, hcom.fact_eq, ← hhead.mlsEpoch]
    dsimp only [Kind.raises]
    split_ifs with hr
    · have hg := hp.group_of_raises (.inl hr)
      have h₁ := hc.ready.membership_le hg
      have h₂ := hc.ready.mls_le hg
      exact next_of_lt (by omega)
    · rfl

/-! ### Histories -/

inductive History : List Record → Conversation → Prop
  | created {creation : Creation} {c : Conversation} {t : Transition} :
      creation.run = .ok (c, t) → History [t.event] c
  | accepted {events : List Record} {op : Operation} {c c' : Conversation} {t : Transition} :
      History events c → op.run.call c = (.ok t, c') → History (events ++ [t.event]) c'
  | refused {events : List Record} {op : Operation} {c c' : Conversation} {e : Error} :
      History events c → op.run.call c = (.error e, c') → History events c'

/-- What a history looks like from inside: a sound conversation at the end of a chain. -/
structure Linked (events : List Record) (c : Conversation) : Prop where
  sound : Sound c
  chain : events.IsChain Follows
  genesis : ∀ e ∈ events.head?, e.sequence = 1 ∧ e.previousHash = 0
  head : ∃ e ∈ events.getLast?, HeadIs c e

lemma Linked.of_creation (h : creation.run = .ok (c, t)) : Linked [t.event] c := by
  obtain ⟨c₀, fact, hgen, hcom⟩ := creation.run_returns h
  refine ⟨creation.sound h, isChain_singleton _, ?_, ⟨t.event, rfl, hcom.headIs⟩⟩
  rintro e ⟨⟩
  exact ⟨by rw [hcom.sequence, hgen.sequence]; rfl, by rw [hcom.previousHash, hgen.eventHash]⟩

lemma Linked.accepted (hc : Linked events c) (h : op.run.call c = (.ok t, c')) : Linked (events ++ [t.event]) c' := by
  obtain ⟨last, hlast, hhead⟩ := hc.head
  obtain ⟨hfollows, hhead', -⟩ := op.follows hc.sound hhead h
  constructor
  case sound => exact op.sound hc.sound h
  case chain =>
    refine isChain_append.2 ⟨hc.chain, isChain_singleton _, ?_⟩
    intro x hx y hy
    obtain rfl : x = last := some.inj ((mem_def.1 hx).symm.trans hlast)
    obtain rfl : t.event = y := some.inj hy
    exact hfollows
  case genesis =>
    intro e he
    cases events with
    | nil => cases hlast
    | cons first rest => exact hc.genesis e he
  case head => exact ⟨t.event, getLast?_concat, hhead'⟩

lemma History.linked (h : History events c) : Linked events c := by
  induction h with
  | created hrun => exact .of_creation hrun
  | accepted _ hrun ih => exact ih.accepted hrun
  | refused _ hrun ih =>
    rw [Operation.run_atomic _ _ _ _ hrun]
    exact ih

lemma Linked.sequence_getElem (h : Linked events c) (k : ℕ) (hk : k < events.length) : events[k].sequence = k + 1 := by
  induction k with
  | zero =>
    refine (h.genesis events[0] ?_).1
    rw [head?_eq_getElem?]
    exact getElem?_eq_getElem hk
  | succ k ih => rw [(isChain_iff_getElem.1 h.chain k hk).sequence, ih (by omega)]

/-- The invariant of the aggregate, over the events accepted so far. -/
structure LifeInvariant (events : List Record) (c : Conversation) : Prop where
  sequence : ∀ k (hk : k < events.length), events[k].sequence = k + 1
  first : ∀ e ∈ events.head?, e.previousHash = 0
  previousHash : ∀ k (hk : k + 1 < events.length), events[k + 1].previousHash = events[k].hash
  membershipEpoch : ∀ k (hk : k + 1 < events.length), events[k + 1].membershipEpoch =
    events[k].membershipEpoch + events[k + 1].fact.kind.raises.1
  mlsEpoch : ∀ k (hk : k + 1 < events.length), events[k + 1].mlsEpoch =
    events[k].mlsEpoch + events[k + 1].fact.kind.raises.2
  head : ∃ e ∈ events.getLast?, HeadIs c e
  owner : c.kind = .group → ∃ m, c.members.find c.owner = some m ∧ m.Active ∧ m.role = .owner ∧
    (∀ m' ∈ c.members.values, m'.Active → m'.role = .owner → m' = m) ∧
    ∃ d ∈ c.devices.values, d.active = true ∧ d.endpoint.actor = c.owner
  device : ∀ d ∈ c.devices.values, d.active = true →
    ∃ m, c.members.find d.endpoint.actor = some m ∧ m.Active ∧ d.homeStation = m.homeStation
  accepted : ∀ (op : Operation) (t : Transition) (c' : Conversation), op.run.call c = (.ok t, c') →
      c'.head.membershipEpoch = c.head.membershipEpoch + op.raises.1 ∧
        c'.head.mlsEpoch = c.head.mlsEpoch + op.raises.2
  refused : ∀ (op : Operation) (e : Error) (c' : Conversation),
    op.run.call c = (.error e, c') → c' = c

omit [Digest] in
lemma Conversation.owner_of_validateOwnerInvariant (hkind : c.kind = .group) (h : c.validateOwnerInvariant = .ok ()) :
    ∃ m, c.members.find c.owner = some m ∧ m.Active ∧ m.role = .owner ∧ (∀ m' ∈ c.members.values, m'.Active →
    m'.role = .owner → m' = m) ∧ ∃ d ∈ c.devices.values, d.active = true ∧ d.endpoint.actor = c.owner := by
  simp only [validateOwnerInvariant, hkind, ne_eq, not_true, if_false, ok_iff, forM_eq_ok, not_or,
    not_not, not_and, Bool.not_eq_false] at h
  obtain ⟨⟨hsome, hact, hrole⟩, huniq, hdevs⟩ := h
  obtain ⟨m, hm⟩ := isSome_iff_exists.1 hsome
  have hof : c.memberOf c.owner = m := by rw [memberOf, hm]; rfl
  rw [hof] at hact hrole
  refine ⟨m, hm, hact, hrole, fun m' hm' ha hr => ?_, ?_⟩
  · have hfd := mem_values.1 hm'
    rw [huniq m' hm' ha hr, hm] at hfd
    exact (some.inj hfd).symm
  · obtain ⟨d, hd⟩ := exists_mem_of_length_pos (Nat.pos_of_ne_zero hdevs)
    obtain ⟨hmem, hd⟩ := mem_filter.1 hd
    rw [Bool.and_eq_true, decide_eq_true_iff] at hd
    exact ⟨d, hmem, hd⟩

/-- **The invariant of the aggregate** holds after every sequence of operations, accepted or
refused. -/
theorem lifeInvariant_of_history {events : List Record} {c : Conversation}
    (h : History events c) : LifeInvariant events c := by
  have hl := h.linked
  have hchain := isChain_iff_getElem.1 hl.chain
  obtain ⟨-, hdevs, -, -, howner⟩ := validateState_eq_ok.1 hl.sound.ready.valid
  constructor
  case sequence => exact hl.sequence_getElem
  case first => exact fun e he => (hl.genesis e he).2
  case previousHash => exact fun k hk => (hchain k hk).previousHash
  case membershipEpoch => exact fun k hk => (hchain k hk).membershipEpoch
  case mlsEpoch => exact fun k hk => (hchain k hk).mlsEpoch
  case head => exact hl.head
  case owner => exact fun hkind => c.owner_of_validateOwnerInvariant hkind howner
  case device =>
    intro d hd hact
    obtain ⟨-, -, m, hm, himp⟩ := validateDeviceState_eq_ok.1 (hdevs d hd)
    exact ⟨m, hm, himp hact⟩
  case accepted =>
    intro op t c' hrun
    obtain ⟨e, -, hhead⟩ := hl.head
    obtain ⟨hfollows, hhead', hraises⟩ := op.follows hl.sound hhead hrun
    rw [hhead'.membershipEpoch, hhead'.mlsEpoch, hfollows.membershipEpoch, hfollows.mlsEpoch,
      hhead.membershipEpoch, hhead.mlsEpoch, hraises]
    exact ⟨rfl, rfl⟩
  case refused => exact fun op e c' hrun => op.run_atomic c e c' hrun

/-! ### A group to try things on -/

def systemSealer : Sealer where
  sealEvent input := do
    let canonical ← canonicalSeal input
    sealTransportRecord input canonical.hash canonical.encodedBytes
  sealed := by
    intro input record h
    simp only [sealTransportRecord, ok_iff] at h
    obtain ⟨canonical, -, hne, -, h⟩ := h
    exact ⟨_, _, _, h, fun _ => hne⟩

def laptop : Endpoint := { actor := "alice", device := "laptop" }

def notice (recipient : Endpoint) (kind : DeliveryKind) : PreparedDelivery :=
  { recipient, homeStation := "home", kind, opaquePayload := [1], payloadHash := hashBytes [1] }

def soloGroup (owner : Endpoint) (sealer : Sealer) : Creation := .group
    { id := "solo", kind := .group, scope := .federation "fed" (by decide)
      authorityStation := "home", authorityEpoch := 1, owner := owner.actor
      participants := [{ actor := owner.actor, homeStation := "home", role := .owner }]
      devices := [{ endpoint := owner, homeStation := "home", active := true, joinedAt := 1,
                    leftAt := 0 }]
      settings := { name := "notes", description := "", avatarObjectID := "", visibility := .publicVisibility }
      commandID := "create", creator := owner, deliveries := [notice owner .publicEvent]
      eventPayload := [1], createdAt := 5000000, eventSealer := some sealer, genesisRecipients := [] }

def notesGroup : Creation := soloGroup laptop systemSealer

def rename (c : Conversation) (time : Time) : Operation := .settings
    { id := "rename", conversationID := c.id, authorityStation := c.authorityStation
      sender := laptop, observedMembershipEpoch := c.head.membershipEpoch
      observedMLSEpoch := c.head.mlsEpoch, deliveryPlanHash := deliveryPlanHash c.id c.head [laptop]
      kind := .conversationSettings, messageID := "", replyToMessageID := ""
      threadRootMessageID := "", reaction := "", reasonCode := "", payload := [1]
      deliveries := [notice laptop .publicEvent], requiredEndpoints := [laptop], objectIDs := []
      committedAt := time, eventSealer := some systemSealer
      patch := { SettingsPatch.empty with name := some "diary" } }

end

section

attribute [local instance] checksum

set_option maxRecDepth 10000 in
lemma soloGroup_accepts (time : Time) (htime : time = 4000000 ∨ time = 6000000) :
    ∃ c t c' t', notesGroup.run = .ok (c, t) ∧ (rename c time).run.call c = (.ok t', c') := by
  have h : ∀ time ∈ [4000000, 6000000], (notesGroup.run >>= fun p => ((rename p.1 time).run.call p.1).1).isOk = true := by
    decide +kernel
  obtain ⟨t', h⟩ := isOk_iff.1 (h time (by simpa using htime))
  obtain ⟨⟨c, t⟩, hrun, h⟩ := bind_eq_ok.1 h
  dsimp only at h
  exact ⟨c, t, _, t', hrun, Prod.ext h rfl⟩

theorem lifeInvariant_of_soloGroup : ∃ events c, events.length = 2 ∧ History events c ∧ LifeInvariant events c := by
  obtain ⟨c, t, c', t', hrun, hrename⟩ := soloGroup_accepts 6000000 (by decide)
  have h := (History.created hrun).accepted hrename
  exact ⟨_, c', rfl, h, lifeInvariant_of_history h⟩

end

section

variable [Digest]

/-! ### Loading a stored conversation -/

inductive Accepts (creation : Creation) : List Operation → Conversation → Prop
  | created {c : Conversation} {t : Transition} : creation.run = .ok (c, t) → Accepts creation [] c
  | accepted {ops : List Operation} {op : Operation} {c c' : Conversation} {t : Transition} :
      Accepts creation ops c → op.run.call c = (.ok t, c') → Accepts creation (ops ++ [op]) c'

def lastCommittedAt (creation : Creation) (ops : List Operation) : Time :=
  (ops.getLast?.map Operation.committedAt).getD creation.input.createdAt

variable {creation : Creation} {ops : List Operation} {c : Conversation}

lemma Accepts.sound (h : Accepts creation ops c) : Sound c := by
  induction h with
  | created hrun => exact Creation.sound hrun
  | accepted _ hrun ih => exact Operation.sound ih hrun

/-- The creation time stays, and the update time is the commit time of the last operation. -/
lemma Accepts.times (h : Accepts creation ops c) :
    c.createdAt = creation.input.createdAt ∧ c.updatedAt = lastCommittedAt creation ops := by
  induction h with
  | created hrun =>
    obtain ⟨c₀, fact, hgen, hcom⟩ := creation.run_returns hrun
    rw [hcom.state]
    exact ⟨hgen.createdAt, rfl⟩
  | @accepted ops op _ _ _ _ hrun ih =>
    obtain ⟨cand, fact, hp, -, -, hcom⟩ := op.run_returns hrun
    rw [hcom.state, lastCommittedAt, getLast?_concat]
    exact ⟨hp.createdAt.trans ih.1, rfl⟩

/-- What a sound conversation is stored as can be loaded, as the same conversation, unless its
update time lies before its creation. -/
lemma Sound.rehydrate_snapshot (h : Sound c) (htime : c.createdAt ≤ c.updatedAt) : rehydrate c.snapshot = .ok c := by
  have hrdy := h.ready
  obtain ⟨hmems, -⟩ := validateState_eq_ok.1 hrdy.valid
  have howner : c.owner ≠ "" := by
    obtain ⟨m, hm⟩ := isSome_iff_exists.1 hrdy.owner_found
    have hmem := mem_values_of_find hm
    rw [← key_of_find hm]
    exact (validateMemberState_eq_ok.1 (hmems m hmem)).1.actor_ne
  simp only [rehydrate, ok_iff]
  refine ⟨?_, hrdy.kind, hrdy.status, hrdy.settings, not_lt.2 htime, ?_, ?_, ?_,
    c.members, addAll_values _ _, c.devices, addAll_values _ _, hrdy.valid, rfl⟩
  · simp only [not_or]
    exact ⟨hrdy.id_ne, hrdy.scope_ne, hrdy.authorityStation_ne, hrdy.authorityEpoch_ne,
      howner, hrdy.createdAt_ne, h.updatedAt_ne⟩
  · rintro (⟨h0, -⟩ | ⟨-, h0⟩)
    · exact h.sequence_ne h0
    · exact h.eventHash_ne h0
  · rintro ⟨hg, hsc⟩
    exact hsc (hrdy.federated hg)
  · rintro ⟨hg, hepochs⟩
    have h₁ := hrdy.mls_pos hg
    have h₂ := hrdy.mls_le hg
    dsimp only [snapshot] at hepochs
    omega

/-- **Loading what was stored.**  After accepted operations, the stored conversation can be loaded
again, with the same snapshot, exactly when the last of them was not committed before the
creation. -/
theorem rehydrate_snapshot_iff {creation : Creation} {ops : List Operation} {c : Conversation}
    (h : Accepts creation ops c) : (∃ c', rehydrate c.snapshot = .ok c' ∧ c'.snapshot = c.snapshot) ↔
      creation.input.createdAt ≤ lastCommittedAt creation ops := by
  rw [← h.times.1, ← h.times.2]
  refine ⟨?_, fun htime => ⟨c, h.sound.rehydrate_snapshot htime, rfl⟩⟩
  rintro ⟨c', hload, -⟩
  simp only [rehydrate, ok_iff] at hload
  exact not_lt.1 hload.2.2.2.2.1

end

section

attribute [local instance] checksum

theorem rehydrate_snapshot_iff_soloGroup :
    ∃ c t c', notesGroup.run = .ok (c, t) ∧ Accepts notesGroup [rename c 6000000] c' ∧
      ((∃ c'', rehydrate c'.snapshot = .ok c'' ∧ c''.snapshot = c'.snapshot) ↔ (5000000 : Time) ≤ 6000000) := by
  obtain ⟨c, t, c', t', hrun, hrename⟩ := soloGroup_accepts 6000000 (by decide)
  have h := (Accepts.created hrun).accepted hrename
  exact ⟨c, t, c', hrun, h, rehydrate_snapshot_iff h⟩

set_option maxRecDepth 10000 in
/-- A group renamed at a time before its creation cannot be loaded any more. -/
theorem rehydrate_fails_of_earlier_rename :
    ∃ c t c', notesGroup.run = .ok (c, t) ∧ Accepts notesGroup [rename c 4000000] c' ∧ rehydrate c'.snapshot =
        .error (invalid "aggregate.rehydrate" "updated_at" "cannot precede the creation time") := by
  have hload : (notesGroup.run.bind fun p =>
      (rehydrate ((rename p.1 4000000).run.call p.1).2.snapshot).map snapshot) =
      .error (invalid "aggregate.rehydrate" "updated_at" "cannot precede the creation time") := by
    decide +kernel
  obtain ⟨c, t, c', t', hrun, hrename⟩ := soloGroup_accepts 4000000 (by decide)
  have h := (Accepts.created hrun).accepted hrename
  refine ⟨c, t, c', hrun, h, ?_⟩
  simp only [hrun, Except.bind, hrename] at hload
  cases hc : rehydrate c'.snapshot with
  | ok loaded => rw [hc] at hload; cases hload
  | error e =>
    rw [hc] at hload
    exact congrArg Except.error (Except.error.inj hload)

end

end PeersTouch.Chat
