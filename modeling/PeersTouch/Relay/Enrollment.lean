import PeersTouch.Lib.KeyedTable
import PeersTouch.Lib.Machine
import PeersTouch.Lib.Method

/-!
# Enrollments of a relay

A relay enrolls the nodes of Stations. Rows are never removed: a revocation marks one, and a later registration of the
node takes it over. The limit on Stations is only asked for a new row, so the number of Stations stays within it if
the registrations that take a row over find room (`stations_within_limit`). A credential is compared with the row of
its node, and one that the row has left behind is never taken again (`superseded_credential_refused`).
-/

namespace PeersTouch.Relay

open Lib KeyedTable

inductive EnrollmentStatus where
  | online | offline | revoked
deriving DecidableEq

/-- What a proof of identity says of a node. -/
structure VerifiedNodeIdentity where
  (stationPeerID nodePeerID : String)
  stationRootPublicKey : List UInt8
  authorizationEpoch : ℕ
  authorizationExpiresAt : ℤ
deriving DecidableEq

/-- A row, with the authorization that it was last written with. -/
structure Enrollment extends VerifiedNodeIdentity where
  id : ℕ
  status : EnrollmentStatus
  generation : ℕ
  credentialJTI : String
deriving DecidableEq

/-- What a credential says of its node. -/
structure NodeIdentity where
  enrollmentID : ℕ
  (stationPeerID nodePeerID : String)
  generation : ℕ
  jti : String
  expiresAt : ℤ

inductive RelayError where
  | inviteAlreadyConsumed | relayCapacityFull | nodePeerIDTaken | enrollmentNotFound | nodeCredentialStale
  | credentialInvalid | stationMismatch

/-- The active invites and the enrollments, whose node has a unique index of its own. -/
structure Repo where
  invites : Finset ℕ
  enrollments : KeyedTable Enrollment (·.nodePeerID)

/-- A call after the checks of its challenge, invite and proof. A registration whose node is not admitted is followed by
a revocation, and a revocation with an identity is a retirement. -/
inductive Operation where
  | register (inviteID id : ℕ) (node : VerifiedNodeIdentity) (jti : String)
  | rotate (current : NodeIdentity) (node : VerifiedNodeIdentity) (jti : String) (now : ℤ)
  | revoke (stationPeerID nodePeerID : String) (identity : Option NodeIdentity) (now : ℤ)

namespace Repo

def getEnrollment (r : Repo) (stationPeerID nodePeerID : String) : Option Enrollment :=
  (r.enrollments.find nodePeerID).filter (·.stationPeerID = stationPeerID)

/-- The Stations that have an enrollment which is not revoked. -/
def activeStations (r : Repo) : Finset String :=
  ((r.enrollments.rows.filter (·.status ≠ .revoked)).map (·.stationPeerID)).toFinset

/-- The row that a call writes. The update of a rotation repeats the checks of its locator under the same lock. -/
def next (maxStations : ℕ) (r : Repo) : Operation → Except RelayError Enrollment
  | .register inviteID id node jti => do
    failWhen (inviteID ∉ r.invites) .inviteAlreadyConsumed
    match r.getEnrollment node.stationPeerID node.nodePeerID with
    | none => do
      failWhen (0 < maxStations ∧ maxStations ≤ (r.activeStations.erase node.stationPeerID).card) .relayCapacityFull
      failWhen (r.enrollments.hasKey node.nodePeerID = true) .nodePeerIDTaken
      return { node with id, status := .offline, generation := 1, credentialJTI := jti }
    | some e => return { node with
      id := e.id, status := .offline, generation := e.generation + 1, credentialJTI := jti }
  | .rotate current node jti now => do
    let e ← orFail (r.getEnrollment current.stationPeerID current.nodePeerID) .credentialInvalid
    failWhen (e.status = .revoked ∨ e.id ≠ current.enrollmentID ∨ e.generation ≠ current.generation ∨
      e.credentialJTI ≠ current.jti) .credentialInvalid
    failWhen (node.stationPeerID ≠ current.stationPeerID ∨ node.nodePeerID ≠ current.nodePeerID ∨
      node.authorizationEpoch < e.authorizationEpoch ∨ node.stationRootPublicKey ≠ e.stationRootPublicKey)
      .stationMismatch
    failWhen (jti = "" ∨ node.authorizationEpoch = 0 ∨ node.authorizationExpiresAt ≤ now) .credentialInvalid
    return { e with
      credentialJTI := jti, authorizationEpoch := node.authorizationEpoch
      authorizationExpiresAt := node.authorizationExpiresAt }
  | .revoke stationPeerID nodePeerID identity now => do
    let e ← orFail (r.getEnrollment stationPeerID nodePeerID) .enrollmentNotFound
    failWhen (∃ i ∈ identity, e.id ≠ i.enrollmentID ∨ e.credentialJTI ≠ i.jti ∨
      if e.status = .revoked then e.generation ≠ i.generation + 1
      else e.generation ≠ i.generation ∨ i.expiresAt ≤ now ∨ e.authorizationExpiresAt ≤ now) .nodeCredentialStale
    return if e.status = .revoked then e else { e with generation := e.generation + 1, status := .revoked }

def perform (maxStations : ℕ) (op : Operation) (r : Repo) : Except RelayError Repo := do
  let e ← r.next maxStations op
  return {
    invites := if let .register inviteID _ _ _ := op then r.invites.erase inviteID else r.invites
    enrollments := r.enrollments.upsert e }

/-- The relay after calls, where one that fails changes nothing. -/
def afterCalls (maxStations : ℕ) (invites : Finset ℕ) (ops : List Operation) : Repo :=
  runAll (perform maxStations) ⟨invites, .empty⟩ ops

/-- A registration that takes a row over finds room for its Station. -/
def HasRoom (maxStations : ℕ) (r : Repo) : Operation → Prop
  | .register _ _ node _ => (r.getEnrollment node.stationPeerID node.nodePeerID).isSome = true →
      (r.activeStations.erase node.stationPeerID).card < maxStations
  | _ => True

variable {maxStations : ℕ} {r r' : Repo} {op : Operation} {e : Enrollment}

lemma mem_activeStations {s : String} :
    s ∈ r.activeStations ↔ ∃ e ∈ r.enrollments.rows, e.status ≠ .revoked ∧ e.stationPeerID = s := by
  simp [activeStations, and_assoc]

/-- A registration has room for its Station, and a row that another call leaves active was active before. -/
lemma room_of_next (hmax : 0 < maxStations) (hroom : HasRoom maxStations r op) (h : r.next maxStations op = .ok e) :
    (r.activeStations.erase e.stationPeerID).card < maxStations ∨
    (e.status ≠ .revoked → e.stationPeerID ∈ r.activeStations) := by
  cases op with
  | register inviteID id node jti =>
    simp only [next, ok_iff] at h
    obtain ⟨-, h⟩ := h
    split at h
    · simp only [ok_iff, not_and, not_le] at h
      obtain ⟨hnew, -, rfl⟩ := h
      exact .inl (hnew hmax)
    · next e he =>
      obtain rfl := pure_eq_ok.1 h
      exact .inl (hroom (by rw [he]; rfl))
  | rotate current node jti now =>
    simp only [next, ok_iff, not_or] at h
    obtain ⟨e, he, ⟨hact, -⟩, -, -, rfl⟩ := h
    have hrow := (find_eq_some.1 (Option.filter_eq_some_iff.1 he).1).1
    exact .inr fun _ => mem_activeStations.2 ⟨e, hrow, hact, rfl⟩
  | revoke stationPeerID nodePeerID ident now =>
    simp only [next, ok_iff] at h
    obtain ⟨e, -, -, rfl⟩ := h
    refine .inr fun hact => ?_
    split at hact
    · next hrevoked => exact absurd hrevoked hact
    · exact absurd rfl hact

lemma card_activeStations_perform (hmax : 0 < maxStations) (hle : r.activeStations.card ≤ maxStations)
    (hroom : HasRoom maxStations r op) (h : perform maxStations op r = .ok r') : r'.activeStations.card ≤ maxStations := by
  simp only [perform, ok_iff] at h
  obtain ⟨e, hnext, rfl⟩ := h
  set r' : Repo := { invites := _, enrollments := r.enrollments.upsert e }
  have hsub : ∀ s ∈ r'.activeStations, s ∈ r.activeStations ∨ e.status ≠ .revoked ∧ e.stationPeerID = s := by
    intro s hs
    obtain ⟨x, hx, hact, rfl⟩ := mem_activeStations.1 hs
    rcases mem_upsert.1 hx with ⟨hx, -⟩ | rfl
    · exact .inl (mem_activeStations.2 ⟨x, hx, hact, rfl⟩)
    · exact .inr ⟨hact, rfl⟩
  rcases room_of_next hmax hroom hnext with hfree | hmem
  · have hsubset : r'.activeStations ⊆ insert e.stationPeerID (r.activeStations.erase e.stationPeerID) := by
      intro s hs
      rcases hsub s hs with hs | ⟨-, rfl⟩
      · by_cases heq : s = e.stationPeerID <;> simp [heq, hs]
      · exact Finset.mem_insert_self _ _
    calc r'.activeStations.card ≤ _ := Finset.card_le_card hsubset
      _ ≤ (r.activeStations.erase e.stationPeerID).card + 1 := Finset.card_insert_le _ _
      _ ≤ maxStations := hfree
  · refine (Finset.card_le_card fun s hs => ?_).trans hle
    rcases hsub s hs with hs | ⟨hact, rfl⟩
    · exact hs
    · exact hmem hact

/-- Calls whose registrations all find room enroll no more Stations than the limit. -/
theorem stations_within_limit (hmax : 0 < maxStations) (invites : Finset ℕ) (ops : List Operation)
    (hroom : ∀ pre op post, ops = pre ++ op :: post → HasRoom maxStations (afterCalls maxStations invites pre) op) :
    (afterCalls maxStations invites ops).activeStations.card ≤ maxStations := by
  -- the calls are taken from the end, where the condition is on the relay after the others
  induction ops using List.reverseRecOn with
  | nil => exact Nat.zero_le _
  | append_singleton ops op ih =>
    have hle := ih fun pre x post h => hroom pre x (post ++ [op]) (by rw [h, List.append_assoc, List.cons_append])
    have hlast : afterCalls maxStations invites (ops ++ [op]) =
        settle (perform maxStations) (afterCalls maxStations invites ops) op := runAll_append _ _ _ _
    rw [hlast]
    cases hop : perform maxStations op (afterCalls maxStations invites ops) with
    | ok r' =>
      rw [settle_of_ok hop]
      exact card_activeStations_perform hmax hle (hroom ops op [] rfl) hop
    | error => rwa [settle_of_error hop]

/-- The proof of a Station's only node. -/
def sampleNode (station : String) : VerifiedNodeIdentity where
  stationPeerID := station
  nodePeerID := station ++ "-node"
  stationRootPublicKey := []
  authorizationEpoch := 1
  authorizationExpiresAt := 10

/-- The only Station that may enroll registers twice. -/
theorem same_station_within_limit :
    (afterCalls 1 {1, 2} [.register 1 1 (sampleNode "a") "x", .register 2 2 (sampleNode "a") "y"]).activeStations.card ≤
      1 := by
  refine stations_within_limit Nat.one_pos _ _ fun pre op post h => ?_
  obtain _ | ⟨_, _ | ⟨_, pre⟩⟩ := pre <;> simp at h
  · obtain ⟨rfl, -⟩ := h
    exact fun _ => by decide
  · obtain ⟨rfl, rfl, -⟩ := h
    exact fun _ => by decide +kernel

/-- A Station is revoked, another one takes its place, and the first one registers again. -/
theorem second_station_over_limit :
    (afterCalls 1 {1, 2, 3} [.register 1 1 (sampleNode "a") "x", .revoke "a" "a-node" none 0,
      .register 2 2 (sampleNode "b") "y", .register 3 3 (sampleNode "a") "z"]).activeStations = {"a", "b"} := by
  decide +kernel

/-! ### Credentials -/

/-- The identifier of the credential that a call makes. -/
def issuedJTI : Operation → Option String
  | .register _ _ _ jti | .rotate _ _ jti _ => some jti
  | .revoke .. => none

def issueNodeCredential (e : Enrollment) (expiresAt : ℤ) : Except RelayError NodeIdentity := do
  failWhen (e.id = 0 ∨ e.stationPeerID = "" ∨ e.nodePeerID = "" ∨ e.generation = 0 ∨ e.credentialJTI = "")
    .credentialInvalid
  return { e with enrollmentID := e.id, jti := e.credentialJTI, expiresAt }

def authenticateRotationLocator (r : Repo) (identity : NodeIdentity) : Except RelayError Enrollment := do
  let e ← orFail (r.getEnrollment identity.stationPeerID identity.nodePeerID) .credentialInvalid
  failWhen (e.status = .revoked ∨ e.id ≠ identity.enrollmentID ∨ e.nodePeerID ≠ identity.nodePeerID ∨
    e.generation ≠ identity.generation ∨ e.credentialJTI ≠ identity.jti) .credentialInvalid
  return e

/-- A publication also needs an authorization that has not run out. -/
def authenticateNodeIdentity (r : Repo) (identity : NodeIdentity) (now : ℤ) : Except RelayError Enrollment := do
  let e ← r.authenticateRotationLocator identity
  failWhen (e.authorizationExpiresAt ≤ now) .credentialInvalid
  return e

lemma getEnrollment_eq_some {station node : String} : r.getEnrollment station node = some e ↔
    (r.enrollments.find node = some e ∧ e.nodePeerID = node) ∧ e.stationPeerID = station := by
  simpa [getEnrollment, Option.filter_eq_some_iff] using fun _ h => (find_eq_some.1 h).2

/-- What a call makes of a row: it stays, its generation is raised or it gets the credential of the call. -/
def Moves (op : Operation) (e e' : Enrollment) : Prop :=
  e' = e ∨ e'.generation = e.generation + 1 ∨ e'.generation = e.generation ∧ issuedJTI op = some e'.credentialJTI

lemma moves_of_next {x : Enrollment} (h : r.next maxStations op = .ok x) (he : r.enrollments.find x.nodePeerID = some e) :
    x.stationPeerID = e.stationPeerID ∧ Moves op e x := by
  cases op with
  | register inviteID id node jti =>
    simp only [next, ok_iff] at h
    obtain ⟨-, h⟩ := h
    split at h
    · simp only [ok_iff, Bool.not_eq_true] at h
      obtain ⟨-, hfree, rfl⟩ := h
      cases (find_eq_none.2 hfree).symm.trans he
    · next he' =>
      obtain rfl := pure_eq_ok.1 h
      obtain ⟨⟨hfind, -⟩, hstation⟩ := getEnrollment_eq_some.1 he'
      cases hfind.symm.trans he
      exact ⟨hstation.symm, .inr (.inl rfl)⟩
  | rotate current node jti now =>
    simp only [next, ok_iff, getEnrollment_eq_some] at h
    obtain ⟨e', ⟨⟨hfind, hnode⟩, -⟩, -, -, -, rfl⟩ := h
    cases hfind.symm.trans (hnode ▸ he)
    exact ⟨rfl, .inr (.inr ⟨rfl, rfl⟩)⟩
  | revoke stationPeerID nodePeerID identity now =>
    simp only [next, ok_iff, getEnrollment_eq_some] at h
    obtain ⟨e', ⟨⟨hfind, hnode⟩, -⟩, -, rfl⟩ := h
    split_ifs at he ⊢ <;> cases hfind.symm.trans (hnode ▸ he)
    · exact ⟨rfl, .inl rfl⟩
    · exact ⟨rfl, .inr (.inl rfl)⟩

lemma moves_of_perform {station node : String} (he : r.getEnrollment station node = some e)
    (h : perform maxStations op r = .ok r') : ∃ e', r'.getEnrollment station node = some e' ∧ Moves op e e' := by
  simp only [perform, ok_iff] at h
  obtain ⟨x, hx, rfl⟩ := h
  obtain ⟨⟨hfind, rfl⟩, rfl⟩ := getEnrollment_eq_some.1 he
  simp only [getEnrollment_eq_some, find_upsert]
  by_cases hnode : x.nodePeerID = e.nodePeerID
  · obtain ⟨hstation, hmoves⟩ := moves_of_next hx (hnode ▸ hfind)
    exact ⟨x, ⟨⟨if_pos hnode, hnode⟩, hstation⟩, hmoves⟩
  · exact ⟨e, ⟨⟨by rw [if_neg hnode, hfind], rfl⟩, rfl⟩, .inl rfl⟩

/-- How far a row has moved on since it had a credential: a new generation or another credential makes it older. -/
def age (jti : String) (e : Enrollment) : ℕ := 2 * e.generation + if e.credentialJTI = jti then 0 else 1

lemma age_le_of_moves {jti : String} {e' : Enrollment} (hjti : issuedJTI op ≠ some jti) (h : Moves op e e') :
    age jti e ≤ age jti e' := by
  unfold age
  rcases h with rfl | hgen | ⟨hgen, hnew⟩
  · rfl
  · split_ifs <;> omega
  · have hne : e'.credentialJTI ≠ jti := fun heq => hjti (heq ▸ hnew)
    rw [if_neg hne]
    split_ifs <;> omega

lemma exists_age_le {jti station node : String} {ops : List Operation} (hjti : ∀ op ∈ ops, issuedJTI op ≠ some jti)
    (he : r.getEnrollment station node = some e) :
    ∃ e', (runAll (perform maxStations) r ops).getEnrollment station node = some e' ∧ age jti e ≤ age jti e' := by
  refine runAll_invariant_of_mem (P := fun r : Repo => ∃ e', r.getEnrollment station node = some e' ∧ age jti e ≤ age jti e')
    (fun op hop r r' hold hperform => ?_) ⟨e, he, le_rfl⟩
  obtain ⟨e₁, he₁, hle⟩ := hold
  obtain ⟨e₂, he₂, hmoves⟩ := moves_of_perform he₁ hperform
  exact ⟨e₂, he₂, hle.trans (age_le_of_moves (hjti op hop) hmoves)⟩

/-- **A superseded credential** is refused ever after: once the row of a node has another generation or identifier than
a credential issued for it, no later call makes the relay take that credential again. -/
theorem superseded_credential_refused (invites : Finset ℕ) (first mid last : List Operation) (station node : String)
    {x : Enrollment} {identity : NodeIdentity} {expiresAt : ℤ}
    (hjti : ∀ op ∈ mid ++ last, issuedJTI op ≠ some e.credentialJTI)
    (he : (afterCalls maxStations invites first).getEnrollment station node = some e)
    (hissued : issueNodeCredential e expiresAt = .ok identity)
    (hx : (afterCalls maxStations invites (first ++ mid)).getEnrollment station node = some x)
    (hmoved : x.generation ≠ e.generation ∨ x.credentialJTI ≠ e.credentialJTI) :
    let r := afterCalls maxStations invites (first ++ mid ++ last)
    r.authenticateRotationLocator identity = .error .credentialInvalid ∧
      ∀ now, r.authenticateNodeIdentity identity now = .error .credentialInvalid := by
  intro r
  simp only [List.forall_mem_append] at hjti
  simp only [afterCalls, runAll_append] at hx
  obtain ⟨_, he', hmid⟩ := exists_age_le hjti.1 he
  cases hx.symm.trans he'
  obtain ⟨e₂, he₂, hlast⟩ := exists_age_le hjti.2 hx
  have hne : e₂.generation ≠ e.generation ∨ e₂.credentialJTI ≠ e.credentialJTI := by
    unfold age at hmid hlast
    grind
  obtain ⟨⟨-, rfl⟩, rfl⟩ := getEnrollment_eq_some.1 he
  simp only [issueNodeCredential, ok_iff] at hissued
  obtain ⟨-, rfl⟩ := hissued
  have hrefused : r.authenticateRotationLocator { e with enrollmentID := e.id, jti := e.credentialJTI, expiresAt } =
      .error .credentialInvalid := by
    simp only [r, afterCalls, runAll_append]
    rw [authenticateRotationLocator, he₂]
    show (failWhen _ _ >>= fun _ => _) = _
    rw [failWhen, if_pos (.inr (.inr (.inr hne)))]
    rfl
  refine ⟨hrefused, fun now => ?_⟩
  rw [authenticateNodeIdentity, hrefused]
  rfl

/-- A node rotates its first credential away and registers once more. -/
theorem rotated_credential_refused :
    let r := afterCalls 1 {1, 2} [.register 1 1 (sampleNode "a") "x", .rotate ⟨1, "a", "a-node", 1, "x", 5⟩
      (sampleNode "a") "y" 0, .register 2 2 (sampleNode "a") "z"]
    r.authenticateRotationLocator ⟨1, "a", "a-node", 1, "x", 5⟩ = .error .credentialInvalid ∧
      ∀ now, r.authenticateNodeIdentity ⟨1, "a", "a-node", 1, "x", 5⟩ now = .error .credentialInvalid := by
  exact superseded_credential_refused {1, 2} [_] [_] [_] "a" "a-node" (e := ⟨sampleNode "a", 1, .offline, 1, "x"⟩)
    (by decide) (by decide +kernel) rfl (x := ⟨sampleNode "a", 1, .offline, 1, "y"⟩) (by decide +kernel) (by decide)

end Repo

end PeersTouch.Relay
