import PeersTouch.Client.Archive

/-!
# Restoring a store

`populate_recovery_staging`, which fills an empty database from an archive,
`install_fresh_device_identity`, which makes it the database of a device, and
`install_in_place_recovery_continuity_from`, which is used when the device itself is restored: it takes
the lane, the heads and the key material over from the database that is about to be replaced.

What a restored store holds is said once, in `Restored` and `Recovered`.
-/

namespace PeersTouch.Client

open MessagingRecoveryArchive Option

open Lib Chat KeyedTable RecoveryMessageProjection Store List Background ProjectionRow Messages

/-! ### Rows -/

def RecoveryConversationProjection.row (c : RecoveryConversationProjection) : ConversationRow :=
  { c with recoveryReady := true }

def RecoveryMessageProjection.row (m : RecoveryMessageProjection) : ProjectionRow := { m with
  deliveryState := .restored, replyToMessageID := none, threadRootMessageID := none
  editedText := none, editedAtUnixMs := none, hiddenForActor := false, moderated := false
  moderationReasonCode := none }

def RecoveryMessageProjection.event (m : RecoveryMessageProjection) : AuthorityEvent :=
  { m with eventHash := m.authorityEventHash }

def RecoveryMessageRedactionTombstone.row (t : RecoveryMessageRedactionTombstone)
    (kind : MessageRedactionKind) : RedactionTombstone :=
  { t with kind }

/-- The device of the floor is filled in when the identity is installed. -/
def RecoveryRetentionFloor.row (f : RecoveryRetentionFloor) (ptid : PTID) (reason : FloorReason) :
    RetentionFloorRow :=
  { f with actorPTID := ptid, deviceID := "", reason }

def RecoveryAuthorityHead.row (head : RecoveryAuthorityHead) : AuthorityHead where
  conversationID := head.conversationID
  eventSequence := head.eventSequence
  eventHash := head.eventHash
  updatedAtUnixMs := head.updatedAtUnixMs

def RecoveryTrustRecord.row (t : RecoveryTrustRecord) : TrustRecord where
  peerPTID := t.peerPTID
  fingerprint := t.fingerprint
  verifiedAtUnixMs := t.verifiedAtUnixMs

/-! ### The staging database -/

/-- The database after the deletions of `populate_recovery_staging`. Reactions, pins, read cursors and
service messages are not deleted. -/
def Store.forRecovery (s : Store) : Store where
  lane := .empty
  chain := .empty
  body :=
    { messages :=
        { Messages.empty with
          reactions := s.body.messages.reactions, pins := s.body.messages.pins
          readCursors := s.body.messages.readCursors, serviceMessages := s.body.messages.serviceMessages }
      background := .empty, storage := .empty }

def RecoveryConversationProjection.restoreMember (c : RecoveryConversationProjection)
    (members : KeyedTable MemberRow MemberRow.key) (ptid : PTID) :
    Except Error (KeyedTable MemberRow MemberRow.key) := do
  let role ← orFail (c.memberRoles.find ptid) "messaging recovery member role is missing from v4 archive"
  members.insert { conversationID := c.conversationID, ptid, role := role.2, active := true }
    "UNIQUE constraint failed: messaging_conversation_members.conversation_id, messaging_conversation_members.ptid"

def Background.restoreConversation (b : Background) (c : RecoveryConversationProjection) :
    Except Error Background := do
  let conversations ← b.conversations.insert c.row "UNIQUE constraint failed: messaging_conversations.conversation_id"
  let members ← c.memberPTIDs.foldlM c.restoreMember b.members
  return { b with conversations, members }

def Store.restoreMessage (s : Store) (m : RecoveryMessageProjection) : Except Error Store := do
  let messages ← s.body.messages.insertProjection m.row
    "UNIQUE constraint failed: messaging_message_projections.conversation_id, messaging_message_projections.event_id"
  let events ← s.chain.insertEvent m.event
  return { s with chain := { s.chain with events }, body := { s.body with messages } }

def restoreTombstone (tombstones : KeyedTable RedactionTombstone RedactionTombstone.key)
    (t : RecoveryMessageRedactionTombstone) :
    Except Error (KeyedTable RedactionTombstone RedactionTombstone.key) := do
  let kind ← orFail (MessageRedactionKind.ofText t.kind)
    "CHECK constraint failed: kind IN ('hidden_for_actor', 'retracted')"
  tombstones.insert (t.row kind)
    "UNIQUE constraint failed: message_redaction_tombstones.conversation_id, message_redaction_tombstones.message_id, message_redaction_tombstones.kind"

def restoreFloor (ptid : PTID) (floors : KeyedTable RetentionFloorRow RetentionFloorRow.key)
    (f : RecoveryRetentionFloor) : Except Error (KeyedTable RetentionFloorRow RetentionFloorRow.key) := do
  let reason ← orFail (FloorReason.ofText f.reason) "CHECK constraint failed: reason IN ('policy', 'manual_clear')"
  floors.insert (f.row ptid reason)
    "UNIQUE constraint failed: chat_retention_floor.station_peer_id, chat_retention_floor.actor_ptid, chat_retention_floor.device_id, chat_retention_floor.conversation_id"

section

variable [Content]

def restoreAttachment (attachments : KeyedTable AttachmentRow AttachmentRow.key)
    (a : RecoveryAttachmentMetadata) : Except Error (KeyedTable AttachmentRow AttachmentRow.key) := do
  let metadata ← orFail (Content.decodeAttachmentPlaintextMetadata a.metadata)
    "messaging recovery attachment metadata is invalid"
  Content.validateAttachmentPlaintextMetadata metadata
  discard <| orFail metadata.object "messaging recovery attachment descriptor is missing"
  discard <| i64TryFrom metadata.plaintextSize "attachment plaintext size exceeds i64"
  attachments.insert
    { messageID := a.messageID, metadata := { metadata with attachmentID := a.attachmentID }
      availabilityState := .remote, localCachePath := none }
    "UNIQUE constraint failed: messaging_attachment_projections.message_id, messaging_attachment_projections.attachment_id"

def Messages.indexRestored (m : Messages) (message : RecoveryMessageProjection) : Messages :=
  m.index message.conversationID message.messageID message.plaintext ((orderBy (fun a => a.metadata.attachmentID)
    (m.attachments.rows.filter fun a => a.messageID = message.messageID)).map
      AttachmentRow.metadata)

def Store.populateRecoveryStaging (archive : MessagingRecoveryArchive) (s : Store) :
    Except Error Store := do
  validateArchive archive
  let background ← archive.conversations.foldlM Background.restoreConversation .empty
  let s ← archive.messages.foldlM Store.restoreMessage s.forRecovery
  let tombstones ← archive.redactionTombstones.foldlM restoreTombstone .empty
  let floors ← archive.retentionFloors.foldlM (restoreFloor archive.ptid) .empty
  let heads ← s.chain.heads.insertEach (archive.authorityHeads.map RecoveryAuthorityHead.row)
    "UNIQUE constraint failed: messaging_authority_heads.conversation_id"
  let attachments ← archive.attachments.foldlM restoreAttachment .empty
  let trust ← background.trust.insertEach (archive.trust.map RecoveryTrustRecord.row)
    "UNIQUE constraint failed: messaging_trust.peer_ptid"
  return { s with
    chain := { s.chain with heads }
    body :=
      { messages := archive.messages.foldl Messages.indexRestored
          { s.body.messages with tombstones, attachments }
        background := { background with trust }, storage := { s.body.storage with floors } } }

end

/-! ### The identity of the device -/

structure ActorDeviceCertificate where
  formatVersion : ℕ
  device : Option ActorDeviceRef
  (actorIdentityPublicKey actorIdentityKeyFingerprint deviceSigningPublicKey : Bytes)
  signingKeyID : String
  observedProfileVersion : ℕ
deriving DecidableEq

structure FreshDeviceEnrollment where
  certificate : ActorDeviceCertificate
  actorCrossSignature : Bytes
deriving DecidableEq

structure FreshDeviceIdentityState where
  enrollment : FreshDeviceEnrollment
  deviceSigningSeed : Bytes

def FreshDeviceIdentityState.row (state : FreshDeviceIdentityState) (ptid : PTID)
    (deviceID : DeviceID) (profileVersion : ℤ) : DeviceIdentity where
  ptid := ptid
  deviceID := deviceID
  deviceSigningSeed := state.deviceSigningSeed
  actorIdentityPublicKey := state.enrollment.certificate.actorIdentityPublicKey
  actorIdentityKeyFingerprint := state.enrollment.certificate.actorIdentityKeyFingerprint
  deviceSigningPublicKey := state.enrollment.certificate.deviceSigningPublicKey
  actorCrossSignature := state.enrollment.actorCrossSignature
  signingKeyID := state.enrollment.certificate.signingKeyID
  profileVersion := profileVersion

/-- The floors that wait for a device are given to it. -/
def adoptFloors (ptid : PTID) (deviceID : DeviceID) (floors : KeyedTable RetentionFloorRow RetentionFloorRow.key) :
    Except Error (KeyedTable RetentionFloorRow RetentionFloorRow.key) :=
  (floors.deleteWhere fun f => f.actorPTID = ptid ∧ f.deviceID = "").insertEach
    ((floors.rows.filter fun f => f.actorPTID = ptid ∧ f.deviceID = "").map fun f =>
      { f with actorPTID := ptid, deviceID })
    "UNIQUE constraint failed: chat_retention_floor.station_peer_id, chat_retention_floor.actor_ptid, chat_retention_floor.device_id, chat_retention_floor.conversation_id"

def Store.installFreshDeviceIdentity (state : FreshDeviceIdentityState) (s : Store) :
    Except Error Store := do
  let certificate := state.enrollment.certificate
  let device ← orFail certificate.device "fresh messaging device identity has no endpoint"
  let ptid ← actorDevicePTID device
  failWhen (blank device.deviceID ∨ blank certificate.signingKeyID ∨ certificate.actorIdentityPublicKey.length ≠ 32 ∨
    certificate.actorIdentityKeyFingerprint.length ≠ 32 ∨
    certificate.deviceSigningPublicKey.length ≠ 32 ∨ certificate.observedProfileVersion = 0)
    "fresh messaging device identity is incomplete"
  let profileVersion ← i64TryFrom certificate.observedProfileVersion "fresh messaging profile version is invalid"
  failWhen (s.body.storage.identity.isSome = true) "UNIQUE constraint failed: messaging_device_identity.id"
  let floors ← adoptFloors ptid device.deviceID s.body.storage.floors
  failWhen (s.body.storage.recoveryStatus.isSome = true) "UNIQUE constraint failed: messaging_recovery_state.id"
  return { s with
    body := { s.body with
      storage := { s.body.storage with
        identity := some (state.row ptid device.deviceID profileVersion)
        recoveryStatus := some .awaitingDeviceEnrollment, floors } } }

/-! ### Continuity of a device restored in place -/

def Store.deviceEnrollment (s : Store) : Except Error (Option FreshDeviceEnrollment) :=
  match s.body.storage.identity with
  | none => return none
  | some row => do
    failWhen (row.profileVersion < 0) "invalid pending enrollment profile version"
    failWhen (row.actorCrossSignature.length ≠ 64) "actor cross signature must be 64 bytes"
    return some
      { certificate :=
          { row with
            formatVersion := 1, device := some { actor := some row.ptid, deviceID := row.deviceID }
            observedProfileVersion := row.profileVersion.toNat }
        actorCrossSignature := row.actorCrossSignature }

def Store.deviceSigningSeed (s : Store) : Except Error (Option (Bytes × String)) :=
  match s.body.storage.identity with
  | none => return none
  | some row => do
    failWhen (row.deviceSigningSeed.length ≠ 32) "device signing seed is not 32 bytes"
    return some (row.deviceSigningSeed, row.signingKeyID)

def Store.bindDevice (s : Store) (expected : FreshDeviceIdentityState) (word : String) :
    Except Error Unit := do
  let enrollment ← s.deviceEnrollment
  let enrollment ← orFail enrollment ("messaging recovery " ++ word ++ " device is unavailable")
  let seed ← s.deviceSigningSeed
  let seed ← orFail seed ("messaging recovery " ++ word ++ " signing key is unavailable")
  failWhen (enrollment ≠ expected.enrollment ∨ seed.1 ≠ expected.deviceSigningSeed ∨
    seed.2 ≠ expected.enrollment.certificate.signingKeyID)
    ("messaging recovery " ++ word ++ " device binding mismatch")

def Background.checkPrekeys (b : Background) : Except Error Unit := match b.prekeyBundle with
  | some bundle =>
    failWhen (bundle.signedPrekeyID ≤ 0 ∨ bundle.signedPrekeyPrivate.length ≠ 32 ∨
      bundle.createdAtUnixMs ≤ 0 ∨ bundle.oneTimePrekeyHighWatermark ≤ 0 ∨
      (b.oneTimePrekeys.rows.length : ℤ) ≠ bundle.oneTimePrekeyHighWatermark ∨
      ∃ p ∈ (orderBy OneTimePrekey.prekeyID b.oneTimePrekeys.rows).zipIdx,
        p.1.prekeyID ≠ p.2 + 1 ∨ p.1.privateKey.length ≠ 32)
      "messaging recovery continuity Direct prekeys are invalid"
  | none => failWhen (b.oneTimePrekeys.rows ≠ []) "messaging recovery continuity Direct prekey bundle is missing"

def Background.checkMls (b : Background) (status : EnrollmentStatus) (ptid : PTID)
    (deviceID : DeviceID) : Except Error Unit := do
  failWhen (status ≠ .active ∧ (b.prekeyBundle.isSome = true ∨ b.mlsKeyPackages.rows ≠ []))
    "messaging recovery continuity key material requires active enrollment"
  failWhen (∃ identity ∈ b.mlsActorIdentity,
    identity.ptid ≠ ptid ∨ identity.deviceID ≠ deviceID ∨ identity.identityState = [])
    "messaging recovery continuity MLS identity is invalid"
  failWhen ((∃ pool ∈ b.mlsJoinProviderPool, pool.providerPoolState = [] ∨ pool.updatedAtUnixMs ≤ 0) ∨
    (∃ package ∈ b.mlsKeyPackages.rows, blank package.packageID ∨ package.data = [] ∨ package.createdAtUnixMs ≤ 0) ∨
    (b.mlsKeyPackages.rows ≠ [] ∧ (b.mlsActorIdentity = none ∨ b.mlsJoinProviderPool = none)))
    "messaging recovery continuity MLS bootstrap is invalid"
  failWhen (∃ c ∈ b.retiredCheckpoints.rows,
    blank c.conversationID ∨ blank c.transitionID ∨ blank c.eventID ∨ c.retirementSequence ≤ 0 ∨
      c.retirementHash.length ≠ 32 ∨ c.endpointPTID ≠ ptid ∨ c.endpointDeviceID ≠ deviceID ∨
      c.membershipEpoch < 0 ∨ c.mlsEpoch < 0 ∨ c.retiredAtUnixMs ≤ 0)
    "messaging recovery continuity MLS retirement checkpoint is invalid"

/-- The row of a table that has at most one, taken over if there is one. -/
def takeOver {α : Type} (new old : Option α) (e : Error) : Except Error (Option α) := do
  failWhen (new.isSome = true ∧ old.isSome = true) e
  return new.or old

/-- A head of the replaced database, which must not be behind the archive. -/
def raiseHead (heads : KeyedTable AuthorityHead AuthorityHead.conversationID) (head : AuthorityHead) :
    Except Error (KeyedTable AuthorityHead AuthorityHead.conversationID) := do
  failWhen (∃ existing ∈ heads.find head.conversationID, head.eventSequence < existing.eventSequence ∨
    head.eventSequence = existing.eventSequence ∧ head.eventHash ≠ existing.eventHash)
    "messaging recovery continuity authority head conflicts with archive"
  return heads.upsert head

def Store.installInPlaceRecoveryContinuityFrom (s source : Store)
    (expected : FreshDeviceIdentityState) : Except Error Store := do
  source.bindDevice expected "continuity"
  s.bindDevice expected "staging"
  let device ← orFail expected.enrollment.certificate.device "messaging recovery continuity endpoint is missing"
  let ptid ← actorDevicePTID device
  let status ← orFail source.body.storage.recoveryStatus "messaging recovery continuity enrollment state is unavailable"
  failWhen (status ≠ .awaitingDeviceEnrollment ∧ status ≠ .active)
    "messaging recovery continuity enrollment state is invalid"
  failWhen (∃ c ∈ source.lane.cursor, c.laneSequence < 0 ∨ c.consumerEpoch ≤ 0 ∨ c.updatedAtUnixMs ≤ 0)
    "messaging recovery continuity lane cursor is invalid"
  failWhen (∃ m ∈ source.lane.markers.rows, blank m.itemID ∨ blank m.eventID ∨
    blank m.conversationID ∨ m.payloadSHA256.length ≠ 32 ∨ m.consumedAtUnixMs ≤ 0)
    "messaging recovery continuity marker is invalid"
  failWhen (∃ head ∈ source.chain.heads.rows, blank head.conversationID ∨ head.eventSequence ≤ 0 ∨
    head.eventHash.length ≠ 32 ∨ head.updatedAtUnixMs ≤ 0)
    "messaging recovery continuity authority head is invalid"
  source.body.background.checkPrekeys
  source.body.background.checkMls status ptid device.deviceID
  failWhen (s.body.storage.recoveryStatus = none) "messaging recovery continuity enrollment state was not installed"
  let cursor ← takeOver source.lane.cursor s.lane.cursor "UNIQUE constraint failed: messaging_lane_cursor.id"
  let markers ← s.lane.markers.insertEach (orderBy (fun m => toLex (m.consumedAtUnixMs, m.itemID)) source.lane.markers.rows)
    "UNIQUE constraint failed: messaging_consumption_markers.item_id"
  let heads ← (orderBy AuthorityHead.conversationID source.chain.heads.rows).foldlM raiseHead
    s.chain.heads
  let prekeyBundle ← takeOver source.body.background.prekeyBundle s.body.background.prekeyBundle
    "UNIQUE constraint failed: messaging_prekey_bundle.id"
  let oneTimePrekeys ← s.body.background.oneTimePrekeys.insertEach
    (orderBy OneTimePrekey.prekeyID source.body.background.oneTimePrekeys.rows)
    "UNIQUE constraint failed: messaging_one_time_prekeys.prekey_id"
  let mlsActorIdentity ← takeOver source.body.background.mlsActorIdentity
    s.body.background.mlsActorIdentity "UNIQUE constraint failed: messaging_mls_actor_identity.id"
  let mlsJoinProviderPool ← takeOver source.body.background.mlsJoinProviderPool
    s.body.background.mlsJoinProviderPool
    "UNIQUE constraint failed: messaging_mls_join_provider_pool.id"
  let mlsKeyPackages ← s.body.background.mlsKeyPackages.insertEach
    (orderBy MlsKeyPackage.packageID source.body.background.mlsKeyPackages.rows)
    "UNIQUE constraint failed: messaging_mls_key_packages.package_id"
  let retiredCheckpoints ← s.body.background.retiredCheckpoints.insertEach
    (orderBy RetiredCheckpoint.conversationID source.body.background.retiredCheckpoints.rows)
    "UNIQUE constraint failed: messaging_mls_retired_checkpoints.conversation_id"
  return {
    lane := { s.lane with cursor, markers }
    chain := { s.chain with heads }
    body := { s.body with
      background := { s.body.background with
        prekeyBundle, oneTimePrekeys, mlsActorIdentity, mlsJoinProviderPool, mlsKeyPackages,
        retiredCheckpoints }
      storage := { s.body.storage with recoveryStatus := some status } } }

/-! ### What a restored store holds -/

def Store.withMessages (s : Store) (projections : KeyedTable ProjectionRow ProjectionRow.key)
    (events : KeyedTable AuthorityEvent AuthorityEvent.key) : Store :=
  { s with
    chain := { s.chain with events }, body := { s.body with messages := { s.body.messages with projections } } }

variable {s s' : Store}

lemma Store.restoreMessages_eq_ok {ms : List RecoveryMessageProjection}
    (hs : (s.body.messages.projections.rows.map messageKey).Nodup) (h : ms.foldlM restoreMessage s = .ok s') :
    ∃ projections events, s' = s.withMessages projections events ∧
    projections.rows = s.body.messages.projections.rows ++ ms.map row ∧ (projections.rows.map messageKey).Nodup ∧
    events.rows = s.chain.events.rows ++ ms.map event := by
  induction ms generalizing s with
  | nil =>
    obtain rfl := pure_eq_ok.1 h
    exact ⟨s.body.messages.projections, s.chain.events, rfl, by simp, hs, by simp⟩
  | cons m ms ih =>
    rw [foldlM_cons, bind_eq_ok] at h
    obtain ⟨s₁, hm, hms⟩ := h
    unfold restoreMessage at hm
    simp only [ok_iff, insertProjection_eq_ok, Chain.insertEvent_eq_ok] at hm
    obtain ⟨messages, ⟨hnew, hfresh, rfl⟩, events, ⟨hev, -, rfl⟩, rfl⟩ := hm
    have hrows := rows_insertOrIgnore hnew
    have hevs := rows_insertOrIgnore (find_eq_none.1 hev)
    have hnodup : ((s.body.messages.projections.insertOrIgnore m.row).rows.map messageKey).Nodup := by
      rw [hrows, map_append]
      refine hs.append (nodup_singleton _) (disjoint_singleton.2 ?_)
      intro hmem
      obtain ⟨r, hr, hkey⟩ := mem_map.1 hmem
      exact hfresh r hr hkey
    obtain ⟨projections, events, rfl, hp, hn, he⟩ := ih hnodup hms
    refine ⟨projections, events, rfl, ?_, hn, ?_⟩
    · rw [hp, hrows, append_assoc, singleton_append, map_cons]
    · rw [he, hevs, append_assoc, singleton_append, map_cons]

/-- Nothing is under way on the device. -/
structure Store.Idle (s : Store) : Prop where
  receipts : s.lane.receipts.rows = []
  pendingMessages : s.body.background.pendingMessages.rows = []
  attempts : s.body.background.attempts.rows = []
  drafts : s.body.messages.drafts.rows = []
  transfers : s.body.messages.transfers.rows = []
  journal : s.body.storage.journal.rows = []
  cached : ∀ a ∈ s.body.messages.attachments.rows, a.localCachePath = none

/-- The content of a store that was filled from an archive. -/
structure Restored (archive : MessagingRecoveryArchive) (s : Store) : Prop where
  valid : archive.Valid
  projections : s.body.messages.projections.rows = archive.messages.map RecoveryMessageProjection.row
  unique : (s.body.messages.projections.rows.map ProjectionRow.messageKey).Nodup
  events : s.chain.events.rows = archive.messages.map RecoveryMessageProjection.event
  floors : ∀ f ∈ s.body.storage.floors.rows, ∃ a ∈ archive.retentionFloors,
    a.conversationID = f.conversationID ∧ a.prunedThroughSequence = f.prunedThroughSequence ∧
      a.authorityEventHash = f.authorityEventHash
  idle : s.Idle

section

variable [Content]

lemma Messages.foldl_indexRestored (ms : List RecoveryMessageProjection) (m : Messages) :
    ∃ search, ms.foldl indexRestored m = { m with search } := by
  induction ms generalizing m with
  | nil => exact ⟨m.search, rfl⟩
  | cons message ms ih =>
    obtain ⟨search, h⟩ := ih (m.indexRestored message)
    exact ⟨search, h⟩

omit [Content] in
lemma Background.restoreConversations_frame {cs : List RecoveryConversationProjection}
    {b b' : Background} (h : cs.foldlM restoreConversation b = .ok b') :
    b'.pendingMessages = b.pendingMessages ∧ b'.attempts = b.attempts := by
  refine foldlM_invariant (P := fun x : Background =>
    x.pendingMessages = b.pendingMessages ∧ x.attempts = b.attempts) ?_ ⟨rfl, rfl⟩ h
  intro x c x' _ hx hc
  unfold restoreConversation at hc
  simp only [ok_iff] at hc
  obtain ⟨_, -, _, -, rfl⟩ := hc
  exact hx

omit [Content] in
lemma restoreFloors_mem {ptid : PTID} {fs : List RecoveryRetentionFloor}
    {floors : KeyedTable RetentionFloorRow RetentionFloorRow.key}
    (h : fs.foldlM (restoreFloor ptid) .empty = .ok floors) :
    ∀ f ∈ floors.rows, ∃ a ∈ fs, ∃ reason, f = a.row ptid reason := by
  refine foldlM_invariant (P := fun t : KeyedTable RetentionFloorRow RetentionFloorRow.key =>
    ∀ f ∈ t.rows, ∃ a ∈ fs, ∃ reason, f = a.row ptid reason) ?_ (by simp) h
  intro t a t' ha ht hins f hf
  unfold restoreFloor at hins
  simp only [ok_iff, insert_eq_ok] at hins
  obtain ⟨reason, -, -, rfl⟩ := hins
  rcases mem_of_mem_insertOrIgnore hf with hf | ⟨rfl, -⟩
  · exact ht f hf
  · exact ⟨a, ha, reason, rfl⟩

lemma restoreAttachments_uncached {as : List RecoveryAttachmentMetadata}
    {attachments : KeyedTable AttachmentRow AttachmentRow.key}
    (h : as.foldlM restoreAttachment .empty = .ok attachments) : ∀ a ∈ attachments.rows, a.localCachePath = none := by
  refine foldlM_invariant (P := fun t : KeyedTable AttachmentRow AttachmentRow.key =>
    ∀ a ∈ t.rows, a.localCachePath = none) ?_ (by simp) h
  intro t a t' _ ht hins r hr
  unfold restoreAttachment at hins
  simp only [bind_eq_ok, insert_eq_ok] at hins
  obtain ⟨metadata, -, -, -, -, -, -, -, -, rfl⟩ := hins
  rcases mem_of_mem_insertOrIgnore hr with hr | ⟨rfl, -⟩
  · exact ht r hr
  · rfl

lemma Store.restored_of_populateRecoveryStaging {arch : MessagingRecoveryArchive}
    (h : s.populateRecoveryStaging arch = .ok s') : Restored arch s' ∧ s'.lane = .empty ∧
    s'.chain.heads.rows = arch.authorityHeads.map RecoveryAuthorityHead.row := by
  unfold populateRecoveryStaging at h
  simp only [ok_iff, insertEach_eq_ok] at h
  obtain ⟨hval, background, hbackground, s₁, hmsgs, tombstones, -, floors, hfloors, heads, hhds,
    attachments, hatts, trust, -, rfl⟩ := h
  obtain ⟨projections, events, rfl, hp, hn, he⟩ := restoreMessages_eq_ok (s := s.forRecovery) nodup_nil hmsgs
  obtain ⟨search, hsearch⟩ := foldl_indexRestored arch.messages
    { (s.forRecovery.withMessages projections events).body.messages with tombstones, attachments }
  obtain ⟨hpending, htries⟩ := restoreConversations_frame hbackground
  rw [hsearch]
  refine ⟨?_, rfl, hhds⟩
  exact
    { valid := valid_of_validateArchive hval, projections := hp, unique := hn, events := he, floors := by
        intro f hf
        obtain ⟨a, ha, reason, rfl⟩ := restoreFloors_mem hfloors f hf
        exact ⟨a, ha, rfl, rfl, rfl⟩
      idle :=
        { receipts := rfl, pendingMessages := congrArg rows hpending
          attempts := congrArg rows htries, drafts := rfl, transfers := rfl, journal := rfl
          cached := restoreAttachments_uncached hatts } }

end

lemma adoptFloors_mem {ptid : PTID} {deviceID : DeviceID}
    {floors floors' : KeyedTable RetentionFloorRow RetentionFloorRow.key}
    (h : adoptFloors ptid deviceID floors = .ok floors') :
    ∀ f ∈ floors'.rows, ∃ f₀ ∈ floors.rows, f₀.conversationID = f.conversationID ∧
    f₀.prunedThroughSequence = f.prunedThroughSequence ∧ f₀.authorityEventHash = f.authorityEventHash := by
  intro f hf
  rw [adoptFloors, insertEach_eq_ok] at h
  rw [h] at hf
  rcases mem_append.1 hf with hf | hf
  · exact ⟨f, (mem_deleteWhere.1 hf).1, rfl, rfl, rfl⟩
  · obtain ⟨f₀, hf₀, rfl⟩ := mem_map.1 hf
    exact ⟨f₀, (mem_filter.1 hf₀).1, rfl, rfl, rfl⟩

variable {state : FreshDeviceIdentityState}

lemma Restored.installFreshDeviceIdentity {arch : MessagingRecoveryArchive} (hs : Restored arch s)
    (h : s.installFreshDeviceIdentity state = .ok s') : Restored arch s' ∧ s'.lane = s.lane ∧ s'.chain = s.chain := by
  unfold Store.installFreshDeviceIdentity at h
  simp only [ok_iff] at h
  obtain ⟨device, -, ptid, -, -, version, -, -, floors, hfloors, -, rfl⟩ := h
  refine ⟨?_, rfl, rfl⟩
  exact { hs with
    floors := by
      intro f hf
      obtain ⟨f₀, hf₀, hconv, hprun, hhash⟩ := adoptFloors_mem hfloors f hf
      obtain ⟨a, ha, hconv', hprun', hhash'⟩ := hs.floors f₀ hf₀
      exact ⟨a, ha, hconv'.trans hconv, hprun'.trans hprun, hhash'.trans hhash⟩
    idle := ⟨hs.idle.receipts, hs.idle.pendingMessages, hs.idle.attempts, hs.idle.drafts,
      hs.idle.transfers, hs.idle.journal, hs.idle.cached⟩ }

/-- The heads taken over win, and none of them is behind the one it replaces. -/
lemma raiseHeads_eq_ok {rows : List AuthorityHead}
    {heads heads' : KeyedTable AuthorityHead AuthorityHead.conversationID}
    (hrows : (rows.map AuthorityHead.conversationID).Nodup)
    (h : rows.foldlM raiseHead heads = .ok heads') (c : ConversationID) :
    heads'.find c = (rows.find? fun head => head.conversationID = c).or (heads.find c) ∧
    ∀ head, heads'.find c = some head → ∀ old, heads.find c = some old → old.eventSequence ≤ head.eventSequence := by
  induction rows generalizing heads with
  | nil =>
    obtain rfl := pure_eq_ok.1 h
    refine ⟨by simp, ?_⟩
    intro head hhead old hold
    rw [some.inj (hhead.symm.trans hold)]
  | cons r rows ih =>
    rw [map_cons, nodup_cons] at hrows
    obtain ⟨hnew, hrows⟩ := hrows
    rw [foldlM_cons, bind_eq_ok] at h
    obtain ⟨heads₁, hr, h⟩ := h
    unfold raiseHead at hr
    simp only [ok_iff, not_exists, not_and, not_or, not_lt] at hr
    obtain ⟨hbehind, rfl⟩ := hr
    obtain ⟨hfd, hmono⟩ := ih hrows h
    rw [find_upsert] at hfd hmono
    by_cases hc : r.conversationID = c
    · -- no later row has the conversation
      have hnone : (rows.find? fun head => head.conversationID = c) = none := by
        rw [find?_eq_none]
        intro head hhead heq
        have heq : head.conversationID = c := by simpa using heq
        exact hnew (mem_map.2 ⟨head, hhead, heq.trans hc.symm⟩)
      rw [if_pos hc, hnone] at hfd
      refine ⟨by simpa [hc] using hfd, ?_⟩
      intro head hhead old hold
      obtain rfl : r = head := some.inj (hfd.symm.trans hhead)
      exact (hbehind old (hc ▸ hold)).1
    · rw [if_neg hc] at hfd hmono
      exact ⟨by simpa [hc] using hfd, hmono⟩

/-- The head of a conversation after the heads of `source`, if there is one, were taken over. -/
def MessagingRecoveryArchive.headAfter (archive : MessagingRecoveryArchive) (source : Option Store)
    (c : ConversationID) : Option AuthorityHead :=
  (source.bind fun s => s.chain.heads.find c).or ((archive.headOf c).map RecoveryAuthorityHead.row)

/-- The item of the event was consumed in the store that is taken over. -/
def ConsumedIn (source : Option Store) (c : ConversationID) (eventID : EventID) : Prop :=
  ∃ s ∈ source, ∃ m ∈ s.lane.markers.rows, m.conversationID = c ∧ m.eventID = eventID

/-- The content of a store restored for a device, in place of `source` if that is given. -/
structure Recovered (archive : MessagingRecoveryArchive) (source : Option Store) (s : Store) : Prop
    extends Restored archive s where
  head : ∀ c, s.chain.heads.find c = archive.headAfter source c
  head_ge : ∀ c head old, s.chain.heads.find c = some head → archive.headOf c = some old →
    old.eventSequence ≤ head.eventSequence
  consumed : ∀ c eventID, (∃ m ∈ s.lane.markers.rows, m.conversationID = c ∧ m.eventID = eventID) ↔
    ConsumedIn source c eventID

section

variable [Content]

/-- The part of `restore_profile_database_atomically` that writes the staging database, for a
reconciliation without redactions. -/
def Store.restoreProfile (archive : MessagingRecoveryArchive) (state : FreshDeviceIdentityState)
    (source : Option Store) (staging : Store) : Except Error Store := do
  let s ← staging.populateRecoveryStaging archive
  let s ← s.installFreshDeviceIdentity state
  match source with
  | none => return s
  | some source => s.installInPlaceRecoveryContinuityFrom source state

lemma Store.recovered_of_restoreProfile {arch : MessagingRecoveryArchive} {source : Option Store} {staging : Store}
    (h : staging.restoreProfile arch state source = .ok s) : Recovered arch source s := by
  unfold restoreProfile at h
  simp only [bind_eq_ok] at h
  obtain ⟨s₁, hpopulate, s₂, hident, h⟩ := h
  obtain ⟨hs₁, hlane₁, hheads₁⟩ := restored_of_populateRecoveryStaging hpopulate
  obtain ⟨hs₂, hlane₂, hchain₂⟩ := hs₁.installFreshDeviceIdentity hident
  have hhead : ∀ c, s₂.chain.heads.find c = (arch.headOf c).map RecoveryAuthorityHead.row := by
    intro c
    rw [hchain₂, find, hheads₁, find?_map]
    rfl
  cases source with
  | none =>
    obtain rfl := pure_eq_ok.1 h
    exact { hs₂ with
      head := by simpa [headAfter] using hhead
      head_ge := by
        intro c head old hfd hold
        rw [hhead, hold] at hfd
        rw [← some.inj hfd]
        rfl
      consumed := by
        rw [hlane₂, hlane₁]
        simp [ConsumedIn, Lane.empty] }
  | some source =>
    simp only [installInPlaceRecoveryContinuityFrom, ok_iff, insertEach_eq_ok] at h
    obtain ⟨-, -, device, -, ptid, -, status, -, -, -, -, -, -, -, -, cursor, -, markers, hmarkers,
      heads, hhds, bundle, -, prekeys, -, ident, -, pool, -, packages, -, checkpoints, -,
      rfl⟩ := h
    have hnodup : ((orderBy AuthorityHead.conversationID source.chain.heads.rows).map AuthorityHead.conversationID).Nodup :=
      ((perm_orderBy _ _).map _).nodup_iff.2 source.chain.heads.keys_nodup
    have hraise := raiseHeads_eq_ok hnodup hhds
    exact { hs₂ with
      idle := ⟨hs₂.idle.receipts, hs₂.idle.pendingMessages, hs₂.idle.attempts, hs₂.idle.drafts,
        hs₂.idle.transfers, hs₂.idle.journal, hs₂.idle.cached⟩
      head := by
        intro c
        rw [(hraise c).1, find?_orderBy, hhead]
        rfl
      head_ge := by
        intro c head old hfd hold
        exact (hraise c).2 head hfd old.row (by rw [hhead, hold]; rfl)
      consumed := by
        rw [hlane₂, hlane₁] at hmarkers
        simp [ConsumedIn, hmarkers, Lane.empty] }

end

end PeersTouch.Client
