import PeersTouch.Mobile.Readable

/-!
# The kind of a stored checkpoint

A checkpoint row keeps the bytes of a lookup and not the kind of its command; a reader tries a friend
request first. A lookup about a social relationship that has a terminal result cannot be read as one about
a friend request: the kind of its result stands where a friend request has bytes
(`not_friendRequest_of_result`). One without a terminal result can, and is (`friendRequest_of_no_result`).
So `list_projection_checkpoints` returns what was persisted exactly in the other cases.
-/

namespace PeersTouch.Mobile

open Lib Lib.Protobuf Chat Field KeyedTable Ledger Database LookupResponse ProjectionCheckpoint

/-! ### The two kinds on the same bytes -/

variable {R : Type}

section

variable [ResultMessages]
  {tag : ℕ}

lemma keeps_kind {field : Protobuf.Field SocialRelationshipCommandResult}
    (hfld : Message.fields tag = some field) (htag : tag ≠ 3) : field.Keeps fun m => m.kind = 0 := by
  simp only [Message.fields] at hfld
  split at hfld
  case h_3 => exact absurd rfl htag
  all_goals cases hfld
  all_goals
    first
    | exact keeps_varint fun _ _ h => h
    | exact keeps_bytes fun _ _ h => h
    | exact keeps_string fun _ _ h => h
    | exact keeps_message fun _ _ h => h

variable {bytes : Bytes}

def LookupResponse.WithoutKind (lookup : LookupSocialRelationshipCommandResultResponse) : Prop :=
  ∀ result, lookup.terminalResult = some result → result.kind = 0

lemma keeps_withoutKind {field : Protobuf.Field LookupSocialRelationshipCommandResultResponse}
    (hfld : Message.fields tag = some field) (htag : tag ≠ 4) : field.Keeps LookupResponse.WithoutKind := by
  simp only [Message.fields] at hfld
  split at hfld
  case h_4 => exact absurd rfl htag
  all_goals cases hfld
  all_goals
    first
    | exact keeps_varint fun _ _ h => h
    | exact keeps_bytes fun _ _ h => h
    | exact keeps_string fun _ _ h => h

variable {key : Key} {value : Value}

omit [ResultMessages] in
lemma merges_terminalResult [Message R] {m m' : LookupResponse R}
    (h : Merges Message.fields key value m m') (htag : key.tag = 4) : ∃ bytes result, value = .delimited bytes ∧
      Message.merge bytes (m.terminalResult.getD Message.empty) = .ok result ∧
      m' = { m with terminalResult := some result } := by
  unfold Merges at h
  rw [htag] at h
  rcases h with ⟨hnone, -⟩ | ⟨field, hfld, -, hmrg⟩
  · cases hnone
  · cases hfld
    cases value with
    | delimited bytes =>
      simp only [message, merge, ok_iff] at hmrg
      obtain ⟨result, hres, rfl⟩ := hmrg
      exact ⟨bytes, result, rfl, hres, rfl⟩
    | varint n => cases hmrg
    | skipped => cases hmrg

lemma withoutKind_of_both {m : LookupSocialRelationshipCommandResultResponse}
    {n : LookupFriendRequestCommandResultResponse} (h : Message.decode _ bytes = .ok m)
    (h' : Message.decode _ bytes = .ok n) : m.WithoutKind := by
  refine mergeLoop_pair (P := fun m _ => LookupResponse.WithoutKind m) h h' ?_ nofun
  intro key value m n m₁ n₁ hm hn hkind
  by_cases htag : key.tag = 4
  · obtain ⟨bytes, res, rfl, hres, rfl⟩ := merges_terminalResult hm htag
    obtain ⟨bytes', res', hb, hres', -⟩ := merges_terminalResult hn htag
    cases hb
    have hstart : (m.terminalResult.getD Message.empty).kind = 0 := by
      cases hterm : m.terminalResult with
      | none => rfl
      | some res => exact hkind res hterm
    rintro _ ⟨⟩
    refine mergeLoop_invariant (P := fun m : SocialRelationshipCommandResult => m.kind = 0) hres ?_ hstart
    intro key hkey field hfld
    exact keeps_kind hfld (tag_ne_of_wire_ne hres hres' hkey rfl rfl nofun)
  · rcases hm with ⟨-, rfl⟩ | ⟨field, hfld, -, hmrg⟩
    · exact hkind
    · exact keeps_withoutKind hfld htag value m m₁ hmrg hkind

def LookupResponse.asFriendRequest (lookup : LookupSocialRelationshipCommandResultResponse) :
    LookupFriendRequestCommandResultResponse :=
  { lookup with terminalResult := none }

/-- The two kinds take a record that is not a terminal result in the same way. -/
lemma merges_asFriendRequest {m m₁ : LookupSocialRelationshipCommandResultResponse}
    (h : Merges Message.fields key value m m₁) (hm₁ : m₁.terminalResult = none) : m.terminalResult = none ∧
    Merges Message.fields key value m.asFriendRequest m₁.asFriendRequest := by
  by_cases htag : key.tag = 4
  · obtain ⟨_, res, -, -, rfl⟩ := merges_terminalResult h htag
    cases hm₁
  · rcases h with ⟨hnone, rfl⟩ | ⟨field, hfld, hwire, hmrg⟩
    · refine ⟨hm₁, .inl ⟨?_, rfl⟩⟩
      simp only [Message.fields] at hnone ⊢
      split at hnone <;> first | rfl | cases hnone
    · unfold Merges
      simp only [Message.fields] at hfld ⊢
      split at hfld <;> cases hfld
      -- the state
      · cases value with
        | varint n =>
          cases hmrg
          exact ⟨hm₁, .inr ⟨_, rfl, hwire, rfl⟩⟩
        | delimited bytes => cases hmrg
        | skipped => cases hmrg
      -- the command identifier
      · cases value with
        | delimited bytes =>
          simp only [string, merge, ok_iff] at hmrg
          obtain ⟨text, htext, rfl⟩ := hmrg
          refine ⟨hm₁, .inr ⟨_, rfl, hwire, ?_⟩⟩
          simp only [string, merge, ok_iff]
          exact ⟨text, htext, rfl⟩
        | varint n => cases hmrg
        | skipped => cases hmrg
      -- the hash of the payload
      · cases value with
        | delimited bytes =>
          cases hmrg
          exact ⟨hm₁, .inr ⟨_, rfl, hwire, rfl⟩⟩
        | varint n => cases hmrg
        | skipped => cases hmrg
      · next heq => exact absurd heq htag

omit [ResultMessages] in
lemma decodeStoredAs_eq_some [Message R] {commandID : String} {payloadSHA256 : Bytes}
    {lookup : LookupResponse R} :
    decodeStoredAs R commandID payloadSHA256 bytes = some lookup ↔
    Message.decode _ bytes = .ok lookup ∧ Message.encode lookup = bytes ∧
    lookup.commandID = commandID ∧ lookup.commandPayloadSHA256 = payloadSHA256 := by
  unfold decodeStoredAs
  split
  · next h => simp [h]
  · next m h =>
    rw [h, Option.ite_none_right_eq_some, Except.ok.injEq]
    constructor
    · rintro ⟨hstored, heq⟩
      cases heq
      exact ⟨rfl, hstored⟩
    · rintro ⟨rfl, hstored⟩
      exact ⟨hstored, rfl⟩

section

variable {commandID : String} {payloadSHA256 bytes : Bytes}
  {lookup : LookupSocialRelationshipCommandResultResponse}

lemma not_friendRequest_of_result (h : Message.decode _ bytes = .ok lookup) {res : SocialRelationshipCommandResult}
    (hres : lookup.terminalResult = some res) (hkind : res.kind ≠ 0) :
    decodeStoredAs FriendRequestCommandResult commandID payloadSHA256 bytes = none := by
  rw [Option.eq_none_iff_forall_not_mem]
  intro friend hfriend
  have hdec := (decodeStoredAs_eq_some.1 hfriend).1
  exact hkind (withoutKind_of_both h hdec res hres)

lemma friendRequest_of_no_result
    (h : decodeStoredAs SocialRelationshipCommandResult commandID payloadSHA256 bytes = some lookup)
    (hres : lookup.terminalResult = none) : decodeStoredAs FriendRequestCommandResult commandID payloadSHA256 bytes =
    some lookup.asFriendRequest := by
  obtain ⟨hdec, henc, hid, hhash⟩ := decodeStoredAs_eq_some.1 h
  have hfriend := (mergeLoop_transfer (g := asFriendRequest) hdec
    (fun _ _ _ _ hm hm₁ => merges_asFriendRequest hm hm₁) hres).2
  refine decodeStoredAs_eq_some.2 ⟨hfriend, ?_, hid, hhash⟩
  rw [← henc]
  show writeInt 1 _ ++ writeString 2 _ ++ writeBytes 3 _ ++ writeMessage 4 none =
    writeInt 1 _ ++ writeString 2 _ ++ writeBytes 3 _ ++ writeMessage 4 lookup.terminalResult
  rw [hres]
  rfl

end

end

/-! ### Persisted checkpoints -/

section

variable [ResultMessages] {scope : CommandScope}

lemma decryptCheckpoint_sealCheckpoint (scope : CommandScope) (checkpoint : ProjectionCheckpoint)
    {lookups : LookupFriendRequestCommandResultResponse × Option LookupSocialRelationshipCommandResultResponse}
    (h : decodeStoredCheckpointLookup checkpoint.commandID checkpoint.payloadSHA256
      checkpoint.exactLookupBytes = .ok lookups) :
    decryptCheckpoint scope (sealCheckpoint scope checkpoint) = .ok { checkpoint with
      authoritativeLookup := lookups.1, socialRelationshipLookup := lookups.2 } := by
  unfold decryptCheckpoint openSealed
  simp only [ok_iff, not_not]
  exact ⟨_, ⟨rfl, rfl⟩, lookups, h, rfl⟩

inductive Persists (command : ValidatedCommand) (bytes : Bytes) :
    LookupFriendRequestCommandResultResponse →
      Option LookupSocialRelationshipCommandResultResponse → Prop
  | friendRequest {payload : FriendRequestCommand}
      {lookup : LookupFriendRequestCommandResultResponse}
      (hpayload : command.envelope.payload = some (.friendRequest payload))
      (hstored : decodeStoredAs _ command.commandID command.envelope.payloadSHA256 bytes =
        some lookup) : Persists command bytes lookup none
  | socialRelationship {payload : SocialRelationshipCommand}
      {lookup : LookupSocialRelationshipCommandResultResponse}
      (hpayload : command.envelope.payload = some (.socialRelationship payload))
      (hstored : decodeStoredAs _ command.commandID command.envelope.payloadSHA256 bytes =
        some lookup)
      (hkind : ∀ result, lookup.terminalResult = some result → result.kind ≠ 0) :
      Persists command bytes Message.empty (some lookup)

variable {command : ValidatedCommand} {bytes : Bytes}
  {friendRequest : LookupFriendRequestCommandResultResponse}
  {socialRelationship : Option LookupSocialRelationshipCommandResultResponse}

/-- What decides whether the stored lookup is read as the kind it has. -/
def ReadsBack (command : ValidatedCommand) (bytes : Bytes) : Prop :=
  (∃ payload, command.envelope.payload = some (.friendRequest payload)) ∨
    ∃ lookup : LookupSocialRelationshipCommandResultResponse,
      Message.decode _ bytes = .ok lookup ∧ lookup.terminalResult ≠ none

lemma Persists.decodeStored (h : Persists command bytes friendRequest socialRelationship) :
    ∃ lookups, decodeStoredCheckpointLookup command.commandID command.envelope.payloadSHA256 bytes =
    .ok lookups ∧ (lookups = (friendRequest, socialRelationship) ↔ ReadsBack command bytes) := by
  unfold decodeStoredCheckpointLookup
  cases h with
  | @friendRequest payload lookup hpayload hstored =>
    rw [hstored]
    exact ⟨_, rfl, iff_of_true rfl (.inl ⟨payload, hpayload⟩)⟩
  | @socialRelationship payload lookup hpayload hstored hkind =>
    have hdec := (decodeStoredAs_eq_some.1 hstored).1
    cases hres : lookup.terminalResult with
    | some res =>
      rw [not_friendRequest_of_result hdec hres (hkind res hres), hstored]
      refine ⟨_, rfl, iff_of_true rfl (.inr ⟨lookup, hdec, ?_⟩)⟩
      rw [hres]
      nofun
    | none =>
      rw [friendRequest_of_no_result hstored hres]
      refine ⟨_, rfl, iff_of_false (by simp) ?_⟩
      rintro (⟨payload', hpayload'⟩ | ⟨lookup', hdec', hres'⟩)
      · cases hpayload.symm.trans hpayload'
      · cases hdec.symm.trans hdec'
        exact hres' hres

variable {commandID : String}

omit [ResultMessages] in
lemma decodeCanonical_eq_ok [Message R] {op detail : String} {lookup : LookupResponse R} :
    decodeCanonical R op commandID detail bytes = .ok lookup ↔ Message.decode _ bytes = .ok lookup ∧
    Message.encode lookup = bytes := by
  unfold decodeCanonical
  simp only [ok_iff, not_not]
  constructor
  · rintro ⟨_, hdec, henc, rfl⟩
    exact ⟨hdec, henc⟩
  · rintro ⟨hdec, henc⟩
    exact ⟨lookup, hdec, henc, rfl⟩

omit [ResultMessages] in
lemma decodeLookupAs_eq_ok [Message R] [CommandResult R] {op : String}
    {lookup : AuthoritativeLookup} (h : decodeLookupAs R op commandID bytes = .ok lookup) :
    ∃ response : LookupResponse R, Message.decode _ bytes = .ok response ∧
    Message.encode response = bytes ∧ lookup.commandID = response.commandID ∧
    lookup.commandPayloadSHA256 = response.commandPayloadSHA256 ∧
    ∀ res, response.terminalResult = some res → CommandResult.kind res ≠ 0 := by
  unfold decodeLookupAs at h
  simp only [ok_iff, decodeCanonical_eq_ok] at h
  obtain ⟨response, ⟨hdec, henc⟩, state, -, kind, hkind, rfl⟩ := h
  refine ⟨response, hdec, henc, rfl, rfl, fun res hres hzero => ?_⟩
  simp only [resultKind, hres, ok_iff, map_eq_ok, hzero] at hkind
  obtain ⟨-, _, hkind, -⟩ := hkind
  cases hkind

variable [LedgerFormat] [Digest]

lemma persists_of_checkpoint {nowMs : ℤ} {db db' : Database} {checkpoint : ProjectionCheckpoint}
    (h : db.checkpoint scope commandID bytes nowMs = .ok (checkpoint, db')) :
    ∃ raw command, db.commands.find commandID = some raw ∧ decryptCommand scope raw = .ok command ∧
    Persists command bytes checkpoint.authoritativeLookup checkpoint.socialRelationshipLookup ∧
    checkpoint.commandID = command.commandID ∧ checkpoint.payloadSHA256 = command.envelope.payloadSHA256 ∧
    checkpoint.exactLookupBytes = bytes ∧ db.checkpoints.hasKey checkpoint.commandID = false ∧
    db'.checkpoints = db.checkpoints.insertOrIgnore (sealCheckpoint scope checkpoint) := by
  unfold Database.checkpoint validateCheckpointLookup at h
  simp only [ok_iff, not_not, not_or, insert_eq_ok, Prod.exists] at h
  obtain ⟨raw, hraw, command, hcmd, -, lookup, hlook, ⟨⟨hid, hhash⟩, -⟩, friendRequest,
    socialRelationship, htyped, checkpoints, ⟨hnew, rfl⟩, -, rfl, rfl⟩ := h
  have hcommandID : commandID = command.commandID := (key_of_find hraw).symm.trans
      (decryptCommand_eq_ok.1 hcmd).1.columns.commandID
  refine ⟨raw, command, hraw, hcmd, ?_, hcommandID, rfl, rfl, hnew, rfl⟩
  unfold decodeLookup at hlook
  unfold decodeTypedCheckpointLookup at htyped
  split at hlook
  · next payload hpayload =>
    obtain ⟨response, hdec, henc, hid', hhash', -⟩ := decodeLookupAs_eq_ok hlook
    simp only [hpayload, ok_iff, decodeCanonical_eq_ok] at htyped
    obtain ⟨response', ⟨hdec', -⟩, rfl, rfl⟩ := htyped
    obtain rfl := Except.ok.inj (hdec.symm.trans hdec')
    exact .friendRequest hpayload (decodeStoredAs_eq_some.2
      ⟨hdec, henc, hid'.symm.trans hid, hhash'.symm.trans hhash⟩)
  · next payload hpayload =>
    obtain ⟨response, hdec, henc, hid', hhash', hkind⟩ := decodeLookupAs_eq_ok hlook
    simp only [hpayload, ok_iff, decodeCanonical_eq_ok] at htyped
    obtain ⟨response', ⟨hdec', -⟩, rfl, rfl⟩ := htyped
    obtain rfl := Except.ok.inj (hdec.symm.trans hdec')
    exact .socialRelationship hpayload (decodeStoredAs_eq_some.2
      ⟨hdec, henc, hid'.symm.trans hid, hhash'.symm.trans hhash⟩) hkind
  · cases hlook

/-! ### What the operations do to the checkpoints -/

def Ledger.Checkpoints (scope : CommandScope) (operation : Operation) (s s' : Ledger) : Prop :=
  s'.database.checkpoints = s.database.checkpoints ∨
  (∃ commandID payloadSHA256, operation = .acknowledgeProjectionCheckpoint commandID payloadSHA256 ∧
    s'.database.checkpoints = s.database.checkpoints.deleteWhere fun raw =>
      raw.commandID = commandID ∧ raw.payloadSHA256 = payloadSHA256) ∨
  ∃ (checkpoint : ProjectionCheckpoint) (command : ValidatedCommand),
    Persists command checkpoint.exactLookupBytes checkpoint.authoritativeLookup
      checkpoint.socialRelationshipLookup ∧
    checkpoint.commandID = command.commandID ∧
    checkpoint.payloadSHA256 = command.envelope.payloadSHA256 ∧
    s.database.checkpoints.hasKey checkpoint.commandID = false ∧
    s'.database.checkpoints = s.database.checkpoints.insertOrIgnore (sealCheckpoint scope checkpoint)

omit [LedgerFormat] [Digest] in
lemma checkpoints_of_transact {s : Ledger} {op : Operation} {x : LedgerResult (Reply × Ledger)} (h : ∀ reply s',
    x = .ok (reply, s') → Ledger.Checkpoints scope op s s') : Ledger.Checkpoints scope op s
    (s.transact x).ledger := by
  unfold transact
  split
  · next reply s' => exact h reply s' rfl
  · exact .inl rfl

lemma checkpoints_of_execute (scope : CommandScope) (s : Ledger) (limit : Option ℕ) (op : Operation) :
    Ledger.Checkpoints scope op s (s.execute scope limit op).ledger := by
  cases op with
  | activate generation now =>
    refine checkpoints_of_transact fun reply s' h => .inl ?_
    simp only [activate, bind_eq_ok] at h
    obtain ⟨-, -, t, -, rfl, rfl⟩ := h
    rfl
  | deactivate => exact .inl rfl
  | rebindRuntimeGeneration generation =>
    refine checkpoints_of_transact fun reply s' h => .inl ?_
    simp only [rebindRuntimeGeneration, bind_eq_ok] at h
    obtain ⟨inner, -, -, -, rfl, rfl⟩ := h
    rfl
  | admitGeneratedEnvelope bytes =>
    refine checkpoints_of_transact fun reply s' h => .inl ?_
    simp only [admitGeneratedEnvelope, bind_eq_ok] at h
    obtain ⟨inner, -, command, -, outcome, t, -, rfl, rfl⟩ := h
    rfl
  | nextForDispatchKind generation now kind =>
    show Ledger.Checkpoints scope _ s (s.nextForDispatchKind scope limit generation now kind).ledger
    unfold nextForDispatchKind
    split
    · exact .inl rfl
    · exact .inl rfl
  | compareAndSwapDispatchFence id state generation now =>
    refine checkpoints_of_transact fun reply s' h => .inl ?_
    simp only [compareAndSwapDispatchFence, bind_eq_ok] at h
    obtain ⟨inner, -, -, -, outcome, t, -, rfl, rfl⟩ := h
    rfl
  | callback callback generation now =>
    show Ledger.Checkpoints scope _ s (s.call scope limit callback generation now).ledger
    unfold call
    split
    · exact .inl rfl
    · exact .inl rfl
  | purgeCancelled id =>
    refine checkpoints_of_transact fun reply s' h => .inl ?_
    simp only [purgeCancelled, bind_eq_ok] at h
    obtain ⟨-, -, t, -, rfl, rfl⟩ := h
    rfl
  | persistProjectionCheckpointAndRemove id bytes generation now =>
    refine checkpoints_of_transact fun reply s' h => ?_
    simp only [persistProjectionCheckpointAndRemove, bind_eq_ok, Prod.exists] at h
    obtain ⟨inner, -, -, -, checkpoint, db, hpers, rfl, rfl⟩ := h
    unfold persistCheckpointAndRemove at hpers
    split at hpers
    · simp only [bind_eq_ok, exists_unit] at hpers
      obtain ⟨_, -, -, -, rfl⟩ := hpers
      exact .inl rfl
    · obtain ⟨raw, command, -, -, hpersists, hid, hhash, rfl, hnew, hins⟩ := persists_of_checkpoint hpers
      exact .inr (.inr ⟨checkpoint, command, hpersists, hid, hhash, hnew, hins⟩)
  | acknowledgeProjectionCheckpoint id hash =>
    refine checkpoints_of_transact fun reply s' h => .inr (.inl ⟨id, hash, rfl, ?_⟩)
    simp only [acknowledgeProjectionCheckpoint, acknowledgeCheckpoint, bind_eq_ok, exists_unit, pure_eq_ok] at h
    obtain ⟨-, _, ⟨-, rfl⟩, rfl, rfl⟩ := h
    rfl

lemma checkpoints_of_step {s s' : Ledger} {action : Action} {events : List Event}
    (h : s.step scope action = (events, s')) : Ledger.Checkpoints scope action.operation s s' := by
  cases action with
  | run op =>
    cases h
    exact checkpoints_of_execute scope s none op
  | crash op transactions =>
    cases h
    exact checkpoints_of_execute scope s (some transactions) op

end

/-! ### Runs -/

section

variable [LedgerFormat] [Digest] [ResultMessages] {scope : CommandScope}
  {s s' : Ledger} {events : List Event}

def Ledger.StepWithout (scope : CommandScope) (commandID : String) (payloadSHA256 : Bytes)
    (s : Ledger) (events : List Event) (s' : Ledger) : Prop :=
  ∃ action : Action, action.operation ≠ .acknowledgeProjectionCheckpoint commandID payloadSHA256 ∧
      s.step scope action = (events, s')

def Ledger.Steps (scope : CommandScope) (s : Ledger) (events : List Event) (s' : Ledger) : Prop :=
  ∃ action : Action, s.step scope action = (events, s')

lemma steps_run (s : Ledger) (actions : List Action) :
    Trace (Ledger.Steps scope) s (s.run scope actions).1 (s.run scope actions).2 := by
  induction actions generalizing s with
  | nil => exact .refl s
  | cons action actions ih => exact .step ⟨action, rfl⟩ (ih _)

def Ledger.ReadableCheckpoints (scope : CommandScope) (s : Ledger) : Prop :=
  ∀ raw ∈ s.database.checkpoints.rows, ∃ checkpoint, decryptCheckpoint scope raw = .ok checkpoint

lemma readableCheckpoints_of_step (h : s.Steps scope events s')
    (hs : s.ReadableCheckpoints scope) : s'.ReadableCheckpoints scope := by
  obtain ⟨action, hstep⟩ := h
  unfold Ledger.ReadableCheckpoints
  rcases checkpoints_of_step hstep with hsame | ⟨commandID, hash, -, hdelete⟩ |
    ⟨checkpoint, command, hpers, hid, hhash, -, hins⟩
  · rwa [hsame]
  · rw [hdelete]
    exact fun raw hraw => hs raw (mem_deleteWhere.1 hraw).1
  · rw [hins]
    intro raw hraw
    rcases mem_of_mem_insertOrIgnore hraw with hraw | ⟨rfl, -⟩
    · exact hs raw hraw
    · obtain ⟨lookups, hlooks, -⟩ := hpers.decodeStored
      rw [← hid, ← hhash] at hlooks
      exact ⟨_, decryptCheckpoint_sealCheckpoint scope checkpoint hlooks⟩

variable {raw : RawCheckpointRow} {checkpoint : ProjectionCheckpoint}

lemma mem_checkpoints_of_step (h : s.StepWithout scope raw.commandID raw.payloadSHA256 events s')
    (hraw : raw ∈ s.database.checkpoints.rows) : raw ∈ s'.database.checkpoints.rows := by
  obtain ⟨action, hoth, hstep⟩ := h
  rcases checkpoints_of_step hstep with hsame | ⟨commandID, hash, hack, hdelete⟩ |
    ⟨_, _, _, _, _, -, hins⟩
  · rwa [hsame]
  · rw [hdelete]
    refine mem_deleteWhere.2 ⟨hraw, ?_⟩
    rintro ⟨rfl, rfl⟩
    exact hoth hack
  · rw [hins]
    exact mem_insertOrIgnore_of_mem hraw

omit [LedgerFormat] [Digest] in
lemma decryptCheckpoint_names (h : decryptCheckpoint scope raw = .ok checkpoint) :
    checkpoint.commandID = raw.commandID ∧ checkpoint.payloadSHA256 = raw.payloadSHA256 := by
  unfold decryptCheckpoint at h
  simp only [ok_iff] at h
  obtain ⟨_, -, _, _, -, rfl⟩ := h
  exact ⟨rfl, rfl⟩

/-- In every later state in which the ledger is open, the checkpoint is listed. -/
def Ledger.Lists (scope : CommandScope) (s : Ledger) (checkpoint : ProjectionCheckpoint) : Prop :=
  ∀ events s', Trace (Ledger.StepWithout scope checkpoint.commandID checkpoint.payloadSHA256) s events s' →
    s'.inner ≠ none → ∃ checkpoints, s'.listProjectionCheckpoints scope = .ok checkpoints ∧ checkpoint ∈ checkpoints

omit [LedgerFormat] [Digest] in
lemma listCheckpoints_eq_ok {checkpoints : List ProjectionCheckpoint} :
    s.listProjectionCheckpoints scope = .ok checkpoints ↔ s.inner ≠ none ∧
    (orderBy (fun raw => toLex (raw.createdAtMs, raw.commandID))
    s.database.checkpoints.rows).mapM (decryptCheckpoint scope) = .ok checkpoints := by
  simp [listProjectionCheckpoints, active, listCheckpoints, Option.ne_none_iff_exists']

lemma lists_of_decrypt (hs : s.ReadableCheckpoints scope) (hraw : raw ∈ s.database.checkpoints.rows)
    (h : decryptCheckpoint scope raw = .ok checkpoint) : s.Lists scope checkpoint := by
  intro events s' hrun hact
  obtain ⟨hid, hhash⟩ := decryptCheckpoint_names h
  rw [hid, hhash] at hrun
  have hs' : s'.ReadableCheckpoints scope ∧ raw ∈ s'.database.checkpoints.rows :=
    hrun.keeps (P := fun s => s.ReadableCheckpoints scope ∧ raw ∈ s.database.checkpoints.rows)
      (fun _ _ _ hs h => ⟨readableCheckpoints_of_step (h.imp fun _ h => h.2) hs.1,
        mem_checkpoints_of_step h hs.2⟩) ⟨hs, hraw⟩
  obtain ⟨checkpoints, hlist⟩ : ∃ checkpoints, (orderBy (fun raw => toLex (raw.createdAtMs, raw.commandID))
    s'.database.checkpoints.rows).mapM (decryptCheckpoint scope) = .ok checkpoints :=
    exists_mapM fun raw hraw => hs'.1 raw (mem_orderBy.1 hraw)
  obtain ⟨checkpoint', hmem, h'⟩ := mem_of_mapM hlist (mem_orderBy.2 hs'.2)
  obtain rfl := Except.ok.inj (h.symm.trans h')
  exact ⟨checkpoints, listCheckpoints_eq_ok.2 ⟨hact, hlist⟩, hmem⟩

lemma decrypt_of_lists (hact : s.inner ≠ none) (hraw : raw ∈ s.database.checkpoints.rows)
    (hid : raw.commandID = checkpoint.commandID) (h : s.Lists scope checkpoint) :
    decryptCheckpoint scope raw = .ok checkpoint := by
  obtain ⟨checkpoints, hlist, hmem⟩ := h [] s (.refl s) hact
  obtain ⟨raw', hraw', hdec⟩ := exists_of_mem_mapM (listCheckpoints_eq_ok.1 hlist).2 hmem
  have hid' := (decryptCheckpoint_names hdec).1
  obtain rfl := eq_of_key_eq (mem_orderBy.1 hraw') hraw (hid'.symm.trans hid.symm)
  exact hdec

/-- Whether the checkpoint of a command will be listed as it was persisted: there was one already, the
command is a friend request, or the lookup about a social relationship has a terminal result. -/
def Database.KeepsKind (scope : CommandScope) (db : Database) (commandID : String)
    (exactLookupBytes : Bytes) : Prop :=
  db.checkpoints.hasKey commandID = true ∨ ∃ raw command, db.commands.find commandID = some raw ∧
      decryptCommand scope raw = .ok command ∧ ReadsBack command exactLookupBytes

/-- A checkpoint that was persisted in a ledger of any history is listed unchanged until it is
acknowledged, if and only if its kind is kept. -/
theorem listed_iff_keepsKind {events : List Event} {commandID : String} {exactLookupBytes : Bytes}
    {generation : ℕ} {nowMs : ℤ} {checkpoint : ProjectionCheckpoint}
    (hrun : Trace (Ledger.Steps scope) .empty events s)
    (hpersist : s.persistProjectionCheckpointAndRemove scope commandID exactLookupBytes generation
      nowMs = .ok (.checkpoint checkpoint, s')) :
    s'.Lists scope checkpoint ↔ s.database.KeepsKind scope commandID exactLookupBytes := by
  have hs : s.ReadableCheckpoints scope := hrun.keeps
      (fun _ _ _ hs h => readableCheckpoints_of_step h hs) (fun _ h => absurd h List.not_mem_nil)
  have hstep : s.Steps scope [] s' := by
    refine ⟨.run (.persistProjectionCheckpointAndRemove commandID exactLookupBytes generation nowMs), ?_⟩
    simp only [step, execute, transact, hpersist, leasesOf, List.append_nil]
  have hs' := readableCheckpoints_of_step hstep hs
  simp only [persistProjectionCheckpointAndRemove, active, ok_iff, Prod.exists,
    Prod.mk.injEq, Reply.checkpoint.injEq] at hpersist
  obtain ⟨inner, hinner, -, checkpoint, db, hpersist, rfl, rfl⟩ := hpersist
  unfold persistCheckpointAndRemove at hpersist
  split at hpersist
  -- the checkpoint was there
  · next raw hraw =>
    simp only [ok_iff] at hpersist
    obtain ⟨_, hdecrypt, -, rfl, rfl⟩ := hpersist
    have hmem := find_eq_some.1 hraw
    exact iff_of_true (lists_of_decrypt hs' hmem.1 hdecrypt) (.inl (hasKey_iff.2 ⟨raw, hmem⟩))
  · next hnone =>
    obtain ⟨raw, command, hraw, hcmd, hpersists, hid, hhash, rfl, hfresh, hinsert⟩ := persists_of_checkpoint hpersist
    obtain ⟨lookups, hlookups, hkind⟩ := hpersists.decodeStored
    rw [← hid, ← hhash] at hlookups
    have hdecrypt := decryptCheckpoint_sealCheckpoint scope checkpoint hlookups
    have hmem : sealCheckpoint scope checkpoint ∈ db.checkpoints.rows := by
      rw [hinsert, rows_insertOrIgnore hfresh]
      exact List.mem_append_right _ List.mem_cons_self
    have hkeeps : s.database.KeepsKind scope commandID checkpoint.exactLookupBytes ↔
        ReadsBack command checkpoint.exactLookupBytes := by
      unfold Database.KeepsKind
      rw [find_eq_none.1 hnone]
      constructor
      · rintro (h | ⟨raw', command', hraw', hcmd', h⟩)
        · cases h
        · cases hraw.symm.trans hraw'
          cases hcmd.symm.trans hcmd'
          exact h
      · exact fun h => .inr ⟨raw, command, hraw, hcmd, h⟩
    rw [hkeeps, ← hkind]
    constructor
    · intro hlists
      have hread := decrypt_of_lists (by rw [hinner]; simp) hmem
        rfl hlists
      have heq := Except.ok.inj (hdecrypt.symm.trans hread)
      exact Prod.ext (congrArg authoritativeLookup heq) (congrArg socialRelationshipLookup heq)
    · rintro rfl
      exact lists_of_decrypt hs' hmem hdecrypt

end

section

attribute [local instance] fieldSequence emptyMessages Chat.checksum

/-- The history of a command that the Station has accepted. -/
def acceptance (kind : CommandPayloadKind) : List Action :=
  [.run (.activate 1 10000), .run (admitSample kind "a" "bob" 10000), dispatch 10001,
    .run (.callback (.markSubmitting "a") 1 10002),
    .run (.callback (.transitionFromAuthoritativeLookup "a" (sampleLookup kind "a" 10000 2) 0) 1
      10003)]

def acceptedLedger (kind : CommandPayloadKind) : Ledger := (Ledger.empty.run aliceAtStation (acceptance kind)).2

def acceptedCheckpoint (kind : CommandPayloadKind) : ProjectionCheckpoint where
  commandID := "a"
  payloadSHA256 := sampleHash kind "a" 10000
  authoritativeLookup := match kind with
    | .friendRequest =>
      { state := 2, commandID := "a", commandPayloadSHA256 := sampleHash kind "a" 10000, terminalResult := none }
    | .socialRelationship => Message.empty
  socialRelationshipLookup := match kind with
    | .friendRequest => none
    | .socialRelationship =>
      some { state := 2, commandID := "a", commandPayloadSHA256 := sampleHash kind "a" 10000
             terminalResult := none }
  exactLookupBytes := sampleLookup kind "a" 10000 2
  createdAtMs := 10004

def persistSample (kind : CommandPayloadKind) : Outcome :=
  (acceptedLedger kind).execute aliceAtStation none
    (.persistProjectionCheckpointAndRemove "a" (sampleLookup kind "a" 10000 2) 1 10004)

set_option maxRecDepth 10000 in
theorem listed_of_friendRequest :
    (persistSample .friendRequest).result = .ok (.checkpoint (acceptedCheckpoint .friendRequest)) ∧
    (persistSample .friendRequest).ledger.Lists aliceAtStation (acceptedCheckpoint .friendRequest) := by
  have heval : (persistSample .friendRequest).result = .ok (.checkpoint (acceptedCheckpoint .friendRequest)) ∧
      ((acceptedLedger .friendRequest).database.commands.find "a").bind
        (fun raw => (decryptCommand aliceAtStation raw).toOption.bind fun command => command.envelope.payload) =
        some (samplePayload .friendRequest "a" 10000) := by
    decide +kernel
  obtain ⟨hres, hpayload⟩ := heval
  have hpers : (acceptedLedger .friendRequest).persistProjectionCheckpointAndRemove
      aliceAtStation "a" (sampleLookup .friendRequest "a" 10000 2) 1 10004 =
        .ok (.checkpoint (acceptedCheckpoint .friendRequest), (persistSample .friendRequest).ledger) :=
    eq_ok_of_transact (s := acceptedLedger .friendRequest) hres
  simp only [Option.bind_eq_some_iff, toOption_eq_some] at hpayload
  obtain ⟨raw, hraw, command, hcmd, hpayload⟩ := hpayload
  have hrun : Trace (Ledger.Steps aliceAtStation) .empty _ (acceptedLedger .friendRequest) :=
    steps_run .empty (acceptance .friendRequest)
  exact ⟨hres, (listed_iff_keepsKind hrun hpers).2 (.inr ⟨raw, command, hraw, hcmd, .inl ⟨_, hpayload⟩⟩)⟩

set_option maxRecDepth 10000 in
/-- The checkpoint of an accepted command about a social relationship is listed as one about a friend
request. -/
theorem listed_under_other_kind : (persistSample .socialRelationship).result =
      .ok (.checkpoint (acceptedCheckpoint .socialRelationship)) ∧
    (persistSample .socialRelationship).ledger.listProjectionCheckpoints aliceAtStation =
      .ok [{ acceptedCheckpoint .socialRelationship with
        authoritativeLookup :=
          { state := 2, commandID := "a", commandPayloadSHA256 := sampleHash .socialRelationship "a" 10000
            terminalResult := none }
        socialRelationshipLookup := none }] := by
  decide +kernel

end

end PeersTouch.Mobile
