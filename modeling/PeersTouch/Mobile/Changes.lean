import PeersTouch.Lib.Trace
import PeersTouch.Mobile.Ledger

/-!
# What an operation does to the command table

Everything that an operation of the ledger does to the stored commands is a sequence of three kinds of
changes: a transition of one command, the fence of a dispatch, and a removal (`Change`). Only an
admission adds a row. A change carries what the code has checked before it wrote: that the row could
be read, that the state machine allows the transition, that a command goes back to waiting only after
a not-found lookup about it, and that no earlier command of the ordering key is stored when one is
leased. The invariants of the ledger are proved from these changes alone.
-/

namespace PeersTouch.Mobile

open Lib Chat KeyedTable List Ledger LedgerFormat Trace FenceOutcome Request Callback

/-! ### Rows and the envelopes they hold -/

structure RowColumns.Of (columns : RowColumns) (e : Envelope) (payload : Bytes) : Prop where
  commandID : columns.commandID = e.commandID
  orderingKey : columns.orderingKey = e.orderingKey
  state : columns.state = e.state
  declared : e.state.Declared
  attemptCount : columns.attemptCount = e.attemptCount
  payloadSHA256 : columns.payloadSHA256 = e.payloadSHA256
  payloadSize : columns.payloadSize = payload.length
  created : Reads e.createdAt columns.createdAtMs
  updated : Reads e.updatedAt columns.updatedAtMs
  expires : Reads e.expiresAt columns.expiresAtMs
  dispatchStarted : ReadsOptional e.dispatchStartedAt columns.dispatchStartedAtMs
  nextAttempt : ReadsOptional e.nextAttemptAt columns.nextAttemptAtMs

lemma columns_eq_ok {command : ValidatedCommand} {commandID : String} {columns : RowColumns} :
    command.columns commandID = .ok columns ↔ columns.Of command.envelope command.payloadBytes := by
  unfold ValidatedCommand.columns
  simp only [ok_iff, stateOf_eq_ok, timestampToMillis_eq_ok, optionalMillis_eq_ok]
  constructor
  · rintro ⟨state, ⟨hst, hdecl⟩, c, hc, u, hu, x, hx, d, hd, n, hn, rfl⟩
    exact ⟨rfl, rfl, hst.symm, hst ▸ hdecl, rfl, rfl, rfl, hc, hu, hx, hd, hn⟩
  · intro h
    refine ⟨columns.state, ⟨h.state.symm, h.state ▸ h.declared⟩, _, h.created, _, h.updated, _,
      h.expires, _, h.dispatchStarted, _, h.nextAttempt, ?_⟩
    rw [← h.commandID, ← h.orderingKey, ← h.attemptCount, ← h.payloadSHA256]
    unfold ValidatedCommand.payloadSize
    rw [← h.payloadSize]

variable {expected : CommandState} {kind : Option CommandPayloadKind} {callback : Callback}

section

variable [LedgerFormat] [Digest] {scope : CommandScope} {row row' : RawCommandRow}
  {command : ValidatedCommand} {e e' : Envelope} {payload payload' : Bytes}

section

omit [Digest]

/-- The row has a seal that opens and gives the envelope, whose columns are those of the row. -/
structure RawCommandRow.Holds (row : RawCommandRow) (scope : CommandScope) (e : Envelope)
    (payload : Bytes) : Prop where
  aad : row.envelopeCiphertext.aad = (scope, row.toRowColumns)
  plaintext : LedgerFormat.envelope.unmarshal row.envelopeCiphertext.plaintext = some e
  columns : row.toRowColumns.Of e payload

lemma RawCommandRow.Holds.unique (h : row.Holds scope e payload) (h' : row.Holds scope e' payload') : e = e' :=
  Option.some.inj (h.plaintext.symm.trans h'.plaintext)

lemma holds_of_sealCommand (h : sealCommand scope command = .ok row) :
    row.Holds scope command.envelope command.payloadBytes := by
  unfold sealCommand at h
  simp only [ok_iff, columns_eq_ok] at h
  obtain ⟨columns, hcols, rfl⟩ := h
  exact ⟨rfl, envelope.unmarshal_marshal _, hcols⟩

lemma exists_sealCommand (scope : CommandScope) {columns : RowColumns}
    (h : columns.Of command.envelope command.payloadBytes) :
    ∃ row, sealCommand scope command = .ok row ∧ row.toRowColumns = columns := by
  unfold sealCommand
  simp only [ok_iff, columns_eq_ok]
  exact ⟨_, ⟨columns, h, rfl⟩, rfl⟩

end

lemma decryptCommand_eq_ok : decryptCommand scope row = .ok command ↔
    row.Holds scope command.envelope command.payloadBytes ∧ command.envelope.validate scope = .ok command.payloadBytes ∧
    command.encodedEnvelope = envelope.marshal command.envelope := by
  unfold decryptCommand openSealed
  simp only [ok_iff, not_not, decodeAndValidate_eq_ok, columns_eq_ok]
  constructor
  · rintro ⟨_, ⟨haad, rfl⟩, c, ⟨hplain, hval, henc⟩, columns, hcols, rfl, rfl⟩
    exact ⟨⟨haad, hplain, hcols⟩, hval, henc⟩
  · rintro ⟨h, hval, henc⟩
    exact ⟨_, ⟨h.aad, rfl⟩, command, ⟨h.plaintext, hval, henc⟩, _, h.columns, rfl, rfl⟩

lemma exists_decryptCommand (h : row.Holds scope e payload) (hval : e.validate scope = .ok payload) :
    ∃ command, decryptCommand scope row = .ok command ∧ command.envelope = e ∧ command.payloadBytes = payload := by
  refine ⟨⟨e, envelope.marshal e, payload⟩, ?_, rfl, rfl⟩
  exact decryptCommand_eq_ok.2 ⟨h, hval, rfl⟩

/-! ### Changes -/

def AuthoritativeLookup.IsNotFound (lookup : AuthoritativeLookup) (commandID : String)
    (payloadSHA256 : Bytes) : Prop :=
  lookup.state = .notFound ∧ lookup.commandID = commandID ∧ lookup.commandPayloadSHA256 = payloadSHA256

/-- A transition of the row of a command at a time. A command goes back to waiting only with a not-found
lookup. -/
structure Moves (scope : CommandScope) (nowMs : ℤ) (row : RawCommandRow)
    (command : ValidatedCommand) (request : Transition) (events : List Event)
    (row' : RawCommandRow) : Prop where
  opened : decryptCommand scope row = .ok command
  allowed : allowsTransition row.state request.nextState = true
  declared : request.typedError.Declared
  holds : row'.Holds scope
    (command.envelope.moved request.nextState request.typedError nowMs request.nextAttemptAtMs)
    command.payloadBytes
  recorded : events = [] ∨ ∃ lookup, events = [.applied row.commandID lookup]
  retried : request.nextState = .retryWait → ∃ lookup, events = [.applied row.commandID lookup] ∧
      lookup.IsNotFound row.commandID row.payloadSHA256

structure Leases (scope : CommandScope) (nowMs : ℤ) (t : CommandTable) (row : RawCommandRow)
    (command : ValidatedCommand) (events : List Event) (row' : RawCommandRow) : Prop where
  opened : decryptCommand scope row = .ok command
  state : row.state = .queued ∨ row.state = .retryWait
  first : ∀ other ∈ t.rows, other.orderingKey = row.orderingKey → ¬other.Precedes row.toRowColumns
  attempts : row.attemptCount < maxTransportAttempts
  holds : row'.Holds scope
    ((command.envelope.moved .dispatchFenced .unspecified nowMs none).attempted nowMs)
    command.payloadBytes
  handed : events = [] ∨ ∃ lease : DispatchLease, events = [.leased lease] ∧ lease.envelope =
      (command.envelope.moved .dispatchFenced .unspecified nowMs none).attempted nowMs ∧
    lease.exactPayloadBytes = command.payloadBytes

/-- A write to one row by an operation with a clock reading. -/
inductive Write (scope : CommandScope) (clock : Option ℤ) :
    CommandTable → List Event → CommandTable → Prop
  | move {t : CommandTable} {row row' : RawCommandRow} {command : ValidatedCommand}
      {request : Transition} {nowMs : ℤ} {events : List Event} (hclock : clock = some nowMs)
      (hrow : row ∈ t.rows) (h : Moves scope nowMs row command request events row') :
      Write scope clock t events (t.upsert row')
  | lease {t : CommandTable} {row row' : RawCommandRow} {command : ValidatedCommand} {nowMs : ℤ}
      {events : List Event} (hclock : clock = some nowMs) (hrow : row ∈ t.rows)
      (h : Leases scope nowMs t row command events row') :
      Write scope clock t events (t.upsert row')

inductive Change (scope : CommandScope) (clock : Option ℤ) :
    CommandTable → List Event → CommandTable → Prop
  | write {t t' : CommandTable} {events : List Event} (h : Write scope clock t events t') :
      Change scope clock t events t'
  | remove {t : CommandTable} (p : RawCommandRow → Prop) [DecidablePred p] :
      Change scope clock t [] (t.deleteWhere p)

variable {nowMs : ℤ} {request : Transition} {events : List Event} {t : CommandTable}

lemma Moves.commandID (h : Moves scope nowMs row command request events row') : row'.commandID = row.commandID :=
  h.holds.columns.commandID.trans (decryptCommand_eq_ok.1 h.opened).1.columns.commandID.symm

lemma Leases.commandID (h : Leases scope nowMs t row command events row') : row'.commandID = row.commandID :=
  h.holds.columns.commandID.trans (decryptCommand_eq_ok.1 h.opened).1.columns.commandID.symm

lemma Leases.leased (h : Leases scope nowMs t row command events row') {lease : DispatchLease}
    (hls : .leased lease ∈ events) :
    lease.envelope.commandID = row.commandID ∧ lease.envelope.orderingKey = row.orderingKey := by
  have hcols := (decryptCommand_eq_ok.1 h.opened).1.columns
  rcases h.handed with rfl | ⟨lease', rfl, henv, -⟩
  · cases hls
  · cases mem_singleton.1 hls
    rw [henv]
    exact ⟨hcols.commandID.symm, hcols.orderingKey.symm⟩

/-! ### What the transactions do -/

variable {state : CommandState} {t' : CommandTable} {command' : ValidatedCommand} {hash : Bytes}
  {requests : List Request} {result : LedgerResult (Option Envelope)} {last : Option Envelope}
  {error : CommandErrorCode} {entropy : ℕ} {lookup : AuthoritativeLookup}
  {commandID : String}

omit [LedgerFormat] [Digest] in
lemma eq_of_decodeState {state' : CommandState} (h : decodeState state commandID = .ok state') : state = state' := by
  unfold decodeState at h
  split at h
  · cases h
  · exact Except.ok.inj h

variable {attempts : ℕ}

omit [Digest] in
lemma writeCommandCas_eq_ok (h : writeCommandCas scope command state attempts t = .ok t') :
    ∃ row', row'.Holds scope command.envelope command.payloadBytes ∧ t.upsert row' = t' := by
  unfold writeCommandCas at h
  simp only [ok_iff] at h
  obtain ⟨row', hrow', -, rfl⟩ := h
  exact ⟨row', holds_of_sealCommand hrow', rfl⟩

lemma transition_eq_ok (h : transitionInTransaction scope row request nowMs t = .ok (command', t')) :
    ∃ command row', decryptCommand scope row = .ok command ∧
    row.state ∈ request.expectedStates ∧ allowsTransition row.state request.nextState = true ∧
    command'.envelope = command.envelope.moved request.nextState request.typedError nowMs request.nextAttemptAtMs ∧
    command'.payloadBytes = command.payloadBytes ∧
    row'.Holds scope command'.envelope command'.payloadBytes ∧ t.upsert row' = t' := by
  unfold transitionInTransaction at h
  simp only [ok_iff, not_not] at h
  obtain ⟨state, hst, hexp, hall, -, command, hcmd, t'', hwr, rfl, rfl⟩ := h
  obtain rfl := eq_of_decodeState hst
  obtain ⟨row', hrow', hups⟩ := writeCommandCas_eq_ok hwr
  exact ⟨command, row', hcmd, hexp, hall, rfl, rfl, hrow', hups⟩

lemma write_of_transition (h : transitionInTransaction scope row request nowMs t = .ok (command', t'))
    (hrow : row ∈ t.rows) (hdecl : request.typedError.Declared)
    (hrcd : events = [] ∨ ∃ lookup, events = [.applied row.commandID lookup])
    (hretried : request.nextState = .retryWait → ∃ lookup, events = [.applied row.commandID lookup] ∧
    lookup.IsNotFound row.commandID row.payloadSHA256) : Write scope (some nowMs) t events t' := by
  obtain ⟨command, row', hcmd, -, hall, henv, hpay, hhold, rfl⟩ := transition_eq_ok h
  rw [henv, hpay] at hhold
  exact .move rfl hrow ⟨hcmd, hall, hdecl, hhold, hrcd, hretried⟩

def FenceOutcome.leases (generation : ℕ) : FenceOutcome → List Event
  | .dispatch command => [.leased (dispatchLease command generation)]
  | .notDispatchable _ => []

/-- Events that are handed out, or lost in a crash. -/
def handOut (handed : Bool) (events : List Event) : List Event := if handed then events else []

omit [LedgerFormat] [Digest] in
@[simp] lemma handOut_nil (handed : Bool) : handOut handed [] = [] := by cases handed <;> rfl

lemma write_of_fenceDispatch {outcome : FenceOutcome}
    (h : fenceDispatch scope commandID expected nowMs t = .ok (outcome, t')) (generation : ℕ) (handed : Bool) :
    Write scope (some nowMs) t (handOut handed (outcome.leases generation)) t' := by
  unfold fenceDispatch at h
  simp only [ok_iff, not_not, not_lt, Nat.le_zero] at h
  obtain ⟨hexp, raw, hraw, state, hdec, rfl, -, hearlier, -, -, command, hcmd, expires, -, h⟩ := h
  obtain rfl := eq_of_decodeState hdec
  have hrow : raw ∈ t.rows := (find_eq_some.1 hraw).1
  have hst : raw.state = .queued ∨ raw.state = .retryWait := by
    by_contra hne
    exact hexp (not_or.1 hne)
  have hcols := (decryptCommand_eq_ok.1 hcmd).1.columns
  split at h
  -- the command has expired or has no attempt left
  · simp only [ok_iff, Prod.exists] at h
    obtain ⟨command', t'', htrans, rfl, rfl⟩ := h
    rw [leases, handOut_nil]
    refine write_of_transition htrans hrow ?_ (.inl rfl) ?_
    · dsimp only
      split <;> trivial
    · split <;> rintro ⟨⟩
  · next hlive =>
    simp only [ok_iff, Prod.exists] at h
    obtain ⟨fenced, t₁, htrans, t₂, hwr, rfl, rfl⟩ := h
    obtain ⟨command₁, row₁, hcommand₁, -, -, henv, hpay, hholds₁, rfl⟩ := transition_eq_ok htrans
    obtain rfl := Except.ok.inj (hcmd.symm.trans hcommand₁)
    obtain ⟨row₂, hholds₂, rfl⟩ := writeCommandCas_eq_ok hwr
    -- both writes are under the identifier of the command
    have hid : row₂.commandID = row₁.commandID := by
      rw [hholds₂.columns.commandID, hholds₁.columns.commandID]
      rfl
    have hups : (upsert t row₁).upsert row₂ = upsert t row₂ := upsert_upsert hid
    rw [hups]
    rw [henv, hpay] at hholds₂
    refine .lease rfl hrow ⟨hcmd, hst, ?_, ?_, hholds₂, ?_⟩
    · intro other hoth hkey hprec
      exact count_eq_zero.1 hearlier other hoth ⟨hkey, hprec⟩
    · rw [hcols.attemptCount]
      exact not_le.1 fun hle => hlive (.inl hle)
    · cases handed with
      | false => exact .inl rfl
      | true =>
        refine .inr ⟨_, rfl, ?_, hpay⟩
        show fenced.envelope.attempted nowMs = _
        rw [henv]

lemma trace_of_dispatchLoop {generation : ℕ} {rounds : ℕ}
    {candidates : List DispatchCandidate} {last last' : Option String}
    {result : LedgerResult (Option DispatchLease)}
    (h : dispatchLoop scope generation nowMs kind rounds candidates last t = (result, last', t'))
    (handed : Bool) :
    Trace (Write scope (some nowMs)) t
    (handOut handed ((result.toOption.bind id).elim [] fun lease => [.leased lease])) t' := by
  induction rounds generalizing candidates last t with
  | zero =>
    cases h
    simpa [Except.toOption] using refl _
  | succ rounds ih =>
    rw [dispatchLoop] at h
    split at h
    · cases h
      simpa [Except.toOption] using refl _
    · next cand hselect =>
      split at h
      · cases h
        simpa [Except.toOption] using refl _
      · exact ih h
      · split at h
        · next command t₁ hfence =>
          cases h
          exact .single (write_of_fenceDispatch hfence generation handed)
        · next command t₁ hfence =>
          have hfst := write_of_fenceDispatch hfence generation handed
          rw [leases, handOut_nil] at hfst
          exact .step hfst (ih h)
        · split at h
          · exact ih h
          · cases h
            simpa [Except.toOption] using refl _

/-! ### What a callback does -/

def Request.Sound (commandID : String) (payloadSHA256 : Bytes) : Request → Prop
  | .transition request lookup =>
    request.typedError.Declared ∧ (request.nextState = .retryWait →
      ∃ l, lookup = some l ∧ l.IsNotFound commandID payloadSHA256)
  | .purge _ => True

/-- The hash of the command under an identifier. -/
def CommandTable.HashIs (t : CommandTable) (commandID : String) (payloadSHA256 : Bytes) : Prop :=
  ∀ row ∈ t.rows, row.commandID = commandID → row.payloadSHA256 = payloadSHA256

lemma perform_eq_ok {request : Request} {envelope : Option Envelope}
    (h : request.perform scope commandID nowMs t = .ok (envelope, t'))
    (hsound : request.Sound commandID hash) (hhash : t.HashIs commandID hash) :
    Change scope (some nowMs) t (request.events commandID) t' ∧ t'.HashIs commandID hash := by
  cases request with
  | transition request lookup =>
    simp only [perform, CommandTable.transition, ok_iff, Prod.exists] at h
    obtain ⟨command', t₁, ⟨raw, hraw, htrans⟩, -, rfl⟩ := h
    obtain ⟨hrow, rfl⟩ := find_eq_some.1 hraw
    constructor
    · refine .write (write_of_transition htrans hrow hsound.1 ?_ ?_)
      · cases lookup with
        | none => exact .inl rfl
        | some l => exact .inr ⟨l, rfl⟩
      · intro hwait
        obtain ⟨l, rfl, hl⟩ := hsound.2 hwait
        rw [← hhash raw hrow rfl] at hl
        exact ⟨l, rfl, hl⟩
    · obtain ⟨command, row', hcmd, -, -, henv, hpay, hhold, rfl⟩ := transition_eq_ok htrans
      intro x hx hid
      rcases mem_upsert.1 hx with ⟨hx, -⟩ | rfl
      · exact hhash x hx hid
      · rw [hhold.columns.payloadSHA256, henv]
        exact ((decryptCommand_eq_ok.1 hcmd).1.columns.payloadSHA256.symm).trans (hhash raw hrow rfl)
  | purge state =>
    simp only [perform, purgeTerminal, ok_iff] at h
    obtain ⟨_, ⟨-, -, rfl⟩, -, rfl⟩ := h
    exact ⟨.remove _, fun x hx hid => hhash x (mem_deleteWhere.1 hx).1 hid⟩

lemma trace_of_performAll (h : performAll scope commandID nowMs requests last t = (result, events, t'))
    (hsound : ∀ request ∈ requests, request.Sound commandID hash) (hhash : t.HashIs commandID hash) :
    Trace (Change scope (some nowMs)) t events t' := by
  induction requests generalizing t last events with
  | nil =>
    cases h
    exact .refl _
  | cons request requests ih =>
    rw [performAll] at h
    split at h
    · cases h
      exact .refl _
    · next envelope t₁ hperf =>
      obtain ⟨hchg, hhash₁⟩ := perform_eq_ok hperf (hsound request mem_cons_self) hhash
      generalize hrest : performAll scope commandID nowMs requests (envelope.or last) t₁ = rest at h
      cases h
      exact .step hchg (ih hrest (fun r hr => hsound r (mem_cons_of_mem _ hr)) hhash₁)

lemma not_leased_of_performAll (h : performAll scope commandID nowMs requests last t = (result, events, t'))
    (lease : DispatchLease) : .leased lease ∉ events := by
  induction requests generalizing t last events with
  | nil =>
    cases h
    exact not_mem_nil
  | cons request requests ih =>
    rw [performAll] at h
    split at h
    · cases h
      exact not_mem_nil
    · next envelope t₁ _ =>
      generalize hrest : performAll scope commandID nowMs requests (envelope.or last) t₁ = rest at h
      cases h
      intro hls
      rcases mem_append.1 hls with hls | hls
      · unfold events at hls
        split at hls
        · cases mem_singleton.1 hls
        · exact not_mem_nil hls
      · exact ih hrest hls

omit [LedgerFormat] [Digest] in
lemma exists_hashIs (t : CommandTable) (commandID : String) : ∃ hash, t.HashIs commandID hash := by
  by_cases h : ∃ row ∈ t.rows, row.commandID = commandID
  · obtain ⟨row, hrow, hid⟩ := h
    refine ⟨row.payloadSHA256, fun row' hrow' hid' => ?_⟩
    rw [eq_of_key_eq hrow' hrow (hid'.trans hid.symm)]
  · exact ⟨[], fun row hrow hid => absurd ⟨row, hrow, hid⟩ h⟩

variable {default : CommandErrorCode}

section

omit [LedgerFormat] [Digest]

lemma declared_orElse (h : default.Declared) : (error.orElse default).Declared := by cases error <;> trivial

lemma sound_singleton {lookup : Option AuthoritativeLookup} (hdecl : request.typedError.Declared)
    (hst : request.nextState ≠ .retryWait) : ∀ r ∈ [transition request lookup], r.Sound commandID hash := by
  rintro r hr
  obtain rfl := mem_singleton.1 hr
  exact ⟨hdecl, fun h => absurd h hst⟩

end

lemma requireCommand_eq_ok {operation : String} (h : requireCommand scope operation commandID t = .ok command) :
    ∃ raw ∈ t.rows, raw.commandID = commandID ∧ decryptCommand scope raw = .ok command := by
  unfold requireCommand CommandTable.get at h
  simp only [ok_iff] at h
  obtain ⟨_, hget, rfl⟩ := h
  split at hget
  · cases hget
  · next raw hraw =>
    simp only [map_eq_ok, Option.some.injEq] at hget
    obtain ⟨_, hdec, rfl⟩ := hget
    obtain ⟨hrow, hid⟩ := find_eq_some.1 hraw
    exact ⟨raw, hrow, hid, hdec⟩

lemma hashIs_of_requireCommand {operation : String} (h : requireCommand scope operation commandID t = .ok command) :
    command.envelope.commandID = commandID ∧ t.HashIs commandID command.envelope.payloadSHA256 := by
  obtain ⟨raw, hrow, hid, hdec⟩ := requireCommand_eq_ok h
  have hcols := (decryptCommand_eq_ok.1 hdec).1.columns
  refine ⟨hcols.commandID.symm.trans hid, fun row hrow' hid' => ?_⟩
  rw [eq_of_key_eq hrow' hrow (hid'.trans hid.symm)]
  exact hcols.payloadSHA256

section

omit [LedgerFormat] [Digest]

lemma sound_of_notFoundPlan (h : notFoundPlan command lookup commandID nowMs entropy = .ok requests)
    (hlook : lookup.IsNotFound commandID hash) : ∀ request ∈ requests, request.Sound commandID hash := by
  unfold notFoundPlan at h
  simp only [ok_iff] at h
  obtain ⟨-, expires, -, rfl⟩ := h
  intro request hreq
  split at hreq
  · obtain rfl := mem_singleton.1 hreq
    exact ⟨trivial, fun _ => ⟨lookup, rfl, hlook⟩⟩
  · next error hdecision =>
    have herr : error.Declared := by
      unfold retryDecision at hdecision
      split_ifs at hdecision <;> cases hdecision <;> trivial
    split at hreq
    · rcases mem_pair.1 hreq with rfl | rfl
      · exact ⟨herr, fun _ => ⟨lookup, rfl, hlook⟩⟩
      · exact ⟨herr, by simp⟩
    · exact sound_singleton herr (by simp) request hreq

lemma lookupTarget_eq_ok (h : lookupTarget command lookup commandID = .ok (state, error)) :
    state ≠ .retryWait ∧ error.Declared := by
  unfold lookupTarget at h
  split at h
  · cases h
    exact ⟨nofun, trivial⟩
  · cases h
    exact ⟨nofun, trivial⟩
  · split at h <;> cases h <;> exact ⟨nofun, trivial⟩
  · split at h <;> cases h <;> exact ⟨nofun, trivial⟩

lemma ne_retryWait_of_mismatchTarget (h : mismatchTarget command commandID = .ok state) : state ≠ .retryWait := by
  unfold mismatchTarget at h
  split at h <;> cases h <;> nofun

end

lemma sound_of_lookupPlan [ResultMessages] {bytes : Bytes}
    (h : lookupPlan scope commandID bytes nowMs entropy t = .ok requests) :
    ∃ hash, t.HashIs commandID hash ∧ ∀ request ∈ requests, request.Sound commandID hash := by
  unfold lookupPlan at h
  rw [bind_eq_ok] at h
  obtain ⟨current, hcur, h⟩ := h
  rw [bind_eq_ok] at h
  obtain ⟨lookup, -, h⟩ := h
  obtain ⟨hid, hhash⟩ := hashIs_of_requireCommand hcur
  refine ⟨_, hhash, ?_⟩
  split at h
  · simp only [ok_iff] at h
    obtain ⟨target, htgt, rfl⟩ := h
    exact sound_singleton trivial (ne_retryWait_of_mismatchTarget htgt)
  · next hsame =>
    rw [not_or, not_not, not_not] at hsame
    split at h
    · next hst => exact sound_of_notFoundPlan h ⟨hst, hsame.1.trans hid, hsame.2⟩
    · simp only [ok_iff, Prod.exists] at h
      obtain ⟨state, error, htgt, rfl⟩ := h
      obtain ⟨hwait, herr⟩ := lookupTarget_eq_ok htgt
      exact sound_singleton herr hwait

lemma sound_of_removalPlan {operation detail : String} {settledState lastState : CommandState}
    (h : removalPlan scope operation commandID settledState lastState default detail t =
    .ok requests) (hlast : lastState ≠ .retryWait) (hdefault : default.Declared) (hash : Bytes) :
    ∀ request ∈ requests, request.Sound commandID hash := by
  unfold removalPlan at h
  rw [bind_eq_ok] at h
  obtain ⟨current, -, h⟩ := h
  intro request hreq
  split at h
  · obtain rfl := pure_eq_ok.1 h
    rcases mem_pair.1 hreq with rfl | rfl
    · exact ⟨declared_orElse hdefault, fun hwait => absurd hwait hlast⟩
    · trivial
  · split at h
    · obtain rfl := pure_eq_ok.1 h
      obtain rfl := mem_singleton.1 hreq
      trivial
    · cases h

lemma sound_of_plan [ResultMessages]
    (hargs : callback.arguments = .ok ()) (h : callback.plan scope nowMs t = .ok requests) :
    ∃ hash, t.HashIs callback.commandID hash ∧ ∀ request ∈ requests, request.Sound callback.commandID hash := by
  obtain ⟨hash, hhash⟩ := exists_hashIs t callback.commandID
  cases callback with
  | transitionFromAuthoritativeLookup id bytes entropy => exact sound_of_lookupPlan h
  | acknowledgeTerminalFailure id | discardUnresolvedTracking id =>
    exact ⟨hash, hhash, sound_of_removalPlan h (by simp) trivial hash⟩
  | markUnknown id error | markReconciliationUnresolved id error =>
    cases h
    exact ⟨hash, hhash, sound_singleton (by cases error <;> trivial) (by simp)⟩
  | markTerminalFailure id state error =>
    simp only [arguments, failWhen_eq_ok, not_or, not_not] at hargs
    obtain ⟨-, hfinal⟩ := hargs
    cases h
    exact ⟨hash, hhash, sound_singleton (by cases error <;> trivial) (by simp)⟩
  | markSubmitting id | cancelBeforeDispatch id state | beginReconciliation id state =>
    cases h
    exact ⟨hash, hhash, sound_singleton trivial (by simp)⟩

/-! ### Recovery and admission -/

omit [LedgerFormat] [Digest] in
lemma recovery_declared (state : CommandState) :
    (recovery state).typedError.Declared ∧ (recovery state).nextState ≠ .retryWait := by
  unfold recovery
  split
  · exact ⟨trivial, nofun⟩
  · exact ⟨trivial, nofun⟩

lemma recoverRow_eq_ok (h : recoverRow scope nowMs t row = .ok t') (hrow : row ∈ t.rows) :
    Trace (Write scope (some nowMs)) t [] t' ∧ ∀ other ∈ t.rows, other.commandID ≠ row.commandID → other ∈ t'.rows := by
  unfold recoverRow at h
  rw [bind_eq_ok] at h
  obtain ⟨state, -, h⟩ := h
  split at h
  · simp only [ok_iff, Prod.exists] at h
    obtain ⟨command', t₁, htrans, rfl⟩ := h
    obtain ⟨hdecl, hwait⟩ := recovery_declared state
    constructor
    · exact .single (write_of_transition htrans hrow hdecl (.inl rfl) fun h => absurd h hwait)
    · obtain ⟨command, row', hcmd, -, -, henv, -, hhold, rfl⟩ := transition_eq_ok htrans
      have hid : row'.commandID = row.commandID := by
        rw [hhold.columns.commandID, henv]
        exact (decryptCommand_eq_ok.1 hcmd).1.columns.commandID.symm
      intro other hoth hne
      exact mem_upsert.2 (.inl ⟨hoth, fun heq => hne (heq.trans hid)⟩)
  · obtain rfl := pure_eq_ok.1 h
    exact ⟨.refl _, fun other hoth _ => hoth⟩

lemma trace_of_recoverRows {rows : List RawCommandRow}
    (h : rows.foldlM (recoverRow scope nowMs) t = .ok t') (hrows : ∀ r ∈ rows, r ∈ t.rows)
    (hne : rows.Pairwise fun r r' => r.commandID ≠ r'.commandID) : Trace (Write scope (some nowMs)) t [] t' := by
  induction rows generalizing t with
  | nil =>
    obtain rfl := pure_eq_ok.1 h
    exact .refl _
  | cons row rows ih =>
    rw [foldlM_cons, bind_eq_ok] at h
    obtain ⟨t₁, hfst, h⟩ := h
    obtain ⟨htr, hkept⟩ := recoverRow_eq_ok hfst (hrows row mem_cons_self)
    obtain ⟨hrow, hne⟩ := pairwise_cons.1 hne
    refine htr.trans (ih h (fun r hr => ?_) hne)
    exact hkept r (hrows r (mem_cons_of_mem _ hr)) (Ne.symm (hrow r hr))

lemma admitCommand_eq_ok {outcome : AdmissionOutcome} (h : admitCommand scope command t = .ok (outcome, t')) :
    (outcome = .alreadyPresent ∧ t' = t) ∨ outcome = .inserted ∧ t.hasKey command.commandID = false ∧
    ∃ row, row.Holds scope command.envelope command.payloadBytes ∧ t' = t.insertOrIgnore row := by
  unfold admitCommand at h
  split at h
  · simp only [ok_iff] at h
    obtain ⟨existing, -, -, rfl, rfl⟩ := h
    exact .inl ⟨rfl, rfl⟩
  · next hnone =>
    simp only [ok_iff] at h
    obtain ⟨-, row, hseal, rfl, rfl⟩ := h
    exact .inr ⟨rfl, find_eq_none.1 hnone, row, holds_of_sealCommand hseal, rfl⟩

end

/-! ### What an operation does -/

def Operation.clock : Operation → Option ℤ
  | .activate _ now | .nextForDispatchKind _ now _ | .compareAndSwapDispatchFence _ _ _ now
  | .callback _ _ now | .persistProjectionCheckpointAndRemove _ _ _ now => some now
  | .deactivate | .rebindRuntimeGeneration _ | .admitGeneratedEnvelope _ | .purgeCancelled _
  | .acknowledgeProjectionCheckpoint _ _ => none

section

variable [LedgerFormat] [Digest]

structure Admits (scope : CommandScope) (s : Ledger) (operation : Operation)
    (command : ValidatedCommand) (row : RawCommandRow) : Prop where
  accepted : ∃ bytes inner, operation = .admitGeneratedEnvelope bytes ∧ s.inner = some inner ∧
    decodeAdmission bytes scope inner.runtimeGeneration = .ok command
  fresh : s.database.commands.hasKey command.commandID = false
  holds : row.Holds scope command.envelope command.payloadBytes

variable [ResultMessages] {scope : CommandScope} {s : Ledger}

def Outcome.Follows (scope : CommandScope) (s : Ledger) (operation : Operation)
    (outcome : Outcome) : Prop :=
  (∃ command row, Admits scope s operation command row ∧
    outcome.ledger.database.commands = s.database.commands.insertOrIgnore row ∧
    outcome.events = [] ∧ leasesOf outcome.result = []) ∨
  (∀ handed, Trace (Write scope operation.clock) s.database.commands
    (outcome.events ++ handOut handed (leasesOf outcome.result))
    outcome.ledger.database.commands) ∨
  leasesOf outcome.result = [] ∧ (∀ lease, .leased lease ∉ outcome.events) ∧
    Trace (Change scope operation.clock) s.database.commands outcome.events
      outcome.ledger.database.commands

variable {x : LedgerResult (Reply × Ledger)} {operation : Operation} {generation : ℕ} {now : ℤ}
  {limit : Option ℕ}

lemma follows_transact (h : ∀ reply s', x = .ok (reply, s') →
    Outcome.Follows scope s operation { result := .ok reply, ledger := s' }) :
    (s.transact x).Follows scope s operation := by
  unfold transact
  split
  · next reply s' => exact h reply s' rfl
  · exact .inr (.inl fun handed => by simpa [leasesOf] using refl _)

variable {reply : Reply}

omit [LedgerFormat] [Digest] in
lemma eq_ok_of_transact (h : (s.transact x).result = .ok reply) : x = .ok (reply, (s.transact x).ledger) := by
  unfold transact at h ⊢
  split at h
  · cases h
    rfl
  · cases h

variable {s' : Ledger}

lemma follows_of_trace (hreply : leasesOf (.ok reply) = [])
    (h : Trace (Change scope operation.clock) s.database.commands [] s'.database.commands) :
    Outcome.Follows scope s operation { result := .ok reply, ledger := s' } :=
  .inr (.inr ⟨hreply, fun _ => not_mem_nil, h⟩)

variable {bytes : Bytes}

lemma follows_admission : (s.transact (s.admitGeneratedEnvelope scope bytes)).Follows scope s
    (.admitGeneratedEnvelope bytes) := by
  refine follows_transact fun reply s' h => ?_
  simp only [admitGeneratedEnvelope, active, ok_iff, Prod.exists] at h
  obtain ⟨inner, hinner, command, hdec, outcome, t, hadm, rfl, rfl⟩ := h
  rcases admitCommand_eq_ok hadm with ⟨-, rfl⟩ | ⟨-, hnew, row, hhold, rfl⟩
  · exact follows_of_trace rfl (.refl _)
  · exact .inl ⟨command, row, ⟨⟨bytes, inner, rfl, hinner, hdec⟩, hnew, hhold⟩, rfl, rfl, rfl⟩

variable {commandID : String}

lemma follows_fence : (s.transact (s.compareAndSwapDispatchFence scope commandID expected generation now)).Follows
    scope s (.compareAndSwapDispatchFence commandID expected generation now) := by
  refine follows_transact fun reply s' h => ?_
  simp only [compareAndSwapDispatchFence, ok_iff, Prod.exists] at h
  obtain ⟨inner, -, -, outcome, t, hfence, rfl, rfl⟩ := h
  refine .inr (.inl fun handed => .single ?_)
  have hchg := write_of_fenceDispatch hfence generation handed
  cases outcome with
  | dispatch command => exact hchg
  | notDispatchable command => exact hchg

lemma follows_dispatch : (s.nextForDispatchKind scope limit generation now kind).Follows scope s
    (.nextForDispatchKind generation now kind) := by
  unfold nextForDispatchKind
  split
  · exact .inr (.inl fun handed => by simpa [leasesOf] using refl _)
  · next inner candidates _ =>
    generalize hloop : dispatchLoop scope generation now kind (limit.getD candidates.length)
      candidates inner.lastServedKey s.database.commands = loop
    obtain ⟨result, last, t⟩ := loop
    refine .inr (.inl fun handed => ?_)
    have htr := trace_of_dispatchLoop hloop handed
    cases result with
    | error e => exact htr
    | ok lease =>
      cases lease with
      | none => exact htr
      | some lease => exact htr

lemma follows_callback : (s.call scope limit callback generation now).Follows scope s
    (.callback callback generation now) := by
  unfold Ledger.call
  split
  · exact .inr (.inl fun handed => by simpa [leasesOf] using refl _)
  · next requests hrequests =>
    simp only [Ledger.requests, ok_iff] at hrequests
    obtain ⟨hargs, inner, -, -, hplan⟩ := hrequests
    obtain ⟨hash, hhash, hsound⟩ := sound_of_plan hargs hplan
    generalize hperf : performAll scope callback.commandID now
      (requests.take (limit.getD requests.length)) none s.database.commands = rest
    obtain ⟨result, events, t⟩ := rest
    have htr := trace_of_performAll hperf (fun r hr => hsound r (mem_of_mem_take hr)) hhash
    have hnone : leasesOf (Reply.envelope <$> result) = [] := by cases result <;> rfl
    exact .inr (.inr ⟨hnone, not_leased_of_performAll hperf, htr⟩)

lemma follows_purge : (s.transact (s.purgeCancelled commandID)).Follows scope s (.purgeCancelled commandID) := by
  refine follows_transact fun reply s' h => ?_
  simp only [purgeCancelled, purgeTerminal, ok_iff] at h
  obtain ⟨-, _, ⟨-, -, rfl⟩, rfl, rfl⟩ := h
  exact follows_of_trace rfl (.single (.remove _))

lemma follows_persist : (s.transact (s.persistProjectionCheckpointAndRemove scope commandID bytes generation
    now)).Follows scope s (.persistProjectionCheckpointAndRemove commandID bytes generation now) := by
  refine follows_transact fun reply s' h => ?_
  simp only [persistProjectionCheckpointAndRemove, ok_iff, Prod.exists] at h
  obtain ⟨inner, -, -, checkpoint, database, hpers, rfl, rfl⟩ := h
  refine follows_of_trace rfl ?_
  unfold Database.persistCheckpointAndRemove at hpers
  split at hpers
  · simp only [ok_iff] at hpers
    obtain ⟨_, -, -, -, rfl⟩ := hpers
    exact .refl _
  · simp only [Database.checkpoint, ok_iff] at hpers
    obtain ⟨raw, -, command, -, -, lookup, -, -, friend, social, -, checkpoints, -, -, -, rfl⟩ := hpers
    exact .single (.remove _)

lemma follows_execute (scope : CommandScope) (s : Ledger) (limit : Option ℕ) (operation : Operation) :
    (s.execute scope limit operation).Follows scope s operation := by
  cases operation with
  | activate generation now =>
    refine follows_transact fun reply s' h => ?_
    simp only [activate, ok_iff] at h
    obtain ⟨-, t, hrecover, rfl, rfl⟩ := h
    have htr := trace_of_recoverRows hrecover (fun _ hr => mem_orderBy.1 hr) (pairwise_ne_orderBy (keys_nodup _) _)
    exact follows_of_trace rfl (htr.mono fun _ _ _ => .write)
  | deactivate => exact follows_of_trace rfl (.refl _)
  | rebindRuntimeGeneration generation =>
    refine follows_transact fun reply s' h => ?_
    simp only [rebindRuntimeGeneration, ok_iff] at h
    obtain ⟨inner, -, -, rfl, rfl⟩ := h
    exact follows_of_trace rfl (.refl _)
  | admitGeneratedEnvelope bytes => exact follows_admission
  | nextForDispatchKind generation now kind => exact follows_dispatch
  | compareAndSwapDispatchFence id state generation now => exact follows_fence
  | callback callback generation now => exact follows_callback
  | purgeCancelled id => exact follows_purge
  | persistProjectionCheckpointAndRemove id bytes generation now => exact follows_persist
  | acknowledgeProjectionCheckpoint id hash =>
    refine follows_transact fun reply s' h => ?_
    simp only [acknowledgeProjectionCheckpoint, Database.acknowledgeCheckpoint, ok_iff] at h
    obtain ⟨-, _, ⟨-, rfl⟩, rfl, rfl⟩ := h
    exact follows_of_trace rfl (.refl _)

lemma step_cases (action : Action) {events : List Event} (h : s.step scope action = (events, s')) :
    (∃ command row, Admits scope s action.operation command row ∧
    s'.database.commands = s.database.commands.insertOrIgnore row ∧ events = []) ∨
    Trace (Write scope action.operation.clock) s.database.commands events s'.database.commands ∨
    (∀ lease, .leased lease ∉ events) ∧ Trace (Change scope action.operation.clock) s.database.commands events
    s'.database.commands := by
  cases action with
  | run operation =>
    cases h
    rcases follows_execute scope s none operation with
      ⟨command, row, hadm, ht, hevs, hleases⟩ | htr | ⟨hnone, hevs, htr⟩
    · exact .inl ⟨command, row, hadm, ht, by rw [hevs, hleases]; rfl⟩
    · exact .inr (.inl (htr true))
    · rw [hnone, append_nil]
      exact .inr (.inr ⟨hevs, htr⟩)
  | crash operation transactions =>
    cases h
    rcases follows_execute scope s (some transactions) operation with
      ⟨command, row, hadm, ht, hevs, -⟩ | htr | ⟨-, hevs, htr⟩
    · exact .inl ⟨command, row, hadm, ht, hevs⟩
    · have := htr false
      rw [handOut, if_neg Bool.false_ne_true, append_nil] at this
      exact .inr (.inl this)
    · exact .inr (.inr ⟨hevs, htr⟩)

end

end PeersTouch.Mobile
