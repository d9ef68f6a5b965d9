import PeersTouch.Chat.ValueObject
import PeersTouch.Lib.Codec
import PeersTouch.Lib.Program

/-!
# The configuration of a device

`x-config-core/src/cache.rs` and the verification of a snapshot in `signature.rs`. A device takes a
signed snapshot of its configuration from the network (`acceptRemote`) or, when it starts, from its cache
or from the copy it was shipped with (`initializeFrom`). The watermark says which snapshot was taken last.

The coordinator is a program over the operations of its two stores, so that the process may be stopped
between any two of them. The cache may answer anything at any time. The watermark store keeps what it
saved; it may fail to answer, and a save that failed may have been done.
-/

namespace PeersTouch.Config

open Lib Chat Program Option Function List

abbrev XConfigError : Type := String

/-! ### Snapshots -/

structure SignedXConfigSnapshot where
  signingKeyID : String
  (statementBytes ed25519Signature : Bytes)

structure Timestamp where
  (seconds nanos : ℤ)

structure XConfigSnapshotStatement where
  schemaVersion : ℕ
  channel : String
  sequence : ℕ
  (issuedAt expiresAt : Option Timestamp)
  (endpointSeeds releases directives : List Bytes)

/-- The protobuf encodings, Ed25519, and the checks of the seeds, the releases and the directives of a
statement (`validate_endpoint_seeds`, `validate_releases`, `validate_directives`), which depend on the
time and on the expiry of the statement. -/
class SnapshotFormat where
  envelope : Format SignedXConfigSnapshot
  statement : Format XConfigSnapshotStatement
  verify : Bytes → Bytes → Bytes → Bool
  validateEndpointSeeds : XConfigSnapshotStatement → ℤ → ℤ → Except XConfigError Unit
  validateReleases : XConfigSnapshotStatement → ℤ → ℤ → Except XConfigError Unit
  validateDirectives : XConfigSnapshotStatement → Except XConfigError Unit

abbrev PublisherKeyring : Type := String → Option Bytes

structure VerifiedSnapshot where
  (envelopeBytes statementBytes : Bytes)
  statementSHA256 : Hash
  signingKeyID : String
  statement : XConfigSnapshotStatement
  expiresAtUnixMs : ℤ

def maxEnvelopeBytes : ℕ := 256 * 1024

def maxSnapshotLifetimeMs : ℤ := 7 * 24 * 60 * 60 * 1000

def clockSkewMs : ℤ := 5 * 60 * 1000

def boundedText (value : String) (maximum : ℕ) : Bool :=
  value ≠ "" && trimSpace value = value && value.utf8ByteSize ≤ maximum

def boundedIdentifier (value : String) (maximum : ℕ) : Bool :=
  boundedText value maximum && value.toList.all fun c => !isSpace c

def validChannel (value : String) : Bool :=
  boundedIdentifier value 32 && value.toList.all fun c => c.isLower || c.isDigit || c = '-'

def timestampMillis (timestamp : Option Timestamp) : Except XConfigError ℤ := do
  let value ← orFail timestamp "timestamp"
  failWhen (value.nanos < 0 ∨ 1000000000 ≤ value.nanos ∨ value.nanos % 1000000 ≠ 0) "timestamp"
  let millis := value.seconds * 1000 + value.nanos / 1000000
  failWhen (millis < -2 ^ 63 ∨ 2 ^ 63 ≤ millis ∨ value.seconds * 1000 < -2 ^ 63 ∨ 2 ^ 63 ≤ value.seconds * 1000) "timestamp"
  return millis

def decodeCanonical {M : Type} (format : Format M) (bytes : Bytes) (code : XConfigError) :
    Except XConfigError M := do
  failWhen (bytes = [] ∨ maxEnvelopeBytes < bytes.length) code
  let message ← orFail (format.unmarshal bytes) code
  failWhen (format.marshal message ≠ bytes) code
  return message

def snapshotSignatureDomain : Bytes := bytesOf "peers-touch/x-config/v1" ++ [0]

section

variable [SnapshotFormat] [Digest]

def verifySnapshotWithExpiryPolicy (envelopeBytes : Bytes) (expectedChannel : String)
    (keyring : PublisherKeyring) (nowUnixMs : ℤ) (allowExpired : Bool) :
    Except XConfigError VerifiedSnapshot := do
  failWhen (envelopeBytes = [] ∨ maxEnvelopeBytes < envelopeBytes.length) "snapshot_envelope_size"
  let envelope ← decodeCanonical SnapshotFormat.envelope envelopeBytes "snapshot_envelope"
  failWhen (¬boundedText envelope.signingKeyID 128 ∨ envelope.statementBytes = [] ∨
    maxEnvelopeBytes < envelope.statementBytes.length ∨ envelope.ed25519Signature.length ≠ 64) "snapshot_envelope_fields"
  let key ← orFail (keyring envelope.signingKeyID) "snapshot_signing_key"
  failWhen (¬SnapshotFormat.verify key (snapshotSignatureDomain ++ envelope.statementBytes)
    envelope.ed25519Signature) "snapshot_signature"
  let statement ←
    decodeCanonical SnapshotFormat.statement envelope.statementBytes "snapshot_statement"
  let issuedAt ← timestampMillis statement.issuedAt
  let expiresAt ← timestampMillis statement.expiresAt
  failWhen (statement.schemaVersion ≠ 1 ∨ statement.channel ≠ expectedChannel ∨
    ¬validChannel statement.channel ∨ statement.sequence = 0 ∨ nowUnixMs + clockSkewMs < issuedAt ∨
    ¬allowExpired ∧ expiresAt ≤ nowUnixMs ∨ expiresAt ≤ issuedAt ∨
    maxSnapshotLifetimeMs < expiresAt - issuedAt ∨ 128 < statement.endpointSeeds.length ∨
    64 < statement.releases.length ∨ 32 < statement.directives.length) "snapshot_statement_fields"
  SnapshotFormat.validateEndpointSeeds statement nowUnixMs expiresAt
  SnapshotFormat.validateReleases statement nowUnixMs expiresAt
  SnapshotFormat.validateDirectives statement
  return {
    envelopeBytes, statementBytes := envelope.statementBytes
    statementSHA256 := hashBytes envelope.statementBytes, signingKeyID := envelope.signingKeyID
    statement, expiresAtUnixMs := expiresAt }

def verifySnapshot (envelopeBytes : Bytes) (expectedChannel : String) (keyring : PublisherKeyring)
    (nowUnixMs : ℤ) : Except XConfigError VerifiedSnapshot :=
  verifySnapshotWithExpiryPolicy envelopeBytes expectedChannel keyring nowUnixMs false

def verifyCachedSnapshot (envelopeBytes : Bytes) (expectedChannel : String)
    (keyring : PublisherKeyring) (nowUnixMs : ℤ) : Except XConfigError VerifiedSnapshot :=
  verifySnapshotWithExpiryPolicy envelopeBytes expectedChannel keyring nowUnixMs true

/-! ### The stores -/

structure SecureWatermark where
  (channel signingKeyID : String)
  sequence : ℕ
  statementSHA256 : Hash

structure SnapshotCacheKey where
  sequence : ℕ
  generationSHA256 : Hash

def SnapshotCacheKey.fromWatermark (watermark : SecureWatermark) : SnapshotCacheKey where
  sequence := watermark.sequence
  generationSHA256 := hashBytes (bytesOf watermark.channel ++ [0] ++ bytesOf watermark.signingKeyID ++
    [0] ++ bigEndian 8 watermark.sequence ++ watermark.statementSHA256.bytes)

inductive StoreOp where
  | loadWatermark (channel : String)
  | saveWatermark (watermark : SecureWatermark)
  | loadCandidates (channel : String) (committed : Option SnapshotCacheKey)
  | saveCache (channel : String) (key : SnapshotCacheKey) (envelopeBytes : Bytes)

@[reducible]
def StoreOp.Answer : StoreOp → Type
  | .loadWatermark _ => Except XConfigError (Option SecureWatermark)
  | .loadCandidates _ _ => Except XConfigError (List Bytes)
  | _ => Except XConfigError Unit

/-- What the watermark store has for each channel. -/
abbrev Watermarks : Type := String → Option SecureWatermark

def Performs : (op : StoreOp) → Watermarks → op.Answer → Watermarks → Prop
  | .loadWatermark channel, s, answer, s' => (answer = .ok (s channel) ∨ ∃ e, answer = .error e) ∧ s' = s
  | .saveWatermark watermark, s, answer, s' =>
    s' = Function.update s watermark.channel (some watermark) ∨ (∃ e, answer = .error e) ∧ s' = s
  | .loadCandidates _ _, s, _, s' => s' = s
  | .saveCache _ _ _, s, _, s' => s' = s

/-! ### The coordinator -/

inductive AcceptOutcome where
  | advanced | unchanged

inductive SnapshotOrigin where
  | embedded | persisted

structure SnapshotCoordinator where
  channel : String
  keyring : PublisherKeyring
  current : Option VerifiedSnapshot
  currentOrigin : Option SnapshotOrigin

def SnapshotCoordinator.new (channel : String) (keyring : PublisherKeyring) : SnapshotCoordinator :=
  { channel, keyring, current := none, currentOrigin := none }

def watermarkAllows (watermark : Option SecureWatermark) (candidate : VerifiedSnapshot) :
    Except XConfigError Unit :=
  match watermark with
  | none => .ok ()
  | some watermark =>
    failWhen (watermark.channel ≠ candidate.statement.channel ∨ candidate.statement.sequence < watermark.sequence ∨
      candidate.statement.sequence = watermark.sequence ∧ (candidate.statementSHA256 ≠ watermark.statementSHA256 ∨
          candidate.signingKeyID ≠ watermark.signingKeyID)) "snapshot_watermark_rollback"

def watermarkMatches (watermark : SecureWatermark) (candidate : VerifiedSnapshot) : Bool :=
  watermark.channel = candidate.statement.channel &&
    watermark.sequence = candidate.statement.sequence &&
    watermark.statementSHA256 = candidate.statementSHA256 &&
    watermark.signingKeyID = candidate.signingKeyID

def compareSnapshots (current candidate : VerifiedSnapshot) : Except XConfigError Unit := do
  failWhen (candidate.statement.sequence < current.statement.sequence) "snapshot_sequence_rollback"
  failWhen (candidate.statement.sequence = current.statement.sequence ∧ (candidate.statementBytes ≠ current.statementBytes ∨
    candidate.signingKeyID ≠ current.signingKeyID)) "snapshot_sequence_conflict"

abbrev Task (α : Type) : Type := ExceptT XConfigError (Program StoreOp StoreOp.Answer) α

namespace SnapshotCoordinator

def select (watermark : Option SecureWatermark) (cached : List VerifiedSnapshot)
    (embedded : Option VerifiedSnapshot) : Option (VerifiedSnapshot × SnapshotOrigin) :=
  match watermark with
  | some watermark =>
    ((cached.find? (watermarkMatches watermark)).map (·, .persisted)).or
      ((embedded.filter (watermarkMatches watermark)).map (·, .embedded))
  | none => embedded.map (·, .embedded)

def initializeFrom (c : SnapshotCoordinator) (embedded : Option Bytes) (nowUnixMs : ℤ) :
    Task SnapshotCoordinator := do
  let verified bytes := (verifyCachedSnapshot bytes c.channel c.keyring nowUnixMs).toOption
  let watermark ← ExceptT.mk (.call (StoreOp.loadWatermark c.channel))
  let candidates ← ExceptT.mk (.call (StoreOp.loadCandidates c.channel (watermark.map SnapshotCacheKey.fromWatermark)))
  let selected := select watermark (candidates.filterMap verified) (embedded.bind verified)
  return { c with current := selected.map Prod.fst, currentOrigin := selected.map Prod.snd }

/-- The part of `accept_remote` that looks at the current snapshot: whether it is the candidate. -/
def isCurrent (c : SnapshotCoordinator) (candidate : VerifiedSnapshot) : Except XConfigError Bool :=
  match c.current with
  | none => .ok false
  | some current => do
    compareSnapshots current candidate
    return current.statement.sequence = candidate.statement.sequence

def acceptRemote (c : SnapshotCoordinator) (envelopeBytes : Bytes) (nowUnixMs : ℤ) :
    Task (AcceptOutcome × SnapshotCoordinator) := do
  let candidate ← verifySnapshot envelopeBytes c.channel c.keyring nowUnixMs
  let watermark ← ExceptT.mk (.call (StoreOp.loadWatermark c.channel))
  watermarkAllows watermark candidate
  if ← c.isCurrent candidate then
    return (.unchanged, c)
  else
    let nextWatermark : SecureWatermark := {
      channel := c.channel, signingKeyID := candidate.signingKeyID
      sequence := candidate.statement.sequence, statementSHA256 := candidate.statementSHA256 }
    let cacheKey := SnapshotCacheKey.fromWatermark
      { nextWatermark with channel := candidate.statement.channel }
    ExceptT.mk (.call (StoreOp.saveCache c.channel cacheKey candidate.envelopeBytes))
    ExceptT.mk (.call (StoreOp.saveWatermark nextWatermark))
    return (.advanced, { c with current := some candidate, currentOrigin := some .persisted })

end SnapshotCoordinator

/-! ### Runs of a device -/

/-- What the device keeps, and the coordinator if the process is running. -/
structure Device where
  watermarks : Watermarks
  coordinator : Option SnapshotCoordinator

def Device.current (d : Device) : Option VerifiedSnapshot := d.coordinator.bind SnapshotCoordinator.current

inductive Call where
  | initializeFrom (embedded : Option Bytes) (nowUnixMs : ℤ)
  | acceptRemote (envelopeBytes : Bytes) (nowUnixMs : ℤ)

def Call.run (c : SnapshotCoordinator) : Call → Task SnapshotCoordinator
  | .initializeFrom embedded now => c.initializeFrom embedded now
  | .acceptRemote bytes now => do
    let (_, c') ← c.acceptRemote bytes now
    return c'

/-- One event on a device. A call that is refused leaves the coordinator as it was; one that is stopped
ends the process. -/
inductive Device.Step (channel : String) : Device → Device → Prop
  | start (d : Device) (keyring : PublisherKeyring) :
      Step channel d { d with coordinator := some (.new channel keyring) }
  | call {c : SnapshotCoordinator} {w w' : Watermarks} {call : Call}
      {result : Except XConfigError SnapshotCoordinator}
      (h : (call.run c).run.Returns Performs w result w') :
      Step channel ⟨w, some c⟩ ⟨w', some (result.toOption.getD c)⟩
  | stop {c : SnapshotCoordinator} {w w' : Watermarks} {call : Call}
      (h : (call.run c).run.Halts Performs w w') : Step channel ⟨w, some c⟩ ⟨w', none⟩

/-! ### Nothing older becomes current -/

def Signed (statementBytes : Bytes) : Prop :=
  ∃ key signature, SnapshotFormat.verify key (snapshotSignatureDomain ++ statementBytes) signature = true

structure VerifiedSnapshot.Sound (x : VerifiedSnapshot) (channel : String) : Prop where
  signed : Signed x.statementBytes
  hashed : x.statementSHA256 = hashBytes x.statementBytes
  decoded : SnapshotFormat.statement.unmarshal x.statementBytes = some x.statement
  channel : x.statement.channel = channel

def VerifiedSnapshot.watermark (x : VerifiedSnapshot) : SecureWatermark :=
  { x with channel := x.statement.channel, sequence := x.statement.sequence }

/-- The second watermark is the first one or has a higher sequence. -/
def SecureWatermark.UpTo (a b : SecureWatermark) : Prop := a.sequence < b.sequence ∨ a = b

section

omit [SnapshotFormat] [Digest]

variable {a : SecureWatermark}

lemma SecureWatermark.UpTo.trans {b c : SecureWatermark} (h : a.UpTo b) (h' : b.UpTo c) : a.UpTo c := by
  rcases h with h | rfl
  · rcases h' with h' | rfl
    · exact .inl (h.trans h')
    · exact .inl h
  · exact h'

variable {x : VerifiedSnapshot}

lemma watermarkMatches_iff : watermarkMatches a x = true ↔ a = x.watermark := by
  obtain ⟨channel, key, sequence, hash⟩ := a
  simp only [watermarkMatches, VerifiedSnapshot.watermark, Bool.and_eq_true, decide_eq_true_eq, SecureWatermark.mk.injEq]
  tauto

lemma upTo_of_watermarkAllows (h : watermarkAllows (some a) x = .ok ()) : a.UpTo x.watermark := by
  simp only [watermarkAllows, failWhen_eq_ok, not_or, not_and, not_not] at h
  obtain ⟨hchan, hle, hsame⟩ := h
  rcases (not_lt.1 hle).lt_or_eq with hlt | heq
  · exact .inl hlt
  · obtain ⟨hhash, hkey⟩ := hsame heq.symm
    refine .inr ?_
    exact (SecureWatermark.mk.injEq ..).mpr ⟨hchan, hkey.symm, heq, hhash.symm⟩

lemma SnapshotCoordinator.mem_select {watermark : SecureWatermark}
    {cached : List VerifiedSnapshot} {embedded : Option VerifiedSnapshot} {origin : SnapshotOrigin}
    (h : select (some watermark) cached embedded = some (x, origin)) :
    (x ∈ cached ∨ embedded = some x) ∧ watermark = x.watermark := by
  rw [select, or_eq_some_iff] at h
  rcases h with h | ⟨-, h⟩
  · obtain ⟨y, hy, heq⟩ := map_eq_some_iff.1 h
    cases heq
    exact ⟨.inl (mem_of_find?_eq_some hy), watermarkMatches_iff.1 (find?_some hy)⟩
  · obtain ⟨y, hy, heq⟩ := map_eq_some_iff.1 h
    cases heq
    obtain ⟨hy, hmat⟩ := filter_eq_some_iff.1 hy
    exact ⟨.inr hy, watermarkMatches_iff.1 hmat⟩

end

variable {channel : String} {keyring : PublisherKeyring} {bytes : Bytes} {now : ℤ}
  {x : VerifiedSnapshot} {a : SecureWatermark} {c : SnapshotCoordinator} {w : Watermarks}

lemma sound_of_verify {allowExpired : Bool}
    (h : verifySnapshotWithExpiryPolicy bytes channel keyring now allowExpired = .ok x) : x.Sound channel := by
  simp only [verifySnapshotWithExpiryPolicy, ok_iff, not_or, not_not] at h
  obtain ⟨-, envelope, -, -, key, -, hver, statement, hstmt, _, -, _, -, hflds, -, -, -,
    rfl⟩ := h
  simp only [decodeCanonical, ok_iff] at hstmt
  obtain ⟨-, _, hdec, -, rfl⟩ := hstmt
  exact ⟨⟨key, _, hver⟩, rfl, hdec, hflds.2.1⟩

/-- The store has the watermark, or a later one. -/
def Watermarks.Passed (w : Watermarks) (a : SecureWatermark) : Prop := ∃ b, w a.channel = some b ∧ a.UpTo b

/-- The coordinator has nothing older than the watermark. -/
structure SnapshotCoordinator.Passed (c : SnapshotCoordinator) (a : SecureWatermark) : Prop where
  channel : c.channel = a.channel
  current : ∀ y, c.current = some y → y.Sound a.channel ∧ a.UpTo y.watermark

lemma SnapshotCoordinator.Passed.initializeFrom (hc : c.Passed a) (hw : w.Passed a)
    (embedded : Option Bytes) (now : ℤ) : (c.initializeFrom embedded now).run.wp Performs (fun w => w.Passed a)
    (fun r w => w.Passed a ∧ ∀ c', r = .ok c' → c'.Passed a) w := by
  refine wp_call fun r w₁ hload => ?_
  obtain ⟨hans, rfl⟩ := hload
  refine ⟨hw, ?_⟩
  rcases hans with rfl | ⟨e, rfl⟩
  · refine wp_call fun r w₂ hcands => ?_
    obtain rfl : w₂ = w₁ := hcands
    refine ⟨hw, ?_⟩
    cases r with
    | error e => exact ⟨hw, nofun⟩
    | ok candidates =>
      refine ⟨hw, fun c' hc' => ?_⟩
      cases hc'
      refine ⟨hc.channel, fun y hy => ?_⟩
      obtain ⟨b, hb, hle⟩ := hw
      simp only [map_eq_some_iff, Prod.exists, hc.channel, hb] at hy
      obtain ⟨_, origin, hselect, rfl⟩ := hy
      obtain ⟨hmem, rfl⟩ := SnapshotCoordinator.mem_select hselect
      refine ⟨?_, hle⟩
      -- a cached snapshot and an embedded one are verified in the same way
      simp only [mem_filterMap, bind_eq_some_iff, toOption_eq_some] at hmem
      rcases hmem with ⟨_, -, hver⟩ | ⟨_, -, hver⟩
      · exact sound_of_verify hver
      · exact sound_of_verify hver
  · exact ⟨hw, nofun⟩

/-- What has to be shown of an acceptance. It writes only the watermark of the candidate, and only if
the watermark before allows the candidate. -/
lemma SnapshotCoordinator.wp_acceptRemote {C : Watermarks → Prop}
    {Q : Except XConfigError (AcceptOutcome × SnapshotCoordinator) → Watermarks → Prop}
    (hC : C w) (href : ∀ e, Q (.error e) w) (hunchanged : Q (.ok (.unchanged, c)) w)
    (hsv : ∀ x, verifySnapshot bytes c.channel c.keyring now = .ok x →
      watermarkAllows (w c.channel) x = .ok () → ∀ w', w' = update w c.channel x.watermark → C w' ∧ (∀ e, Q (.error e) w') ∧
        Q (.ok (.advanced, { c with current := some x, currentOrigin := some .persisted })) w') :
    (c.acceptRemote bytes now).run.wp Performs C Q w := by
  refine wp_run_lift_bind (fun e _ => href e) fun x hver => ?_
  have hchan : x.statement.channel = c.channel := (sound_of_verify hver).channel
  refine wp_run_bind.2 (wp_call fun r w₁ ⟨hans, hw₁⟩ => ?_)
  subst hw₁
  refine ⟨hC, ?_⟩
  rcases hans with rfl | ⟨e, rfl⟩
  · refine wp_run_lift_bind (fun e _ => href e) fun _ hall => ?_
    refine wp_run_lift_bind (fun e _ => href e) fun current _ => ?_
    cases current with
    | true => exact hunchanged
    | false =>
      refine wp_run_bind.2 (wp_call fun r w₂ hcache => ?_)
      obtain rfl : w₂ = w₁ := hcache
      refine ⟨hC, ?_⟩
      cases r with
      | error e => exact href e
      | ok =>
        refine wp_run_bind.2 (wp_call fun r w₃ hsave => ?_)
        have hadv := hsv x hver hall
        rw [VerifiedSnapshot.watermark, hchan] at hadv
        rcases hsave with hsave | ⟨⟨e, rfl⟩, rfl⟩
        · obtain ⟨hC', hfailed, hadvanced⟩ := hadv w₃ hsave
          refine ⟨hC', ?_⟩
          cases r with
          | error e => exact hfailed e
          | ok => exact hadvanced
        · exact ⟨hC, href e⟩
  · exact href e

/-- A candidate that the watermark allows and that is not current yet is taken, if the stores answer. -/
lemma SnapshotCoordinator.exists_acceptRemote (hver : verifySnapshot bytes c.channel c.keyring now = .ok x)
    (hall : watermarkAllows (w c.channel) x = .ok ()) (hcur : c.isCurrent x = .ok false) :
    ∃ c' w', (c.acceptRemote bytes now).run.Returns Performs w (.ok (.advanced, c')) w' := by
  refine ⟨{ c with current := some x, currentOrigin := some .persisted },
    update w c.channel (some { x.watermark with channel := c.channel }), ?_⟩
  unfold acceptRemote
  rw [hver]
  refine .perform ⟨.inl rfl, rfl⟩ ?_
  show Program.Returns Performs ((liftM (watermarkAllows (w c.channel) x) : Task Unit) >>= _).run w _ _
  rw [hall]
  rw [hcur]
  refine .perform (r := .ok ()) rfl ?_
  refine .perform (r := .ok ()) (.inl rfl) ?_
  exact .done _ _

/-- The device keeps the watermark or a later one, and nothing older is current. -/
structure Device.Passed (d : Device) (a : SecureWatermark) : Prop where
  watermarks : d.watermarks.Passed a
  coordinator : ∀ c, d.coordinator = some c → c.Passed a

lemma SnapshotCoordinator.Passed.acceptRemote (hc : c.Passed a) (hw : w.Passed a) (bytes : Bytes) (now : ℤ) :
    (c.acceptRemote bytes now).run.wp Performs (fun w => w.Passed a)
    (fun r w => w.Passed a ∧ ∀ o c', r = .ok (o, c') → c'.Passed a) w := by
  refine wp_acceptRemote hw (fun _ => ⟨hw, nofun⟩) ⟨hw, fun _ _ h => by cases h; exact hc⟩ ?_
  rintro x hver hall _ rfl
  have hsound : x.Sound a.channel := hc.channel ▸ sound_of_verify hver
  -- the watermark that is replaced allowed the candidate
  obtain ⟨b, hb, hle⟩ := hw
  rw [hc.channel, hb] at hall
  have hx : a.UpTo x.watermark := hle.trans (upTo_of_watermarkAllows hall)
  have hw' : Watermarks.Passed (update w c.channel x.watermark) a := ⟨x.watermark, by rw [hc.channel, update_self], hx⟩
  refine ⟨hw', fun _ => ⟨hw', nofun⟩, hw', fun _ _ h => ?_⟩
  cases h
  refine ⟨hc.channel, fun y hy => ?_⟩
  cases hy
  exact ⟨hsound, hx⟩

lemma SnapshotCoordinator.Passed.call (hc : c.Passed a) (hw : w.Passed a) (call : Call) :
    (call.run c).run.wp Performs (fun w => w.Passed a) (fun r w => w.Passed a ∧ ∀ c', r = .ok c' → c'.Passed a) w := by
  cases call with
  | initializeFrom embedded now => exact hc.initializeFrom hw embedded now
  | acceptRemote bytes now =>
    refine wp_run_bind.2 (Program.wp_mono (hc.acceptRemote hw bytes now) ?_)
    rintro (e | ⟨o, c'⟩) w' ⟨hw', hc'⟩
    · exact ⟨hw', nofun⟩
    · refine ⟨hw', fun _ h => ?_⟩
      cases h
      exact hc' o c' rfl

lemma Device.Passed.step {d d' : Device} (h : d.Passed a) (hstep : Step a.channel d d') : d'.Passed a := by
  cases hstep with
  | start d keyring =>
    refine ⟨h.watermarks, fun c hc => ?_⟩
    cases hc
    exact ⟨rfl, nofun⟩
  | @call c w w' call res hret =>
    have hc := h.coordinator c rfl
    obtain ⟨hw, hres⟩ := wp_of_returns (hc.call h.watermarks call) hret
    refine ⟨hw, fun c' hc' => ?_⟩
    cases hc'
    cases res with
    | error e => exact hc
    | ok c' => exact hres c' rfl
  | @stop c w w' call hhalts =>
    have hw := Program.wp_of_halts ((h.coordinator c rfl).call h.watermarks call) hhalts
    exact ⟨hw, nofun⟩

lemma Device.Passed.run {d d' : Device} (h : d.Passed a)
    (hrun : Relation.ReflTransGen (Step a.channel) d d') : d'.Passed a := by
  induction hrun with
  | refl => exact h
  | tail _ hstep ih => exact ih.step hstep

/-- After an advance to a snapshot, whatever happens to the device, a snapshot that is current has a
higher sequence or is the same statement under the same key. -/
theorem config_never_rolls_back (hideal : Set.InjOn hashBytes {bytes | Signed bytes})
    {c c' : SnapshotCoordinator} {w w' : Watermarks} {bytes : Bytes} {now : ℤ}
    (haccept : (c.acceptRemote bytes now).run.Returns Performs w (.ok (.advanced, c')) w') :
    ∃ x, verifySnapshot bytes c.channel c.keyring now = .ok x ∧ c'.current = some x ∧
      ∀ d, Relation.ReflTransGen (Device.Step c.channel) ⟨w', some c'⟩ d →
        ∀ y, d.current = some y → x.statement.sequence < y.statement.sequence ∨
          x.statement.sequence = y.statement.sequence ∧ x.statement = y.statement ∧
            x.statementBytes = y.statementBytes ∧ x.signingKeyID = y.signingKeyID := by
  have hadv : (c.acceptRemote bytes now).run.wp Performs (fun _ => True) (fun r w' => ∀ c', r = .ok (.advanced, c') →
        ∃ x, verifySnapshot bytes c.channel c.keyring now = .ok x ∧ c'.current = some x ∧
          c'.channel = c.channel ∧ w' c.channel = some x.watermark) w := by
    refine SnapshotCoordinator.wp_acceptRemote trivial (fun _ => nofun) nofun ?_
    rintro x hver - _ rfl
    refine ⟨trivial, fun _ => nofun, fun c' hc' => ?_⟩
    cases hc'
    exact ⟨x, hver, rfl, rfl, update_self ..⟩
  obtain ⟨x, hver, hx, hchannel, hwatermark⟩ := wp_of_returns hadv haccept c' rfl
  refine ⟨x, hver, hx, fun d hrun y hy => ?_⟩
  have hsound : x.Sound c.channel := sound_of_verify hver
  have hxc : x.watermark.channel = c.channel := hsound.channel
  have hstart : Device.Passed ⟨w', some c'⟩ x.watermark := by
    refine ⟨⟨_, hxc ▸ hwatermark, .inr rfl⟩, fun _ h => ?_⟩
    cases h
    refine ⟨hchannel.trans hxc.symm, fun z hz => ?_⟩
    obtain rfl := some.inj (hx.symm.trans hz)
    exact ⟨hxc ▸ hsound, .inr rfl⟩
  have hpassed : d.Passed x.watermark := hstart.run (hxc ▸ hrun)
  obtain ⟨c₁, hc₁, hy⟩ := bind_eq_some_iff.1 hy
  obtain ⟨hysound, hle⟩ := (hpassed.coordinator c₁ hc₁).current y hy
  rcases hle with hlt | heq
  · exact .inl hlt
  · obtain ⟨-, hkey, hseq, hhash⟩ := (SecureWatermark.mk.injEq ..).mp heq
    have hbytes : x.statementBytes = y.statementBytes :=
      hideal hsound.signed hysound.signed (hsound.hashed.symm.trans (hhash.trans hysound.hashed))
    have hstmt := hsound.decoded
    rw [hbytes, hysound.decoded] at hstmt
    exact .inr ⟨hseq, (some.inj hstmt).symm, hbytes, hkey⟩

end

instance : Codec SignedXConfigSnapshot := .via (fun ⟨a, b, c⟩ => (a, b, c)) (fun (a, b, c) => ⟨a, b, c⟩) fun _ => rfl

instance : Codec Timestamp := .via (fun ⟨a, b⟩ => (a, b)) (fun (a, b) => ⟨a, b⟩) fun _ => rfl

instance : Codec XConfigSnapshotStatement :=
  .via (fun ⟨a, b, c, d, e, f, g, h⟩ => (a, b, c, d, e, f, g, h))
    (fun (a, b, c, d, e, f, g, h) => ⟨a, b, c, d, e, f, g, h⟩) fun _ => rfl

def sampleStatement : XConfigSnapshotStatement where
  schemaVersion := 1
  channel := "stable"
  sequence := 7
  issuedAt := some ⟨0, 0⟩
  expiresAt := some ⟨60, 0⟩
  endpointSeeds := []
  releases := []
  directives := []

/-- A format in which only one statement was ever signed. -/
@[reducible]
def sampleFormat : SnapshotFormat where
  envelope := Codec.format _
  statement := Codec.format _
  verify _ message _ := message = snapshotSignatureDomain ++ Codec.encode sampleStatement
  validateEndpointSeeds _ _ _ := .ok ()
  validateReleases _ _ _ := .ok ()
  validateDirectives _ := .ok ()

def sampleEnvelope : Bytes :=
  Codec.encode (⟨"publisher", Codec.encode sampleStatement, List.replicate 64 0⟩ :
    SignedXConfigSnapshot)

set_option maxRecDepth 10000 in
/-- A new device takes the snapshot with the sequence 7 and never an older one. -/
theorem first_config_stays :
    letI := sampleFormat
    letI := Chat.checksum
    ∃ c' w' x, ((SnapshotCoordinator.new "stable" fun _ => some []).acceptRemote sampleEnvelope
        0).run.Returns Performs (fun _ => none) (.ok (.advanced, c')) w' ∧
      c'.current = some x ∧ x.statement.sequence = 7 ∧
      ∀ d, Relation.ReflTransGen (Device.Step "stable") ⟨w', some c'⟩ d →
        ∀ y, d.current = some y → 7 ≤ y.statement.sequence := by
  let _ := sampleFormat
  let _ := Chat.checksum
  have hseq : (verifySnapshot sampleEnvelope "stable" (fun _ => some []) 0).map
      (fun x => x.statement.sequence) = .ok 7 := by decide
  obtain ⟨x, hver, hx⟩ := map_eq_ok.1 hseq
  obtain ⟨c', w', haccept⟩ := SnapshotCoordinator.exists_acceptRemote
    (c := .new "stable" fun _ => some []) (w := fun _ => none) hver rfl rfl
  have hideal : Set.InjOn hashBytes {bytes | Signed bytes} := by
    rintro b ⟨_, _, hb⟩ b' ⟨_, _, hb'⟩ -
    exact (append_cancel_left (of_decide_eq_true hb)).trans (append_cancel_left (of_decide_eq_true hb')).symm
  obtain ⟨y, hy, hcur, hlater⟩ := config_never_rolls_back hideal haccept
  obtain rfl := Except.ok.inj (hver.symm.trans hy)
  refine ⟨c', w', x, haccept, hcur, hx, fun d hrun z hz => ?_⟩
  rcases hlater d hrun z hz with hlt | ⟨heq, -⟩
  · exact hx ▸ hlt.le
  · exact hx ▸ heq.le

end PeersTouch.Config
