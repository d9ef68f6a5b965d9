import PeersTouch.Federation.OutboxLeases
import PeersTouch.Actors.Actor

/-!
# Which social messages can be sent

The name of a social frame is made of a hash, so it is always a good identifier, and what decides whether a message
can be signed and sent are the identifiers, the payload and the times it brings (`Sendable`).
-/

namespace PeersTouch.Social

open Lib Chat Federation List Timestamp Frame

/-! ### Identifiers -/

/-- A text that is not empty and has no blanks at its ends. -/
def Canonical (s : String) : Prop := s ≠ "" ∧ trimSpace s = s

variable {s : String}

lemma not_badIdentifier : ¬BadIdentifier s ↔ Canonical s ∧ s.utf8ByteSize ≤ 255 := by
  simp [BadIdentifier, Canonical, maxIdentifierBytes, and_assoc, eq_comm]

lemma validateIdentifier_iff {name : String} {maximum : ℤ} :
    validateIdentifier name s maximum = .ok () ↔ Canonical s ∧ (s.utf8ByteSize : ℤ) ≤ maximum := by
  simp [validateIdentifier, Canonical, eq_comm (b := trimSpace s)]

lemma trimSpace_eq_self (hfst : ∀ c ∈ s.toList.head?, isSpace c = false)
    (hlast : ∀ c ∈ s.toList.getLast?, isSpace c = false) : trimSpace s = s := by
  have hdrop : ∀ l : List Char, (∀ c ∈ l.head?, isSpace c = false) → l.dropWhile isSpace = l := by
    intro l hl
    cases l with
    | nil => rfl
    | cons c l => simp [hl c rfl]
  unfold trimSpace
  rw [hdrop _ hfst, hdrop _ (by rwa [head?_reverse]), reverse_reverse, String.ofList_toList]

lemma Canonical.getLast (h : Canonical s) : ∀ c ∈ s.toList.getLast?, isSpace c = false := by
  intro c hc
  have hlist := congrArg String.toList h.2
  rw [trimSpace, String.toList_ofList] at hlist
  rw [← hlist, getLast?_reverse] at hc
  have hhead := head?_dropWhile_not isSpace (s.toList.dropWhile isSpace).reverse
  rw [Option.mem_def.1 hc] at hhead
  simpa using hhead

lemma Canonical.append {p : String} {c : Char} (h : Canonical s) (hp : p.toList.head? = some c)
    (hc : isSpace c = false) : Canonical (p ++ s) := by
  have hne : s.toList ≠ [] := by
    intro hnil
    exact h.1 (String.toList_inj.1 hnil)
  refine ⟨?_, trimSpace_eq_self ?_ ?_⟩
  · intro hemp
    have := congrArg String.toList hemp
    rw [String.toList_append] at this
    exact hne (append_eq_nil_iff.1 this).2
  · intro a ha
    rw [String.toList_append, head?_append, hp] at ha
    cases ha
    exact hc
  · intro a ha
    rw [String.toList_append, getLast?_append_of_ne_nil _ hne] at ha
    exact h.getLast a ha

lemma canonical_of_forall (hne : s ≠ "") (h : ∀ c ∈ s.toList, isSpace c = false) : Canonical s :=
  ⟨hne, trimSpace_eq_self (fun c hc => h c (mem_of_mem_head? hc)) fun c hc => h c (mem_of_mem_getLast? hc)⟩

lemma mem_hexEncode {bytes : Bytes} {c : Char} (hc : c ∈ (hexEncode bytes).toList) : ∃ n < 16, c = hexDigit n := by
  rw [hexEncode, String.toList_ofList, mem_flatMap] at hc
  obtain ⟨b, -, hb⟩ := hc
  have hlt := b.toNat_lt
  simp only [mem_cons, not_mem_nil, or_false] at hb
  rcases hb with rfl | rfl
  · exact ⟨_, by omega, rfl⟩
  · exact ⟨_, by omega, rfl⟩

lemma utf8ByteSize_hexEncode (bytes : Bytes) : (hexEncode bytes).utf8ByteSize = 2 * bytes.length := by
  have hdigit : ∀ n < 16, (hexDigit n).utf8Size = 1 := by decide
  induction bytes with
  | nil => rfl
  | cons b bytes ih =>
    have hlt := b.toNat_lt
    unfold hexEncode at ih ⊢
    rw [flatMap_cons, String.ofList_append, String.utf8ByteSize_append, length_cons,
      String.ofList_cons, String.ofList_cons, String.utf8ByteSize_append,
      String.utf8ByteSize_append, String.utf8ByteSize_singleton, String.utf8ByteSize_singleton,
      hdigit _ (by omega), hdigit _ (by omega), String.utf8ByteSize_empty]
    omega

lemma canonical_frameIdentity [Digest] (parts : List String) : Canonical (stableFrameIdentity parts) := by
  have hspace : ∀ n < 16, isSpace (hexDigit n) = false := by decide
  refine canonical_of_forall ?_ fun c hc => ?_
  · intro hemp
    have hsize := utf8ByteSize_hexEncode (Chat.hashBytes (parts.flatMap fun part => 0 :: Chat.bytesOf part)).bytes
    unfold stableFrameIdentity at hemp
    rw [hemp, Chat.Hash.length_bytes] at hsize
    exact absurd hsize (by decide)
  · obtain ⟨n, hn, rfl⟩ := mem_hexEncode hc
    exact hspace n hn

lemma utf8ByteSize_frameIdentity [Digest] (parts : List String) : (stableFrameIdentity parts).utf8ByteSize = 64 := by
  rw [stableFrameIdentity, utf8ByteSize_hexEncode, Chat.Hash.length_bytes]

lemma canonical_toString {n : ℤ} (hn : 0 ≤ n) : Canonical (toString n) := by
  obtain ⟨m, rfl⟩ := Int.eq_ofNat_of_zero_le hn
  have hrepr : toString (m : ℤ) = m.repr := rfl
  rw [hrepr]
  refine canonical_of_forall Nat.repr_ne_empty fun c hc => ?_
  rw [Nat.toList_repr] at hc
  have hdigit := Nat.isDigit_of_mem_toDigits (by decide) (by decide) hc
  simp only [Char.isDigit, Bool.and_eq_true, decide_eq_true_eq] at hdigit
  have hlow : 48 ≤ c.toNat := hdigit.1
  have hhigh : c.toNat ≤ 57 := hdigit.2
  simp only [isSpace, Bool.or_eq_false_iff, Bool.and_eq_false_iff, beq_eq_false_iff_ne, decide_eq_false_iff_not]
  omega

/-! ### Signed frames -/

/-- What a message and its times have to be like for its frame to be sent. -/
structure Sendable (source target payloadID orderingKey : String) (orderingSequence : ℤ) (payload : Bytes)
    (issuedAt expiresAt : Time) : Prop where
  source_fits : Canonical source ∧ source.utf8ByteSize ≤ 512
  target_fits : Canonical target ∧ target.utf8ByteSize ≤ 512
  payloadID_fits : Canonical payloadID ∧ payloadID.utf8ByteSize ≤ 512
  orderingKey_fits : Canonical orderingKey ∧ orderingKey.utf8ByteSize ≤ 512
  sequence_nonneg : 0 ≤ orderingSequence
  payload_fits : payload ≠ [] ∧ payload.length ≤ 8388608
  issuedAt_valid : (Timestamp.ofTime issuedAt).checkValid = .ok ()
  expiresAt_valid : (Timestamp.ofTime expiresAt).checkValid = .ok ()
  lifetime : issuedAt < expiresAt ∧ expiresAt - issuedAt ≤ 86400000000000

def KeyFits (signer : Signer) : Prop := Canonical (trimSpace signer.keyID) ∧ (trimSpace signer.keyID).utf8ByteSize ≤ 512

def SignatureFits (signature : Bytes) : Prop := signature ≠ [] ∧ signature.length ≤ 512

lemma asTime_ofTime (t : Time) : (ofTime t).asTime = t := by
  simp only [asTime, ofTime]
  rw [Int.sub_add_cancel, Int.mul_comm]
  exact Int.mul_ediv_add_emod t 1000000000

variable {frame : Frame} {now : Time}

lemma validateFrame_iff [Digest] {policy : Federation.FramePolicy}
    {requireSignature requireLocalTarget : Bool} :
    validateFrame frame policy now requireSignature requireLocalTarget = .ok () ↔
    Federation.validateFramePolicy policy requireLocalTarget = .ok () ∧ frame.unknown = [] ∧
    frame.formatVersion = policy.formatVersion ∧
    (∀ p ∈ frame.identifiers, Canonical p.2 ∧ (p.2.utf8ByteSize : ℤ) ≤ policy.maxIdentifierBytes) ∧
    (frame.traceID ≠ "" → Canonical frame.traceID ∧ (frame.traceID.utf8ByteSize : ℤ) ≤ policy.maxIdentifierBytes) ∧
    (requireLocalTarget = true → frame.targetStationPeerID = policy.localStationPeerID) ∧
    frame.payloadKind.number ≠ 0 ∧ 0 ≤ frame.orderingSequence ∧
    (frame.opaquePayload ≠ [] ∧ (frame.opaquePayload.length : ℤ) ≤ policy.maxPayloadBytes) ∧
    (frame.payloadSHA256.length = 32 ∧ frame.payloadSHA256 = payloadSHA256 frame.opaquePayload) ∧
    ∃ issuedAt expiresAt, frame.issuedAt = some issuedAt ∧ frame.expiresAt = some expiresAt ∧
    issuedAt.checkValid = .ok () ∧ expiresAt.checkValid = .ok () ∧ (issuedAt.unknown = [] ∧ expiresAt.unknown = []) ∧
    (issuedAt.asTime < expiresAt.asTime ∧ expiresAt.asTime - issuedAt.asTime ≤ policy.maxLifetime ∧
    (now ≠ 0 → issuedAt.asTime ≤ now + policy.maxClockSkew) ∧ (now ≠ 0 → now < expiresAt.asTime)) ∧
    (requireSignature = true → frame.stationSignature ≠ [] ∧
    (frame.stationSignature.length : ℤ) ≤ policy.maxSignatureBytes) := by
  have htr : (if frame.traceID = "" then Except.ok ()
    else validateIdentifier "trace_id" frame.traceID policy.maxIdentifierBytes) = .ok () ↔
      (frame.traceID ≠ "" → Canonical frame.traceID ∧ (frame.traceID.utf8ByteSize : ℤ) ≤ policy.maxIdentifierBytes) := by
    split_ifs with hemp
    · simp [hemp]
    · simp [hemp, validateIdentifier_iff]
  have hids : (frame.identifiers.forM fun p => validateIdentifier p.1 p.2 policy.maxIdentifierBytes) = .ok () ↔
      ∀ p ∈ frame.identifiers, Canonical p.2 ∧ (p.2.utf8ByteSize : ℤ) ≤ policy.maxIdentifierBytes := by
    refine Iff.trans forM_eq_ok ?_
    simp only [validateIdentifier_iff]
  simp only [validateFrame, Federation.validateLifetime, ok_iff, Federation.requireTimestamp,
    Federation.checkTimestamp, htr, hids, not_or, not_not, not_and, not_lt, not_le, exists_and_left]

section

variable [Digest] {kind : PayloadKind} {kindName source target payloadID orderingKey : String}
  {orderingSequence : ℤ} {payload : Bytes} {issuedAt expiresAt : Time} {signer : Signer} {frame : Frame}
  (hframe : frame = socialFrame kind kindName source target payloadID orderingKey orderingSequence payload
    issuedAt expiresAt)

include hframe

/-- The checks of a social frame with a signature, or with none. -/
lemma validateFrame_signed (hkind : kind.number ≠ 0) (signature : Bytes) (now : Time)
    (requireSignature requireLocalTarget : Bool) :
    validateFrame (frame.signed signer signature) (defaultFramePolicy target) now requireSignature
    requireLocalTarget = .ok () ↔
    Sendable source target payloadID orderingKey orderingSequence payload issuedAt expiresAt ∧
    KeyFits signer ∧ (now ≠ 0 → issuedAt ≤ now + 30000000000 ∧ now < expiresAt) ∧
    (requireSignature = true → SignatureFits signature) := by
  subst hframe
  have hident := canonical_frameIdentity [kindName, source, target, payloadID]
  have hsize := utf8ByteSize_frameIdentity [kindName, source, target, payloadID]
  have hframeID := hident.append (p := "social-frame:") (c := 's') rfl rfl
  have hkey := hident.append (p := "social-idempotency:") (c := 's') rfl rfl
  have hframeSize := String.utf8ByteSize_append (s := "social-frame:")
    (t := stableFrameIdentity [kindName, source, target, payloadID])
  have hkeySize := String.utf8ByteSize_append (s := "social-idempotency:")
    (t := stableFrameIdentity [kindName, source, target, payloadID])
  rw [validateFrame_iff]
  constructor
  · rintro ⟨-, -, -, hids, -, -, -, hseq, hpay, -, t, t', ht, ht', hval, hval', -,
      ⟨hbef, hlife, hskew, hnow⟩, hsig⟩
    cases ht
    cases ht'
    simp only [identifiers, forall_mem_cons] at hids
    obtain ⟨-, hsrc, htgt, -, hpayloadID, hordering, hkeyID, -⟩ := hids
    rw [asTime_ofTime, asTime_ofTime] at hbef hlife
    rw [asTime_ofTime] at hskew hnow
    refine ⟨⟨hsrc.imp_right Int.ofNat_le.1, htgt.imp_right Int.ofNat_le.1,
      hpayloadID.imp_right Int.ofNat_le.1, hordering.imp_right Int.ofNat_le.1, hseq,
      hpay.imp_right Int.ofNat_le.1, hval, hval', hbef, hlife⟩,
      hkeyID.imp_right Int.ofNat_le.1, fun hzero => ⟨hskew hzero, hnow hzero⟩, fun hrequire => ?_⟩
    exact (hsig hrequire).imp_right Int.ofNat_le.1
  · rintro ⟨h, hkeyID, hclock, hsig⟩
    have htgt : ¬(trimSpace target = "" ∨ target ≠ trimSpace target) := by
      rw [h.target_fits.1.2]
      exact fun hbad => hbad.elim h.target_fits.1.1 (· rfl)
    refine ⟨?_, rfl, rfl, ?_, fun hne => absurd rfl hne, fun _ => rfl, hkind, h.sequence_nonneg,
      h.payload_fits.imp_right Int.ofNat_le.2, ⟨Chat.Hash.length_bytes _, rfl⟩, _, _, rfl, rfl,
      h.issuedAt_valid, h.expiresAt_valid, ⟨rfl, rfl⟩, ?_, fun hrequire => ?_⟩
    · rw [Federation.validateFramePolicy, failWhen_of_not fun hbad => htgt hbad.2]
      rfl
    · simp only [identifiers, socialFrame, signed, prepared, forall_mem_cons]
      refine ⟨⟨hframeID, ?_⟩, h.source_fits.imp_right Int.ofNat_le.2,
        h.target_fits.imp_right Int.ofNat_le.2, ⟨hkey, ?_⟩, h.payloadID_fits.imp_right Int.ofNat_le.2,
        h.orderingKey_fits.imp_right Int.ofNat_le.2, hkeyID.imp_right Int.ofNat_le.2, by simp⟩
      · rw [hframeSize, hsize]
        exact Int.ofNat_le.2 (by decide)
      · rw [hkeySize, hsize]
        exact Int.ofNat_le.2 (by decide)
    · rw [asTime_ofTime, asTime_ofTime]
      exact ⟨h.lifetime.1, h.lifetime.2, fun hzero => (hclock hzero).1, fun hzero => (hclock hzero).2⟩
    · exact (hsig hrequire).imp_right Int.ofNat_le.2

/-- A frame is signed exactly if its message can be sent and the key signs it. -/
lemma signFrame_eq_ok_iff (hkind : kind.number ≠ 0) {frame' : Frame} :
    signFrame frame (defaultFramePolicy target) signer = .ok frame' ↔
    Sendable source target payloadID orderingKey orderingSequence payload issuedAt expiresAt ∧ KeyFits signer ∧
    ∃ canonical signature, (frame.prepared signer).signingBytes = .ok canonical ∧
    signer.sign canonical = .ok signature ∧ SignatureFits signature ∧ frame.signed signer signature = frame' := by
  simp only [signFrame, ok_iff]
  constructor
  · rintro ⟨-, -, canonical, hcan, signature, hsign, -, hval, rfl⟩
    obtain ⟨h, hkey, -, hsig⟩ := (validateFrame_signed hframe hkind signature 0 true false).1 hval
    exact ⟨h, hkey, canonical, signature, hcan, hsign, hsig rfl, rfl⟩
  · rintro ⟨h, hkey, canonical, signature, hcan, hsign, hsig, rfl⟩
    refine ⟨hkey.1.1, ?_, canonical, hcan, signature, hsign, hsig.1, ?_, rfl⟩
    · exact (validateFrame_signed hframe hkind [] 0 false false).2 ⟨h, hkey, fun hzero => absurd rfl hzero, by simp⟩
    · exact (validateFrame_signed hframe hkind signature 0 true false).2
        ⟨h, hkey, fun hzero => absurd rfl hzero, fun _ => hsig⟩

lemma outboxRecordOf_signed (hkind : kind.number ≠ 0) (hkey : KeyFits signer) {signature : Bytes}
    (hsig : SignatureFits signature) (hnow : issuedAt ≠ 0)
    (h : Sendable source target payloadID orderingKey orderingSequence payload issuedAt expiresAt) :
    ∃ ident expiry, newFrameIdentity (frame.prepared signer) = .ok ident ∧
    outboxRecordOf (frame.signed signer signature) issuedAt =
    .ok (ident, .ofFrame (frame.signed signer signature) ident expiry issuedAt) := by
  have htgt : (frame.signed signer signature).targetStationPeerID = target := by
    rw [hframe]
    rfl
  have hval : Federation.validateEnqueueFrame (frame.signed signer signature) issuedAt = .ok () := by
    rw [Federation.validateEnqueueFrame, htgt]
    exact (validateFrame_signed hframe hkind signature issuedAt true true).2
      ⟨h, hkey, fun _ => ⟨Int.le_add_of_nonneg_right (by decide), h.lifetime.1⟩, fun _ => hsig⟩
  obtain ⟨ident, record, hrec⟩ := Outbox.outboxRecordOf_of_validate hnow hval
  obtain ⟨-, -, hident, expiry, rfl⟩ := Outbox.outboxRecordOf_eq_ok hrec
  exact ⟨ident, expiry, hident, hrec⟩

end

/-! ### The outbox -/

/-- The outbox takes a row: no index forbids it, or it is there already. -/
def Takes (outbox : Outbox) (identity : FrameIdentity) (record : OutboxRecord) : Prop :=
  (∀ r ∈ outbox.rows, ¬record.Conflicts r) ∨ classifyOutboxConflict outbox identity = .ok true

lemma exists_enqueueFrame_iff [Digest] {outbox : Outbox} {ident : FrameIdentity}
    {record : OutboxRecord} (h : outboxRecordOf frame now = .ok (ident, record)) :
    (∃ p, enqueueFrame outbox frame now = .ok p) ↔ Takes outbox ident record := by
  unfold enqueueFrame Takes
  rw [h]
  simp only [bind_eq_ok, Except.ok.injEq, exists_eq_left']
  split_ifs with hconf
  · exact ⟨fun _ => .inl hconf, fun _ => ⟨_, rfl⟩⟩
  · simp only [ok_iff, Bool.not_eq_false]
    constructor
    · rintro ⟨_, exact, hexact, rfl, -⟩
      exact .inr hexact
    · rintro (hnone | hexact)
      · exact absurd hnone hconf
      · exact ⟨_, true, hexact, rfl, rfl⟩

end PeersTouch.Social
