import PeersTouch.Federation.Frame

/-!
# What the signed bytes of a frame determine

The signing input is a row of records, so two frames of bounded length with the same signed bytes have the same
identifiers and the same payload hash (`signed_eq_of_signingBytes_eq`).
-/

namespace PeersTouch.Federation

open Lib Protobuf Record List Frame Timestamp
open Chat (Bytes Digest Time)

namespace Frame

def signingRecords (frame : Frame) : List Record :=
  ofInt 1 frame.formatVersion ++ ofString 2 frame.frameID ++ ofString 3 frame.sourceStationPeerID ++
    ofString 4 frame.targetStationPeerID ++ ofString 5 frame.idempotencyKey ++
    ofInt 6 frame.payloadKind.number ++ ofString 7 frame.payloadID ++
    ofString 8 frame.orderingKey ++ ofInt 9 frame.orderingSequence ++
    ofBytes 10 frame.opaquePayload ++ ofBytes 11 frame.payloadSHA256 ++
    ofMessage 12 (frame.issuedAt.map Timestamp.marshal) ++
    ofMessage 13 (frame.expiresAt.map Timestamp.marshal) ++ ofString 14 frame.signingKeyID ++ ofString 15 frame.traceID

lemma flatMap_signingRecords (frame : Frame) :
    frame.signingRecords.flatMap write = frame.marshalSigned ++ writeString 15 frame.traceID := by
  simp only [signingRecords, flatMap_append, flatMap_ofInt, flatMap_ofMessage, ofString, flatMap_ofBytes, Option.map_map]
  rfl

lemma eq_of_signingRecords_eq {f g : Frame} (h : f.signingRecords = g.signingRecords) :
    f.frameID = g.frameID ∧ f.sourceStationPeerID = g.sourceStationPeerID ∧
    f.idempotencyKey = g.idempotencyKey ∧ f.payloadSHA256 = g.payloadSHA256 := by
  have hfld : ∀ tag, f.signingRecords.filter (fun r => r.tag = tag) =
      g.signingRecords.filter (fun r => r.tag = tag) := fun tag => by rw [h]
  simp only [signingRecords, ofString, filter_append, filter_ofBytes, filter_ofInt, filter_ofMessage] at hfld
  have hfr := hfld 2
  have hsrc := hfld 3
  have hkey := hfld 5
  have hpay := hfld 11
  simp only [Nat.reduceEqDiff, ↓reduceIte, append_nil] at hfr hsrc hkey hpay
  exact ⟨ofString_injective hfr, ofString_injective hsrc, ofString_injective hkey, ofBytes_injective hpay⟩

end Frame

/-! ### Bounds -/

lemma validateIdentifier_eq_ok {name value : String} {maximum : ℤ}
    (h : validateIdentifier name value maximum = .ok ()) : ¬Unnormalized value ∧ value.utf8ByteSize ≤ maximum := by
  simp only [validateIdentifier, ok_iff, not_or, not_not, not_lt] at h
  obtain ⟨⟨hne, htrim⟩, hlen⟩ := h
  refine ⟨?_, hlen⟩
  rintro (hemp | hblank)
  · exact hne (htrim.trans hemp)
  · exact hblank htrim

/-- What a frame that may be sent or received looks like. -/
structure Frame.Bounded (frame : Frame) : Prop where
  identifiers : ∀ p ∈ frame.identifiers, ¬Unnormalized p.2 ∧ p.2.utf8ByteSize ≤ 512
  traceID : frame.traceID.utf8ByteSize ≤ 512
  opaquePayload : frame.opaquePayload.length ≤ 8388608
  payloadSHA256 : frame.payloadSHA256.length = 32
  issuedAt : ∀ t ∈ frame.issuedAt, t.unknown = []
  expiresAt : ∀ t ∈ frame.expiresAt, t.unknown = [] ∧ t.checkValid = .ok ()
  has_expiresAt : frame.expiresAt.isSome = true
  unknown : frame.unknown = []

variable {frame : Frame} {requireLocalTarget requireSignature : Bool} {now : Time}
  {policy : FramePolicy}

lemma validateFrame_eq_ok [Digest] (h : validateFrame frame policy now requireSignature requireLocalTarget = .ok ()) :
    frame.unknown = [] ∧ (∀ p ∈ frame.identifiers, ¬Unnormalized p.2 ∧ p.2.utf8ByteSize ≤ policy.maxIdentifierBytes) ∧
    (frame.traceID = "" ∨ frame.traceID.utf8ByteSize ≤ policy.maxIdentifierBytes) ∧
    frame.opaquePayload.length ≤ policy.maxPayloadBytes ∧
    (frame.payloadSHA256.length = 32 ∧ frame.payloadSHA256 = payloadSHA256 frame.opaquePayload) ∧
    ∃ issuedAt expiresAt, frame.issuedAt = some issuedAt ∧ frame.expiresAt = some expiresAt ∧
    expiresAt.checkValid = .ok () ∧ issuedAt.unknown = [] ∧ expiresAt.unknown = [] := by
  simp only [validateFrame, ok_iff, not_or, not_not, requireTimestamp, checkTimestamp] at h
  obtain ⟨-, hunk, -, hids, htr, -, -, -, ⟨-, hpay⟩, hsha, issuedAt, hissued,
    expiresAt, hexp, -, hval, ⟨hissUnk, hexpUnknown⟩, -⟩ := h
  refine ⟨hunk, fun p hp => validateIdentifier_eq_ok (forM_eq_ok.1 hids p hp), ?_,
    not_lt.1 hpay, hsha, issuedAt, expiresAt, hissued, hexp, hval, hissUnk, hexpUnknown⟩
  split_ifs at htr with hemp
  · exact .inl hemp
  · exact .inr (validateIdentifier_eq_ok htr).2

lemma exists_newFrameIdentity [Digest] (h : validateFrame frame policy now requireSignature requireLocalTarget = .ok ()) :
    ∃ identity, newFrameIdentity frame = .ok identity := by
  obtain ⟨hunk, hids, -, -, ⟨-, hsha⟩, -⟩ := validateFrame_eq_ok h
  simp only [identifiers, forall_mem_cons, not_mem_nil, false_implies] at hids
  obtain ⟨hfr, hsrc, -, hkey, -, -, -⟩ := hids
  rw [newFrameIdentity, failWhen_of_not (by simp [hfr.1, hsrc.1, hkey.1]),
    failWhen_of_not (by simp [hsha]), canonicalSHA256, signingBytes, failWhen_of_not (by simp [hunk])]
  exact ⟨_, rfl⟩

lemma validateFrame_bounded [Digest] {station : String}
    (h : validateFrame frame (defaultFramePolicy station) now requireSignature requireLocalTarget = .ok ()) :
    frame.Bounded := by
  obtain ⟨hunk, hids, htr, hpay, ⟨hlen, -⟩, issuedAt, expiresAt, hissued, hexp,
    hval, hissUnk, hexpUnknown⟩ := validateFrame_eq_ok h
  refine ⟨fun p hp => ?_, ?_, ?_, hlen, ?_, ?_, ?_, hunk⟩
  · obtain ⟨hnormalized, hsize⟩ := hids p hp
    exact ⟨hnormalized, Int.ofNat_le.1 hsize⟩
  · rcases htr with hemp | hsize
    · rw [hemp]
      decide
    · exact Int.ofNat_le.1 hsize
  · exact Int.ofNat_le.1 hpay
  · rw [hissued]
    rintro t ⟨⟩
    exact hissUnk
  · rw [hexp]
    rintro t ⟨⟩
    exact ⟨hexpUnknown, hval⟩
  · rw [hexp]
    rfl

lemma Frame.Bounded.fits (h : frame.Bounded) : ∀ r ∈ frame.signingRecords, r.Fits := by
  have htimestamp : ∀ time : Option Timestamp, (∀ t ∈ time, t.unknown = []) →
      ∀ content ∈ time.map Timestamp.marshal, content.length < 2 ^ 64 := by
    intro time htime content hcontent
    obtain ⟨t, ht, rfl⟩ := Option.mem_map.1 hcontent
    have hseconds := length_writeInt_le 1 t.seconds
    have hnanos := length_writeInt_le 2 t.nanos
    simp only [Timestamp.marshal, htime t ht, List.length_append, List.length_nil]
    omega
  have hstr : ∀ (tag : ℕ) (value : String), tag < 2 ^ 32 → value.utf8ByteSize ≤ 512 →
      ∀ r ∈ ofString tag value, r.Fits := by
    intro tag value htag hvalue r hr
    refine fits_of_mem_ofBytes htag ?_ hr
    have hlen : value.toUTF8.data.toList.length = value.utf8ByteSize := rfl
    omega
  have hid := h.identifiers
  simp only [Frame.identifiers, List.forall_mem_cons, List.not_mem_nil, false_implies, implies_true,
    and_true] at hid
  obtain ⟨hfr, hsrc, htgt, hkey, hpay, hordering, hsigning⟩ := hid
  have hopaque : frame.opaquePayload.length < 2 ^ 64 := lt_of_le_of_lt h.opaquePayload (by decide)
  have hsha : frame.payloadSHA256.length < 2 ^ 64 := by
    rw [h.payloadSHA256]
    decide
  unfold Frame.signingRecords
  simp only [List.forall_mem_append]
  refine ⟨⟨⟨⟨⟨⟨⟨⟨⟨⟨⟨⟨⟨⟨?_, ?_⟩, ?_⟩, ?_⟩, ?_⟩, ?_⟩, ?_⟩, ?_⟩, ?_⟩, ?_⟩, ?_⟩, ?_⟩, ?_⟩, ?_⟩, ?_⟩
  · exact fun r => fits_of_mem_ofInt (by decide)
  · exact hstr _ _ (by decide) hfr.2
  · exact hstr _ _ (by decide) hsrc.2
  · exact hstr _ _ (by decide) htgt.2
  · exact hstr _ _ (by decide) hkey.2
  · exact fun r => fits_of_mem_ofInt (by decide)
  · exact hstr _ _ (by decide) hpay.2
  · exact hstr _ _ (by decide) hordering.2
  · exact fun r => fits_of_mem_ofInt (by decide)
  · exact fun r => fits_of_mem_ofBytes (by decide) hopaque
  · exact fun r => fits_of_mem_ofBytes (by decide) hsha
  · exact fun r => fits_of_mem_ofMessage (by decide) (htimestamp _ h.issuedAt)
  · exact fun r => fits_of_mem_ofMessage (by decide) (htimestamp _ fun t ht => (h.expiresAt t ht).1)
  · exact hstr _ _ (by decide) hsigning.2
  · exact hstr _ _ (by decide) h.traceID

lemma Frame.Bounded.signingBytes (h : frame.Bounded) : frame.signingBytes = .ok (frame.signingRecords.flatMap write) := by
  rw [Frame.flatMap_signingRecords, Frame.signingBytes, h.unknown]
  rfl

lemma signed_eq_of_signingBytes_eq {f g : Frame} (hf : f.Bounded) (hg : g.Bounded)
    (h : f.signingBytes = g.signingBytes) : f.frameID = g.frameID ∧ f.sourceStationPeerID = g.sourceStationPeerID ∧
    f.idempotencyKey = g.idempotencyKey ∧ f.payloadSHA256 = g.payloadSHA256 := by
  have hb : f.signingRecords.flatMap write = g.signingRecords.flatMap write := by
    rw [hf.signingBytes, hg.signingBytes] at h
    exact Except.ok.inj h
  exact eq_of_signingRecords_eq (selfDelimiting_write.flatMap_injective (fun r _ => r.write_ne_nil) hf.fits hg.fits hb)

end PeersTouch.Federation
