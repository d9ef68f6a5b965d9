import PeersTouch.Transfer.Attempt

/-!
# The calls of the worker

What `run_download_once`, `restore_download_cache` and `retry` leave (`ensures_runDownloadOnce` and its
companions): a download that can be resumed, and, if the call says that the download is complete, the
plaintext in the cache file.

An attempt that fails for good removes the partial file before the record says so. In between, the download
cannot be resumed, so the worker must not be stopped there (`Environment.Careful`).
-/

namespace PeersTouch.Transfer

open Lib Chat Context ObjectTransferRecord Option Download Function

def Download.Cached [Digest] (d : Download) (files : Files) : Prop :=
  ∃ bytes, files d.cacheRef = some bytes ∧ hashBytes bytes = d.expectedPlaintextSHA256

/-- The worker is not stopped between the removal of the partial file and the update of the record, and
the cache file is not evicted after its last check, while the other files of a completed download are
removed. -/
structure Environment.Careful (env : Environment) (d : Download) : Prop where
  crashes : ∀ w, env.crashes w → w.removedPartial = true → w.state = some .complete
  evicts : ∀ ref w, env.evicts (.blob (.remove ref)) w → w.state = some .complete → ref = d.cacheRef

variable [Digest] [ObjectCommitmentCodec]
  {d : Download} {m : ObjectCryptoMaterial} {sound : Prop} {env : Environment}
  {transfer : ObjectTransferRecord} {file staging : Option Bytes} {w : World}
  {failure : ObjectTransferFailure}

/-! ### Failures -/

/-- A failed attempt, before the record says so. -/
structure Stopped (d : Download) (m : ObjectCryptoMaterial) (sound : Prop)
    (transfer : ObjectTransferRecord) (failure : ObjectTransferFailure) (w : World) : Prop where
  record : w.transfer = some transfer
  active : transfer.Active
  fits : ∃ file, Saved d m sound transfer file
  retryable : Retryable sound failure
  saved : failure.retryable = true → Saved d m sound transfer (w.files transfer.partialLocalRef)
  removed : failure.retryable = false → w.removedPartial = true

/-- The record in the store, and what its partial file has. -/
structure Recorded (d : Download) (m : ObjectCryptoMaterial) (sound : Prop)
    (transfer : ObjectTransferRecord) (w : World) : Prop where
  record : w.transfer = some transfer
  saved : Saved d m sound transfer (w.files transfer.partialLocalRef)

lemma Recorded.resumable (h : Recorded d m sound transfer w) : Resumable d m sound w := ⟨transfer, h.record, h.saved⟩

variable {w₁ : World}

lemma Recorded.loses {op : Op} (h : Recorded d m sound transfer w) (hloses : (d.context m sound env).Loses op w w₁) :
    Recorded d m sound transfer w₁ :=
  ⟨hloses.transfer.trans h.record, h.saved.loses hloses⟩

variable {ref : String}

lemma Saved.remove (h : Saved d m sound transfer (w.files transfer.partialLocalRef))
    (hloses : (d.context m sound env).Loses (.blob (.remove ref)) w w₁) (href : ref = d.cacheRef ∨ ref = d.stagingRef) :
    Saved d m sound transfer ((w₁.execBlob (.remove ref)).2.files transfer.partialLocalRef) := by
  have h₁ := h.loses hloses
  cases hover : d.overlaps transfer with
  | true => exact h₁.of_overlaps hover _
  | false =>
    obtain ⟨hcache, hstg⟩ := Download.apart hover
    have hne : transfer.partialLocalRef ≠ ref := by
      rcases href with rfl | rfl
      · exact hcache
      · exact hstg
    show Saved d m sound transfer (update w₁.files ref none transfer.partialLocalRef)
    rwa [update_of_ne hne]

lemma ensures_remove {Q : Except String Unit → World → Prop} (h : Recorded d m sound transfer w)
    (href : ref = d.cacheRef ∨ ref = d.stagingRef) (hQ : ∀ w, Recorded d m sound transfer w → Q (.ok ()) w) :
    d.Ensures m sound env (blobText (.remove ref)) w Q := by
  refine ensures_blobText fun w₁ hloses => ?_
  have h' : Recorded d m sound transfer (w₁.execBlob (.remove ref)).2 :=
    ⟨hloses.transfer.trans h.record, h.saved.remove hloses href⟩
  exact ⟨fun _ => h'.resumable, hQ _ h'⟩

lemma ensures_cleanupFailure {ε : Type} (hcare : env.Careful d)
    (h : Recorded d m sound transfer w) (hact : transfer.Active) (hretryable : Retryable sound failure) :
    d.Ensures m sound env (ExceptT.lift (cleanupDownloadFailure failure d.cacheRef
    d.stagingRef transfer.partialLocalRef) : Task ε ObjectTransferFailure) w
    fun r w => r = .ok failure ∧ Stopped d m sound transfer failure w := by
  refine ensures_lift_bind (ensures_remove h (.inl rfl) fun w h => ?_)
  refine ensures_lift_bind (ensures_remove h (.inr rfl) fun w h => ?_)
  unfold cleanupPartial
  cases hrtr : failure.retryable with
  | true =>
    exact ensures_lift_pure ⟨rfl, h.record, hact, ⟨_, h.saved⟩, hretryable,
      fun _ => h.saved, fun hfalse => by rw [hrtr] at hfalse; cases hfalse⟩
  | false =>
    refine ensures_lift_bind (ensures_blobText fun w₁ hloses => ?_)
    have hrecord' : (w₁.execBlob (.remove transfer.partialLocalRef)).2.transfer = some transfer :=
      hloses.transfer.trans h.record
    have hrem : (w₁.execBlob (.remove transfer.partialLocalRef)).2.removedPartial = true := by
      simp [World.execBlob, World.isPartial, hloses.transfer, h.record]
    refine ⟨fun hcrash => ?_, ensures_lift_pure ⟨rfl, hrecord', hact, ⟨_, h.saved⟩,
      hretryable, fun htrue => ?_, fun _ => hrem⟩⟩
    · have hst := hcare.crashes _ hcrash hrem
      rw [World.state, hrecord', map_some, some.injEq] at hst
      exact absurd hst hact.not_complete
    · rw [hrtr] at htrue
      cases htrue

variable {Q : Except ObjectTransferFailure Unit → World → Prop} {partialLocalRef : String}

/-- An operation of the store that leaves a record from which the download can be resumed. -/
lemma ensures_store_record {op : StoreOp} {r : Except ObjectTransferFailure op.Answer}
    {Q : Except ObjectTransferFailure op.Answer → World → Prop}
    (hexec : op.exec w.transfer = (r, some transfer))
    (hsaved : ∀ w₁, (d.context m sound env).Loses (.store op) w w₁ →
    Saved d m sound transfer (w₁.files transfer.partialLocalRef))
    (hQ : ∀ w, Recorded d m sound transfer w → Q r w) :
    d.Ensures m sound env (store op) w Q := by
  refine ensures_store fun w₁ hloses => ?_
  rw [← hloses.transfer] at hexec
  have hrcd : Recorded d m sound transfer (w₁.execStore op).2 := ⟨congrArg Prod.snd hexec, hsaved w₁ hloses⟩
  refine ⟨fun _ => hrcd.resumable, ?_⟩
  rw [show (w₁.execStore op).1 = r from congrArg Prod.fst hexec]
  exact hQ _ hrcd

lemma ensures_update_active {prog : TransferProgress} (hrecord : w.transfer = some transfer) (hact : transfer.Active)
    (hsaved : ∀ w₁, (d.context m sound env).Loses (.store (.updateTransferProgress prog)) w w₁ →
    Saved d m sound (prog.apply transfer) (w₁.files transfer.partialLocalRef))
    (h : ∀ w, Resumable d m sound w → Q (.ok ()) w) :
    d.Ensures m sound env (store (.updateTransferProgress prog)) w Q := by
  refine ensures_store_record ?_ hsaved fun w hw => h w hw.resumable
  rw [hrecord]
  exact hact.updateTransferProgress

/-- The record of the failure: it says that there will be another attempt, or that there will be none. -/
lemma ensures_persistFailure (hcare : env.Careful d) (now : ℤ) (h : Stopped d m sound transfer failure w) :
    d.Ensures m sound env (persistFailure d now failure) w fun r w =>
    r ≠ .ok .complete ∧ Resumable d m sound w := by
  refine ensures_bind (ensures_required h.record fun w₁ hloses => ?_)
  have hrecord : w₁.transfer = some transfer := hloses.transfer.trans h.record
  have hsaved : failure.retryable = true → Saved d m sound transfer (w₁.files transfer.partialLocalRef) :=
    fun hrtr => (h.saved hrtr).loses hloses
  refine ⟨fun hcrash => ?_, ?_⟩
  · cases hrtr : failure.retryable with
    | true => exact ⟨transfer, hrecord, hsaved hrtr⟩
    | false =>
      have hrem := hloses.removedPartial.trans (h.removed hrtr)
      have hst := hcare.crashes _ hcrash hrem
      rw [World.state, hrecord, map_some, some.injEq] at hst
      exact absurd hst h.active.not_complete
  · show d.Ensures m sound env (if transfer.state = .complete then _ else _) w₁ _
    rw [if_neg h.active.not_complete, if_neg (not_or.2 ⟨h.active.not_cancelled, h.active.not_terminal⟩)]
    obtain ⟨file, hfits⟩ := h.fits
    cases hrtr : failure.retryable with
    | true =>
      refine ensures_bind (ensures_update_active hrecord h.active
        (fun w₂ hloses => ?_) fun w hw => ensures_pure ⟨by simp, hw⟩)
      exact ((hsaved hrtr).loses hloses).apply_same h.active (by simp [failed]) (fun _ => by simp [failed]) rfl
    | false =>
      refine ensures_bind (ensures_update_active hrecord h.active
        (fun w₂ hloses => ?_) fun w hw => ensures_pure ⟨by simp, hw⟩)
      refine hfits.apply (by simp [failed]) (fun hs => ?_) (.inr (.inl rfl))
      rw [h.retryable hs] at hrtr
      cases hrtr

/-! ### Completed downloads -/

/-- How a part of the work on a completed download ends. If it fails, the record is what it was. -/
def Settled (transfer : ObjectTransferRecord) {ε α : Type} (P : α → World → Prop) :
    Except ε α → World → Prop
  | .ok a, w => P a w
  | .error _, w => w.transfer = some transfer

section

variable {ε δ α β : Type} {P : α → World → Prop} {R : β → World → Prop} {x : Task ε α}
  {f : α → Task ε β}

lemma settled_bind (hx : d.Ensures m sound env x w (Settled transfer P)) (hf : ∀ a w, P a w →
    d.Ensures m sound env (f a) w (Settled transfer R)) : d.Ensures m sound env (x >>= f) w (Settled transfer R) := by
  refine ensures_bind (hx.mono fun r w hr => ?_)
  cases r with
  | ok a => exact hf a w hr
  | error e => exact hr

end

section

variable {op : BlobOp} {A : op.Answer → Files → Prop} (hrecord : w.transfer = some transfer)
  (hsaved : ∀ file, Saved d m sound transfer file)
include hrecord hsaved

section

variable (hop : ∀ w₁ a, (d.context m sound env).Loses (.blob op) w w₁ → (op.exec w₁.files).1 = .ok a →
  A a (op.exec w₁.files).2)
include hop

/-- An operation on the files of a completed download, none of which the record needs. -/
lemma settled_blobText : d.Ensures m sound env (blobText op) w
    (Settled transfer fun a w => w.transfer = some transfer ∧ A a w.files) := by
  refine ensures_blobText fun w₁ hloses => ?_
  have hrecord' : (w₁.execBlob op).2.transfer = some transfer := hloses.transfer.trans hrecord
  refine ⟨fun _ => ⟨transfer, hrecord', hsaved _⟩, ?_⟩
  show Settled transfer _ (op.exec w₁.files).1 _
  cases h : (op.exec w₁.files).1 with
  | ok a => exact ⟨hrecord', hop w₁ a hloses h⟩
  | error e => exact hrecord'

lemma settled_blob : d.Ensures m sound env (blob op) w
    (Settled transfer fun a w => w.transfer = some transfer ∧ A a w.files) := by
  refine ensures_mapError ((settled_blobText hrecord hsaved hop).mono fun r w hr => ?_)
  cases r with
  | ok a => exact hr
  | error e => exact hr

end

lemma settled_any : d.Ensures m sound env (blob op) w
    (Settled transfer fun _ w => w.transfer = some transfer) := by
  refine (settled_blob (A := fun _ _ => True) hrecord hsaved fun _ _ _ _ => trivial).mono fun r w hr => ?_
  cases r with
  | ok a => exact hr.1
  | error e => exact hr

lemma settled_cleanup {ε α : Type} {P : α → World → Prop} {wrap : ObjectTransferFailure → ε} : d.Ensures m sound env
    (failAfterCleanup wrap failure d.cacheRef d.stagingRef partialLocalRef : Task ε α) w (Settled transfer P) := by
  -- a removal of any file
  have hremove : ∀ (ref : String) (w : World) (Q : Except String Unit → World → Prop),
      w.transfer = some transfer → (∀ r w, w.transfer = some transfer → Q r w) →
      d.Ensures m sound env (blobText (.remove ref)) w Q := by
    intro ref w Q hrecord hQ
    refine (settled_blobText (A := fun _ _ => True) hrecord hsaved
      fun _ _ _ _ => trivial).mono fun r w hr => hQ r w ?_
    cases r with
    | ok a => exact hr.1
    | error e => exact hr
  refine ensures_bind ?_
  refine ensures_lift_bind (hremove _ w _ hrecord fun cache w hrecord => ?_)
  refine ensures_lift_bind (hremove _ w _ hrecord fun staging w hrecord => ?_)
  unfold cleanupPartial
  split
  · exact ensures_lift_pure (ensures_throw hrecord)
  · refine ensures_lift_bind (hremove _ w _ hrecord fun partialFile w hrecord => ?_)
    exact ensures_lift_pure (ensures_throw hrecord)

lemma ensures_hasSHA256 {expected : Hash} : d.Ensures m sound env (hasSHA256 ref expected) w
    (Settled transfer fun found w => w.transfer = some transfer ∧
    (found = true → ∃ bytes, w.files ref = some bytes ∧ hashBytes bytes = expected)) := by
  refine settled_bind (settled_any hrecord hsaved) fun found w hrecord => ?_
  cases found with
  | false => exact ensures_pure ⟨hrecord, nofun⟩
  | true =>
    refine settled_bind (settled_blob (A := fun hash files =>
      ∃ bytes, files ref = some bytes ∧ hashBytes bytes = hash) hrecord hsaved ?_) ?_
    · intro w₁ hash _ hok
      simp only [BlobOp.exec] at hok ⊢
      cases hfile : w₁.files ref with
      | none =>
        rw [hfile] at hok
        cases hok
      | some bytes =>
        rw [hfile] at hok
        exact ⟨bytes, hfile, Except.ok.inj hok⟩
    · rintro hash w ⟨hrecord, bytes, hfile, hhash⟩
      exact ensures_pure ⟨hrecord, fun h => ⟨bytes, hfile, hhash.trans (of_decide_eq_true h)⟩⟩

lemma ensures_ensureCache : d.Ensures m sound env
    (ensureCache d.cacheRef d.stagingRef partialLocalRef d.expectedPlaintextSHA256) w
    (Settled transfer fun _ w => w.transfer = some transfer ∧ d.Cached w.files) := by
  refine settled_bind (ensures_hasSHA256 hrecord hsaved) ?_
  rintro found w ⟨hrecord, hfnd⟩
  cases found with
  | true => exact ensures_pure ⟨hrecord, hfnd rfl⟩
  | false =>
    refine settled_bind (settled_any hrecord hsaved) fun _ w hrecord => ?_
    refine settled_bind (ensures_hasSHA256 hrecord hsaved) ?_
    rintro found w ⟨hrecord, -⟩
    cases found with
    | false => exact settled_cleanup hrecord hsaved
    | true =>
      refine settled_bind (settled_any hrecord hsaved) fun _ w hrecord => ?_
      refine settled_bind (ensures_hasSHA256 hrecord hsaved) ?_
      rintro found w ⟨hrecord, hfnd⟩
      cases found with
      | false => exact settled_cleanup hrecord hsaved
      | true => exact ensures_pure ⟨hrecord, hfnd rfl⟩

/-- How the restoration of a completed download ends: its plaintext is there, or it starts again. -/
def Restored (d : Download) (m : ObjectCryptoMaterial) (sound : Prop) (restored : Bool) (w : World) :
    Prop :=
  match restored with
  | true => Resumable d m sound w ∧ d.Cached w.files
  | false => Resumable d m sound w ∧ w.state = some .queued

/-- The record of a completed download starts again, if it is that of a download. -/
lemma ensures_restart (now : ℤ) : d.Ensures m sound env
    (store (.updateTransferProgress (transfer.restart m.chunkCount now))) w
    (Settled transfer fun _ w => Restored d m sound false w) := by
  have hrestarted : ∀ file, Saved d m sound ((transfer.restart m.chunkCount now).apply transfer) file := by
    intro file
    refine (hsaved file).apply nofun nofun (.inr (.inr ⟨0, ?_, ?_, .inl rfl⟩))
    · exact completed_replicate m.chunkCount
    · exact fun i hi => absurd hi i.not_lt_zero
  cases hmat : (transfer.restart m.chunkCount now).matchesRow transfer with
  | true =>
    refine ensures_store_record (r := .ok ()) ?_ (fun _ _ => hrestarted _) fun w hw => ⟨hw.resumable, ?_⟩
    · rw [hrecord]
      exact if_pos hmat
    · rw [World.state, hw.record]
      rfl
  | false =>
    refine ensures_store_record (r := .error stale) ?_ (fun _ _ => hsaved _) fun _ hw => hw.record
    rw [hrecord]
    exact if_neg (Bool.not_eq_true _ ▸ hmat)

variable (hcare : env.Careful d) (hcompl : transfer.state = .complete)
include hcare hcompl

lemma ensures_remove_other (href : ref ≠ d.cacheRef) (hcach : d.Cached w.files) : d.Ensures m sound env (blob (.remove ref)) w
    (Settled transfer fun _ w => w.transfer = some transfer ∧ d.Cached w.files) := by
  refine settled_blob (A := fun _ => d.Cached) hrecord hsaved fun w₁ _ hloses _ => ?_
  rcases hloses with rfl | ⟨hevicts, -⟩
  · obtain ⟨bytes, hfile, hhash⟩ := hcach
    exact ⟨bytes, (update_of_ne href.symm ..).trans hfile, hhash⟩
  · refine absurd (hcare.evicts ref w hevicts ?_) href
    rw [World.state, hrecord, map_some, hcompl]

lemma ensures_finalizeArtifacts (href : ref ≠ d.cacheRef) :
    d.Ensures m sound env (finalizeCompletedDownloadArtifacts d.cacheRef d.stagingRef
    ref d.expectedPlaintextSHA256) w (Settled transfer fun _ w => w.transfer = some transfer ∧ d.Cached w.files) := by
  refine settled_bind (ensures_ensureCache hrecord hsaved) ?_
  rintro _ w ⟨hrecord, hcach⟩
  refine settled_bind (ensures_remove_other hrecord hsaved hcare hcompl d.stagingRef_ne_cacheRef hcach) ?_
  rintro _ w ⟨hrecord, hcach⟩
  exact ensures_remove_other hrecord hsaved hcare hcompl href hcach

lemma ensures_restoreArtifacts (now : ℤ) :
    d.Ensures m sound env (restoreArtifacts d transfer now) w (Settled transfer (Restored d m sound)) := by
  refine settled_bind (P := fun _ w => d.overlaps transfer = false ∧
    w.transfer = some transfer) (ensures_failWhen (fun _ => hrecord) fun h => ⟨Bool.eq_false_iff.2 h, hrecord⟩) ?_
  rintro _ w ⟨hapart, hrecord⟩
  refine settled_bind (P := fun r w => validateDownloadDescriptor transfer d.descriptor = .ok r ∧
    w.transfer = some transfer) (ensures_ofExcept ?_) ?_
  · cases hr : validateDownloadDescriptor transfer d.descriptor with
    | ok r => exact ⟨rfl, hrecord⟩
    | error e => exact hrecord
  rintro ⟨m', hash⟩ w ⟨hval, hrecord⟩
  obtain ⟨rfl, hd, -⟩ := validateDescriptor_eq_ok hval
  obtain rfl := (hsaved none).material
  refine settled_bind (P := fun _ w => w.transfer = some transfer)
    (ensures_failWhen (fun _ => hrecord) fun _ => hrecord) fun _ w hrecord => ?_
  refine settled_bind (P := fun _ w => w.transfer = some transfer) ?_ fun found w hrecord => ?_
  · refine settled_bind (settled_any hrecord hsaved) fun found w hrecord => ?_
    cases found with
    | true => exact ensures_pure hrecord
    | false => exact settled_any hrecord hsaved
  cases found with
  | true =>
    refine settled_bind (ensures_finalizeArtifacts hrecord hsaved
      hcare hcompl (apart hapart).1) ?_
    rintro _ w ⟨hrecord, hcach⟩
    exact ensures_pure ⟨⟨transfer, hrecord, hsaved _⟩, hcach⟩
  | false =>
    refine settled_bind (settled_any hrecord hsaved) fun _ w hrecord => ?_
    rw [hd.chunkCount]
    exact settled_bind (ensures_restart hrecord hsaved now) fun _ w h => ensures_pure h

lemma ensures_restoreCompleted (now : ℤ) : d.Ensures m sound env (restoreCompletedDownload d transfer now) w
    (Settled transfer (Restored d m sound)) := by
  refine ensures_bind (ensures_attempt
    ((ensures_restoreArtifacts hrecord hsaved hcare hcompl now).mono fun r w hr => ?_))
  cases r with
  | ok restored => exact ensures_pure hr
  | error failure =>
    refine ensures_ite (fun _ => ensures_throw hr) fun _ => ?_
    exact settled_cleanup hr hsaved

end

/-! ### Attempts -/

section

variable [ObjectCipher] {ref : String}

/-- How a part of an attempt ends that cleans up after a failure. -/
def Attempted (d : Download) (m : ObjectCryptoMaterial) (sound : Prop)
    (wrap : ObjectTransferFailure → DownloadAttemptError) (E : ObjectTransferFailure → Prop)
    {α : Type} (P : α → World → Prop) : Except DownloadAttemptError α → World → Prop
  | .ok a, w => P a w
  | .error e, w => ∃ failure transfer, e = wrap failure ∧ E failure ∧ Stopped d m sound transfer failure w

variable {α : Type} {P : α → World → Prop}

omit [ObjectCipher] in
lemma ensures_orCleanUp {wrap : ObjectTransferFailure → DownloadAttemptError}
    {E : ObjectTransferFailure → Prop} {x : Worker α} (hcare : env.Careful d)
    (href : transfer.partialLocalRef = ref) (hE : ∀ failure, E failure → Retryable sound failure)
    (hx : d.Ensures m sound env x w (Outcome d m sound ref E P)) :
    d.Ensures m sound env (orCleanUp d transfer wrap x) w (Attempted d m sound wrap E P) := by
  refine ensures_bind (ensures_attempt (hx.mono fun r w hr => ?_))
  cases r with
  | ok a => exact ensures_pure hr
  | error failure =>
    obtain ⟨hfail, row, file, staging, hrow, hw⟩ := hr
    refine ensures_bind ?_
    rw [href, ← hrow]
    have hrcd : Recorded d m sound row w := ⟨hw.record, hw.partialFile.symm ▸ hw.saved⟩
    refine (ensures_cleanupFailure hcare hrcd hw.active (hE failure hfail)).mono fun r w hr => ?_
    obtain ⟨rfl, hstop⟩ := hr
    exact ensures_throw ⟨failure, row, rfl, hfail, hstop⟩

/-- How an attempt ends. -/
def Finished (d : Download) (m : ObjectCryptoMaterial) (sound : Prop) :
    Except DownloadAttemptError Bool → World → Prop
  | .ok _, w => Resumable d m sound w ∧ d.Cached w.files
  | .error (.beforeCompletion failure), w => ∃ transfer, Stopped d m sound transfer failure w
  | .error (.finalization _), w => Resumable d m sound w

omit [ObjectCipher] in
/-- What comes after a part of the attempt that fails before the completion. -/
lemma ensures_finished_bind {x : Task DownloadAttemptError α}
    {f : α → Task DownloadAttemptError Bool} (hx : d.Ensures m sound env x w
    (Attempted d m sound .beforeCompletion (Retryable sound) P))
    (hf : ∀ a w, P a w → d.Ensures m sound env (f a) w (Finished d m sound)) :
    d.Ensures m sound env (x >>= f) w (Finished d m sound) := by
  refine ensures_bind (hx.mono fun r w hr => ?_)
  cases r with
  | ok a => exact hf a w hr
  | error e =>
    obtain ⟨failure, transfer, rfl, -, hstop⟩ := hr
    exact ⟨transfer, hstop⟩

omit [ObjectCipher] in
lemma Attempting.ensures_completeDownload (h : Attempting d m sound ref w) (res : ObjectTransferRecord) (now : ℤ) :
    d.Ensures m sound env (store (.completeDownload res now)) w
    (Outcome d m sound ref (fun _ => False) fun _ w => ∃ transfer, w.transfer = some transfer ∧
    transfer.state = .complete ∧ ∀ file, Saved d m sound transfer file) := by
  obtain ⟨transfer, file, staging, -, hw⟩ := h
  have hcompl : ∀ file, Saved d m sound ((res.completion now).apply transfer) file :=
    fun _ => hw.saved.apply nofun nofun (.inl rfl)
  refine ensures_store_record (r := .ok ()) ?_ (fun _ _ => hcompl _) fun w hw => ⟨_, hw.record, rfl, hcompl⟩
  rw [hw.record]
  exact hw.active.updateTransferProgress

lemma ensures_downloadOnce (hcare : env.Careful d) (hsound : sound → Faithful d m env)
    (h : Recorded d m sound transfer w) (hact : transfer.Active) (now : ℤ) :
    d.Ensures m sound env (downloadOnce d now) w (Finished d m sound) := by
  refine ensures_bind (ensures_mapError (ensures_required h.record fun w₁ hloses => ?_))
  have h₁ := h.loses hloses
  refine ⟨fun _ => h₁.resumable, ?_⟩
  refine ensures_ite (fun hover => ?_) fun hapart => ?_
  · refine ensures_bind ((ensures_cleanupFailure hcare h₁ hact fun hs => ?_).mono fun r w hr => ?_)
    · rw [h.saved.apart hs] at hover
      cases hover
    · obtain ⟨rfl, hstop⟩ := hr
      exact ensures_throw ⟨transfer, hstop⟩
  have hapart' : d.overlaps transfer = false := Bool.eq_false_iff.2 hapart
  have hw : Working d m sound transfer _ _ w₁ := ⟨h₁.record, rfl, rfl, h₁.saved, hact, hapart'⟩
  refine ensures_finished_bind (ensures_orCleanUp hcare rfl (fun _ h => h)
    hw.ensures_checkRunning) fun _ w hw => ?_
  refine ensures_finished_bind (ensures_orCleanUp hcare rfl (fun _ h => h) (hw.ensures_materialize hsound now)) ?_
  rintro res w ⟨hres, row, file, staging, hrow, hw⟩
  refine ensures_finished_bind (ensures_orCleanUp hcare (hres.trans hrow.symm)
    (fun _ h => h) hw.ensures_checkRunning) fun _ w hw => ?_
  have hattempting : Attempting d m sound row.partialLocalRef w := ⟨row, file, staging, rfl, hw⟩
  refine ensures_bind ((ensures_orCleanUp hcare (hres.trans hrow.symm)
    (fun _ h => h.elim) (hattempting.ensures_completeDownload res now)).mono fun r w hr => ?_)
  cases r with
  | error e =>
    obtain ⟨failure, -, -, hfalse, -⟩ := hr
    exact hfalse.elim
  | ok _ =>
    obtain ⟨completed, hrecord, hcompl, hsaved⟩ := hr
    refine ensures_bind (ensures_mapError ((ensures_finalizeArtifacts hrecord hsaved hcare hcompl
      (hres ▸ (apart hapart').1)).mono fun r w hr => ?_))
    cases r with
    | ok _ => exact ensures_pure ⟨⟨completed, hr.1, hsaved _⟩, hr.2⟩
    | error failure => exact ⟨completed, hr, hsaved _⟩

/-! ### Calls -/

/-- How a call ends. -/
def Returned (d : Download) (m : ObjectCryptoMaterial) (sound : Prop)
    (r : Except ObjectTransferFailure ObjectTransferProgress) (w : World) : Prop :=
  Resumable d m sound w ∧ (r = .ok .complete → d.Cached w.files)

omit [ObjectCipher] in
lemma ensures_read_record {Q : Except ObjectTransferFailure ObjectTransferRecord → World → Prop}
    (h : Recorded d m sound transfer w) (hQ : ∀ w, Recorded d m sound transfer w → Q (.ok transfer) w) :
    d.Ensures m sound env requiredTransfer w Q := by
  refine ensures_required h.record fun w₁ hloses => ?_
  exact ⟨fun _ => (h.loses hloses).resumable, hQ w₁ (h.loses hloses)⟩

omit [ObjectCipher] in
/-- A call reads its record first and ends there if the preflight fails. -/
lemma ensures_preflight_bind {f : Option ObjectTransferProgress → Worker ObjectTransferProgress}
    (now : ℤ) (h : Recorded d m sound transfer w)
    (hf : ∀ w prog, Recorded d m sound transfer w → transfer.preflight now = .ok prog →
    d.Ensures m sound env (f prog) w (Returned d m sound)) :
    d.Ensures m sound env (preflight now >>= f) w (Returned d m sound) := by
  refine ensures_bind (ensures_bind (ensures_read_record h fun w h => ensures_ofExcept ?_))
  cases hpre : transfer.preflight now with
  | error failure => exact ⟨h.resumable, nofun⟩
  | ok prog => exact hf w prog h hpre

variable {now : ℤ}

section

omit [Digest] [ObjectCommitmentCodec] [ObjectCipher]

lemma active_of_preflight (h : transfer.preflight now = .ok none) : transfer.Active := by
  unfold ObjectTransferRecord.preflight at h
  split at h
  · cases h
  · next hcompl =>
    split at h
    · cases h
    · next hended => exact ⟨hcompl, fun h => hended (.inl h), fun h => hended (.inr h)⟩

end

omit [ObjectCipher] in
lemma ensures_refuseAdmission (hcare : env.Careful d) (now : ℤ)
    (h : Recorded d m sound transfer w) (hfail : failure.retryable = true) :
    d.Ensures m sound env (refuseAdmission d now failure) w (Returned d m sound) := by
  unfold refuseAdmission
  refine ensures_preflight_bind now h fun w progress h hpre => ?_
  rcases progress with _ | progress
  · have hact := active_of_preflight hpre
    refine ensures_bind (ensures_read_record h fun w h => ?_)
    refine ensures_bind ((ensures_cleanupFailure hcare h hact fun _ => hfail).mono fun r w hr => ?_)
    obtain ⟨rfl, hstop⟩ := hr
    exact (ensures_persistFailure hcare now hstop).mono fun r w hr => ⟨hr.2, fun h => absurd h hr.1⟩
  · cases progress <;> exact ensures_pure ⟨h.resumable, nofun⟩

section

variable (hcare : env.Careful d) (hsound : sound → Faithful d m env) (now : ℤ)
include hcare hsound

lemma ensures_attemptDownload (h : Recorded d m sound transfer w) (hst : transfer.state ≠ .complete) :
    d.Ensures m sound env (attemptDownload d now) w (Returned d m sound) := by
  refine ensures_preflight_bind now h fun w progress h hpre => ?_
  rcases progress with _ | progress
  · refine ensures_bind (ensures_attempt ((ensures_downloadOnce hcare hsound
      h (active_of_preflight hpre) now).mono fun r w hr => ?_))
    match r, hr with
    | .ok true, hr => exact ensures_pure ⟨hr.1, fun _ => hr.2⟩
    | .ok false, hr => exact ensures_throw ⟨hr.1, nofun⟩
    | .error (.beforeCompletion failure), ⟨row, hstop⟩ =>
      exact (ensures_persistFailure hcare now hstop).mono fun r w hr => ⟨hr.2, fun h => absurd h hr.1⟩
    | .error (.finalization failure), hr => exact ensures_throw ⟨hr, nofun⟩
  · refine ensures_pure ⟨h.resumable, fun h => ?_⟩
    cases h
    unfold ObjectTransferRecord.preflight at hpre
    rw [if_neg hst] at hpre
    split at hpre
    · cases hpre
    · split at hpre <;> cases hpre

lemma ensures_runAdmitted (h : Recorded d m sound transfer w) :
    d.Ensures m sound env (runAdmitted d now) w (Returned d m sound) := by
  refine ensures_bind (ensures_read_record h fun w h => ?_)
  refine ensures_bind ?_
  refine ensures_ite (fun hcompl => ?_) fun hst => ?_
  · refine (ensures_restoreCompleted h.record
      (fun file => h.saved.of_complete hcompl file) hcare hcompl now).mono fun r w hr => ?_
    match r, hr with
    | .ok true, hr => exact ensures_pure ⟨hr.1, fun _ => hr.2⟩
    | .ok false, ⟨⟨row, hrecord, hsaved⟩, hqueued⟩ =>
      refine ensures_attemptDownload hcare hsound now ⟨hrecord, hsaved⟩ ?_
      rw [World.state, hrecord, map_some, some.injEq] at hqueued
      rw [hqueued]
      decide
    | .error failure, hr => exact ⟨⟨transfer, hr, h.saved.of_complete hcompl _⟩, nofun⟩
  · exact ensures_pure (ensures_attemptDownload hcare hsound now h hst)

lemma ensures_runDownloadOnce (h : Resumable d m sound w) :
    d.Ensures m sound env (runDownloadOnce d now) w (Returned d m sound) := by
  obtain ⟨transfer, hrecord, hsaved⟩ := h
  have h : Recorded d m sound transfer w := ⟨hrecord, hsaved⟩
  -- the two answers of the preflight after which a permit is asked for
  have hadm : ∀ {k : Except AdmissionError Unit → Worker ObjectTransferProgress} {w},
      Recorded d m sound transfer w → k (.ok ()) = runAdmitted d now → k (.error .alreadyActive) = pure (.deferred now) →
      (∀ failure, k (.error (.failure failure)) = refuseAdmission d now failure) →
      d.Ensures m sound env (tryAdmit.attempt >>= k) w (Returned d m sound) := by
    intro k w h hok hact href
    refine ensures_bind (ensures_attempt (ensures_tryAdmit fun w₁ hloses => ?_))
    have h₁ := h.loses hloses
    refine ⟨fun _ => h₁.resumable, ?_, ?_, fun failure hfail => ?_⟩
    · have hrun := ensures_runAdmitted hcare hsound now h₁
      rwa [← hok] at hrun
    · dsimp only [Program.andThen]
      rw [hact]
      exact ensures_pure ⟨h₁.resumable, by simp⟩
    · have hrefuse := ensures_refuseAdmission hcare now h₁ hfail
      rwa [← href] at hrefuse
  refine ensures_preflight_bind now h fun w progress h hpre => ?_
  rcases progress with _ | progress
  · exact hadm h rfl rfl fun _ => rfl
  · cases progress with
    | complete => exact hadm h rfl rfl fun _ => rfl
    | deferred _ | retryScheduled _ | terminal _ => exact ensures_pure ⟨h.resumable, by simp⟩

end

section

omit [ObjectCipher]

lemma ensures_permit (h : Recorded d m sound transfer w) (hok : ∀ w, Recorded d m sound transfer w → Q (.ok ()) w)
    (herr : ∀ failure w, Resumable d m sound w → Q (.error failure) w) : d.Ensures m sound env acquirePermit w Q := by
  refine ensures_mapError (ensures_tryAdmit fun w₁ hloses => ?_)
  have h₁ := h.loses hloses
  exact ⟨fun _ => h₁.resumable, hok w₁ h₁, herr _ w₁ h₁.resumable, fun failure _ => herr failure w₁ h₁.resumable⟩

lemma ensures_restoreCache (hcare : env.Careful d) (now : ℤ) (h : Resumable d m sound w) :
    d.Ensures m sound env (restoreDownloadCache d now) w fun _ w => Resumable d m sound w := by
  obtain ⟨transfer, hrecord, hsaved⟩ := h
  refine ensures_bind (ensures_permit ⟨hrecord, hsaved⟩ (fun w h => ?_) fun _ _ h => h)
  refine ensures_bind (ensures_read_record h fun w h => ?_)
  refine ensures_ite (fun _ => ensures_throw h.resumable) fun hst => ?_
  have hcompl : transfer.state = .complete := not_not.1 (not_or.1 hst).2
  refine ensures_bind ((ensures_restoreCompleted h.record
    (fun file => h.saved.of_complete hcompl file) hcare hcompl now).mono fun r w hr => ?_)
  match r, hr with
  | .ok true, hr => exact ensures_pure hr.1
  | .ok false, hr => exact ensures_pure hr.1
  | .error failure, hr => exact ⟨transfer, hr, h.saved.of_complete hcompl _⟩

lemma ensures_retry (now : ℤ) (h : Resumable d m sound w) :
    d.Ensures m sound env (retry now) w fun _ w => Resumable d m sound w := by
  obtain ⟨transfer, hrecord, hsaved⟩ := h
  refine ensures_bind (ensures_permit ⟨hrecord, hsaved⟩ (fun w h => ?_) fun _ _ h => h)
  refine ensures_bind (ensures_read_record h fun w h => ?_)
  refine ensures_ite (fun _ => ensures_throw h.resumable) fun hst => ?_
  have hwait : transfer.state = .retryWait := by
    by_contra hne
    exact hst ⟨h.saved.not_cancelled, hne⟩
  have hact : transfer.Active := by refine ⟨?_, ?_, ?_⟩ <;> rw [hwait] <;> decide
  refine ensures_update_active h.record hact (fun w₁ hloses => ?_) fun _ h => h
  refine (h.saved.loses hloses).apply_same hact nofun nofun ?_
  simp [hwait]

end

end

end PeersTouch.Transfer
