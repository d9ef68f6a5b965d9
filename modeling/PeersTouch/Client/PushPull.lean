import PeersTouch.Client.Reconciliation

/-!
# Two ways to learn a result

The result of a command reaches the client as an item of the inbox or as the answer to a query. An
`Outcome` is what the authority decided about the command; `Pushes` and `Fetches` say that the client
finds a disposition when the outcome arrives the one way or the other.

Both ways read the local command, and `localCommand_iff` shows that they read the same one although
they try the two kinds of command differently. Both then come down to `Outcome.Gives`, with another
table of the codes that supersede a command (`pushes_iff`, `fetches_iff`).
-/

namespace PeersTouch.Client

open Lib Protobuf Chat ConversationCommandSubmissionState CommandResultProcessor List KeyedTable

def CommandResultDisposition.reconciled :
    CommandResultDisposition → CommandReconciliationDisposition
  | .accepted => .accepted
  | .failed code => .failed code
  | .superseded code => .superseded code

/-- What a rejection does, for a table of superseding codes. -/
def rejection (supersedes : ConversationCommandRejectCode → Bool)
    (code : ConversationCommandRejectCode) : CommandResultDisposition :=
  if supersedes code then .superseded code.errorCode else .failed code.errorCode

variable {code : ConversationCommandRejectCode} {d : CommandResultDisposition}

lemma rejection_eq_iff : rejection supersedes code = rejection isSupersedingRejection code ↔
    code ≠ .authorityHeadStale := by
  cases code <;> decide

section

variable [Digest] [Payloads]

/-- What the authority decided about a command. A rejection that comes without a result has only a
code. -/
structure Outcome where
  accepted : Bool
  result : Option ConversationCommandProposalResult
  bareCode : ℤ

namespace Outcome

def rejectCode (o : Outcome) : ℤ := (o.result.map ConversationCommandProposalResult.rejectCode).getD o.bareCode

/-- The outcome of a command as the payload of an item. -/
def delivery (o : Outcome) (c : SubmittedCommand) : ConversationCommandResultDelivery := { c with
  state := if o.accepted then ConversationCommandSubmissionState.accepted.number
    else terminalRejected.number
  result := o.result }

def resolved (o : Outcome) (c : SubmittedCommand) : ResolvedConversationCommandResult := { c with
  state := if o.accepted then ConversationCommandResolutionState.accepted.number
    else ConversationCommandResolutionState.terminalRejected.number
  result := o.result
  terminalErrorCode := if o.accepted then 0 else o.rejectCode }

def event (o : Outcome) : Option ConversationEvent := o.result.bind ConversationCommandProposalResult.event

end Outcome

/-- The Station's item for an outcome: it is addressed to the device, its identifier and its hash are
the right ones, and its event is that of the outcome or stands for the rejection. -/
structure Delivers (endpoint : Endpoint) (c : SubmittedCommand) (o : Outcome)
    (item : DurableDeviceInboxItem) : Prop where
  payloadType : item.payloadType = commandResultPayloadType
  recipient : item.recipient = some ⟨some endpoint.actor, endpoint.device⟩
  endpoint_set : ¬blank endpoint.actor
  conversationID : item.conversationID = c.conversationID
  itemID : item.itemID = commandResultItemID endpoint c.conversationID c.commandID
  payloadSHA256 : item.payloadSHA256 = (hashBytes item.opaquePayload).bytes
  payload : Message.decode ConversationCommandResultDelivery item.opaquePayload = .ok (o.delivery c)
  event_of_accepted : o.accepted = true → ∀ event, o.event = some event →
    item.eventID = event.eventID
  event_of_rejected : o.accepted = false → item.eventID = hexEncode item.payloadSHA256

/-- The client commits the item with disposition `d`. -/
def Pushes (endpoint : Endpoint) (item : DurableDeviceInboxItem) (consumerEpoch : ℕ) (now : ℤ)
    (lookup : ConversationID → CommandID → Except Error Bytes) (d : CommandResultDisposition) :
    Prop :=
  ∃ p, CommandResultProcessor.receiveCommit endpoint item consumerEpoch now lookup = .ok p ∧ p.1.disposition = d

structure Batch (endpoint : Endpoint) (c : SubmittedCommand) (o : Outcome)
    (batch : List (SubmittedCommand × ResolvedConversationCommandResult))
    (results : List ResolvedConversationCommandResult) : Prop where
  mem : (c, o.resolved c) ∈ batch
  identity : ∀ p ∈ batch, p.2.identity = p.1.identity
  distinct : (batch.map fun p => p.1.identity).Nodup
  perm : results.Perm (batch.map Prod.snd)
  others : ∀ p ∈ batch, p.1 ≠ c → ∃ r, validateSubmitted endpoint p.1 p.2 = .ok r

/-- The client applies `d` to the command after it has fetched the results of a batch. -/
def Fetches (endpoint : Endpoint) (c : SubmittedCommand)
    (batch : List (SubmittedCommand × ResolvedConversationCommandResult))
    (results : List ResolvedConversationCommandResult) (d : CommandReconciliationDisposition) :
    Prop :=
  ∃ rs, validateResults endpoint (batch.map Prod.fst) results = .ok rs ∧
    ∃ r ∈ rs, r.conversationID = c.conversationID ∧ r.commandID = c.commandID ∧ r.disposition = d

/-- The bytes are a command of this device, under the identifiers it was submitted with. -/
def Owns (endpoint : Endpoint) (c : SubmittedCommand) (command : DecodedSubmittedCommand) : Prop :=
  decodeSubmittedCommand c.commandBytes = .ok command ∧ command.commandID = c.commandID ∧
    command.conversationID = c.conversationID ∧ actorIs command.actor endpoint

def Outcome.WellBound (o : Outcome) (command : DecodedSubmittedCommand) : Prop := if o.accepted then
    ∃ result, o.result = some result ∧ validateAcceptedResult command result = .ok ()
  else
    ∃ code, ConversationCommandRejectCode.tryFrom o.rejectCode = some code ∧ code ≠ .unspecified ∧
      ∀ result, o.result = some result → validateRejectedResult command result code = .ok ()

def Outcome.Gives (o : Outcome) (command : DecodedSubmittedCommand)
    (supersedes : ConversationCommandRejectCode → Bool) (d : CommandResultDisposition) : Prop :=
  o.WellBound command ∧ if o.accepted then d = .accepted
    else ∃ code, ConversationCommandRejectCode.tryFrom o.rejectCode = some code ∧ d = rejection supersedes code

/-! ### The local command -/

def LocalCommandFields.decoded (command : LocalCommandFields) : DecodedSubmittedCommand where
  commandID := command.commandID
  conversationID := command.conversationID
  authorityStationPeerID := command.authorityStationPeerID
  actor := command.actor

variable {command : DecodedSubmittedCommand} {result : ConversationCommandProposalResult}
  {fields : LocalCommandFields}
  {batch : List (SubmittedCommand × ResolvedConversationCommandResult)}
  {results : List ResolvedConversationCommandResult} {x : CommandReconciliationDisposition}

omit [Digest] in
lemma localCommand_iff {endpoint : Endpoint} {bytes : Bytes} (hac : actorIs command.actor endpoint) : (∃ fields,
    localCommand bytes = .ok fields ∧ fields.decoded = command) ↔ decodeSubmittedCommand bytes = .ok command := by
  unfold localCommand decodeSubmittedCommand
  cases hchat : Message.decode ChatCommand bytes with
  | error e =>
    simp only [ok_iff, decodeAs_eq_ok]
    constructor
    · rintro ⟨_, ⟨member, hmem, hcan, rfl⟩, rfl⟩
      exact ⟨member, hmem, hcan, rfl⟩
    · rintro ⟨member, hmem, hcan, rfl⟩
      exact ⟨_, ⟨member, hmem, hcan, rfl⟩, rfl⟩
  | ok chat =>
    simp only [ok_iff, not_not]
    by_cases hcan : Message.encode chat = bytes
    · rw [if_pos hcan]
      constructor
      · rintro ⟨_, ⟨-, rfl⟩, rfl⟩
        rfl
      · intro h
        cases h
        exact ⟨_, ⟨hcan, rfl⟩, rfl⟩
    · -- the fallback of reconciliation does not find a command with an operator
      rw [if_neg hcan]
      simp only [hcan, false_and, exists_false, false_iff, ok_iff, decodeAs_eq_ok]
      rintro ⟨member, hmem, -, rfl⟩
      exact not_chatCommand hmem (fun hnone => by simp [actorIs, hnone] at hac) chat hchat

/-! ### The pushed outcome -/

variable {endpoint : Endpoint} {c : SubmittedCommand} {o : Outcome} {item : DurableDeviceInboxItem}

lemma Delivers.openDelivery_eq_ok (h : Delivers endpoint c o item) {delivery : ConversationCommandResultDelivery} :
    openDelivery endpoint item = .ok (delivery, result) ↔ ¬blank c.commandID ∧ o.result = some result ∧
    result.commandID = c.commandID ∧ o.delivery c = delivery := by
  have hptid : actorDevicePTID ⟨some endpoint.actor, endpoint.device⟩ = .ok endpoint.actor := by
    simp [actorDevicePTID, h.endpoint_set]
  unfold openDelivery
  simp only [ok_iff, decodeAs_eq_ok, Prod.mk.injEq, h.payloadType, h.recipient, h.payload,
    Option.some.injEq, Except.ok.injEq]
  constructor
  · rintro ⟨-, _, rfl, _, -, -, -, _, rfl, result', hres, hbinding, -, rfl, rfl⟩
    simp only [not_or, not_not] at hbinding
    exact ⟨hbinding.2.1, hres, hbinding.2.2, rfl⟩
  · rintro ⟨hblank, hres, hid, rfl⟩
    refine ⟨not_not.2 rfl, _, rfl, _, hptid, by simp, ?_, _, rfl, result, hres, ?_, ?_, rfl, rfl⟩
    · simp [h.payloadSHA256]
    · simp [Outcome.delivery, h.conversationID, hblank, hid]
    · simp [Outcome.delivery, h.itemID]

omit [Digest] in
lemma disposition_accepted (hcode : ConversationCommandRejectCode.tryFrom result.rejectCode = some code)
    (hid : result.commandID = fields.commandID)
    (hev : ∀ event, result.event = some event → item.eventID = event.eventID) :
    disposition fields item .accepted result code = .ok d ↔
    validateAcceptedResult fields.decoded result = .ok () ∧ d = .accepted := by
  have hinv : ∀ event, result.event = some event → (CommandResultProcessor.Invalid fields item result code event ↔
    InvalidAccepted fields.decoded result code event) := by
    intro event he
    simp [CommandResultProcessor.Invalid, InvalidAccepted, LocalCommandFields.decoded, hid, hev event he]
  simp only [disposition, validateAcceptedResult, ok_iff, hcode]
  constructor
  · rintro ⟨event, he, hval, rfl⟩
    exact ⟨⟨code, rfl, event, he, mt (hinv event he).2 hval⟩, rfl⟩
  · rintro ⟨⟨code', hcode', event, he, hval⟩, rfl⟩
    cases hcode'
    exact ⟨event, he, mt (hinv event he).1 hval, rfl⟩

omit [Digest] in
lemma disposition_rejected (hcode : ConversationCommandRejectCode.tryFrom result.rejectCode = some code)
    (hid : result.commandID = fields.commandID) (hev : item.eventID = hexEncode item.payloadSHA256) :
    disposition fields item .terminalRejected result code = .ok d ↔
    code ≠ .unspecified ∧ validateRejectedResult fields.decoded result code = .ok () ∧ d = rejection supersedes code := by
  simp only [disposition, validateRejectedResult, ok_iff, hcode, hev, hid, LocalCommandFields.decoded, not_or, not_not]
  constructor
  · rintro ⟨⟨hacc, hrtr, hnone, hspec, -⟩, rfl⟩
    exact ⟨hspec, ⟨code, rfl, trivial, hacc, hrtr, hnone, rfl⟩, rfl⟩
  · rintro ⟨hspec, ⟨_, -, -, hacc, hrtr, hnone, -⟩, rfl⟩
    exact ⟨⟨hacc, hrtr, hnone, hspec, trivial⟩, rfl⟩

lemma Delivers.disposition_iff (h : Delivers endpoint c o item) (hres : o.result = some result) :
    (result.commandID = fields.commandID ∧ ∃ state, tryFrom (o.delivery c).state = some state ∧
    ∃ code, ConversationCommandRejectCode.tryFrom result.rejectCode = some code ∧
    disposition fields item state result code = .ok d) ↔ o.Gives fields.decoded supersedes d := by
  have hcode : o.rejectCode = result.rejectCode := by simp [Outcome.rejectCode, hres]
  cases hacc : o.accepted with
  | true =>
    have hev : ∀ event, result.event = some event → item.eventID = event.eventID :=
      fun event he => h.event_of_accepted hacc event (by simp [Outcome.event, hres, he])
    have hst : tryFrom (o.delivery c).state = some .accepted := by
      simp only [Outcome.delivery, hacc]
      rfl
    simp only [Outcome.Gives, Outcome.WellBound, hacc, hst, hres, Option.some.injEq, exists_eq_left']
    constructor
    · rintro ⟨hid, code, htry, hd⟩
      exact (disposition_accepted htry hid hev).1 hd
    · rintro ⟨hval, rfl⟩
      have hval' := hval
      simp only [validateAcceptedResult, ok_iff] at hval'
      obtain ⟨code, htry, event, he, hinv⟩ := hval'
      have hid : result.commandID = fields.commandID := by
        by_contra hne
        exact hinv (.inl hne)
      exact ⟨hid, code, htry, (disposition_accepted htry hid hev).2 ⟨hval, rfl⟩⟩
  | false =>
    have hev := h.event_of_rejected hacc
    have hst : tryFrom (o.delivery c).state = some .terminalRejected := by
      simp only [Outcome.delivery, hacc]
      rfl
    simp only [Outcome.Gives, Outcome.WellBound, hacc, hst,
      hres, hcode, Option.some.injEq, exists_eq_left', forall_eq']
    constructor
    · rintro ⟨hid, code, htry, hd⟩
      obtain ⟨hspec, hval, rfl⟩ := (disposition_rejected htry hid hev).1 hd
      exact ⟨⟨code, htry, hspec, hval⟩, code, htry, rfl⟩
    · rintro ⟨⟨code, htry, hspec, hval⟩, code', htry', rfl⟩
      rw [htry] at htry'
      cases htry'
      have hval' := hval
      simp only [validateRejectedResult, ok_iff, not_or, not_not] at hval'
      obtain ⟨_, -, hid, -⟩ := hval'
      exact ⟨hid, code, htry, (disposition_rejected htry hid hev).2 ⟨hspec, hval, rfl⟩⟩

/-- What the client does with an outcome that arrives in the inbox. -/
lemma Delivers.pushes_iff (h : Delivers endpoint c o item) {consumerEpoch : ℕ} {now : ℤ}
    {lookup : ConversationID → CommandID → Except Error Bytes}
    (hlook : lookup c.conversationID c.commandID = .ok c.commandBytes) :
    Pushes endpoint item consumerEpoch now lookup d ↔
    ¬blank c.commandID ∧ o.result ≠ none ∧ ∃ command, Owns endpoint c command ∧ o.Gives command supersedes d := by
  unfold Pushes receiveCommit
  simp only [ok_iff, Prod.exists, h.openDelivery_eq_ok, not_or, not_not, Prod.mk.injEq]
  constructor
  · rintro ⟨_, _, ⟨_, result, ⟨hblank, hres, hid, rfl⟩, bytes, hb, fields, hflds,
      ⟨hcmd, hconv, hac⟩, state, hst, code, hcode, d', hd, rfl, -⟩, rfl⟩
    rw [Outcome.delivery, hlook] at hb
    cases hb
    refine ⟨hblank, by simp [hres], fields.decoded, ⟨?_, hcmd, hconv, hac⟩, ?_⟩
    · exact (localCommand_iff hac).1 ⟨fields, hflds, rfl⟩
    · exact (h.disposition_iff hres).1 ⟨hid.trans hcmd.symm, state, hst, code, hcode, hd⟩
  · rintro ⟨hblank, hne, command, ⟨hdec, hcmd, hconv, hac⟩, hgives⟩
    obtain ⟨result, hres⟩ := Option.ne_none_iff_exists'.1 hne
    obtain ⟨fields, hflds, rfl⟩ := (localCommand_iff hac).2 hdec
    obtain ⟨hid, state, hst, code, hcode, hd⟩ := (h.disposition_iff hres).2 hgives
    exact ⟨_, _, ⟨_, result, ⟨hblank, hres, hid.trans hcmd, rfl⟩, c.commandBytes, hlook,
      fields, hflds, ⟨hcmd, hconv, hac⟩, state, hst, code, hcode, d, hd,
      rfl, rfl⟩, rfl⟩

/-! ### The fetched outcome -/

lemma takeResults_eq_mapM
    {t : KeyedTable ResolvedConversationCommandResult ResolvedConversationCommandResult.identity}
    (hfd : ∀ p ∈ batch, t.find p.1.identity = some p.2)
    (hdist : (batch.map fun p => p.1.identity).Nodup) :
    takeResults endpoint (batch.map Prod.fst) t = batch.mapM fun p => validateSubmitted endpoint p.1 p.2 := by
  induction batch generalizing t with
  | nil => rfl
  | cons p batch ih =>
    rw [map_cons, nodup_cons] at hdist
    have hrest : ∀ q ∈ batch, (t.delete p.1.identity).find q.1.identity = some q.2 := by
      intro q hq
      have hne : q.1.identity ≠ p.1.identity := fun heq => hdist.1 (mem_map.2 ⟨q, hq, heq⟩)
      rw [find_delete, if_neg hne]
      exact hfd q (mem_cons_of_mem p hq)
    rw [map_cons, takeResults, hfd p mem_cons_self, mapM_cons, ih hrest hdist.2]
    rfl

lemma Batch.validateResults_eq_mapM (h : Batch endpoint c o batch results) :
    validateResults endpoint (batch.map Prod.fst) results = batch.mapM fun p => validateSubmitted endpoint p.1 p.2 := by
  have hident : batch.map (fun p => p.2.identity) = batch.map fun p => p.1.identity := map_congr_left h.identity
  have hkeys : (results.map ResolvedConversationCommandResult.identity).Nodup := by
    rw [(h.perm.map _).nodup_iff, map_map]
    exact hident ▸ h.distinct
  have hins : empty.insertEach results
      "messaging command reconciliation response is duplicated" = .ok ⟨results, hkeys⟩ :=
    insertEach_eq_ok.2 (by simp)
  have hlen : results.length = batch.length := by simpa using h.perm.length_eq
  unfold validateResults
  rw [failWhen_of_not (by simp [hlen]), hins]
  refine takeResults_eq_mapM ?_ h.distinct
  intro p hp
  refine find_eq_some.2 ⟨?_, h.identity p hp⟩
  exact h.perm.mem_iff.2 (mem_map_of_mem hp)

omit [Digest] in
lemma validateResult_eq_ok : validateResult command (o.resolved c) = .ok x ↔
    ∃ d, o.Gives command isSupersedingRejection d ∧ d.reconciled = x := by
  unfold validateResult Outcome.Gives Outcome.WellBound
  cases hacc : o.accepted with
  | true =>
    have hst : ConversationCommandResolutionState.tryFrom (o.resolved c).state = some .accepted := by
      simp only [Outcome.resolved, hacc]
      rfl
    have hcode : ConversationCommandRejectCode.tryFrom (o.resolved c).terminalErrorCode = some .unspecified := by
      simp only [Outcome.resolved, hacc]
      rfl
    simp only [hst, hcode, ok_iff, Option.some.injEq, exists_eq_left', not_not, true_and]
    constructor
    · rintro ⟨result, hres, hval, rfl⟩
      exact ⟨.accepted, ⟨⟨result, hres, hval⟩, rfl⟩, rfl⟩
    · rintro ⟨_, ⟨⟨result, hres, hval⟩, rfl⟩, rfl⟩
      exact ⟨result, hres, hval, rfl⟩
  | false =>
    have hst : ConversationCommandResolutionState.tryFrom (o.resolved c).state = some .terminalRejected := by
      simp only [Outcome.resolved, hacc]
      rfl
    have hcode : (o.resolved c).terminalErrorCode = o.rejectCode := by simp [Outcome.resolved, hacc]
    have hrecon : ∀ code : ConversationCommandRejectCode, (rejection isSupersedingRejection code).reconciled =
          if isSupersedingRejection code then .superseded code.errorCode
          else .failed code.errorCode := by
      intro code
      unfold rejection
      split <;> rfl
    simp only [hst, hcode, ok_iff, Option.some.injEq, exists_eq_left', forM_eq_ok, Option.mem_toList]
    constructor
    · rintro ⟨code, htry, hspec, hval, rfl⟩
      exact ⟨_, ⟨⟨code, htry, hspec, fun result hres => hval result hres⟩, code, htry, rfl⟩, hrecon code⟩
    · rintro ⟨_, ⟨⟨code, htry, hspec, hval⟩, code', htry', rfl⟩, rfl⟩
      rw [htry] at htry'
      cases htry'
      exact ⟨code, htry, hspec, fun result hres => hval result hres, (hrecon code).symm⟩

def SubmittedCommand.reconciliation (c : SubmittedCommand) (d : CommandReconciliationDisposition) :
    CommandReconciliation :=
  { c with disposition := d }

lemma validateSubmitted_eq_ok (hhash : c.commandSHA256 = (hashBytes c.commandBytes).bytes)
    {r : CommandReconciliation} : validateSubmitted endpoint c (o.resolved c) = .ok r ↔ ∃ command,
    Owns endpoint c command ∧ ∃ d, o.Gives command isSupersedingRejection d ∧ c.reconciliation d.reconciled = r := by
  have hmat : ¬((o.resolved c).commandSHA256 ≠ c.commandSHA256 ∨ c.commandSHA256.length ≠ 32 ∨
    (hashBytes c.commandBytes).bytes ≠ c.commandSHA256) := by
    simp [Outcome.resolved, hhash]
  unfold validateSubmitted Owns
  rw [failWhen_of_not hmat]
  simp only [ok_iff, not_or, not_not, validateResult_eq_ok]
  constructor
  · rintro ⟨-, command, hdec, ⟨hid, hconv, hac⟩, _, ⟨d, hd, rfl⟩, rfl⟩
    exact ⟨command, ⟨hdec, hid, hconv, hac⟩, d, hd, rfl⟩
  · rintro ⟨command, ⟨hdec, hid, hconv, hac⟩, d, hd, rfl⟩
    exact ⟨trivial, command, hdec, ⟨hid, hconv, hac⟩, _, ⟨d, hd, rfl⟩, rfl⟩

/-- What the client does with an outcome that it fetches. -/
lemma Batch.fetches_iff (h : Batch endpoint c o batch results)
    (hhash : c.commandSHA256 = (hashBytes c.commandBytes).bytes) : Fetches endpoint c batch results x ↔ ∃ command,
    Owns endpoint c command ∧ ∃ d, o.Gives command isSupersedingRejection d ∧ d.reconciled = x := by
  unfold Fetches
  rw [h.validateResults_eq_mapM]
  -- a reconciliation is that of the command of the batch with the same identity
  have howner : ∀ p ∈ batch, p.1.identity = c.identity → p = (c, o.resolved c) := by
    intro p hp hid
    exact inj_on_of_nodup_map h.distinct hp h.mem hid
  constructor
  · rintro ⟨rs, hrs, r, hr, hconv, hcmd, rfl⟩
    obtain ⟨p, hp, hval⟩ := exists_of_mem_mapM hrs hr
    have hflds : r.conversationID = p.1.conversationID ∧ r.commandID = p.1.commandID := by
      have hval' := hval
      unfold validateSubmitted at hval'
      simp only [ok_iff] at hval'
      obtain ⟨_, -, _, -, _, -, _, -, rfl⟩ := hval'
      exact ⟨rfl, rfl⟩
    have hid : p.1.identity = c.identity := Prod.ext (hflds.1.symm.trans hconv) (hflds.2.symm.trans hcmd)
    obtain rfl := howner p hp hid
    obtain ⟨command, howns, d, hd, rfl⟩ := (validateSubmitted_eq_ok hhash).1 hval
    exact ⟨command, howns, d, hd, rfl⟩
  · rintro ⟨command, howns, d, hd, rfl⟩
    have hval : validateSubmitted endpoint c (o.resolved c) = .ok (c.reconciliation d.reconciled) :=
      (validateSubmitted_eq_ok hhash).2 ⟨command, howns, d, hd, rfl⟩
    have hall : ∀ p ∈ batch, ∃ r, validateSubmitted endpoint p.1 p.2 = .ok r := by
      intro p hp
      by_cases hc : p.1 = c
      · rw [howner p hp (by rw [hc])]
        exact ⟨_, hval⟩
      · exact h.others p hp hc
    obtain ⟨rs, hrs⟩ := exists_mapM hall
    obtain ⟨r, hr, hrvalid⟩ := mem_of_mapM hrs h.mem
    rw [hval] at hrvalid
    cases hrvalid
    exact ⟨rs, hrs, _, hr, rfl, rfl, rfl⟩

/-! ### Agreement -/

omit [Digest] in
/-- An outcome gives the same disposition for both tables, unless it is the code in which they
differ. -/
lemma Outcome.gives_congr (h : o.accepted = false →
    ConversationCommandRejectCode.tryFrom o.rejectCode ≠ some .authorityHeadStale) :
    o.Gives command supersedes d ↔ o.Gives command isSupersedingRejection d := by
  refine and_congr_right fun _ => ?_
  cases hacc : o.accepted with
  | true => rfl
  | false =>
    refine exists_congr fun code => and_congr_right fun htry => ?_
    have hcode : code ≠ .authorityHeadStale := fun heq => h hacc (heq ▸ htry)
    rw [rejection_eq_iff.2 hcode]

omit [Digest] in
lemma Outcome.WellBound.exists_gives (h : o.WellBound command) (supersedes : ConversationCommandRejectCode → Bool) :
    ∃ d, o.Gives command supersedes d := by
  cases hacc : o.accepted with
  | true => exact ⟨.accepted, h, by simp [hacc]⟩
  | false =>
    have h' := h
    simp only [Outcome.WellBound, hacc] at h'
    obtain ⟨code, htry, -⟩ := h'
    exact ⟨rejection supersedes code, h, by simpa [hacc] using ⟨code, htry, rfl⟩⟩

/-- The dispositions of an outcome of a submitted command agree, whether it arrives in the inbox or is
fetched with a batch: the client finds the same one, or refuses both. The exceptions are outcomes
that reconciliation accepts: of a command with a blank identifier, of a rejection without a result,
and of a rejection because the authority's head was stale. -/
theorem push_pull_agree_iff {batch : List (SubmittedCommand × ResolvedConversationCommandResult)}
    {results : List ResolvedConversationCommandResult} {consumerEpoch : ℕ} {now : ℤ}
    {lookup : ConversationID → CommandID → Except Error Bytes}
    (hitem : Delivers endpoint c o item) (hbatch : Batch endpoint c o batch results)
    (hlookup : lookup c.conversationID c.commandID = .ok c.commandBytes)
    (hhash : c.commandSHA256 = (hashBytes c.commandBytes).bytes) :
    (∀ d, Pushes endpoint item consumerEpoch now lookup d ↔ Fetches endpoint c batch results d.reconciled) ↔
      ∀ command, Owns endpoint c command → o.WellBound command →
        ¬blank c.commandID ∧ o.result ≠ none ∧ (o.accepted = false →
          ConversationCommandRejectCode.tryFrom o.rejectCode ≠ some .authorityHeadStale) := by
  simp only [hitem.pushes_iff hlookup, hbatch.fetches_iff hhash]
  constructor
  · intro hagree command howns hbound
    obtain ⟨d, hd⟩ := hbound.exists_gives isSupersedingRejection
    obtain ⟨hblank, hres, command', howns', hd'⟩ := (hagree d).2 ⟨command, howns, d, hd, rfl⟩
    refine ⟨hblank, hres, fun hacc htry => ?_⟩
    simp only [Outcome.Gives, hacc, htry, Option.some.injEq, exists_eq_left'] at hd hd'
    have heq := hd'.2.symm.trans hd.2
    exact rejection_eq_iff.1 heq rfl
  · intro hcond d
    constructor
    · rintro ⟨-, -, command, howns, hd⟩
      obtain ⟨-, -, hcode⟩ := hcond command howns hd.1
      exact ⟨command, howns, d, (Outcome.gives_congr hcode).1 hd, rfl⟩
    · rintro ⟨command, howns, d', hd, heq⟩
      obtain rfl : d = d' := by cases d <;> cases d' <;> cases heq <;> rfl
      obtain ⟨hblank, hres, hcode⟩ := hcond command howns hd.1
      exact ⟨hblank, hres, command, howns, (Outcome.gives_congr hcode).2 hd⟩

end

section

@[reducible]
def lengthDigest : Digest where
  sha256 bytes := BitVec.ofNat 256 bytes.length

@[reducible]
def rawPayloads : Payloads where
  Intent := ℕ × Bytes
  mergeIntent tag bytes _ := .ok (tag, bytes)
  encodeIntent p := writeDelimited p.1 p.2
  transitionID _ := none
  Fact := ℕ × Bytes
  mergeFact tag bytes _ := .ok (tag, bytes)
  encodeFact p := writeDelimited p.1 p.2

attribute [local instance] lengthDigest rawPayloads

def sampleEndpoint : Endpoint := ⟨"alice", "laptop"⟩

def sampleCommand : ChatCommand where
  commandID := "k1"
  conversationID := "c1"
  sender := some ⟨"alice", "laptop"⟩
  observedMembershipEpoch := 1
  observedMLSEpoch := 0
  clientTimestamp := none
  deliveryPlanSHA256 := []
  authorityStationPeerID := "station"
  payload := some (23, [10, 2, 109, 49])

def sampleSubmitted : SubmittedCommand where
  commandID := "k1"
  conversationID := "c1"
  commandBytes := Message.encode sampleCommand
  commandSHA256 := (hashBytes (Message.encode sampleCommand)).bytes

def sampleDecoded : DecodedSubmittedCommand where
  commandID := "k1"
  conversationID := "c1"
  authorityStationPeerID := "station"
  actor := some ⟨"alice", "laptop"⟩

def sampleRejection (code : ℤ) : Outcome where
  accepted := false
  result := some { (Message.empty : ConversationCommandProposalResult) with
    commandID := "k1", rejectCode := code }
  bareCode := 0

def sampleItem (o : Outcome) : DurableDeviceInboxItem :=
  let payload := Message.encode (o.delivery sampleSubmitted)
  { itemID := commandResultItemID sampleEndpoint "c1" "k1"
    recipient := some ⟨some "alice", "laptop"⟩, laneSequence := 1
    eventID := hexEncode (hashBytes payload).bytes, conversationID := "c1"
    payloadType := commandResultPayloadType, opaquePayload := payload, payloadSHA256 := (hashBytes payload).bytes }

def sampleLookup (_ : ConversationID) (_ : CommandID) : Except Error Bytes := .ok sampleSubmitted.commandBytes

lemma delivers_sampleItem {o : Outcome} (hrej : o.accepted = false)
    (hdec : Message.decode ConversationCommandResultDelivery
    (Message.encode (o.delivery sampleSubmitted)) = .ok (o.delivery sampleSubmitted)) :
    Delivers sampleEndpoint sampleSubmitted o (sampleItem o) where
  payloadType := rfl
  recipient := rfl
  endpoint_set := by decide
  conversationID := rfl
  itemID := rfl
  payloadSHA256 := rfl
  payload := hdec
  event_of_accepted h := by simp [hrej] at h
  event_of_rejected _ := rfl

lemma batch_sample (o : Outcome) : Batch sampleEndpoint sampleSubmitted o [(sampleSubmitted, o.resolved sampleSubmitted)]
    [o.resolved sampleSubmitted] where
  mem := mem_singleton_self _
  identity := by simp [Outcome.resolved, SubmittedCommand.identity, ResolvedConversationCommandResult.identity]
  distinct := nodup_singleton _
  perm := List.Perm.refl _
  others := by simp

set_option maxRecDepth 10000 in
/-- A rejection because of the delivery plan supersedes the command in both ways. -/
theorem agree_on_staleDeliveryPlan : Delivers sampleEndpoint sampleSubmitted (sampleRejection 20)
        (sampleItem (sampleRejection 20)) ∧
      ∀ d, Pushes sampleEndpoint (sampleItem (sampleRejection 20)) 1 5 sampleLookup d ↔
        Fetches sampleEndpoint sampleSubmitted [(sampleSubmitted, (sampleRejection 20).resolved sampleSubmitted)]
          [(sampleRejection 20).resolved sampleSubmitted] d.reconciled := by
  have hdeliv : Delivers sampleEndpoint sampleSubmitted (sampleRejection 20)
      (sampleItem (sampleRejection 20)) := delivers_sampleItem rfl (by decide)
  refine ⟨hdeliv, (push_pull_agree_iff hdeliv (batch_sample _) rfl rfl).2 ?_⟩
  intro command _ _
  exact ⟨by decide, by simp [sampleRejection], fun _ => by decide⟩

set_option maxRecDepth 10000 in
/-- A rejection because of a stale head fails the command when it arrives in the inbox, and supersedes it
when it is fetched. -/
theorem authorityHeadStale_disagrees : Delivers sampleEndpoint sampleSubmitted (sampleRejection 28)
        (sampleItem (sampleRejection 28)) ∧
      Pushes sampleEndpoint (sampleItem (sampleRejection 28)) 1 5 sampleLookup (.failed "authority_head_stale") ∧
      Fetches sampleEndpoint sampleSubmitted [(sampleSubmitted, (sampleRejection 28).resolved sampleSubmitted)]
        [(sampleRejection 28).resolved sampleSubmitted] (.superseded "authority_head_stale") := by
  have hdeliv := delivers_sampleItem (o := sampleRejection 28) rfl (by decide)
  have howns : Owns sampleEndpoint sampleSubmitted sampleDecoded := ⟨by decide, rfl, rfl, by decide⟩
  have hbound : (sampleRejection 28).WellBound sampleDecoded := by
    refine ⟨.authorityHeadStale, rfl, by decide, ?_⟩
    decide
  refine ⟨hdeliv, (hdeliv.pushes_iff rfl).2 ?_, ((batch_sample _).fetches_iff rfl).2 ?_⟩
  · exact ⟨by decide, by simp [sampleRejection], _, howns, hbound, _, rfl, by decide⟩
  · exact ⟨_, howns, .superseded "authority_head_stale", ⟨hbound, _, rfl, by decide⟩, rfl⟩

end

end PeersTouch.Client
