import PeersTouch.Client.PushPull

/-!
# A round of reconciliation is all or nothing

`apply_command_reconciliations` of the desktop store: one transaction checks every reconciliation of
a batch and then applies each. What the transaction reads and writes of a single command is a
parameter.
-/

namespace PeersTouch.Client

open Lib KeyedTable
open Chat (Bytes CommandID ConversationID Digest Endpoint hashBytes)

structure CommandTransitionState where
  conversationID : ConversationID
  (localState outboxState : CommandState)

structure CommandTransitions (σ : Type) where
  submittedCommands : σ → Except Error (List SubmittedCommand)
  loadCommandTransitionState : σ → CommandID → Bytes → Except Error CommandTransitionState
  applyAcceptedCommandResult : CommandID → σ → Except Error σ
  applyTerminalCommandResult : CommandID → String → Bool → Bool → σ → Except Error σ
  applyNotFoundCommandResult : CommandID → ℤ → σ → Except Error σ

def CommandReconciliation.identity (r : CommandReconciliation) : ConversationID × CommandID :=
  (r.conversationID, r.commandID)

def CommandReconciliationDisposition.hasBlankCode : CommandReconciliationDisposition → Bool
  | .failed code | .superseded code => blank code
  | _ => false

variable [Digest] {σ : Type}

/-- A reconciliation that the store refuses after those of the commands in `seen`. -/
def CommandReconciliation.InvalidBinding (r : CommandReconciliation)
    (seen : List (ConversationID × CommandID)) : Prop :=
  blank r.commandID ∨ blank r.conversationID ∨ r.commandBytes = [] ∨ r.commandSHA256.length ≠ 32 ∨
    (hashBytes r.commandBytes).bytes ≠ r.commandSHA256 ∨ r.identity ∈ seen ∨ r.disposition.hasBlankCode = true
deriving Decidable

namespace CommandTransitions

def checkReconciliation (db : CommandTransitions σ) (s : σ)
    (seen : List (ConversationID × CommandID)) (r : CommandReconciliation) :
    Except Error (List (ConversationID × CommandID)) := do
  failWhen (r.InvalidBinding seen) "messaging command reconciliation binding is invalid"
  let state ← db.loadCommandTransitionState s r.commandID r.commandBytes
  failWhen (state.conversationID ≠ r.conversationID ∨ state.localState ≠ .submitted ∨
    state.outboxState ≠ .submitted) "messaging command reconciliation state mismatch"
  return r.identity :: seen

def applyReconciliation (db : CommandTransitions σ) (retryAt : ℤ) (s : σ)
    (r : CommandReconciliation) : Except Error σ :=
  match r.disposition with
  | .homePending => .ok s
  | .accepted => db.applyAcceptedCommandResult r.commandID s
  | .failed code => db.applyTerminalCommandResult r.commandID code false false s
  | .superseded code => db.applyTerminalCommandResult r.commandID code true false s
  | .notFound => db.applyNotFoundCommandResult r.commandID retryAt s

/-- The store as the repository of the engine. A transaction that fails leaves no state. -/
def repository (db : CommandTransitions σ) : CommandReconciliationRepository σ where
  submittedCommands := db.submittedCommands
  applyCommandReconciliations reconciliations retryAt s := do
    failWhen (commandReconciliationBatchLimit < reconciliations.length ∨
      reconciliations ≠ [] ∧ retryAt ≤ 0) "messaging command reconciliation batch is invalid"
    let _ ← reconciliations.foldlM (db.checkReconciliation s) []
    reconciliations.foldlM (db.applyReconciliation retryAt) s

variable [Payloads]

/-- The database after a round, which is the one before it if the round fails. -/
def afterRound (db : CommandTransitions σ) (resolve : List ConversationCommandResultRef →
  Except Error (List ResolvedConversationCommandResult))
    (endpoint : Endpoint) (now : ℤ) (s : σ) : σ :=
  match reconcileSubmittedCommands db.repository resolve endpoint now s with
  | .ok (s', _) => s'
  | .error _ => s

end CommandTransitions

section

variable [Payloads]

/-- `r` is what the response says about the submitted command `c` of this device. -/
structure Settles (endpoint : Endpoint) (results : List ResolvedConversationCommandResult)
    (c : SubmittedCommand) (r : CommandReconciliation) : Prop where
  bound : { c with disposition := r.disposition } = r
  hash : (hashBytes c.commandBytes).bytes = c.commandSHA256
  result : ∃ command, Owns endpoint c command ∧ ∃ result ∈ results,
    result.identity = c.identity ∧ result.commandSHA256 = c.commandSHA256 ∧
      validateResult command result = .ok r.disposition

/-- The response answers each command once, and `rs` are the answers in the order of the commands. -/
structure Answers (endpoint : Endpoint) (submitted : List SubmittedCommand)
    (results : List ResolvedConversationCommandResult) (rs : List CommandReconciliation) : Prop where
  count : results.length = submitted.length
  distinct : (results.map ResolvedConversationCommandResult.identity).Nodup
  settles : List.Forall₂ (Settles endpoint results) submitted rs

variable {endpoint : Endpoint} {c : SubmittedCommand} {r : CommandReconciliation}
  {submitted : List SubmittedCommand} {results : List ResolvedConversationCommandResult}
  {rs : List CommandReconciliation}

lemma settles_of_takeResults
    {t : KeyedTable ResolvedConversationCommandResult ResolvedConversationCommandResult.identity}
    (hrows : ∀ res ∈ t.rows, res ∈ results) (h : takeResults endpoint submitted t = .ok rs) :
    List.Forall₂ (Settles endpoint results) submitted rs := by
  induction submitted generalizing t rs with
  | nil =>
    cases h
    exact .nil
  | cons c rest ih =>
    simp only [takeResults, ok_iff] at h
    obtain ⟨res, hfd, r, hr, others, hothers, rfl⟩ := h
    -- the result is taken out of the table, so no other command finds it
    obtain ⟨hmem, hid⟩ := find_eq_some.1 hfd
    simp only [validateSubmitted, ok_iff, not_or, not_not] at hr
    obtain ⟨⟨hsha, -, hhash⟩, cmd, hdec, hown, d, hd, rfl⟩ := hr
    refine .cons ⟨rfl, hhash, cmd, ⟨hdec, hown⟩, res, hrows _ hmem, hid, hsha, hd⟩ (ih ?_ hothers)
    exact fun x hx => hrows x (mem_delete.1 hx).1

lemma answers_of_validateResults (h : validateResults endpoint submitted results = .ok rs) :
    Answers endpoint submitted results rs := by
  simp only [validateResults, ok_iff, not_not, insertEach_eq_ok] at h
  obtain ⟨hcnt, t, hrows, htake⟩ := h
  have hrows : t.rows = results := hrows
  exact ⟨hcnt, hrows ▸ t.keys_nodup, settles_of_takeResults (fun _ hx => hrows ▸ hx) htake⟩

end

end PeersTouch.Client
