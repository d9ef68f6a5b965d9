import PeersTouch.Client.Store

/-!
# Preparing a membership transition

`MembershipTransitionPreparer::prepare` stages an OpenMLS commit as the pending transition of its
conversation, in place of any other, and then builds and persists a command. Some of the later
returns discard the staged transition; those of the `?` operator do not.
-/

namespace PeersTouch.Client

open Lib Function
open Chat (Bytes ConversationID DeviceID PTID)

inductive MessagingMembershipAction where
  | unspecified | addActor | removeActor | leave | changeRole | addDevice | removeDevice

structure MembershipTransitionIntentInput where
  conversationID : ConversationID
  action : MessagingMembershipAction
  role : String

/-- What is read of the plan once the commit is staged. -/
structure TransitionPlan where
  fromMLSEpoch : ℤ
  (addedEndpoints removedEndpoints : List ActorDeviceRef)

structure MlsPreparedTransition where
  transitionID : String
  (fromMLSEpoch toMLSEpoch : ℕ)
  (commitBytes welcomeBytes : Bytes)
deriving DecidableEq

structure MessagingMembershipChangeIntent where
  action : MessagingMembershipAction
  ptid : PTID
  deviceID : DeviceID
  role : String

structure MembershipTransitionIntent where
  prepared : MlsPreparedTransition
  changes : List MessagingMembershipChangeIntent
  welcomeRecipients : List (PTID × DeviceID)

/-- The steps of other components: the checks before the commit is staged, the commit that OpenMLS
builds for an action, the export of the staged session, and the store. -/
structure TransitionSteps where
  checks : Except Error Unit
  commit : Except Error MlsPreparedTransition
  exportPending : MlsPreparedTransition → Except Error Bytes
  persist : MembershipTransitionIntent → Bytes → Except Error Unit

/-- A return after the commit was staged: once it is discarded, or at once. -/
inductive EarlyReturn where
  | discarded (error : Error)
  | leaving (error : Error)

def chatEndpoint (device : ActorDeviceRef) : Except Error (PTID × DeviceID) := do
  failWhen (blank device.deviceID) "actor device reference requires device ID"
  return (← actorDevicePTID device, device.deviceID)

/-- `as i64` of a `u64`. -/
def asI64 (n : ℕ) : ℤ := if n ≤ maximumI64 then n else n - 2 ^ 64

def epochMismatch : Error := "OpenMLS transition epoch does not match authority plan"

namespace TransitionSteps

/-- The transition that a call stages, if it gets so far. -/
def staged (steps : TransitionSteps) (input : MembershipTransitionIntentInput) :
    Except Error MlsPreparedTransition := do
  steps.checks
  match input.action with
  | .unspecified | .changeRole => .error "unsupported logical membership action"
  | _ => steps.commit

def finish (steps : TransitionSteps) (input : MembershipTransitionIntentInput)
    (plan : TransitionPlan) (prepared : MlsPreparedTransition) :
    Except EarlyReturn MembershipTransitionIntent := do
  failWhen (asI64 prepared.fromMLSEpoch ≠ plan.fromMLSEpoch ∨
    asI64 prepared.toMLSEpoch ≠ plan.fromMLSEpoch + 1) (.discarded epochMismatch)
  let affected ← match input.action with
    | .addActor | .addDevice => .ok plan.addedEndpoints
    | .removeActor | .removeDevice | .leave => .ok plan.removedEndpoints
    | _ => .error (.discarded "unsupported logical membership action")
  let changes ← affected.mapM fun endpoint => do
    let ptid ← (actorDevicePTID endpoint).mapError .leaving
    return { action := input.action, ptid, deviceID := endpoint.deviceID, role := input.role }
  let welcomeRecipients ← plan.addedEndpoints.mapM fun endpoint => (chatEndpoint endpoint).mapError .leaving
  failWhen (plan.addedEndpoints ≠ [] ∧ prepared.welcomeBytes = [] ∨ plan.addedEndpoints = [] ∧ prepared.welcomeBytes ≠ [])
    (.discarded "OpenMLS Welcome set does not match authority plan")
  let pendingState ← (steps.exportPending prepared).mapError .leaving
  let intent := { prepared, changes, welcomeRecipients }
  (steps.persist intent pendingState).mapError .discarded
  return intent

/-- `prepare`, with the pending transitions of the MLS manager before and after the call. -/
def prepare (steps : TransitionSteps) (input : MembershipTransitionIntentInput)
    (plan : TransitionPlan) (pending : ConversationID → Option MlsPreparedTransition) :
    Except Error MembershipTransitionIntent × (ConversationID → Option MlsPreparedTransition) :=
  match steps.staged input with
  | .error error => (.error error, pending)
  | .ok prepared =>
    match steps.finish input plan prepared with
    | .ok intent => (.ok intent, update pending input.conversationID (some prepared))
    | .error (.discarded error) => (.error error, update pending input.conversationID none)
    | .error (.leaving error) => (.error error, update pending input.conversationID (some prepared))

end TransitionSteps

/-- The call leaves nothing of its own, and what was pending before it. -/
def CleansUp (staged : Except Error MlsPreparedTransition)
    (before after : Option MlsPreparedTransition) : Prop :=
  (∀ prepared, staged = .ok prepared → after ≠ some prepared) ∧ ∀ earlier, before = some earlier → after = some earlier

def firstTransition (id : String) : MlsPreparedTransition := ⟨id, 1, 2, [1], [1]⟩

/-- Carol is added to the team, and every step of another component succeeds. -/
def addCarolSteps : TransitionSteps := ⟨.ok (), .ok (firstTransition "new"), fun _ => .ok [1], fun _ _ => .ok ()⟩

end PeersTouch.Client
