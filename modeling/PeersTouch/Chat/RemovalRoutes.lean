import PeersTouch.Chat.Membership

/-!
# The routes of a membership change

`PrepareMembership` of the command service up to the routes of its plan. The routes that were
verified for the request are made canonical first. Only then the routes of departing devices are
taken from the records of the conversation.
-/

namespace PeersTouch.Chat

open Lib List

structure EndpointRoute where
  endpoint : Endpoint
  homeStation : StationID

def EndpointRoute.key (route : EndpointRoute) : String := route.endpoint.key

def uniqueActors (actors : List PTID) : List PTID := (actors.filter (· ≠ "")).dedup.insertionSort (· ≤ ·)

/-- One round of the loop over the routes, after those in `seen`. -/
def checkRoute (actors : List PTID) (seen : List EndpointRoute) (route : EndpointRoute) :
    Except Error (List EndpointRoute) := do
  failWhen (route.endpoint.validate ≠ .ok () ∨ trimSpace route.homeStation = "" ∨
    trimSpace route.homeStation ≠ route.homeStation)
    (invalid "application.resolve_actor_routes" "route" "contains an invalid endpoint route")
  failWhen (route.endpoint.actor ∉ uniqueActors actors)
    (invalid "application.resolve_actor_routes" "route" "contains an unexpected actor")
  failWhen (∃ r ∈ seen, r.key = route.key)
    (invalid "application.resolve_actor_routes" "route" "contains a duplicate endpoint")
  failWhen (∃ r ∈ seen, r.endpoint.actor = route.endpoint.actor ∧ r.homeStation ≠ route.homeStation)
    (invalid "application.resolve_actor_routes" "home_station" "one actor resolved to multiple Home Stations")
  return route :: seen

def noRoute (actor : PTID) : Error :=
  invalid "application.resolve_actor_routes" "route" s!"actor {actor} has no verified active endpoint"

/-- The source goes through the actors in any order. -/
def canonicalActorRoutes (routes : List EndpointRoute) (actors : List PTID) :
    Except Error (List EndpointRoute) := do
  let _ ← routes.foldlM (checkRoute actors) []
  (uniqueActors actors).forM fun actor => failWhen (∀ r ∈ routes, r.endpoint.actor ≠ actor) (noRoute actor)
  return routes.insertionSort fun a b => a.key ≤ b.key

def addConversationRemovalRoute (devices : List MemberDevice)
    (routes : Registry EndpointRoute EndpointRoute.key) (endpoint : Endpoint) :
    Except Error (Registry EndpointRoute EndpointRoute.key) := do
  let device ← orFail (devices.find? fun d => d.endpoint = endpoint ∧ d.active = true)
    (newError .deviceConflict "application.add_removal_routes" "endpoint" "is not an active Conversation member device")
  match routes.find endpoint.key with
  | some route =>
    failWhen (route.homeStation ≠ device.homeStation)
      (newError .authorityPlanStale "application.add_removal_routes" "home_station"
        "active identity route disagrees with the Conversation member device")
    return routes
  | none => return routes.insert ⟨endpoint, device.homeStation⟩

def addRemovalRoutes (devices : List MemberDevice) (changes : List MembershipChange)
    (routes : List EndpointRoute) : Except Error (List EndpointRoute) := do
  let byEndpoint ← changes.foldlM (fun byEndpoint change => match change.action with
    | .removeDevice => addConversationRemovalRoute devices byEndpoint change.endpoint
    | .removeActor | .leave =>
      (devices.filter fun d => d.active = true ∧ d.endpoint.actor = change.actor).foldlM
        (fun byEndpoint d => addConversationRemovalRoute devices byEndpoint d.endpoint) byEndpoint
    | _ => return byEndpoint) (routes.foldl Registry.insert ∅)
  return byEndpoint.values

def Conversation.planActors (c : Conversation) (requester : Endpoint)
    (changes : List MembershipChange) : List PTID :=
  c.activeMemberActors ++ requester.actor :: changes.map MembershipChange.actor

/-- `PrepareMembership`, with the result of its `checks` of the request and what it does with the
routes. -/
def Conversation.prepareMembership {α : Type} (c : Conversation) (requester : Endpoint)
    (changes : List MembershipChange) (verified : List EndpointRoute) (checks : Except Error Unit)
    (plan : List EndpointRoute → Except Error α) : Except Error α := do
  checks
  let routes ← canonicalActorRoutes verified (c.planActors requester changes)
  let routes ← addRemovalRoutes c.devices.values changes routes
  plan routes

variable {routes : List EndpointRoute} {actors : List PTID}

lemma mem_uniqueActors {actor : PTID} : actor ∈ uniqueActors actors ↔ actor ∈ actors ∧ actor ≠ "" := by
  simp [uniqueActors]

section

attribute [local instance] checksum

lemma pairGroup_planActors : ∃ c t, pairGroup.run = .ok (c, t) ∧ phone ∈ c.activeEndpoints ∧
    "bob" ∈ c.activeMemberActors ∧ c.planActors laptop [removeBob] = ["alice", "bob", "alice", "bob"] := by
  have h : (pairGroup.run.map fun p => (decide (phone ∈ p.1.activeEndpoints ∧
    "bob" ∈ p.1.activeMemberActors), p.1.planActors laptop [removeBob])) =
        .ok (true, ["alice", "bob", "alice", "bob"]) := by
    set_option maxRecDepth 10000 in decide
  obtain ⟨⟨c, t⟩, hrun, h⟩ := map_eq_ok.1 h
  simp only [Prod.mk.injEq, decide_eq_true_eq, and_assoc] at h
  exact ⟨c, t, hrun, h⟩

end

end PeersTouch.Chat
