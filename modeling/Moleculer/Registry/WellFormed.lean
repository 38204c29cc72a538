import Moleculer.Registry.Soundness

/-! What the catalogs of a registry promise to each other, and the infos that break it. -/

namespace Moleculer.Cluster

open Base

namespace Registry

/-- The service of an endpoint is registered on the endpoint's node, and the node is stored. -/
def Linked {δ : Type} (registry : Registry) (ep : Endpoint δ) : Prop :=
  (∃ item ∈ registry.services, item.self = ep.service) ∧
    ep.service.node = ep.node ∧
    ∃ node, registry.nodes.get ep.node.id = some node ∧ node.self = ep.node

/-- The endpoints of a list are linked, and those on the local node are the noted ones. -/
structure Consistent {δ : Type} (registry : Registry) (list : EndpointList δ) : Prop where
  linked : ∀ ep ∈ list.endpoints, registry.Linked ep
  locals : list.localEndpoints =
    (list.endpoints.filter fun ep => ep.node.id = some registry.nodeID).map (·.ref)

/-- A remote node that was deleted or is not available. -/
def Gone (registry : Registry) (id : NodeID) : Prop :=
  id ≠ some registry.nodeID ∧ ∀ node, registry.nodes.get id = some node → node.available = false

/-- A registry whose catalogs fit together. -/
structure WellFormed (registry : Registry) : Prop where
  distinct : registry.services.Pairwise fun one other =>
    ¬ (one.self.fullName = other.self.fullName ∧ one.self.node.id = other.self.node.id)
  actions : ∀ name list, registry.actions.get name = some list → registry.Consistent list
  events : ∀ key list, registry.events.get key = some list → registry.Consistent list
  servicesGone : ∀ id, registry.Gone id → ∀ item ∈ registry.services, item.self.node.id ≠ id
  actionsGone : ∀ id, registry.Gone id → ∀ name list, registry.actions.get name = some list →
    ∀ ep ∈ list.endpoints, ep.node.id ≠ id
  eventsGone : ∀ id, registry.Gone id → ∀ key list, registry.events.get key = some list →
    ∀ ep ∈ list.endpoints, ep.node.id ≠ id

variable {registry : Registry}

theorem Sound.consistent {δ : Type} (sound : registry.Sound) {list : EndpointList δ}
    (served : list.Sound registry.nodeID registry.refs) :
    registry.Consistent list := by
  constructor
  · intro ep member
    obtain ⟨known, place, _⟩ := served.served ep member
    obtain ⟨item, inside, same⟩ := List.mem_map.mp known
    obtain ⟨node, located, self, _⟩ := sound.hosted ep.service known
    -- The endpoint and its service name one node.
    rw [← place] at located self
    exact ⟨⟨item, inside, same⟩, place.symm, node, located, self⟩
  · rw [served.locals]
    congr 1
    apply List.filter_congr
    intro ep member
    rw [(served.served ep member).2.2]

theorem Sound.refs_gone (sound : registry.Sound) {id : NodeID} (gone : registry.Gone id) :
    ∀ service ∈ registry.refs, service.node.id ≠ id := by
  intro service member here
  obtain ⟨node, located, self, able⟩ := sound.hosted service member
  rw [here] at located
  rcases able with available | isLocal
  · rw [gone.2 node located] at available
    cases available
  · exact gone.1 ((sound.keyed id node located).2.2.mp isLocal)

theorem Sound.endpoints_gone {δ : Type} (sound : registry.Sound) {id : NodeID}
    (gone : registry.Gone id) {list : EndpointList δ}
    (served : list.Sound registry.nodeID registry.refs) :
    ∀ ep ∈ list.endpoints, ep.node.id ≠ id := by
  intro ep member
  obtain ⟨known, place, _⟩ := served.served ep member
  rw [place]
  exact sound.refs_gone gone ep.service known

theorem Sound.wellFormed (sound : registry.Sound) :
    registry.WellFormed where
  distinct := List.pairwise_map.mp sound.distinct
  actions := fun name list found => sound.consistent (sound.actions name list found)
  events := fun key list found => sound.consistent (sound.events key list found)
  servicesGone := fun _ gone item inside =>
    sound.refs_gone gone item.self (List.mem_map.mpr ⟨item, inside, rfl⟩)
  actionsGone := fun _ gone name list found =>
    sound.endpoints_gone gone (sound.actions name list found)
  eventsGone := fun _ gone key list found =>
    sound.endpoints_gone gone (sound.events key list found)

/-- An operation that is not an info without a sender. -/
def Operation.Named : Operation → Prop
  | .processNodeInfo payload _ => payload.sender ≠ none
  | _ => True

theorem sound_run (sound : registry.Sound) {operations : List Operation}
    (named : ∀ operation ∈ operations, operation.Named) :
    (run step registry operations).Sound := by
  induction operations generalizing registry with
  | nil => exact sound
  | cons operation rest ih =>
    obtain ⟨first, others⟩ := List.forall_mem_cons.mp named
    refine ih (sound.step operation ?_) others
    rintro payload now rfl
    exact first

theorem nodeID_run (registry : Registry) (operations : List Operation) :
    (run step registry operations).nodeID = registry.nodeID := by
  induction operations generalizing registry with
  | nil => rfl
  | cons operation rest ih => exact (ih (registry.step operation)).trans (nodeID_step ..)

/-- The catalogs of a registry fit together as long as every info names its sender. -/
theorem wellFormed_run (nodeID instanceID : String) (now : Nat) (operations : List Operation)
    (named : ∀ operation ∈ operations, operation.Named) :
    WellFormed (run step (create nodeID instanceID now) operations) :=
  (sound_run (sound_create nodeID instanceID now) named).wellFormed

/-- A service with one action, for the runs below. -/
def posts : ServiceInfo where
  name := "posts"
  version := none
  fullName := some "posts"
  settings := default
  metadata := default
  actions := some (.set .empty "posts.list" ⟨"posts.list", none, false, default⟩)
  events := none

/-- An info that lists the service. -/
def postsInfo (sender : NodeID) : NodeInfo where
  sender := sender
  instanceID := "instance"
  seq := some 1
  services := some [posts]
  ipList := []
  hostname := none
  port := none
  client := default
  config := default
  metadata := default

/-- A service on two nodes, one of which leaves and is forgotten. -/
theorem wellFormed_run_leaving :
    WellFormed (run step (create "local" "instance" 0)
      [.registerLocalService posts, .processNodeInfo (postsInfo (some "remote")) 1,
        .disconnected (some "remote") 2, .checkOfflineNodes 10 20]) :=
  wellFormed_run "local" "instance" 0 _ (by simp [Operation.Named, postsInfo])

/-- An info without a sender adds an endpoint for the local service on a node without an id. -/
theorem not_wellFormed_without_sender :
    ¬ WellFormed (run step (create "local" "instance" 0)
      [.registerLocalService posts, .processNodeInfo (postsInfo none) 1]) := by
  intro wellFormed
  have consistent := wellFormed.actions "posts.list" _ rfl
  have linked := consistent.linked _ (List.mem_cons_of_mem _ List.mem_cons_self)
  exact absurd linked.2.1 (by decide)

end Registry

end Moleculer.Cluster
