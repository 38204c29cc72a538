import Moleculer.Base.Run
import Moleculer.Registry.Changes

/-! The links between the catalogs stay intact, whatever happens to the registry. -/

namespace Moleculer.Cluster

open Base

section Lists

variable {δ : Type}

/-- Endpoints belong to known services and lie on their nodes, each node has at most one for each
service name, and the local ones are noted. -/
structure EndpointList.Sound (brokerID : String) (known : List ServiceRef)
    (list : EndpointList δ) : Prop where
  served : ∀ ep ∈ list.endpoints, ep.service ∈ known ∧ ep.node = ep.service.node ∧
    ep.isLocal = decide (ep.node.id = some brokerID)
  apart : list.endpoints.Pairwise fun one other =>
    ¬ (one.node = other.node ∧ one.service.name = other.service.name)
  locals : list.localEndpoints = (list.endpoints.filter (·.isLocal)).map (·.ref)

variable {list : EndpointList δ} {known : List ServiceRef} {brokerID : String}

theorem EndpointList.Sound.of_setLocal
    (served : ∀ ep ∈ list.endpoints, ep.service ∈ known ∧ ep.node = ep.service.node ∧
      ep.isLocal = decide (ep.node.id = some brokerID))
    (apart : list.endpoints.Pairwise fun one other =>
      ¬ (one.node = other.node ∧ one.service.name = other.service.name)) :
    EndpointList.Sound brokerID known list.setLocalEndpoints := ⟨served, apart, rfl⟩

theorem EndpointList.Sound.new (brokerID : String) (known : List ServiceRef) (name : String)
    (group : Option String) :
    EndpointList.Sound brokerID known (.new name group : EndpointList δ) :=
  ⟨by simp [EndpointList.new], .nil, rfl⟩

theorem EndpointList.Sound.mono {more : List ServiceRef} (sound : list.Sound brokerID known)
    (grow : known ⊆ more) :
    list.Sound brokerID more :=
  ⟨fun ep member => ⟨grow (sound.served ep member).1, (sound.served ep member).2⟩, sound.apart,
    sound.locals⟩

theorem EndpointList.Sound.add (sound : list.Sound brokerID known) (fresh : Nat)
    {service : ServiceRef} (member : service ∈ known) (data : δ) :
    (list.add brokerID fresh service.node service data).Sound brokerID known := by
  unfold EndpointList.add
  split
  · -- An update changes the data of endpoints and nothing else.
    rename_i found _
    have unmoved (ep : Endpoint δ) :
        (if ep.ref = found.ref then { ep with data := data } else ep).isLocal = ep.isLocal ∧
        (if ep.ref = found.ref then { ep with data := data } else ep).ref = ep.ref ∧
        (if ep.ref = found.ref then { ep with data := data } else ep).node = ep.node ∧
        (if ep.ref = found.ref then { ep with data := data } else ep).service = ep.service := by
      split <;> exact ⟨rfl, rfl, rfl, rfl⟩
    refine ⟨?_, ?_, ?_⟩
    · intro ep updated
      obtain ⟨old, inside, rfl⟩ := List.mem_map.mp updated
      simp only [unmoved]
      exact sound.served old inside
    · simp only [List.pairwise_map, unmoved]
      exact sound.apart
    · simp only [List.filter_map, List.map_map, Function.comp_def, unmoved, sound.locals]
  · rename_i absent
    refine .of_setLocal ?_ ?_
    · intro ep inside
      rcases List.mem_append.mp inside with old | added
      · exact sound.served ep old
      · rw [List.mem_singleton.mp added]
        exact ⟨member, rfl, rfl⟩
    · rw [List.pairwise_append]
      refine ⟨sound.apart, List.pairwise_singleton _ _, fun one inside other added => ?_⟩
      rw [List.mem_singleton.mp added]
      have differs := List.find?_eq_none.mp absent one inside
      simpa using differs

theorem EndpointList.Sound.removeByService (sound : list.Sound brokerID known)
    (service : ServiceRef) :
    (list.removeByService service).Sound brokerID (known.filter (· ≠ service)) := by
  refine .of_setLocal (fun ep inside => ?_) (sound.apart.filter _)
  obtain ⟨old, differs⟩ := List.mem_filter.mp inside
  have before := sound.served ep old
  exact ⟨List.mem_filter.mpr ⟨before.1, by simpa using differs⟩, before.2⟩

theorem EndpointList.Sound.removeByNodeID (sound : list.Sound brokerID known) (nodeID : NodeID) :
    (list.removeByNodeID nodeID).Sound brokerID known :=
  .of_setLocal (fun ep inside => sound.served ep (List.mem_filter.mp inside).1)
    (sound.apart.filter _)

end Lists

section Catalogs

variable {κ δ : Type} [DecidableEq κ] {brokerID : String} {known : List ServiceRef}
  {catalog : Catalog κ δ}

/-- Every list of a catalog is sound. -/
def Catalog.Sound (brokerID : String) (known : List ServiceRef) (catalog : Catalog κ δ) : Prop :=
  ∀ key list, catalog.get key = some list → list.Sound brokerID known

theorem Catalog.Sound.mono (sound : Catalog.Sound brokerID known catalog)
    {more : List ServiceRef} (grow : known ⊆ more) : Catalog.Sound brokerID more catalog :=
  fun key list found => (sound key list found).mono grow

theorem Catalog.Sound.add (sound : Catalog.Sound brokerID known catalog) (key : κ) (name : String)
    (group : Option String) (fresh : Nat) {service : ServiceRef} (member : service ∈ known)
    (data : δ) :
    Catalog.Sound brokerID known (Catalog.add catalog key (.new name group) brokerID fresh
      service.node service data) := by
  intro other list found
  rw [Catalog.add, OrderedMap.get_set] at found
  split at found
  · -- The list under the key is an old one or a new one.
    cases found
    apply EndpointList.Sound.add _ fresh member data
    cases located : catalog.get key with
    | none => exact .new brokerID known name group
    | some old => exact sound key old located
  · exact sound other list found

theorem Catalog.Sound.removeByService (sound : Catalog.Sound brokerID known catalog)
    (service : ServiceRef) :
    Catalog.Sound brokerID (known.filter (· ≠ service))
      (Catalog.removeByService catalog service) := by
  intro key list found
  rw [Catalog.removeByService, OrderedMap.get_mapValues] at found
  obtain ⟨old, located, rfl⟩ := Option.map_eq_some_iff.mp found
  exact (sound key old located).removeByService service

theorem Catalog.Sound.remove (sound : Catalog.Sound brokerID known catalog) (test : κ → Bool)
    (nodeID : NodeID) : Catalog.Sound brokerID known (Catalog.remove catalog test nodeID) := by
  intro key list found
  rw [Catalog.remove, OrderedMap.get_mapEntries] at found
  obtain ⟨old, located, rfl⟩ := Option.map_eq_some_iff.mp found
  split
  · exact (sound key old located).removeByNodeID nodeID
  · exact sound key old located

end Catalogs

namespace Registry

/-- The registered services, by reference. -/
def refs (registry : Registry) : List ServiceRef := registry.services.map (·.self)

/-- What holds of every registry whose infos came with a sender. -/
structure Sound (registry : Registry) : Prop where
  keyed : ∀ id node, registry.nodes.get id = some node →
    node.self.id = id ∧ id ≠ none ∧ (node.isLocal = true ↔ id = some registry.nodeID)
  home : (registry.nodes.get (some registry.nodeID)).isSome = true
  hosted : ∀ service ∈ registry.refs, ∃ node, registry.nodes.get service.node.id = some node ∧
    node.self = service.node ∧ (node.available = true ∨ node.isLocal = true)
  distinct : registry.refs.Pairwise fun one other =>
    ¬ (one.fullName = other.fullName ∧ one.node.id = other.node.id)
  actions : Catalog.Sound registry.nodeID registry.refs registry.actions
  events : Catalog.Sound registry.nodeID registry.refs registry.events

/-- A node that is stored under its id and may have services. -/
def Hosts (registry : Registry) (node : NodeRef) : Prop :=
  ∃ stored, registry.nodes.get node.id = some stored ∧ stored.self = node ∧
    (stored.available = true ∨ stored.isLocal = true)

variable {registry : Registry} {service : ServiceRef} {id : NodeID}
  {change : ServiceItem → ServiceItem} {node : NodeRef}

theorem refs_modifyItem (registry : Registry) (service : ServiceRef)
    (same : ∀ item, (change item).self = item.self) :
    (registry.modifyItem service change).refs = registry.refs := by
  simp only [refs, modifyItem, List.map_map]
  apply List.map_congr_left
  intro item _
  simp only [Function.comp_apply]
  split
  · exact same item
  · rfl

/-- Two registries that differ in endpoints and in the contents of service items only. -/
structure Keeps (before after : Registry) : Prop where
  nodeID : after.nodeID = before.nodeID
  nodes : after.nodes = before.nodes
  started : after.started = before.started
  refs : after.refs = before.refs

namespace Keeps

theorem refl (registry : Registry) : Keeps registry registry := ⟨rfl, rfl, rfl, rfl⟩

theorem trans {first second third : Registry} (left : Keeps first second)
    (right : Keeps second third) : Keeps first third :=
  ⟨right.nodeID.trans left.nodeID, right.nodes.trans left.nodes,
    right.started.trans left.started, right.refs.trans left.refs⟩

theorem foldl {ι : Type} {step : Registry → ι → Registry}
    (kept : ∀ state input, Keeps state (step state input)) (registry : Registry)
    (inputs : List ι) : Keeps registry (inputs.foldl step registry) :=
  List.foldlRecOn inputs step (.refl registry) fun _ before input _ =>
    before.trans (kept _ input)

end Keeps

theorem keeps_modifyItem (registry : Registry) (service : ServiceRef)
    (same : ∀ item, (change item).self = item.self) :
    Keeps registry (registry.modifyItem service change) :=
  ⟨rfl, rfl, rfl, refs_modifyItem registry service same⟩

theorem keeps_registerAction (registry : Registry) (node : NodeRef) (isLocal : Bool)
    (service : ServiceRef) (action : ActionInfo) :
    Keeps registry (registry.registerAction node isLocal service action) := by
  unfold registerAction
  split
  · exact ⟨rfl, rfl, rfl, refs_modifyItem _ service fun _ => rfl⟩
  · exact .refl registry

theorem keeps_registerActions (registry : Registry) (node : NodeRef) (isLocal : Bool)
    (service : ServiceRef) (actions : OrderedMap String ActionInfo) :
    Keeps registry (registry.registerActions node isLocal service actions) :=
  .foldl (fun state action => keeps_registerAction state node isLocal service action) registry _

theorem keeps_offerActions (registry : Registry) (node : NodeRef) (isLocal : Bool)
    (service : ServiceRef) (actions : Option (OrderedMap String ActionInfo)) :
    Keeps registry (registry.offerActions node isLocal service actions) := by
  cases actions with
  | none => exact .refl registry
  | some actions => exact keeps_registerActions registry node isLocal service actions

theorem keeps_registerEvent (registry : Registry) (node : NodeRef) (service : ServiceRef)
    (event : EventInfo) : Keeps registry (registry.registerEvent node service event) :=
  ⟨rfl, rfl, rfl, refs_modifyItem _ service fun _ => rfl⟩

theorem keeps_registerEvents (registry : Registry) (node : NodeRef) (service : ServiceRef)
    (events : OrderedMap String EventInfo) :
    Keeps registry (registry.registerEvents node service events) :=
  .foldl (fun state event => keeps_registerEvent state node service event) registry _

theorem keeps_offerEvents (registry : Registry) (node : NodeRef) (service : ServiceRef)
    (events : Option (OrderedMap String EventInfo)) :
    Keeps registry (registry.offerEvents node service events) := by
  cases events with
  | none => exact .refl registry
  | some events => exact keeps_registerEvents registry node service events

theorem keeps_syncActions (registry : Registry) (node : NodeRef) (isLocal : Bool)
    (service : ServiceRef) (before : List String)
    (actions : Option (OrderedMap String ActionInfo)) :
    Keeps registry (registry.syncActions node isLocal service before actions) :=
  (keeps_offerActions ..).trans (.foldl (fun state name =>
    (⟨rfl, rfl, rfl, rfl⟩ : Keeps state (state.unregisterAction node name))) _ _)

theorem keeps_syncEvents (registry : Registry) (node : NodeRef) (service : ServiceRef)
    (before : List String) (events : Option (OrderedMap String EventInfo)) :
    Keeps registry (registry.syncEvents node service before events) :=
  (keeps_offerEvents ..).trans (.foldl (fun state name =>
    (⟨rfl, rfl, rfl, rfl⟩ : Keeps state (state.unregisterEvent node name))) _ _)

theorem keeps_registerService (registry : Registry) (node : NodeRef) (isLocal : Bool)
    (svc : ServiceInfo) :
    Keeps (registry.enterService node svc).1 (registry.registerService node isLocal svc) :=
  (keeps_syncActions ..).trans (keeps_syncEvents ..)

/-- No operation changes the id of the broker. -/
theorem nodeID_step (registry : Registry) (operation : Operation) :
    (registry.step operation).nodeID = registry.nodeID := (changes_step registry operation).flags.1

/-! What happens to the nodes does not depend on the registry being sound. -/

/-- The nodes are the same, up to the list of services that the local node carries. -/
structure NodesKept (before after : Registry) : Prop where
  nodeID : after.nodeID = before.nodeID
  others : ∀ id, id ≠ some before.nodeID → after.nodes.get id = before.nodes.get id
  home : ∃ services : Node → List ServiceInfo, after.nodes.get (some before.nodeID) =
    (before.nodes.get (some before.nodeID)).map fun node =>
      { node with services := services node }

namespace NodesKept

theorem of_nodes {before after : Registry} (nodeID : after.nodeID = before.nodeID)
    (nodes : after.nodes = before.nodes) : NodesKept before after :=
  ⟨nodeID, fun _ _ => by rw [nodes], fun node => node.services, by rw [nodes]; simp⟩

theorem refl (registry : Registry) : NodesKept registry registry := .of_nodes rfl rfl

theorem trans {first second third : Registry} (left : NodesKept first second)
    (right : NodesKept second third) : NodesKept first third := by
  obtain ⟨change, home⟩ := left.home
  obtain ⟨change', home'⟩ := right.home
  refine ⟨right.nodeID.trans left.nodeID, fun id other => ?_,
    fun node => change' { node with services := change node }, ?_⟩
  · rw [right.others id (left.nodeID ▸ other), left.others id other]
  · rw [left.nodeID] at home'
    rw [home', home, Option.map_map]
    rfl

theorem hosts {before after : Registry} (kept : NodesKept before after) {node : NodeRef}
    (hosts : before.Hosts node) : after.Hosts node := by
  obtain ⟨stored, located, self, able⟩ := hosts
  by_cases other : node.id = some before.nodeID
  · obtain ⟨change, home⟩ := kept.home
    rw [other] at located
    exact ⟨{ stored with services := change stored }, by rw [other, home, located]; rfl, self, able⟩
  · exact ⟨stored, by rw [kept.others _ other, located], self, able⟩

end NodesKept

theorem NodesKept.foldl {ι : Type} {step : Registry → ι → Registry}
    (kept : ∀ state input, NodesKept state (step state input)) (registry : Registry)
    (inputs : List ι) : NodesKept registry (inputs.foldl step registry) := by
  induction inputs generalizing registry with
  | nil => exact .refl registry
  | cons input rest ih => exact (kept registry input).trans (ih (step registry input))

theorem nodes_removeService (registry : Registry) (fullName : String) (id : NodeID) :
    (registry.removeService fullName id).nodes = registry.nodes ∧
      (registry.removeService fullName id).nodeID = registry.nodeID := by
  unfold removeService
  split <;> exact ⟨rfl, rfl⟩

theorem nodes_enterService (registry : Registry) (node : NodeRef) (svc : ServiceInfo) :
    (registry.enterService node svc).1.nodes = registry.nodes ∧
      (registry.enterService node svc).1.nodeID = registry.nodeID := by
  unfold enterService
  split <;> exact ⟨rfl, rfl⟩

theorem nodesKept_unregisterService (registry : Registry) (fullName : String) (id : NodeID) :
    NodesKept registry (registry.unregisterService fullName id) := by
  have removed := nodes_removeService registry fullName (some (registry.targetID id))
  unfold unregisterService
  dsimp only
  split
  · refine ⟨removed.2, fun other differs => ?_,
      fun node => node.services.eraseP fun svc => svc.fullName = some fullName, ?_⟩
    · simp only [modifyNode, OrderedMap.get_modify, if_neg differs, removed.1]
    · simp only [modifyNode, OrderedMap.get_modify, if_true, removed.1]
  · exact .of_nodes removed.2 removed.1

theorem mem_services_unregisterService {fullName : String} {item : ServiceItem}
    (inside : item ∈ (registry.unregisterService fullName id).services) :
    item ∈ registry.services := by
  have removed : (registry.unregisterService fullName id).services =
      (registry.removeService fullName (some (registry.targetID id))).services := by
    unfold unregisterService
    dsimp only
    split <;> rfl
  rw [removed] at inside
  unfold removeService at inside
  split at inside
  · exact (List.mem_filter.mp inside).1
  · exact inside

theorem nodes_registerService (registry : Registry) (node : NodeRef) (isLocal : Bool)
    (svc : ServiceInfo) :
    (registry.registerService node isLocal svc).nodes = registry.nodes ∧
      (registry.registerService node isLocal svc).nodeID = registry.nodeID := by
  have entered := nodes_enterService registry node svc
  have keeps := keeps_registerService registry node isLocal svc
  exact ⟨keeps.nodes.trans entered.1, keeps.nodeID.trans entered.2⟩

theorem nodesKept_registerServices (registry : Registry) (node : NodeRef) (isLocal : Bool)
    (serviceList : List ServiceInfo) :
    NodesKept registry (registry.registerServices node isLocal serviceList) := by
  refine NodesKept.trans (.foldl (fun state svc => ?_) registry serviceList)
    (.foldl (fun state item => ?_) _ _)
  · have kept := nodes_registerService state node isLocal svc
    exact .of_nodes kept.2 kept.1
  · unfold pruneService
    split
    · exact nodesKept_unregisterService ..
    · exact .refl state

theorem nodesKept_registerLocalService (registry : Registry) (svc : ServiceInfo) :
    NodesKept registry (registry.registerLocalService svc) := by
  unfold registerLocalService
  split
  · exact .refl registry
  · have offered := (keeps_offerActions (registry.addService registry.localNode.self svc true).1
      registry.localNode.self registry.localNode.isLocal
      (registry.addService registry.localNode.self svc true).2 svc.actions).trans
      (keeps_offerEvents _ registry.localNode.self
        (registry.addService registry.localNode.self svc true).2 svc.events)
    refine ⟨offered.nodeID, fun id other => ?_, fun node => node.services ++ [svc.complete], ?_⟩
    · simp only [modifyNode, OrderedMap.get_modify, if_neg other, offered.nodes]
      rfl
    · simp only [modifyNode, OrderedMap.get_modify, if_true, offered.nodes]
      rfl

theorem nodes_unregisterServicesByNode (registry : Registry) (id : NodeID) :
    (registry.unregisterServicesByNode id).nodes = registry.nodes ∧
      (registry.unregisterServicesByNode id).nodeID = registry.nodeID := by
  unfold unregisterServicesByNode
  exact List.foldlRecOn _ _ (motive := fun state : Registry =>
    state.nodes = registry.nodes ∧ state.nodeID = registry.nodeID) ⟨rfl, rfl⟩
    fun _ kept _ _ => kept

theorem get_disconnected (registry : Registry) (id other : NodeID) (now : Nat) :
    (registry.disconnected id now).nodes.get other = if other = id then
      (registry.nodes.get id).map (·.disconnected now) else registry.nodes.get other := by
  unfold Registry.disconnected
  cases found : registry.nodes.get id with
  | none =>
    dsimp only
    split
    · rename_i here
      rw [here, found]
      rfl
    · rfl
  | some node =>
    dsimp only
    split
    · rw [(nodes_unregisterServicesByNode _ _).1, modifyNode, OrderedMap.get_modify]
      by_cases here : other = id
      · rw [if_pos here, if_pos here, here, found]
      · rw [if_neg here, if_neg here]
    · rename_i offline
      by_cases here : other = id
      · rw [if_pos here, here, found, Option.map_some, Node.disconnected, if_neg offline]
      · rw [if_neg here]

theorem nodeID_disconnected (registry : Registry) (id : NodeID) (now : Nat) :
    (registry.disconnected id now).nodeID = registry.nodeID :=
  nodeID_step registry (.disconnected id now)

theorem get_modifyNode (registry : Registry) (id other : NodeID) (change : Node → Node) :
    (registry.modifyNode id change).nodes.get other =
      if other = id then (registry.nodes.get id).map change else registry.nodes.get other := by
  rw [modifyNode, OrderedMap.get_modify]
  by_cases here : other = id
  · rw [if_pos here, if_pos here, here]
  · rw [if_neg here, if_neg here]

theorem Sound.of_keeps {before after : Registry} (sound : before.Sound)
    (keeps : Keeps before after)
    (actions : Catalog.Sound before.nodeID before.refs after.actions)
    (events : Catalog.Sound before.nodeID before.refs after.events) : after.Sound := by
  obtain ⟨nodeID, nodes, _, refs⟩ := keeps
  constructor
  · rw [nodes, nodeID]
    exact sound.keyed
  · rw [nodes, nodeID]
    exact sound.home
  · rw [nodes, refs]
    exact sound.hosted
  · rw [refs]
    exact sound.distinct
  · rwa [nodeID, refs]
  · rwa [nodeID, refs]

theorem Sound.modifyItem (sound : registry.Sound) (service : ServiceRef)
    (same : ∀ item, (change item).self = item.self) :
    (registry.modifyItem service change).Sound :=
  sound.of_keeps (keeps_modifyItem registry service same) sound.actions sound.events

theorem Sound.registerAction (sound : registry.Sound) (isLocal : Bool)
    (member : service ∈ registry.refs) (action : ActionInfo) :
    (registry.registerAction service.node isLocal service action).Sound := by
  refine sound.of_keeps (keeps_registerAction ..) ?_ ?_
  · unfold Registry.registerAction
    split
    · exact sound.actions.add action.name action.name none registry.nextRef member action
    · exact sound.actions
  · unfold Registry.registerAction
    split <;> exact sound.events

theorem Sound.registerEvent (sound : registry.Sound) (member : service ∈ registry.refs)
    (event : EventInfo) :
    (registry.registerEvent service.node service event).Sound :=
  sound.of_keeps (keeps_registerEvent ..) sound.actions
    (sound.events.add _ event.name _ registry.nextRef member event)

theorem Sound.registerActions (sound : registry.Sound) (isLocal : Bool)
    (member : service ∈ registry.refs) (actions : OrderedMap String ActionInfo) :
    (registry.registerActions service.node isLocal service actions).Sound := by
  -- The service stays known while its actions are registered.
  refine (List.foldlRecOn actions.values _ (motive := fun state : Registry =>
    state.Sound ∧ state.refs = registry.refs) ⟨sound, rfl⟩ fun state kept action _ => ?_).1
  obtain ⟨before, same⟩ := kept
  exact ⟨before.registerAction isLocal (same ▸ member) action,
    (keeps_registerAction state service.node isLocal service action).refs.trans same⟩

theorem Sound.registerEvents (sound : registry.Sound) (member : service ∈ registry.refs)
    (events : OrderedMap String EventInfo) :
    (registry.registerEvents service.node service events).Sound := by
  refine (List.foldlRecOn events.values _ (motive := fun state : Registry =>
    state.Sound ∧ state.refs = registry.refs) ⟨sound, rfl⟩ fun state kept event _ => ?_).1
  obtain ⟨before, same⟩ := kept
  exact ⟨before.registerEvent (same ▸ member) event,
    (keeps_registerEvent state service.node service event).refs.trans same⟩

theorem Sound.offerActions (sound : registry.Sound) (isLocal : Bool)
    (member : service ∈ registry.refs) (actions : Option (OrderedMap String ActionInfo)) :
    (registry.offerActions service.node isLocal service actions).Sound := by
  cases actions with
  | none => exact sound
  | some actions => exact sound.registerActions isLocal member actions

theorem Sound.offerEvents (sound : registry.Sound) (member : service ∈ registry.refs)
    (events : Option (OrderedMap String EventInfo)) :
    (registry.offerEvents service.node service events).Sound := by
  cases events with
  | none => exact sound
  | some events => exact sound.registerEvents member events

theorem Sound.syncActions (sound : registry.Sound) (isLocal : Bool)
    (member : service ∈ registry.refs) (before : List String)
    (actions : Option (OrderedMap String ActionInfo)) :
    (registry.syncActions service.node isLocal service before actions).Sound :=
  List.foldlRecOn _ _ (sound.offerActions isLocal member actions) fun _ known _ _ =>
    known.of_keeps ⟨rfl, rfl, rfl, rfl⟩ (known.actions.remove _ service.node.id) known.events

theorem Sound.syncEvents (sound : registry.Sound) (member : service ∈ registry.refs)
    (before : List String) (events : Option (OrderedMap String EventInfo)) :
    (registry.syncEvents service.node service before events).Sound :=
  List.foldlRecOn _ _ (sound.offerEvents member events) fun _ known _ _ =>
    known.of_keeps ⟨rfl, rfl, rfl, rfl⟩ known.actions (known.events.remove _ service.node.id)

theorem Sound.addService (sound : registry.Sound) (hosts : registry.Hosts node) {svc : ServiceInfo}
    (free : registry.findService svc.resolvedName node.id = none) (isLocal : Bool) :
    (registry.addService node svc isLocal).1.Sound ∧
      (registry.addService node svc isLocal).1.refs =
        registry.refs ++ [(registry.addService node svc isLocal).2] := by
  have extended : (registry.addService node svc isLocal).1.refs =
      registry.refs ++ [(registry.addService node svc isLocal).2] := by
    simp [refs, Registry.addService, ServiceItem.new]
  have more : registry.refs ⊆ (registry.addService node svc isLocal).1.refs := by
    rw [extended]
    exact List.subset_append_left _ _
  refine ⟨⟨sound.keyed, sound.home, ?_, ?_, sound.actions.mono more, sound.events.mono more⟩,
    extended⟩
  · intro service member
    rw [extended] at member
    rcases List.mem_append.mp member with old | new
    · exact sound.hosted service old
    · rw [List.mem_singleton.mp new]
      exact hosts
  · -- No item of the node has the name of the new one.
    rw [extended, List.pairwise_append]
    refine ⟨sound.distinct, List.pairwise_singleton _ _, ?_⟩
    rintro one member other new ⟨sameName, sameNode⟩
    obtain ⟨item, inside, rfl⟩ := List.mem_map.mp member
    rw [List.mem_singleton.mp new] at sameName sameNode
    have differs := List.find?_eq_none.mp free item inside
    apply differs
    simp only [ServiceItem.equals, Bool.decide_and, Bool.and_eq_true, decide_eq_true_eq]
    exact ⟨sameName, .inr sameNode⟩

theorem Sound.removeItem (sound : registry.Sound) (service : ServiceRef) :
    (registry.removeItem service).Sound ∧
      (registry.removeItem service).refs = registry.refs.filter (· ≠ service) := by
  have shrunk : (registry.removeItem service).refs = registry.refs.filter (· ≠ service) := by
    simp only [refs, Registry.removeItem, List.filter_map]
    rfl
  refine ⟨⟨sound.keyed, sound.home, ?_, ?_, ?_, ?_⟩, shrunk⟩
  · intro other member
    rw [shrunk] at member
    exact sound.hosted other (List.mem_filter.mp member).1
  · rw [shrunk]
    exact sound.distinct.filter _
  · rw [shrunk]
    exact sound.actions.removeByService service
  · rw [shrunk]
    exact sound.events.removeByService service

theorem Sound.modifyNode (sound : registry.Sound) (id : NodeID) (change : Node → Node)
    (same : ∀ node, (change node).self = node.self ∧ (change node).isLocal = node.isLocal)
    (able : ∀ node, registry.nodes.get id = some node →
      (∃ service ∈ registry.refs, service.node.id = id) →
      (change node).available = true ∨ node.isLocal = true) :
    (registry.modifyNode id change).Sound := by
  -- Under every id there is the old node or the changed one.
  have lookup (other : NodeID) : (registry.modifyNode id change).nodes.get other =
      if other = id then (registry.nodes.get other).map change else registry.nodes.get other :=
    OrderedMap.get_modify ..
  refine ⟨?_, ?_, ?_, sound.distinct, sound.actions, sound.events⟩
  · intro other node found
    rw [lookup] at found
    split at found
    · obtain ⟨old, located, rfl⟩ := Option.map_eq_some_iff.mp found
      rw [(same old).1, (same old).2]
      exact sound.keyed other old located
    · exact sound.keyed other node found
  · change ((registry.modifyNode id change).nodes.get (some registry.nodeID)).isSome = true
    rw [lookup]
    split
    · rw [Option.isSome_map]
      exact sound.home
    · exact sound.home
  · intro service member
    obtain ⟨node, located, self, ready⟩ := sound.hosted service member
    rw [lookup]
    split
    · rename_i here
      refine ⟨change node, by rw [located]; rfl, by rw [(same node).1, self], ?_⟩
      rw [(same node).2]
      exact able node (here ▸ located) ⟨service, member, here⟩
    · exact ⟨node, located, self, ready⟩

theorem Sound.relist (sound : registry.Sound) {id : String} (home : registry.nodeID = id)
    (services : Node → List ServiceInfo) :
    Sound { registry.modifyNode (some id) (fun node => { node with services := services node })
      with localNodeInfoInvalidated := .seq } := by
  have changed := sound.modifyNode (some id) (fun node => { node with services := services node })
    (fun _ => ⟨rfl, rfl⟩) (fun node found _ => .inr (by
      rw [← home] at found
      exact (sound.keyed _ node found).2.2.mpr rfl))
  exact ⟨changed.keyed, changed.home, changed.hosted, changed.distinct, changed.actions,
    changed.events⟩

theorem Sound.setNode (sound : registry.Sound) {node : Node} (named : id ≠ none)
    (self : node.self.id = id) (isLocal : node.isLocal = true ↔ id = some registry.nodeID)
    (able : node.available = true ∨ node.isLocal = true)
    (owner : ∀ service ∈ registry.refs, service.node.id = id → node.self = service.node) :
    Sound { registry with nodes := registry.nodes.set id node } := by
  refine ⟨?_, ?_, ?_, sound.distinct, sound.actions, sound.events⟩
  · intro other stored found
    simp only [OrderedMap.get_set] at found
    split at found
    · rename_i here
      cases found
      subst here
      exact ⟨self, named, isLocal⟩
    · exact sound.keyed other stored found
  · simp only [OrderedMap.get_set]
    split
    · rfl
    · exact sound.home
  · intro service member
    simp only [OrderedMap.get_set]
    split
    · rename_i here
      exact ⟨node, rfl, owner service member here, able⟩
    · exact sound.hosted service member

theorem Sound.deleteNode (sound : registry.Sound) (other : id ≠ some registry.nodeID)
    (empty : ∀ service ∈ registry.refs, service.node.id ≠ id) :
    Sound { registry with nodes := registry.nodes.delete id } := by
  refine ⟨?_, ?_, ?_, sound.distinct, sound.actions, sound.events⟩
  · intro key node found
    simp only [OrderedMap.get_delete] at found
    split at found
    · cases found
    · exact sound.keyed key node found
  · simp only [OrderedMap.get_delete, if_neg (Ne.symm other)]
    exact sound.home
  · intro service member
    simp only [OrderedMap.get_delete, if_neg (empty service member)]
    exact sound.hosted service member

theorem findService_spec {fullName : String} {item : ServiceItem}
    (found : registry.findService fullName id = some item) (named : id ≠ none) :
    item ∈ registry.services ∧ item.self.fullName = fullName ∧ item.self.node.id = id := by
  have fits := List.find?_some found
  simp only [ServiceItem.equals, Bool.decide_and, Bool.and_eq_true, decide_eq_true_eq] at fits
  exact ⟨List.mem_of_find?_eq_some found, fits.1, fits.2.resolve_left named⟩

theorem Sound.unique (sound : registry.Sound) {one other : ServiceRef} (first : one ∈ registry.refs)
    (second : other ∈ registry.refs) (name : one.fullName = other.fullName)
    (place : one.node.id = other.node.id) :
    one = other := by
  by_contra differs
  have symmetric : Std.Symm fun left right : ServiceRef =>
      ¬ (left.fullName = right.fullName ∧ left.node.id = right.node.id) :=
    ⟨fun _ _ apart same => apart ⟨same.1.symm, same.2.symm⟩⟩
  exact sound.distinct.forall first second differs ⟨name, place⟩

/-- `ServiceCatalog.remove` forgets at most the service it finds. -/
theorem Sound.removeService (sound : registry.Sound) (fullName : String) (named : id ≠ none) :
    (registry.removeService fullName id).Sound ∧
      ∀ service, service ∈ (registry.removeService fullName id).refs ↔
        service ∈ registry.refs ∧ ¬ (service.fullName = fullName ∧ service.node.id = id) := by
  unfold Registry.removeService
  cases found : registry.findService fullName id with
  | none =>
    refine ⟨sound, fun service => ⟨fun member => ⟨member, ?_⟩, And.left⟩⟩
    rintro ⟨rfl, rfl⟩
    obtain ⟨item, inside, rfl⟩ := List.mem_map.mp member
    exact List.find?_eq_none.mp found item inside (by simp [ServiceItem.equals])
  | some item =>
    obtain ⟨inside, name, place⟩ := findService_spec found named
    obtain ⟨after, shrunk⟩ := sound.removeItem item.self
    refine ⟨after, fun service => ?_⟩
    simp only [shrunk, List.mem_filter, decide_eq_true_eq]
    refine and_congr_right fun member => not_congr ⟨?_, ?_⟩
    · rintro rfl
      exact ⟨name, place⟩
    · rintro ⟨sameName, samePlace⟩
      exact sound.unique member (List.mem_map.mpr ⟨item, inside, rfl⟩)
        (sameName.trans name.symm) (samePlace.trans place.symm)

/-- `unregisterService` forgets the service of that name on the node it works on. -/
theorem Sound.unregisterService (sound : registry.Sound) (fullName : String) (id : NodeID) :
    (registry.unregisterService fullName id).Sound ∧
      ∀ service, service ∈ (registry.unregisterService fullName id).refs ↔
        service ∈ registry.refs ∧
          ¬ (service.fullName = fullName ∧ service.node.id = some (registry.targetID id)) := by
  obtain ⟨after, members⟩ :=
    sound.removeService fullName (Option.some_ne_none (registry.targetID id))
  unfold Registry.unregisterService
  dsimp only
  split
  · -- The local node also forgets the service, and its info has to be generated again.
    exact ⟨after.relist (nodes_removeService ..).2 _, members⟩
  · exact ⟨after, members⟩

theorem Sound.unregisterServicesByNode (sound : registry.Sound) (id : NodeID) :
    (registry.unregisterServicesByNode id).Sound ∧
      ∀ service, service ∈ (registry.unregisterServicesByNode id).refs ↔
        service ∈ registry.refs ∧ service.node.id ≠ id := by
  -- The loop removes exactly the items it goes over.
  have loop (items : List ServiceItem) (state : Registry) (before : state.Sound) :
      (items.foldl (fun state item => state.removeItem item.self) state).Sound ∧
      ∀ service,
        service ∈ (items.foldl (fun state item => state.removeItem item.self) state).refs ↔
          service ∈ state.refs ∧ service ∉ items.map (·.self) := by
    induction items generalizing state with
    | nil => exact ⟨before, by simp⟩
    | cons item rest ih =>
      obtain ⟨removed, shrunk⟩ := before.removeItem item.self
      obtain ⟨after, members⟩ := ih (state.removeItem item.self) removed
      refine ⟨after, fun service => ?_⟩
      rw [List.foldl_cons, members, shrunk]
      simp [and_assoc]
  obtain ⟨after, members⟩ :=
    loop (registry.services.filter fun item => item.self.node.id = id) registry sound
  refine ⟨after, fun service => ?_⟩
  rw [Registry.unregisterServicesByNode, members]
  refine and_congr_right fun member => not_congr ?_
  obtain ⟨item, inside, rfl⟩ := List.mem_map.mp member
  simp only [List.mem_map, List.mem_filter, decide_eq_true_eq]
  constructor
  · rintro ⟨other, ⟨_, place⟩, same⟩
    rw [← same, place]
  · exact fun place => ⟨item, ⟨inside, place⟩, rfl⟩

theorem Sound.enterService (sound : registry.Sound) (hosts : registry.Hosts node)
    (named : node.id ≠ none) (svc : ServiceInfo) :
    (registry.enterService node svc).1.Sound ∧
      (registry.enterService node svc).2.1 ∈ (registry.enterService node svc).1.refs ∧
      (registry.enterService node svc).2.1.node = node ∧
      (registry.enterService node svc).2.1.fullName = svc.resolvedName ∧
      ∀ service, service ∈ (registry.enterService node svc).1.refs ↔
        service ∈ registry.refs ∨ service = (registry.enterService node svc).2.1 := by
  unfold Registry.enterService
  cases found : registry.findService svc.resolvedName node.id with
  | none =>
    obtain ⟨after, extended⟩ := sound.addService hosts found false
    refine ⟨after, ?_, rfl, rfl, fun service => ?_⟩
    · rw [extended]
      simp
    · rw [extended]
      simp
  | some item =>
    obtain ⟨inside, name, place⟩ := findService_spec found named
    have member : item.self ∈ registry.refs := List.mem_map.mpr ⟨item, inside, rfl⟩
    have same : (registry.modifyItem item.self (·.update svc)).refs = registry.refs :=
      refs_modifyItem registry item.self fun _ => rfl
    -- Both nodes are the one stored under the id.
    have here : item.self.node = node := by
      obtain ⟨stored, located, self, _⟩ := hosts
      obtain ⟨other, located', self', _⟩ := sound.hosted item.self member
      rw [place, located] at located'
      cases located'
      exact self'.symm.trans self
    refine ⟨sound.modifyItem item.self fun _ => rfl, ?_, here, name, fun service => ?_⟩
    · dsimp only
      rw [same]
      exact member
    · dsimp only
      rw [same]
      constructor
      · exact .inl
      · rintro (known | rfl)
        · exact known
        · exact member

/-- The body of the loop in `registerServices` keeps the registry sound. -/
theorem Sound.registerService (sound : registry.Sound) (hosts : registry.Hosts node)
    (named : node.id ≠ none) (isLocal : Bool) (svc : ServiceInfo) :
    (registry.registerService node isLocal svc).Sound := by
  obtain ⟨entered, member, here, _⟩ := sound.enterService hosts named svc
  unfold Registry.registerService
  generalize registry.enterService node svc = result at *
  obtain ⟨first, service, prevActions, prevEvents⟩ := result
  subst here
  -- The service is still known when its events are registered.
  have known := (keeps_syncActions first service.node isLocal service prevActions svc.actions).refs
  exact (entered.syncActions isLocal member prevActions svc.actions).syncEvents (known ▸ member)
    prevEvents svc.events

/-- The registry after the first loop in `registerServices`. -/
def registerEach (registry : Registry) (node : NodeRef) (isLocal : Bool)
    (serviceList : List ServiceInfo) : Registry :=
  serviceList.foldl (fun state svc => state.registerService node isLocal svc) registry

theorem registerEach_cons (registry : Registry) (node : NodeRef) (isLocal : Bool)
    (svc : ServiceInfo) (rest : List ServiceInfo) :
    registry.registerEach node isLocal (svc :: rest) =
      (registry.registerService node isLocal svc).registerEach node isLocal rest := rfl

theorem registerServices_eq (registry : Registry) (node : NodeRef) (isLocal : Bool)
    (serviceList : List ServiceInfo) :
    registry.registerServices node isLocal serviceList =
      (registry.registerEach node isLocal serviceList).services.foldl
        (pruneService node serviceList) (registry.registerEach node isLocal serviceList) := rfl

theorem nodes_registerEach (registry : Registry) (node : NodeRef) (isLocal : Bool)
    (serviceList : List ServiceInfo) :
    (registry.registerEach node isLocal serviceList).nodes = registry.nodes ∧
      (registry.registerEach node isLocal serviceList).nodeID = registry.nodeID :=
  List.foldlRecOn serviceList _ (motive := fun state : Registry =>
    state.nodes = registry.nodes ∧ state.nodeID = registry.nodeID) ⟨rfl, rfl⟩
    fun state same svc _ =>
      have kept := nodes_registerService state node isLocal svc
      ⟨kept.1.trans same.1, kept.2.trans same.2⟩

theorem Sound.registerEach (sound : registry.Sound) (hosts : registry.Hosts node)
    (named : node.id ≠ none) (isLocal : Bool) (serviceList : List ServiceInfo) :
    (registry.registerEach node isLocal serviceList).Sound ∧
      (∀ service ∈ registry.refs, service ∈ (registry.registerEach node isLocal serviceList).refs) ∧
      (∀ service ∈ (registry.registerEach node isLocal serviceList).refs,
        service ∈ registry.refs ∨
          service.node = node ∧ ∃ svc ∈ serviceList, service.fullName = svc.resolvedName) ∧
      ∀ svc ∈ serviceList, ∃ service ∈ (registry.registerEach node isLocal serviceList).refs,
        service.node = node ∧ service.fullName = svc.resolvedName := by
  induction serviceList generalizing registry with
  | nil => exact ⟨sound, fun _ => id, fun _ => .inl, by simp⟩
  | cons svc rest ih =>
    obtain ⟨_, member, here, name, members⟩ := sound.enterService hosts named svc
    have refs := (keeps_registerService registry node isLocal svc).refs
    obtain ⟨after, grow, origin, all⟩ :=
      ih (sound.registerService hosts named isLocal svc) (by
        obtain ⟨stored, located, facts⟩ := hosts
        exact ⟨stored, by rw [(nodes_registerService ..).1, located], facts⟩)
    refine ⟨after, ?_, ?_, ?_⟩
    · intro service known
      exact grow service (by rw [refs, members]; exact .inl known)
    · intro service known
      rcases origin service known with before | ⟨place, other, listed, same⟩
      · rw [refs, members] at before
        rcases before with old | rfl
        · exact .inl old
        · exact .inr ⟨here, svc, List.mem_cons_self, name⟩
      · exact .inr ⟨place, other, List.mem_cons_of_mem _ listed, same⟩
    · intro other listed
      rcases List.mem_cons.mp listed with rfl | inRest
      · exact ⟨_, grow _ (by rw [refs]; exact member), here, name⟩
      · exact all other inRest

theorem Sound.pruneServices (sound : registry.Sound) (node : NodeRef)
    (serviceList : List ServiceInfo) (items : List ServiceItem) :
    (items.foldl (Registry.pruneService node serviceList) registry).Sound ∧
      ∀ service, service ∈ (items.foldl (Registry.pruneService node serviceList) registry).refs ↔
        service ∈ registry.refs ∧ ∀ item ∈ items, item.self.node = node →
          (∀ svc ∈ serviceList, item.self.fullName ≠ svc.resolvedName) →
          ¬ (service.fullName = item.self.fullName ∧
            service.node.id = some (registry.targetID node.id)) := by
  induction items generalizing registry with
  | nil => exact ⟨sound, by simp⟩
  | cons item rest ih =>
    have unlisted : (!serviceList.any fun svc => item.equals svc.resolvedName none) = true ↔
        ∀ svc ∈ serviceList, item.self.fullName ≠ svc.resolvedName := by
      simp [ServiceItem.equals]
    rw [List.foldl_cons, Registry.pruneService]
    split
    · rename_i goes
      obtain ⟨removed, members⟩ := sound.unregisterService item.self.fullName node.id
      obtain ⟨after, members'⟩ := ih removed
      have target : (registry.unregisterService item.self.fullName node.id).targetID node.id
          = registry.targetID node.id := by
        unfold Registry.targetID
        rw [(nodesKept_unregisterService ..).nodeID]
      refine ⟨after, fun service => ?_⟩
      rw [members', members, target, List.forall_mem_cons]
      have listed := unlisted.mp goes.2
      tauto
    · rename_i stays
      obtain ⟨after, members⟩ := ih sound
      refine ⟨after, fun service => ?_⟩
      rw [members, List.forall_mem_cons]
      rw [unlisted] at stays
      tauto

/-- `registerServices` keeps the registry sound. -/
theorem Sound.registerServices (sound : registry.Sound) (hosts : registry.Hosts node)
    (named : node.id ≠ none) (isLocal : Bool) (serviceList : List ServiceInfo) :
    (registry.registerServices node isLocal serviceList).Sound :=
  ((sound.registerEach hosts named isLocal serviceList).1.pruneServices node serviceList _).1

/-- The node that an info is about takes its place in the catalog. -/
theorem Sound.enterNode (sound : registry.Sound) (named : id ≠ none) (now : Nat)
    (payload : NodeInfo) (rawInfo : Option NodeInfo) (services : List ServiceInfo) :
    let entered := registry.enterNode id now
    let updated := (entered.2.1.update payload entered.2.2).1
    Sound { entered.1 with
        nodes :=
          entered.1.nodes.set id { updated with services := services, rawInfo := rawInfo } } ∧
      Registry.Hosts { entered.1 with
        nodes := entered.1.nodes.set id { updated with services := services, rawInfo := rawInfo } }
        entered.2.1.self ∧
      entered.2.1.self.id = id := by
  intro entered updated
  have fields : updated.self = entered.2.1.self ∧ updated.isLocal = entered.2.1.isLocal ∧
      updated.available = entered.2.1.available := by
    unfold updated Node.update
    dsimp only
    split <;> exact ⟨rfl, rfl, rfl⟩
  -- Whether the node is new, known or back: it is available, and the right one.
  have facts : entered.1.Sound ∧ entered.2.1.self.id = id ∧ entered.2.1.available = true ∧
      (entered.2.1.isLocal = true ↔ id = some entered.1.nodeID) ∧
      ∀ service ∈ entered.1.refs, service.node.id = id → entered.2.1.self = service.node := by
    unfold entered Registry.enterNode
    cases found : registry.nodes.get id with
    | none =>
      refine ⟨⟨sound.keyed, sound.home, sound.hosted, sound.distinct, sound.actions,
        sound.events⟩, rfl, rfl, ?_, ?_⟩
      · constructor
        · intro isLocal
          cases isLocal
        · intro here
          have home := sound.home
          change id = some registry.nodeID at here
          rw [here] at found
          rw [found] at home
          cases home
      · intro service member here
        obtain ⟨node, located, _⟩ := sound.hosted service member
        rw [here, found] at located
        cases located
    | some node =>
      obtain ⟨self, _, isLocal⟩ := sound.keyed id node found
      have owner : ∀ service ∈ registry.refs, service.node.id = id → node.self = service.node := by
        intro service member here
        obtain ⟨other, located, same, _⟩ := sound.hosted service member
        rw [here, found] at located
        cases located
        exact same
      dsimp only
      split
      · exact ⟨sound, self, ‹_›, isLocal, owner⟩
      · exact ⟨sound, self, rfl, isLocal, owner⟩
  obtain ⟨before, self, available, isLocal, owner⟩ := facts
  refine ⟨before.setNode named (by rw [fields.1, self]) (by rw [fields.2.1]; exact isLocal)
    (.inl (by rw [fields.2.2, available])) (by rw [fields.1]; exact owner), ?_, self⟩
  refine ⟨{ updated with services := services, rawInfo := rawInfo }, ?_, fields.1, .inl ?_⟩
  · rw [self, OrderedMap.get_set, if_pos rfl]
  · rw [← available, ← fields.2.2]

/-- `processNodeInfo` with a sender keeps the registry sound. -/
theorem Sound.processNodeInfo (sound : registry.Sound) {payload : NodeInfo}
    (named : payload.sender ≠ none) (now : Nat) :
    (registry.processNodeInfo payload now).Sound := by
  have entering := sound.enterNode named now payload
  unfold Registry.processNodeInfo
  generalize registry.enterNode payload.sender now = entered at *
  obtain ⟨first, node, isReconnected⟩ := entered
  dsimp only at entering ⊢
  split
  · rename_i serviceList _ _
    obtain ⟨stored, hosts, self⟩ := entering
      (some { payload with services := some (serviceList.map (·.complete)) })
      (serviceList.map (·.complete))
    exact stored.registerServices hosts (by rw [self]; exact named) node.isLocal serviceList
  · exact (entering _ _).1

theorem foldl_removeItem_modifyNode (registry : Registry) (id : NodeID) (change : Node → Node)
    (items : List ServiceItem) :
    items.foldl (fun state item => state.removeItem item.self) (registry.modifyNode id change) =
      (items.foldl (fun state item => state.removeItem item.self) registry).modifyNode id
        change := by
  induction items generalizing registry with
  | nil => rfl
  | cons item rest ih => exact ih (registry.removeItem item.self)

/-- `disconnected` takes the services of the node away together with the node. -/
theorem Sound.disconnected (sound : registry.Sound) (id : NodeID) (now : Nat) :
    (registry.disconnected id now).Sound := by
  unfold Registry.disconnected
  cases found : registry.nodes.get id with
  | none => exact sound
  | some node =>
    dsimp only
    split
    · -- The services might as well have gone first.
      have swapped : Registry.unregisterServicesByNode
          (registry.modifyNode id (·.disconnected now)) node.self.id =
          (registry.unregisterServicesByNode node.self.id).modifyNode id (·.disconnected now) :=
        foldl_removeItem_modifyNode registry id _ _
      obtain ⟨removed, members⟩ := sound.unregisterServicesByNode node.self.id
      rw [swapped]
      refine removed.modifyNode id _ (fun other => ?_) (fun _ _ served => ?_)
      · unfold Node.disconnected
        split <;> exact ⟨rfl, rfl⟩
      · obtain ⟨service, member, here⟩ := served
        have gone := ((members service).mp member).2
        rw [(sound.keyed id node found).1] at gone
        exact absurd here gone
    · exact sound

theorem Sound.unserved (sound : registry.Sound) {node : Node}
    (found : registry.nodes.get id = some node) (offline : node.available = false)
    (remote : node.isLocal = false) : ∀ service ∈ registry.refs, service.node.id ≠ id := by
  intro service member here
  obtain ⟨stored, located, _, able⟩ := sound.hosted service member
  rw [here, found] at located
  cases located
  simp [offline, remote] at able

/-- `checkOfflineNodes` deletes nodes without services only. -/
theorem Sound.checkOfflineNodes (sound : registry.Sound) (timeout now : Nat) :
    (registry.checkOfflineNodes timeout now).Sound := by
  unfold Registry.checkOfflineNodes
  split
  · exact sound
  · -- The loop changes no service, so an offline node still has none when its turn comes.
    refine (List.foldlRecOn registry.nodes.values _ (motive := fun state : Registry =>
      state.Sound ∧ state.refs = registry.refs ∧ state.nodeID = registry.nodeID)
      ⟨sound, rfl, rfl⟩ fun state kept node visited => ?_).1
    obtain ⟨before, refs, nodeID⟩ := kept
    obtain ⟨id, found⟩ := OrderedMap.mem_values_iff.mp visited
    obtain ⟨self, _, isLocal⟩ := sound.keyed id node found
    unfold Registry.checkOfflineNode
    split
    · exact ⟨before, refs, nodeID⟩
    · rename_i gone
      simp only [Bool.or_eq_true, not_or, Bool.not_eq_true] at gone
      have empty : ∀ service ∈ state.refs, service.node.id ≠ node.self.id := by
        rw [refs, self]
        exact sound.unserved found gone.2 gone.1
      split
      · refine ⟨before.modifyNode _ _ (fun _ => ⟨rfl, rfl⟩) (fun _ _ served => ?_), refs, nodeID⟩
        obtain ⟨service, member, here⟩ := served
        exact absurd here (empty service member)
      · split
        · refine ⟨before.deleteNode (fun here => ?_) empty, refs, nodeID⟩
          rw [self, nodeID] at here
          rw [isLocal.mpr here] at gone
          cases gone.1
        · exact ⟨before, refs, nodeID⟩

theorem sound_createWith (nodeID instanceID : String) (now : Nat) (metadata : Json) :
    (createWith nodeID instanceID now metadata).Sound := by
  have lookup (id : NodeID) (node : Node)
      (found : (createWith nodeID instanceID now metadata).nodes.get id = some node) :
      id = some nodeID ∧ node.self.id = some nodeID ∧ node.isLocal = true := by
    simp only [createWith, OrderedMap.get_set, OrderedMap.get_empty] at found
    split at found
    · rename_i here
      cases found
      exact ⟨here, rfl, rfl⟩
    · cases found
  refine ⟨?_, ?_, ?_, .nil, ?_, ?_⟩
  · intro id node found
    obtain ⟨rfl, self, isLocal⟩ := lookup id node found
    exact ⟨self, Option.some_ne_none _, fun _ => rfl, fun _ => isLocal⟩
  · simp [createWith, OrderedMap.get_set]
  · intro service member
    cases member
  · intro key list found
    cases found
  · intro key list found
    cases found

theorem sound_create (nodeID instanceID : String) (now : Nat) :
    (create nodeID instanceID now).Sound :=
  sound_createWith nodeID instanceID now _

theorem Sound.get_localNode (sound : registry.Sound) :
    registry.nodes.get (some registry.nodeID) = some registry.localNode := by
  obtain ⟨node, found⟩ := Option.isSome_iff_exists.mp sound.home
  rw [localNode, found, Option.getD_some]

theorem Sound.localNode_id (sound : registry.Sound) :
    registry.localNode.self.id = some registry.nodeID :=
  (sound.keyed _ _ sound.get_localNode).1

/-- `registerLocalService` keeps the registry sound. -/
theorem Sound.registerLocalService (sound : registry.Sound) (svc : ServiceInfo) :
    (registry.registerLocalService svc).Sound := by
  unfold Registry.registerLocalService
  split
  · exact sound
  · rename_i free
    obtain ⟨node, found⟩ := Option.isSome_iff_exists.mp sound.home
    obtain ⟨self, _, isLocal⟩ := sound.keyed _ node found
    have here : registry.localNode = node := by
      rw [localNode, found]
      rfl
    have hosts : registry.Hosts node.self :=
      ⟨node, by rw [self]; exact found, rfl, .inr (isLocal.mpr rfl)⟩
    obtain ⟨added, extended⟩ := sound.addService hosts (self.symm ▸ free) true
    rw [here]
    set first := (registry.addService node.self svc true).1
    set service := (registry.addService node.self svc true).2
    have member : service ∈ first.refs := by
      rw [extended]
      simp
    -- The service is still known when its events are registered.
    have known := (keeps_offerActions first service.node node.isLocal service svc.actions).refs
    have listening := (added.offerActions node.isLocal member svc.actions).offerEvents
      (known ▸ member) svc.events
    refine listening.relist ?_ (fun node => node.services ++ [svc.complete])
    rw [(keeps_offerEvents ..).nodeID, (keeps_offerActions ..).nodeID]
    rfl

theorem Sound.step {registry : Registry} (sound : registry.Sound) (operation : Operation)
    (named : ∀ payload now, operation = .processNodeInfo payload now → payload.sender ≠ none) :
    (registry.step operation).Sound := by
  cases operation with
  | registerLocalService svc => exact sound.registerLocalService svc
  | unregisterService fullName nodeID => exact (sound.unregisterService fullName nodeID).1
  | processNodeInfo payload now => exact sound.processNodeInfo (named payload now rfl) now
  | disconnected nodeID now => exact sound.disconnected nodeID now
  | checkOfflineNodes timeout now => exact sound.checkOfflineNodes timeout now

end Registry

end Moleculer.Cluster
