import Moleculer.Registry.Acceptance
import Moleculer.Registry.Routing
import Moleculer.Registry.WellFormed

/-! When the routing table of a node is the one that its last info describes. -/

namespace Moleculer.Cluster

open Base

section Tables

variable {κ δ : Type} [DecidableEq κ]

/-- The keys under which a node has endpoints, each with the full name of the service. -/
def Catalog.table (catalog : Catalog κ δ) (id : NodeID) : Set (κ × String) :=
  { entry | ∃ list, catalog.get entry.1 = some list ∧
    ∃ ep ∈ list.endpoints, ep.node.id = id ∧ ep.service.fullName = entry.2 }

/-- The routes under a key that lead to the node of an id. -/
def Catalog.routesTo (catalog : Catalog κ δ) (id : NodeID) (key : κ) : List Route :=
  (catalog.get key).elim [] fun list =>
    (list.endpoints.filter fun ep => ep.node.id = id).map fun ep => ep.service.route

theorem Catalog.mem_table_iff (catalog : Catalog κ δ) (id : NodeID) (key : κ)
    (fullName : String) :
    (key, fullName) ∈ catalog.table id ↔
      ∃ route ∈ catalog.routesTo id key, route.2 = fullName := by
  rw [Catalog.table, Set.mem_ofPred_eq, Catalog.routesTo]
  cases catalog.get key with
  | none => simp
  | some list => simp [ServiceRef.route, and_assoc]

theorem Catalog.table_eq_iff {one other : Catalog κ δ} {id : NodeID} {routes : List Route}
    (injective : ∀ left ∈ routes, ∀ right ∈ routes, left.2 = right.2 → left = right)
    (first : ∀ key, ∀ route ∈ one.routesTo id key, route ∈ routes)
    (second : ∀ key, ∀ route ∈ other.routesTo id key, route ∈ routes) :
    one.table id = other.table id ↔
      ∀ key, ∀ route ∈ routes, (route ∈ one.routesTo id key ↔ route ∈ other.routesTo id key) := by
  constructor
  · intro same key route listed
    have entry : (key, route.2) ∈ one.table id ↔ (key, route.2) ∈ other.table id := by rw [same]
    rw [Catalog.mem_table_iff, Catalog.mem_table_iff] at entry
    constructor
    · intro member
      obtain ⟨found, inside, equal⟩ := entry.mp ⟨route, member, rfl⟩
      exact injective found (second key found inside) route listed equal ▸ inside
    · intro member
      obtain ⟨found, inside, equal⟩ := entry.mpr ⟨route, member, rfl⟩
      exact injective found (first key found inside) route listed equal ▸ inside
  · intro same
    ext ⟨key, fullName⟩
    rw [Catalog.mem_table_iff, Catalog.mem_table_iff]
    constructor
    · rintro ⟨route, member, rfl⟩
      exact ⟨route, (same key route (first key route member)).mp member, rfl⟩
    · rintro ⟨route, member, rfl⟩
      exact ⟨route, (same key route (second key route member)).mpr member, rfl⟩

end Tables

namespace Registry

section Nodes

variable {κ δ : Type} [DecidableEq κ] {registry : Registry} {catalog : Catalog κ δ}

theorem Sound.node_unique (sound : registry.Sound) {one other : ServiceRef}
    (first : one ∈ registry.refs) (second : other ∈ registry.refs)
    (same : one.node.id = other.node.id) : one.node = other.node := by
  obtain ⟨node, located, self, _⟩ := sound.hosted one first
  obtain ⟨node', located', self', _⟩ := sound.hosted other second
  rw [same, located'] at located
  cases located
  rw [← self, self']

variable {node : NodeRef}

theorem Sound.routesTo_eq (sound : registry.Sound)
    (served : Catalog.Sound registry.nodeID registry.refs catalog) (hosts : registry.Hosts node)
    (key : κ) :
    catalog.routesTo node.id key = catalog.routes node key := by
  unfold Catalog.routesTo Catalog.routes
  cases found : catalog.get key with
  | none => rfl
  | some list =>
    rw [Option.elim_some, Option.elim_some, EndpointList.routes]
    congr 1
    apply List.filter_congr
    intro ep member
    obtain ⟨known, place, _⟩ := (served key list found).served ep member
    obtain ⟨stored, located, self, _⟩ := hosts
    have same : ep.node.id = node.id ↔ ep.node = node := by
      refine ⟨fun here => ?_, fun equal => equal ▸ rfl⟩
      obtain ⟨other, located', self', _⟩ := sound.hosted ep.service known
      rw [← place, here, located] at located'
      cases located'
      rw [place, ← self', self]
    simp [same]

theorem Sound.pairwise_routesTo (sound : registry.Sound)
    (served : Catalog.Sound registry.nodeID registry.refs catalog) (id : NodeID) (key : κ) :
    (catalog.routesTo id key).Pairwise fun one other => one.1 ≠ other.1 := by
  unfold Catalog.routesTo
  cases found : catalog.get key with
  | none => exact .nil
  | some list =>
    rw [Option.elim_some, List.pairwise_map]
    have apart := (served key list found).apart.filter fun ep => ep.node.id = id
    refine apart.imp_of_mem fun {one other} first second differs same => differs ⟨?_, same⟩
    obtain ⟨inside, here⟩ := List.mem_filter.mp first
    obtain ⟨within, there⟩ := List.mem_filter.mp second
    obtain ⟨known, place, _⟩ := (served key list found).served one inside
    obtain ⟨known', place', _⟩ := (served key list found).served other within
    simp only [decide_eq_true_eq] at here there
    rw [place, place']
    exact sound.node_unique known known' (by rw [← place, ← place', here, there])

theorem remains_iff (served : Catalog.Sound registry.nodeID registry.refs catalog) {key : κ}
    {route : Route} (member : route ∈ catalog.routes node key) (serviceList : List ServiceInfo) :
    (∀ item ∈ registry.services, item.self.node = node →
        (∀ svc ∈ serviceList, item.self.fullName ≠ svc.resolvedName) →
        route.2 ≠ item.self.fullName) ↔
      ∃ svc ∈ serviceList, svc.resolvedName = route.2 := by
  constructor
  · intro survives
    by_contra unlisted
    obtain ⟨service, known, here, rfl⟩ := exists_ref_of_mem_routes served member
    obtain ⟨item, inside, rfl⟩ := List.mem_map.mp known
    refine survives item inside here (fun svc listed same => ?_) rfl
    exact unlisted ⟨svc, listed, same.symm⟩
  · rintro ⟨svc, listed, same⟩ item _ _ unlisted equal
    exact unlisted svc listed (equal.symm.trans same.symm)

theorem Sound.listed_iff (sound : registry.Sound)
    (served : Catalog.Sound registry.nodeID registry.refs catalog) {serviceList : List ServiceInfo}
    (regular : registry.Regular node.id serviceList) {key : κ} {provides drops : ServiceInfo → Bool}
    {route : Route}
    (member : route ∈ serviceList.foldl (refresh Prod.fst ServiceInfo.route provides drops)
      (catalog.routes node key)) :
    (∃ svc ∈ serviceList, svc.resolvedName = route.2) ↔
      route ∈ serviceList.map ServiceInfo.route := by
  constructor
  · rintro ⟨svc, listed, same⟩
    rcases mem_or_mem_of_mem_foldl_refresh _ _ _ _ member with old | new
    · -- An old route leads to the item that the listed service enters.
      obtain ⟨service, known, here, rfl⟩ := exists_ref_of_mem_routes served old
      obtain ⟨item, found, self⟩ := sound.findService_eq known
      change svc.resolvedName = service.fullName at same
      rw [here, ← same] at found
      have name := regular.names svc listed item found
      rw [self] at name
      exact List.mem_map.mpr ⟨svc, listed, Prod.ext name.symm same⟩
    · exact new
  · intro new
    obtain ⟨svc, listed, rfl⟩ := List.mem_map.mp new
    exact ⟨svc, listed, rfl⟩

end Nodes

variable {serviceList : List ServiceInfo} {registry : Registry} {id : String}

theorem Sound.mem_routesTo_registerServices (sound : registry.Sound) {node : NodeRef}
    (hosts : registry.Hosts node) (self : node.id = some id) (nonempty : id ≠ "")
    (remote : id ≠ registry.nodeID) (regular : registry.Regular node.id serviceList)
    (route : Route) :
    (∀ name, route ∈ (registry.registerServices node false serviceList).actions.routesTo node.id
        name ↔ route ∈ serviceList.foldl (refresh Prod.fst ServiceInfo.route (offersAction name)
          (registry.dropsAction node.id name)) (registry.actions.routesTo node.id name) ∧
        route ∈ serviceList.map ServiceInfo.route) ∧
      ∀ key, route ∈ (registry.registerServices node false serviceList).events.routesTo node.id
        key ↔ route ∈ serviceList.foldl (refresh Prod.fst ServiceInfo.route (offersEvent key)
          (registry.dropsEvent node.id key)) (registry.events.routesTo node.id key) ∧
        route ∈ serviceList.map ServiceInfo.route := by
  have named : node.id ≠ none := by
    rw [self]
    exact Option.some_ne_none id
  have registered := (sound.registerEach hosts named false serviceList).1
  have after := sound.registerServices hosts named false serviceList
  have kept := nodesKept_registerServices registry node false serviceList
  obtain ⟨actions, events⟩ := registered.mem_routes_pruneServices self nonempty
    (by rw [(nodes_registerEach ..).2]; exact remote) serviceList
    (registry.registerEach node false serviceList).services route
  constructor
  · intro name
    have closed := actionRoutes_registerEach named regular name
    rw [after.routesTo_eq after.actions (kept.hosts hosts), sound.routesTo_eq sound.actions hosts,
      registerServices_eq, actions name, ← closed]
    refine and_congr_right fun member => (remains_iff registered.actions member _).trans ?_
    rw [closed] at member
    exact sound.listed_iff sound.actions regular member
  · intro key
    have closed := eventRoutes_registerEach named regular key
    rw [after.routesTo_eq after.events (kept.hosts hosts), sound.routesTo_eq sound.events hosts,
      registerServices_eq, events key, ← closed]
    refine and_congr_right fun member => (remains_iff registered.events member _).trans ?_
    rw [closed] at member
    exact sound.listed_iff sound.events regular member

theorem Sound.mem_routesTo_processNodeInfo (sound : registry.Sound) {payload : NodeInfo} {now : Nat}
    (sender : payload.sender = some id) (nonempty : id ≠ "") (remote : id ≠ registry.nodeID)
    (lists : payload.services = some serviceList) (accepts : registry.Accepts payload now)
    (regular : registry.Regular (some id) serviceList) (route : Route) :
    (∀ name, route ∈ (registry.processNodeInfo payload now).actions.routesTo (some id) name ↔
        route ∈ serviceList.foldl (refresh Prod.fst ServiceInfo.route (offersAction name)
          (registry.dropsAction (some id) name)) (registry.actions.routesTo (some id) name) ∧
        route ∈ serviceList.map ServiceInfo.route) ∧
      ∀ key, route ∈ (registry.processNodeInfo payload now).events.routesTo (some id) key ↔
        route ∈ serviceList.foldl (refresh Prod.fst ServiceInfo.route (offersEvent key)
          (registry.dropsEvent (some id) key)) (registry.events.routesTo (some id) key) ∧
        route ∈ serviceList.map ServiceInfo.route := by
  obtain ⟨stored, node, same, after, hosts, self, _, nodeID, services, actions, events⟩ :=
    sound.processNodeInfo_accepted sender remote lists accepts
  -- The stored node changes neither the items nor the endpoints.
  have find (fullName : String) :
      stored.findService fullName node.id = registry.findService fullName (some id) := by
    rw [Registry.findService, services, self]
    rfl
  have dropsAction (name : String) :
      stored.dropsAction node.id name = registry.dropsAction (some id) name := by
    funext svc
    rw [Registry.dropsAction, find, Registry.dropsAction]
  have dropsEvent (key : String × String) :
      stored.dropsEvent node.id key = registry.dropsEvent (some id) key := by
    funext svc
    rw [Registry.dropsEvent, find, Registry.dropsEvent]
  have regular' : stored.Regular node.id serviceList :=
    ⟨regular.distinct, fun svc listed item found =>
      regular.names svc listed item (find svc.resolvedName ▸ found)⟩
  have routes := after.mem_routesTo_registerServices hosts self nonempty
    (by rw [nodeID]; exact remote) regular' route
  simp only [dropsAction, dropsEvent, actions, events] at routes
  rw [self] at routes
  rw [same]
  exact routes

theorem Sound.unknown (sound : registry.Sound) {id : NodeID} (named : id ≠ none)
    (unseen : registry.nodes.get id = none) :
    (∀ fullName, registry.findService fullName id = none) ∧
      (∀ name, registry.actions.routesTo id name = []) ∧
      ∀ key, registry.events.routesTo id key = [] := by
  have absent : ∀ service ∈ registry.refs, service.node.id ≠ id := by
    intro service member here
    obtain ⟨node, located, _⟩ := sound.hosted service member
    rw [here, unseen] at located
    cases located
  have unserved {κ δ : Type} [DecidableEq κ] {catalog : Catalog κ δ}
      (served : Catalog.Sound registry.nodeID registry.refs catalog) (key : κ) :
      catalog.routesTo id key = [] := by
    unfold Catalog.routesTo
    cases found : catalog.get key with
    | none => rfl
    | some list =>
      rw [Option.elim_some, List.map_eq_nil_iff, List.filter_eq_nil_iff]
      intro ep member
      obtain ⟨known, place, _⟩ := (served key list found).served ep member
      rw [decide_eq_true_eq, place]
      exact absent ep.service known
  refine ⟨fun fullName => ?_, unserved sound.actions, unserved sound.events⟩
  cases found : registry.findService fullName id with
  | none => rfl
  | some item =>
    obtain ⟨inside, _, place⟩ := findService_spec found named
    exact absurd place (absent item.self (List.mem_map.mpr ⟨item, inside, rfl⟩))

/-- Nothing the registry knows about a node disturbs the registration of a list of services. -/
structure Undisturbed (registry : Registry) (id : NodeID) (serviceList : List ServiceInfo) :
    Prop where
  actions : ∀ name, Traceless Prod.fst ServiceInfo.route (offersAction name)
    (registry.dropsAction id name) (registry.actions.routesTo id name) serviceList
  events : ∀ key, Traceless Prod.fst ServiceInfo.route (offersEvent key)
    (registry.dropsEvent id key) (registry.events.routesTo id key) serviceList

theorem Regular.injective {id : NodeID} (regular : registry.Regular id serviceList) :
    ∀ left ∈ serviceList.map ServiceInfo.route, ∀ right ∈ serviceList.map ServiceInfo.route,
      left.2 = right.2 → left = right := by
  intro left first right second same
  obtain ⟨one, inside, rfl⟩ := List.mem_map.mp first
  obtain ⟨other, within, rfl⟩ := List.mem_map.mp second
  rw [List.inj_on_of_nodup_map regular.distinct inside within same]

/-- Two registries that route the same way to a node. -/
def SameTable (id : NodeID) (one other : Registry) : Prop :=
  one.actions.table id = other.actions.table id ∧ one.events.table id = other.events.table id

/-- The table is the one of the info alone exactly when nothing disturbs the registration. -/
theorem Sound.sameTable_iff {blank : Registry} (sound : registry.Sound) (soundBlank : blank.Sound)
    {payload : NodeInfo} {now later : Nat} (sender : payload.sender = some id) (nonempty : id ≠ "")
    (remote : id ≠ registry.nodeID) (remoteBlank : id ≠ blank.nodeID)
    (lists : payload.services = some serviceList) (accepts : registry.Accepts payload now)
    (regular : registry.Regular (some id) serviceList) (unseen : blank.nodes.get (some id) = none) :
    SameTable (some id) (registry.processNodeInfo payload now)
        (blank.processNodeInfo payload later) ↔
      registry.Undisturbed (some id) serviceList := by
  obtain ⟨unknown, noActions, noEvents⟩ :=
    soundBlank.unknown (Option.some_ne_none id) unseen
  have regularBlank : blank.Regular (some id) serviceList := by
    refine ⟨regular.distinct, fun svc _ item found => ?_⟩
    rw [unknown] at found
    cases found
  have routes := sound.mem_routesTo_processNodeInfo sender nonempty remote lists accepts regular
  have routesBlank := soundBlank.mem_routesTo_processNodeInfo sender nonempty remoteBlank lists
    (accepts_of_unseen later (sender ▸ unseen)) regularBlank
  -- Without an item there is nothing to drop.
  have keepsAction (name : String) : blank.dropsAction (some id) name = fun _ => false := by
    funext svc
    rw [dropsAction, unknown, Option.any_none]
  have keepsEvent (key : String × String) : blank.dropsEvent (some id) key = fun _ => false := by
    funext svc
    rw [dropsEvent, unknown, Option.any_none]
  simp only [keepsAction, keepsEvent, noActions, noEvents] at routesBlank
  have distinct : (serviceList.map ServiceInfo.route).Nodup := by
    have names := regular.distinct
    rw [show serviceList.map (·.resolvedName) = (serviceList.map ServiceInfo.route).map Prod.snd by
      rw [List.map_map]; rfl] at names
    exact names.of_map
  have actions : (registry.processNodeInfo payload now).actions.table (some id) =
      (blank.processNodeInfo payload later).actions.table (some id) ↔
      ∀ name, Traceless Prod.fst ServiceInfo.route (offersAction name)
        (registry.dropsAction (some id) name) (registry.actions.routesTo (some id) name)
        serviceList := by
    rw [Catalog.table_eq_iff regular.injective
      (fun key route member => (((routes route).1 key).mp member).2)
      (fun key route member => (((routesBlank route).1 key).mp member).2)]
    refine forall_congr' fun name => ?_
    rw [← traceless_iff distinct (sound.pairwise_routesTo sound.actions (some id) name)]
    refine forall₂_congr fun route listed => ?_
    rw [(routes route).1 name, (routesBlank route).1 name, and_iff_left listed,
      and_iff_left listed]
  have events : (registry.processNodeInfo payload now).events.table (some id) =
      (blank.processNodeInfo payload later).events.table (some id) ↔
      ∀ key, Traceless Prod.fst ServiceInfo.route (offersEvent key)
        (registry.dropsEvent (some id) key) (registry.events.routesTo (some id) key)
        serviceList := by
    rw [Catalog.table_eq_iff regular.injective
      (fun key route member => (((routes route).2 key).mp member).2)
      (fun key route member => (((routesBlank route).2 key).mp member).2)]
    refine forall_congr' fun key => ?_
    rw [← traceless_iff distinct (sound.pairwise_routesTo sound.events (some id) key)]
    refine forall₂_congr fun route listed => ?_
    rw [(routes route).2 key, (routesBlank route).2 key, and_iff_left listed,
      and_iff_left listed]
  rw [SameTable, actions, events]
  exact ⟨fun both => ⟨both.1, both.2⟩, fun undisturbed => ⟨undisturbed.actions, undisturbed.events⟩⟩

/-- After any history, an accepted info leaves the table that it describes exactly when nothing
from before disturbs the registration of its services. -/
theorem sameTable_run_iff (nodeID instanceID otherID : String) (start other : Nat)
    {history others : List Operation} (named : ∀ operation ∈ history, operation.Named)
    (namedOthers : ∀ operation ∈ others, operation.Named) {payload : NodeInfo} {now later : Nat}
    {id : String} {serviceList : List ServiceInfo} (sender : payload.sender = some id)
    (nonempty : id ≠ "") (remote : id ≠ nodeID) (lists : payload.services = some serviceList)
    (accepts : (run step (create nodeID instanceID start) history).Accepts payload now)
    (regular : (run step (create nodeID instanceID start) history).Regular (some id) serviceList)
    (unseen : (run step (create nodeID otherID other) others).nodes.get (some id) = none) :
    SameTable (some id)
        ((run step (create nodeID instanceID start) history).processNodeInfo payload now)
        ((run step (create nodeID otherID other) others).processNodeInfo payload later) ↔
      (run step (create nodeID instanceID start) history).Undisturbed (some id) serviceList :=
  (sound_run (sound_create nodeID instanceID start) named).sameTable_iff
    (sound_run (sound_create nodeID otherID other) namedOthers) sender nonempty
    (by rw [nodeID_run]; exact remote) (by rw [nodeID_run]; exact remote) lists accepts regular
    unseen

/-- An info of a remote node that lists a service with one action of a given visibility. -/
def postsUpdate (seq : ℚ) (visibility : Option Visibility) : NodeInfo :=
  { postsInfo (some "remote") with
    seq := some seq
    services := some [{ posts with
      actions := some (.set .empty "posts.list" ⟨"posts.list", visibility, false, default⟩) }] }

/-- A second info that lists the same action again. -/
theorem sameTable_run_iff_repeated :
    SameTable (some "remote")
        ((run step (create "local" "instance" 0)
          [.processNodeInfo (postsUpdate 1 none) 1]).processNodeInfo (postsUpdate 2 none) 2)
        ((run step (create "local" "instance" 0) []).processNodeInfo (postsUpdate 2 none) 2) ↔
      (run step (create "local" "instance" 0)
        [.processNodeInfo (postsUpdate 1 none) 1]).Undisturbed (some "remote")
        ((postsUpdate 2 none).services.getD []) :=
  sameTable_run_iff "local" "instance" "instance" 0 0
    (by simp [Operation.Named, postsUpdate, postsInfo]) (by simp) rfl (by decide) (by decide) rfl
    rfl ⟨by decide, by
      intro svc listed item found
      rw [List.mem_singleton.mp listed] at found ⊢
      cases found
      rfl⟩ rfl

/-- An action that becomes protected keeps its endpoint. -/
theorem hidden_action_stays_routed :
    ¬ SameTable (some "remote")
        ((run step (create "local" "instance" 0)
          [.processNodeInfo (postsUpdate 1 none) 1]).processNodeInfo
            (postsUpdate 2 (some .protected)) 2)
        ((create "local" "instance" 0).processNodeInfo (postsUpdate 2 (some .protected)) 2) := by
  intro same
  have stays : (("posts.list", "posts") : String × String) ∈
      ((run step (create "local" "instance" 0)
        [.processNodeInfo (postsUpdate 1 none) 1]).processNodeInfo
          (postsUpdate 2 (some .protected)) 2).actions.table (some "remote") :=
    ⟨_, rfl, _, List.mem_cons_self, rfl, rfl⟩
  rw [same.1] at stays
  obtain ⟨list, found, _⟩ := stays
  cases found

end Registry

end Moleculer.Cluster
