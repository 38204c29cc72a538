import Moleculer.Base.Enlist
import Moleculer.Registry.Soundness

/-! What an info does to the endpoints of its node, one key of a catalog at a time. -/

namespace Moleculer.Cluster

open Base

/-- A service as it shows in a routing table: its name and its full name. -/
abbrev Route := String × String

/-- The route to a service. -/
def ServiceRef.route (service : ServiceRef) : Route := (service.name, service.fullName)

/-- The route to a listed service. -/
def ServiceInfo.route (svc : ServiceInfo) : Route := (svc.name, svc.resolvedName)

section Views

variable {κ δ : Type} [DecidableEq κ]

/-- The routes of a list that lead to a node. -/
def EndpointList.routes (list : EndpointList δ) (node : NodeRef) : List Route :=
  (list.endpoints.filter fun ep => ep.node = node).map fun ep => ep.service.route

/-- The routes under a key that lead to a node. -/
def Catalog.routes (catalog : Catalog κ δ) (node : NodeRef) (key : κ) : List Route :=
  (catalog.get key).elim [] (·.routes node)

theorem EndpointList.routes_add (list : EndpointList δ) (brokerID : String) (fresh : Nat)
    (node : NodeRef) (service : ServiceRef) (data : δ) :
    (list.add brokerID fresh node service data).routes node =
      enlist Prod.fst (list.routes node) service.route := by
  have taken : (list.routes node).any (fun route => route.1 = service.route.1) =
      (list.endpoints.find? fun ep => ep.node = node ∧ ep.service.name = service.name).isSome := by
    rw [Bool.eq_iff_iff, List.find?_isSome, List.any_eq_true]
    simp only [decide_eq_true_eq]
    simp [EndpointList.routes, ServiceRef.route, and_assoc]
  unfold EndpointList.add enlist
  rw [taken]
  split
  · -- The endpoint that is there gets new data and keeps its service.
    rename_i found located
    have unmoved (ep : Endpoint δ) :
        (if ep.ref = found.ref then { ep with data := data } else ep).node = ep.node ∧
        (if ep.ref = found.ref then { ep with data := data } else ep).service = ep.service := by
      split <;> exact ⟨rfl, rfl⟩
    rw [located, Option.isSome_some, if_pos rfl]
    simp only [EndpointList.routes, List.filter_map, List.map_map, Function.comp_def, unmoved]
  · rename_i located
    rw [located]
    simp [EndpointList.routes, EndpointList.setLocalEndpoints]

theorem Catalog.routes_add (catalog : Catalog κ δ) (added key : κ) (name : String)
    (group : Option String) (brokerID : String) (fresh : Nat) (node : NodeRef)
    (service : ServiceRef) (data : δ) :
    (Catalog.add catalog added (.new name group) brokerID fresh node service data).routes node key =
      if key = added then enlist Prod.fst (catalog.routes node key) service.route
      else catalog.routes node key := by
  rw [Catalog.routes, Catalog.add, OrderedMap.get_set]
  split
  · rename_i same
    subst same
    rw [Option.elim_some, EndpointList.routes_add, Catalog.routes]
    cases catalog.get key <;> rfl
  · rfl

theorem Catalog.routes_remove (catalog : Catalog κ δ) (test : κ → Bool) (node : NodeRef)
    (key : κ) :
    (Catalog.remove catalog test node.id).routes node key =
      if test key then [] else catalog.routes node key := by
  rw [Catalog.routes, Catalog.remove, OrderedMap.get_mapEntries, Catalog.routes]
  cases catalog.get key with
  | none => simp
  | some list =>
    rw [Option.map_some, Option.elim_some, Option.elim_some]
    split
    · simp only [EndpointList.routes, EndpointList.removeByNodeID,
        EndpointList.setLocalEndpoints, List.filter_filter, List.map_eq_nil_iff,
        List.filter_eq_nil_iff]
      rintro ep _ both
      simp only [ne_eq, decide_not, Bool.and_eq_true, decide_eq_true_eq, Bool.not_eq_true',
        decide_eq_false_iff_not] at both
      exact both.2 (both.1 ▸ rfl)
    · rfl

theorem Catalog.routes_removeByService {brokerID : String} {known : List ServiceRef}
    {catalog : Catalog κ δ} (sound : Catalog.Sound brokerID known catalog) {node : NodeRef}
    {service : ServiceRef}
    (unique : ∀ other ∈ known, other.node = node → other.fullName = service.fullName →
      other = service) (key : κ) :
    (Catalog.removeByService catalog service).routes node key =
      (catalog.routes node key).filter fun route => route.2 ≠ service.fullName := by
  rw [Catalog.routes, Catalog.removeByService, OrderedMap.get_mapValues, Catalog.routes]
  cases found : catalog.get key with
  | none => rfl
  | some list =>
    simp only [Option.map_some, Option.elim_some, EndpointList.routes,
      EndpointList.removeByService, EndpointList.setLocalEndpoints, List.filter_map,
      List.filter_filter]
    congr 1
    apply List.filter_congr
    intro ep member
    obtain ⟨inside, place, _⟩ := (sound key list found).served ep member
    -- On the node, the full name tells the service.
    by_cases here : ep.node = node
    · have same : ep.service = service ↔ ep.service.fullName = service.fullName :=
        ⟨fun equal => equal ▸ rfl, unique ep.service inside (place ▸ here)⟩
      simp [here, ServiceRef.route, same]
    · simp [here]

end Views

namespace Registry

/-- A listed service offers an action to the other nodes. -/
def offersAction (name : String) (svc : ServiceInfo) : Bool :=
  svc.actions.any fun actions => actions.values.any fun action =>
    checkActionVisibility action false && action.name = name

/-- A listed service handles an event in a group. -/
def offersEvent (key : String × String) (svc : ServiceInfo) : Bool :=
  svc.events.any fun events => events.values.any fun event =>
    (event.name, event.groupName svc.name) = key

/-- The service had an action before, and it is not found in its list any more. -/
def dropsAction (registry : Registry) (id : NodeID) (name : String) (svc : ServiceInfo) : Bool :=
  (registry.findService svc.resolvedName id).any fun item =>
    item.actions.has name && !(svc.actions.any fun actions => actions.finds name)

/-- The service had an event before, and it is not found in its list any more. -/
def dropsEvent (registry : Registry) (id : NodeID) (key : String × String) (svc : ServiceInfo) :
    Bool :=
  (registry.findService svc.resolvedName id).any fun item =>
    item.events.has key.1 && !(svc.events.any fun events => events.finds key.1)

variable (registry : Registry) (node : NodeRef) (service : ServiceRef) {svc : ServiceInfo}
  (isLocal : Bool) (before : List String)

theorem routes_syncActions (service : ServiceRef) (before : List String)
    (actions : Option (OrderedMap String ActionInfo)) (name : String) :
    (registry.syncActions node isLocal service before actions).actions.routes node name =
      if name ∈ dropped before actions then []
      else if actions.any fun actions => actions.values.any fun action =>
        checkActionVisibility action isLocal && action.name = name
      then enlist Prod.fst (registry.actions.routes node name) service.route
      else registry.actions.routes node name := by
  have added (state : Registry) (action : ActionInfo) :
      (state.registerAction node isLocal service action).actions.routes node name =
        if checkActionVisibility action isLocal && action.name = name
        then enlist Prod.fst (state.actions.routes node name) service.route
        else state.actions.routes node name := by
    unfold registerAction
    by_cases visible : checkActionVisibility action isLocal
    · rw [if_pos visible]
      change (ActionCatalog.add ..).routes node name = _
      rw [ActionCatalog.add, Catalog.routes_add]
      simp [visible, eq_comm]
    · simp [visible]
  have removed (state : Registry) (first : String) :
      (state.unregisterAction node first).actions.routes node name =
        if name = first then [] else state.actions.routes node name := by
    change (ActionCatalog.remove ..).routes node name = _
    rw [ActionCatalog.remove, Catalog.routes_remove]
    simp
  refine (view_foldl_clear (fun state : Registry => state.actions.routes node name) removed
    _ _).trans ?_
  cases actions with
  | none => rfl
  | some actions => exact congrArg (ite _ []) (view_foldl_enlist
      (fun state : Registry => state.actions.routes node name) added registry actions.values)

theorem routes_syncEvents (events : Option (OrderedMap String EventInfo)) (key : String × String) :
    (registry.syncEvents node service before events).events.routes node key =
      if key.1 ∈ dropped before events then []
      else if events.any fun events => events.values.any fun event =>
        (event.name, event.groupName service.name) = key
      then enlist Prod.fst (registry.events.routes node key) service.route
      else registry.events.routes node key := by
  have added (state : Registry) (event : EventInfo) :
      (state.registerEvent node service event).events.routes node key =
        if decide ((event.name, event.groupName service.name) = key)
        then enlist Prod.fst (state.events.routes node key) service.route
        else state.events.routes node key := by
    change (EventCatalog.add ..).routes node key = _
    rw [EventCatalog.add, Catalog.routes_add]
    simp [eq_comm]
  have removed (state : Registry) (first : String) :
      (state.unregisterEvent node first).events.routes node key =
        if key.1 = first then [] else state.events.routes node key := by
    change (EventCatalog.remove ..).routes node key = _
    rw [EventCatalog.remove, Catalog.routes_remove]
    simp
  refine (view_foldl_clear (fun state : Registry => state.events.routes node key) removed
    _ _).trans ?_
  cases events with
  | none => rfl
  | some events => exact congrArg (ite _ []) (view_foldl_enlist
      (fun state : Registry => state.events.routes node key) added registry events.values)

theorem actions_syncEvents (events : Option (OrderedMap String EventInfo)) :
    (registry.syncEvents node service before events).actions = registry.actions := by
  have offered : (registry.offerEvents node service events).actions = registry.actions := by
    cases events with
    | none => rfl
    | some events =>
      exact List.foldlRecOn events.values _ (motive := fun state : Registry =>
        state.actions = registry.actions) rfl fun _ same _ _ => same
  exact List.foldlRecOn (dropped before events) _ (motive := fun state : Registry =>
    state.actions = registry.actions) offered fun _ same _ _ => same

theorem events_syncActions (service : ServiceRef) (before : List String)
    (actions : Option (OrderedMap String ActionInfo)) :
    (registry.syncActions node isLocal service before actions).events = registry.events := by
  have registered (state : Registry) (action : ActionInfo) :
      (state.registerAction node isLocal service action).events = state.events := by
    unfold registerAction
    split <;> rfl
  have offered : (registry.offerActions node isLocal service actions).events =
      registry.events := by
    cases actions with
    | none => rfl
    | some actions =>
      exact List.foldlRecOn actions.values _ (motive := fun state : Registry =>
        state.events = registry.events) rfl fun state same action _ =>
          (registered state action).trans same
  exact List.foldlRecOn (dropped before actions) _ (motive := fun state : Registry =>
    state.events = registry.events) offered fun _ same _ _ => same

/-- A listed service that is known already goes by the name it is known by. -/
def KeepsName (registry : Registry) (id : NodeID) (svc : ServiceInfo) : Prop :=
  ∀ item, registry.findService svc.resolvedName id = some item → item.self.name = svc.name

theorem route_enterService {registry : Registry} {node : NodeRef} (named : node.id ≠ none)
    (keeps : registry.KeepsName node.id svc) :
    (registry.enterService node svc).2.1.route = svc.route := by
  unfold enterService
  cases found : registry.findService svc.resolvedName node.id with
  | none => rfl
  | some item =>
    obtain ⟨_, full, _⟩ := findService_spec found named
    exact Prod.ext (keeps item found) full

theorem catalogs_enterService (svc : ServiceInfo) :
    (registry.enterService node svc).1.actions = registry.actions ∧
      (registry.enterService node svc).1.events = registry.events := by
  unfold enterService
  split <;> exact ⟨rfl, rfl⟩

theorem mem_dropped_actions (svc : ServiceInfo) (name : String) :
    name ∈ dropped (registry.enterService node svc).2.2.1 svc.actions ↔
      registry.dropsAction node.id name svc = true := by
  unfold enterService dropsAction dropped
  cases registry.findService svc.resolvedName node.id with
  | none => simp
  | some item =>
    simp [OrderedMap.mem_keys_iff, OrderedMap.has, Option.isSome_iff_exists]

theorem mem_dropped_events (svc : ServiceInfo) (key : String × String) :
    key.1 ∈ dropped (registry.enterService node svc).2.2.2 svc.events ↔
      registry.dropsEvent node.id key svc = true := by
  unfold enterService dropsEvent dropped
  cases registry.findService svc.resolvedName node.id with
  | none => simp
  | some item =>
    simp [OrderedMap.mem_keys_iff, OrderedMap.has, Option.isSome_iff_exists]

theorem actionRoutes_registerService {registry : Registry} {node : NodeRef} (named : node.id ≠ none)
    (keeps : registry.KeepsName node.id svc) (name : String) :
    (registry.registerService node false svc).actions.routes node name =
      refresh Prod.fst ServiceInfo.route (offersAction name) (registry.dropsAction node.id name)
        (registry.actions.routes node name) svc := by
  have route := route_enterService named keeps
  have same := (catalogs_enterService registry node svc).1
  have drops := mem_dropped_actions registry node svc name
  unfold registerService refresh
  generalize registry.enterService node svc = entered at *
  obtain ⟨first, service, prevActions, prevEvents⟩ := entered
  dsimp only at *
  rw [actions_syncEvents, routes_syncActions, same, route]
  simp only [drops]
  rfl

theorem eventRoutes_registerService {registry : Registry} {node : NodeRef} (named : node.id ≠ none)
    (keeps : registry.KeepsName node.id svc) (key : String × String) :
    (registry.registerService node false svc).events.routes node key =
      refresh Prod.fst ServiceInfo.route (offersEvent key) (registry.dropsEvent node.id key)
        (registry.events.routes node key) svc := by
  have route := route_enterService named keeps
  have same := (catalogs_enterService registry node svc).2
  have drops := mem_dropped_events registry node svc key
  unfold registerService refresh
  generalize registry.enterService node svc = entered at *
  obtain ⟨first, service, prevActions, prevEvents⟩ := entered
  dsimp only at *
  have name : service.name = svc.name := congrArg Prod.fst route
  rw [routes_syncEvents, events_syncActions, same, route, name]
  simp only [drops]
  rfl

theorem findService_modifyItem (service : ServiceRef) (change : ServiceItem → ServiceItem)
    (same : ∀ item, (change item).self = item.self) (fullName : String) (id : NodeID) :
    (registry.modifyItem service change).findService fullName id =
      (registry.findService fullName id).map fun item =>
        if item.self = service then change item else item := by
  have sameTest (item : ServiceItem) :
      (if item.self = service then change item else item).equals fullName id =
        item.equals fullName id := by
    unfold ServiceItem.equals
    split
    · rw [same item]
    · rfl
  simp only [findService, modifyItem, List.find?_map, Function.comp_def, sameTest]

/-- The items of all full names but one are what they were. -/
def OthersKept (fullName : String) (before after : Registry) : Prop :=
  ∀ other, other ≠ fullName → ∀ id, after.findService other id = before.findService other id

namespace OthersKept

variable {fullName : String}

theorem of_services {before after : Registry} (services : after.services = before.services) :
    OthersKept fullName before after := fun other _ id => by
  rw [findService, services]
  rfl

theorem trans {first second third : Registry} (left : OthersKept fullName first second)
    (right : OthersKept fullName second third) : OthersKept fullName first third :=
  fun other differs id => (right other differs id).trans (left other differs id)

theorem foldl {ι : Type} {step : Registry → ι → Registry}
    (kept : ∀ state input, OthersKept fullName state (step state input)) (registry : Registry)
    (inputs : List ι) : OthersKept fullName registry (inputs.foldl step registry) :=
  List.foldlRecOn inputs step (fun _ _ _ => rfl) fun _ before input _ =>
    before.trans (kept _ input)

theorem modifyItem (registry : Registry) (service : ServiceRef) (change : ServiceItem → ServiceItem)
    (same : ∀ item, (change item).self = item.self) :
    OthersKept service.fullName registry (registry.modifyItem service change) := by
  intro other differs id
  rw [findService_modifyItem registry service change same]
  cases found : registry.findService other id with
  | none => rfl
  | some item =>
    have fits := List.find?_some found
    simp only [ServiceItem.equals, Bool.decide_and, Bool.and_eq_true, decide_eq_true_eq] at fits
    rw [Option.map_some, if_neg]
    rintro rfl
    exact differs fits.1.symm

end OthersKept

theorem othersKept_syncActions (service : ServiceRef) (before : List String)
    (actions : Option (OrderedMap String ActionInfo)) :
    OthersKept service.fullName registry
      (registry.syncActions node isLocal service before actions) := by
  have registered (state : Registry) (action : ActionInfo) :
      OthersKept service.fullName state (state.registerAction node isLocal service action) := by
    unfold registerAction
    split
    · exact .modifyItem { state with .. } service (·.addAction action) fun _ => rfl
    · exact .of_services rfl
  have removed (state : Registry) (name : String) :
      OthersKept service.fullName state (state.unregisterAction node name) := .of_services rfl
  have offered : OthersKept service.fullName registry
      (registry.offerActions node isLocal service actions) := by
    cases actions with
    | none => exact .of_services rfl
    | some actions => exact .foldl registered registry _
  exact offered.trans (.foldl removed _ _)

theorem othersKept_syncEvents (events : Option (OrderedMap String EventInfo)) :
    OthersKept service.fullName registry (registry.syncEvents node service before events) := by
  have registered (state : Registry) (event : EventInfo) :
      OthersKept service.fullName state (state.registerEvent node service event) :=
    .modifyItem { state with .. } service (·.addEvent event) fun _ => rfl
  have removed (state : Registry) (name : String) :
      OthersKept service.fullName state (state.unregisterEvent node name) := .of_services rfl
  have offered : OthersKept service.fullName registry
      (registry.offerEvents node service events) := by
    cases events with
    | none => exact .of_services rfl
    | some events => exact .foldl registered registry _
  exact offered.trans (.foldl removed _ _)

theorem othersKept_enterService {node : NodeRef} (named : node.id ≠ none) (svc : ServiceInfo) :
    OthersKept svc.resolvedName registry (registry.enterService node svc).1 ∧
      (registry.enterService node svc).2.1.fullName = svc.resolvedName := by
  unfold enterService
  cases found : registry.findService svc.resolvedName node.id with
  | none =>
    refine ⟨fun other differs id => ?_, rfl⟩
    have absent : [ServiceItem.new ⟨registry.nextRef, node, svc.name, svc.resolvedName⟩ svc
        false].find? (fun item => item.equals other id) = none := by
      simp [ServiceItem.equals, ServiceItem.new, Ne.symm differs]
    simp only [findService, addService, List.find?_append]
    rw [absent, Option.or_none]
  | some item =>
    obtain ⟨_, full, _⟩ := findService_spec found named
    have kept := OthersKept.modifyItem registry item.self (·.update svc) fun _ => rfl
    rw [full] at kept
    exact ⟨kept, full⟩

theorem othersKept_registerService {registry : Registry} {node : NodeRef} (named : node.id ≠ none)
    (isLocal : Bool) (svc : ServiceInfo) :
    OthersKept svc.resolvedName registry (registry.registerService node isLocal svc) := by
  obtain ⟨entered, full⟩ := othersKept_enterService registry named svc
  unfold registerService
  generalize registry.enterService node svc = result at *
  obtain ⟨first, service, prevActions, prevEvents⟩ := result
  dsimp only at *
  rw [← full] at entered ⊢
  exact (entered.trans (othersKept_syncActions _ _ _ _ _ _)).trans
    (othersKept_syncEvents _ _ _ _ _)

/-- What a list of services asks of a registry that has seen the node. -/
structure Regular (registry : Registry) (id : NodeID) (serviceList : List ServiceInfo) : Prop where
  /-- No service is listed twice. -/
  distinct : (serviceList.map (·.resolvedName)).Nodup
  /-- A known service goes by the same name. -/
  names : ∀ svc ∈ serviceList, registry.KeepsName id svc

theorem Regular.tail {registry : Registry} {node : NodeRef} (named : node.id ≠ none)
    {rest : List ServiceInfo} (regular : registry.Regular node.id (svc :: rest)) :
    (registry.registerService node false svc).Regular node.id rest ∧
      ∀ other ∈ rest, (registry.registerService node false svc).findService other.resolvedName
        node.id = registry.findService other.resolvedName node.id := by
  have distinct := regular.distinct
  rw [List.map_cons, List.nodup_cons] at distinct
  have kept : ∀ other ∈ rest, (registry.registerService node false svc).findService
      other.resolvedName node.id = registry.findService other.resolvedName node.id := by
    intro other inside
    refine othersKept_registerService named false svc _ (fun same => ?_) _
    exact distinct.1 (List.mem_map.mpr ⟨other, inside, same⟩)
  refine ⟨⟨distinct.2, fun other inside item found => ?_⟩, kept⟩
  rw [kept other inside] at found
  exact regular.names other (List.mem_cons_of_mem _ inside) item found

theorem actionRoutes_registerEach {registry : Registry} {node : NodeRef} (named : node.id ≠ none)
    {serviceList : List ServiceInfo} (regular : registry.Regular node.id serviceList)
    (name : String) :
    (registry.registerEach node false serviceList).actions.routes node name =
      serviceList.foldl (refresh Prod.fst ServiceInfo.route (offersAction name)
        (registry.dropsAction node.id name)) (registry.actions.routes node name) := by
  induction serviceList generalizing registry with
  | nil => rfl
  | cons svc rest ih =>
    obtain ⟨tail, kept⟩ := regular.tail named
    rw [registerEach_cons, List.foldl_cons, ih tail,
      actionRoutes_registerService named (regular.names svc List.mem_cons_self)]
    -- What the others drop does not depend on the first one.
    apply List.foldl_ext
    intro routes other inside
    unfold refresh dropsAction
    rw [kept other inside]

theorem eventRoutes_registerEach {registry : Registry} {node : NodeRef} (named : node.id ≠ none)
    {serviceList : List ServiceInfo} (regular : registry.Regular node.id serviceList)
    (key : String × String) :
    (registry.registerEach node false serviceList).events.routes node key =
      serviceList.foldl (refresh Prod.fst ServiceInfo.route (offersEvent key)
        (registry.dropsEvent node.id key)) (registry.events.routes node key) := by
  induction serviceList generalizing registry with
  | nil => rfl
  | cons svc rest ih =>
    obtain ⟨tail, kept⟩ := regular.tail named
    rw [registerEach_cons, List.foldl_cons, ih tail,
      eventRoutes_registerService named (regular.names svc List.mem_cons_self)]
    apply List.foldl_ext
    intro routes other inside
    unfold refresh dropsEvent
    rw [kept other inside]

theorem exists_ref_of_mem_routes {κ δ : Type} [DecidableEq κ] {brokerID : String}
    {known : List ServiceRef} {catalog : Catalog κ δ} (sound : Catalog.Sound brokerID known catalog)
    {node : NodeRef} {key : κ} {route : Route} (member : route ∈ catalog.routes node key) :
    ∃ service ∈ known, service.node = node ∧ service.route = route := by
  unfold Catalog.routes at member
  cases found : catalog.get key with
  | none => simp [found] at member
  | some list =>
    rw [found, Option.elim_some, EndpointList.routes] at member
    obtain ⟨ep, inside, rfl⟩ := List.mem_map.mp member
    obtain ⟨within, here⟩ := List.mem_filter.mp inside
    obtain ⟨known, place, _⟩ := (sound key list found).served ep within
    exact ⟨ep.service, known, place.symm.trans (by simpa using here), rfl⟩

theorem Sound.findService_eq {registry : Registry} (sound : registry.Sound) {service : ServiceRef}
    (member : service ∈ registry.refs) :
    ∃ item, registry.findService service.fullName service.node.id = some item ∧
      item.self = service := by
  obtain ⟨item, inside, rfl⟩ := List.mem_map.mp member
  cases found : registry.findService item.self.fullName item.self.node.id with
  | none => exact absurd (by simp [ServiceItem.equals]) (List.find?_eq_none.mp found item inside)
  | some other =>
    have named : item.self.node.id ≠ none := by
      obtain ⟨node, located, _⟩ := sound.hosted item.self member
      exact (sound.keyed _ node located).2.1
    obtain ⟨within, full, place⟩ := findService_spec found named
    exact ⟨other, rfl, sound.unique (List.mem_map.mpr ⟨other, within, rfl⟩) member full place⟩

theorem Sound.routes_removeService {registry : Registry} (sound : registry.Sound)
    (fullName : String) {node : NodeRef} (named : node.id ≠ none) :
    (∀ name, (registry.removeService fullName node.id).actions.routes node name =
        (registry.actions.routes node name).filter fun route => route.2 ≠ fullName) ∧
      ∀ key, (registry.removeService fullName node.id).events.routes node key =
        (registry.events.routes node key).filter fun route => route.2 ≠ fullName := by
  unfold Registry.removeService
  cases found : registry.findService fullName node.id with
  | none =>
    -- There is no route to a service that is not registered.
    have unserved {κ δ : Type} [DecidableEq κ] {catalog : Catalog κ δ}
        (served : Catalog.Sound registry.nodeID registry.refs catalog) (key : κ) :
        catalog.routes node key =
          (catalog.routes node key).filter fun route => route.2 ≠ fullName := by
      symm
      rw [List.filter_eq_self]
      intro route member
      obtain ⟨service, known, rfl, rfl⟩ := exists_ref_of_mem_routes served member
      simp only [ne_eq, decide_not, Bool.not_eq_true', decide_eq_false_iff_not]
      rintro rfl
      obtain ⟨item, located, _⟩ := sound.findService_eq known
      change registry.findService service.fullName service.node.id = none at found
      rw [located] at found
      cases found
    exact ⟨unserved sound.actions, unserved sound.events⟩
  | some item =>
    obtain ⟨inside, full, place⟩ := findService_spec found named
    have unique : ∀ other ∈ registry.refs, other.node = node →
        other.fullName = item.self.fullName → other = item.self := by
      intro other known here same
      exact sound.unique known (List.mem_map.mpr ⟨item, inside, rfl⟩) same (by rw [here, place])
    rw [← full]
    exact ⟨Catalog.routes_removeByService sound.actions unique,
      Catalog.routes_removeByService sound.events unique⟩

theorem Sound.mem_routes_pruneServices {registry : Registry} (sound : registry.Sound)
    {node : NodeRef} {id : String} (self : node.id = some id) (nonempty : id ≠ "")
    (remote : id ≠ registry.nodeID) (serviceList : List ServiceInfo) (items : List ServiceItem)
    (route : Route) :
    (∀ name, route ∈ (items.foldl (pruneService node serviceList) registry).actions.routes node
        name ↔ route ∈ registry.actions.routes node name ∧ ∀ item ∈ items, item.self.node = node →
          (∀ svc ∈ serviceList, item.self.fullName ≠ svc.resolvedName) →
          route.2 ≠ item.self.fullName) ∧
      ∀ key, route ∈ (items.foldl (pruneService node serviceList) registry).events.routes node
        key ↔ route ∈ registry.events.routes node key ∧ ∀ item ∈ items, item.self.node = node →
          (∀ svc ∈ serviceList, item.self.fullName ≠ svc.resolvedName) →
          route.2 ≠ item.self.fullName := by
  induction items generalizing registry with
  | nil => simp
  | cons item rest ih =>
    have unlisted : (!serviceList.any fun svc => item.equals svc.resolvedName none) = true ↔
        ∀ svc ∈ serviceList, item.self.fullName ≠ svc.resolvedName := by
      simp [ServiceItem.equals]
    rw [List.foldl_cons, pruneService]
    split
    · rename_i goes
      -- The node is remote, so that only its item and its endpoints go.
      have plain : registry.unregisterService item.self.fullName node.id =
          registry.removeService item.self.fullName node.id := by
        simp [Registry.unregisterService, targetID, self, nonempty, remote]
      have named : node.id ≠ none := by
        rw [self]
        exact Option.some_ne_none id
      have removed := (sound.removeService item.self.fullName named).1
      have nodeID := (nodes_removeService registry item.self.fullName node.id).2
      obtain ⟨actions, events⟩ := sound.routes_removeService item.self.fullName named
      obtain ⟨actions', events'⟩ := ih removed (by rw [nodeID]; exact remote)
      have listed := unlisted.mp goes.2
      rw [plain]
      constructor
      · intro name
        rw [actions' name, actions name, List.forall_mem_cons, List.mem_filter]
        simp only [ne_eq, decide_not, Bool.not_eq_true', decide_eq_false_iff_not]
        tauto
      · intro key
        rw [events' key, events key, List.forall_mem_cons, List.mem_filter]
        simp only [ne_eq, decide_not, Bool.not_eq_true', decide_eq_false_iff_not]
        tauto
    · rename_i stays
      rw [unlisted] at stays
      obtain ⟨actions', events'⟩ := ih sound remote
      constructor
      · intro name
        rw [actions' name, List.forall_mem_cons]
        tauto
      · intro key
        rw [events' key, List.forall_mem_cons]
        tauto

end Registry

end Moleculer.Cluster
