import Moleculer.Registry.Numbering
import Moleculer.Registry.Routing

/-! What registering or unregistering a service does to the other services of its node. -/

namespace Moleculer.Cluster

open Base

section Catalogs

variable {κ δ : Type}

variable {service other : ServiceRef}

theorem EndpointList.Numbered.filter_add {bound : Nat} {list : EndpointList δ}
    (numbered : list.Numbered bound) (differs : other ≠ service)
    (clear : ∀ ep ∈ list.endpoints, ep.node = service.node → ep.service.name = service.name →
      ep.service = service) (brokerID : String) (fresh : Nat) (data : δ) :
    (list.add brokerID fresh service.node service data).endpoints.filter (·.service = other) =
      list.endpoints.filter (·.service = other) := by
  unfold EndpointList.add
  split
  · rename_i found located
    have inside := List.mem_of_find?_eq_some located
    have own : found.node = service.node ∧ found.service.name = service.name := by
      simpa using List.find?_some located
    have unmoved (ep : Endpoint δ) :
        (if ep.ref = found.ref then { ep with data := data } else ep).service = ep.service := by
      split <;> rfl
    simp only [List.filter_map, Function.comp_def, unmoved]
    -- The updated endpoint is one object, and it belongs to the own service.
    refine (List.map_congr_left fun ep member => ?_).trans (List.map_id _)
    obtain ⟨known, mine⟩ := List.mem_filter.mp member
    rw [if_neg, id]
    intro same
    have equal := List.inj_on_of_nodup_map numbered.distinct known inside same
    rw [equal, clear found inside own.1 own.2, decide_eq_true_eq] at mine
    exact differs mine.symm
  · simp [EndpointList.setLocalEndpoints, List.filter_append, Ne.symm differs]

theorem EndpointList.mem_add {list : EndpointList δ} {brokerID : String} {fresh : Nat}
    {node : NodeRef} {data : δ} {ep : Endpoint δ}
    (inside : ep ∈ (list.add brokerID fresh node service data).endpoints) :
    ep.service = service ∨ ∃ old ∈ list.endpoints, old.node = ep.node ∧
      old.service = ep.service := by
  unfold EndpointList.add at inside
  split at inside
  · obtain ⟨old, member, rfl⟩ := List.mem_map.mp inside
    refine .inr ⟨old, member, ?_⟩
    split <;> exact ⟨rfl, rfl⟩
  · rcases List.mem_append.mp inside with old | new
    · exact .inr ⟨ep, old, rfl, rfl⟩
    · rw [List.mem_singleton.mp new]
      exact .inl rfl

variable [DecidableEq κ]

/-- The endpoints under a key that belong to a service. -/
def Catalog.owned (catalog : Catalog κ δ) (service : ServiceRef) (key : κ) : List (Endpoint δ) :=
  (catalog.get key).elim [] fun list => list.endpoints.filter (·.service = service)

/-- Under a key, the node of a service has no endpoint of another service with the same name. -/
def Catalog.Clear (catalog : Catalog κ δ) (service : ServiceRef) (key : κ) : Prop :=
  ∀ list, catalog.get key = some list → ∀ ep ∈ list.endpoints, ep.node = service.node →
    ep.service.name = service.name → ep.service = service

theorem Catalog.owned_add {bound : Nat} {catalog : Catalog κ δ}
    (numbered : Catalog.Numbered bound catalog) (differs : other ≠ service) {added : κ}
    (clear : catalog.Clear service added) (name : String) (group : Option String)
    (brokerID : String) (fresh : Nat) (data : δ) (key : κ) :
    (Catalog.add catalog added (.new name group) brokerID fresh service.node service data).owned
      other key = catalog.owned other key := by
  unfold Catalog.owned
  rw [Catalog.add, OrderedMap.get_set]
  split
  · rename_i same
    subst same
    cases located : catalog.get key with
    | none =>
      -- The list is a new one, with nothing but the added endpoint.
      simp [EndpointList.add, EndpointList.new, EndpointList.setLocalEndpoints, Ne.symm differs]
    | some list =>
      exact (numbered key list located).filter_add differs (clear list located) brokerID fresh data
  · rfl

theorem Catalog.Clear.add {catalog : Catalog κ δ} {key : κ} (clear : catalog.Clear service key)
    (added : κ) (name : String) (group : Option String) (brokerID : String) (fresh : Nat)
    (data : δ) :
    (Catalog.add catalog added (.new name group) brokerID fresh service.node service data).Clear
      service key := by
  intro list found ep inside here same
  rw [Catalog.add, OrderedMap.get_set] at found
  split at found
  · rename_i equal
    subst equal
    cases found
    rcases EndpointList.mem_add inside with own | ⟨old, member, place, known⟩
    · exact own
    · cases located : catalog.get key with
      | none =>
        rw [located] at member
        cases member
      | some list =>
        rw [located] at member
        rw [← known] at same ⊢
        exact clear list located old member (place.trans here) same
  · exact clear list found ep inside here same

theorem Catalog.owned_removeByService (catalog : Catalog κ δ) (differs : other ≠ service)
    (key : κ) :
    (Catalog.removeByService catalog service).owned other key = catalog.owned other key := by
  unfold Catalog.owned
  rw [Catalog.removeByService, OrderedMap.get_mapValues]
  cases catalog.get key with
  | none => rfl
  | some list =>
    simp only [Option.map_some, Option.elim_some, EndpointList.removeByService,
      EndpointList.setLocalEndpoints, List.filter_filter]
    apply List.filter_congr
    intro ep _
    by_cases mine : ep.service = other <;> simp [mine, differs]

theorem Catalog.owned_remove (catalog : Catalog κ δ) {test : κ → Bool} (nodeID : NodeID)
    (service : ServiceRef) {key : κ} (other : test key = false) :
    (Catalog.remove catalog test nodeID).owned service key = catalog.owned service key := by
  unfold Catalog.owned
  rw [Catalog.remove, OrderedMap.get_mapEntries]
  cases catalog.get key <;> simp [other]

section Services

variable {brokerID : String} {known : List ServiceRef} {before after : Catalog κ δ}
  {service : ServiceRef}

theorem Catalog.owned_ne_nil_iff (sound : Catalog.Sound brokerID known before)
    (unique : ∀ other ∈ known, other.node = service.node → other.fullName = service.fullName →
      other = service) (key : κ) :
    before.owned service key ≠ [] ↔ service.route ∈ before.routes service.node key := by
  unfold Catalog.owned Catalog.routes
  cases found : before.get key with
  | none => simp
  | some list =>
    have some_iff : list.endpoints.filter (·.service = service) ≠ [] ↔
        ∃ ep ∈ list.endpoints, ep.service = service := by
      simp [List.filter_eq_nil_iff]
    simp only [Option.elim_some, some_iff, EndpointList.routes, List.mem_map, List.mem_filter,
      decide_eq_true_eq, and_assoc]
    refine exists_congr fun ep => and_congr_right fun inside => ?_
    obtain ⟨member, place, _⟩ := (sound key list found).served ep inside
    rw [place]
    refine ⟨fun own => own ▸ ⟨rfl, rfl⟩, fun own => ?_⟩
    exact unique ep.service member own.1 (congrArg Prod.snd own.2)

theorem Catalog.Sound.pairwise_routes (sound : Catalog.Sound brokerID known before)
    (node : NodeRef) (key : κ) :
    (before.routes node key).Pairwise fun one other => one.1 ≠ other.1 := by
  unfold Catalog.routes
  cases found : before.get key with
  | none => exact .nil
  | some list =>
    rw [Option.elim_some, EndpointList.routes, List.pairwise_map, List.pairwise_filter]
    refine (sound key list found).apart.imp fun {one other} apart here there same => apart ?_
    simp only [decide_eq_true_eq] at here there
    exact ⟨here.trans there.symm, same⟩

/-- A service gets its endpoints and the others keep theirs, exactly if it offers and drops nothing
that another service of the node has under the same name, or has at all. -/
theorem Catalog.neighbours_iff (offers drops : κ → Bool)
    (sound : Catalog.Sound brokerID known before)
    (sound_after : Catalog.Sound brokerID known after)
    (unique : ∀ one ∈ known, ∀ other ∈ known, one.node = other.node →
      one.fullName = other.fullName → one = other) (member : service ∈ known)
    (routes : ∀ key, after.routes service.node key =
      if drops key then []
      else if offers key then enlist Prod.fst (before.routes service.node key) service.route
      else before.routes service.node key)
    (kept : (∀ key, offers key = true → before.Clear service key) → ∀ other, other ≠ service →
      ∀ key, drops key = false → after.owned other key = before.owned other key) :
    ((∀ key, offers key = true → after.owned service key ≠ []) ∧
      ∀ other ∈ known, other.node = service.node → other.fullName ≠ service.fullName →
        ∀ key, after.owned other key = before.owned other key) ↔
    (∀ key, offers key = true → drops key = false ∧
      ∀ route ∈ before.routes service.node key, route.1 = service.name →
        route.2 = service.fullName) ∧
    ∀ key, drops key = true → ∀ route ∈ before.routes service.node key,
      route.2 = service.fullName := by
  have own {catalog : Catalog κ δ} (sound : Catalog.Sound brokerID known catalog)
      {other : ServiceRef} (inside : other ∈ known) (key : κ) :=
    catalog.owned_ne_nil_iff sound (fun one known here => unique one known other inside here) key
  have apart (key : κ) := mem_enlist_self_iff (sound.pairwise_routes service.node key) service.route
  refine ⟨fun ⟨served, same⟩ => ⟨fun key offered => ?_, fun key dropped route inside => ?_⟩,
    fun ⟨free, alone⟩ => ⟨fun key offered => ?_, fun other inside here differs key => ?_⟩⟩
  · -- The endpoint of the service is there in the end, so nothing took its place.
    have found := (own sound_after member key).mp (served key offered)
    rw [routes] at found
    cases dropped : drops key with
    | true =>
      rw [dropped] at found
      cases found
    | false =>
      rw [dropped, if_neg Bool.false_ne_true, if_pos offered, apart] at found
      exact ⟨rfl, fun route inside name => congrArg Prod.snd (found route inside name)⟩
  · -- A dropped key loses all endpoints of the node.
    by_contra differs
    obtain ⟨other, known, here, rfl⟩ := Registry.exists_ref_of_mem_routes sound inside
    have lost := (own sound known key).mpr (here ▸ inside)
    rw [← same other known here differs key, own sound_after known, here, routes, dropped,
      if_pos rfl] at lost
    cases lost
  · obtain ⟨stays, only⟩ := free key offered
    rw [own sound_after member, routes, stays, if_neg Bool.false_ne_true, if_pos offered, apart]
    exact fun route inside name => Prod.ext name (only route inside name)
  · cases dropped : drops key with
    | true =>
      -- There is nothing to lose.
      have none_before : before.owned other key = [] := by
        by_contra some
        have route := (own sound inside key).mp some
        rw [here] at route
        exact differs (alone key dropped _ route)
      have none_after : after.owned other key = [] := by
        by_contra some
        have route := (own sound_after inside key).mp some
        rw [here, routes, dropped, if_pos rfl] at route
        cases route
      rw [none_before, none_after]
    | false =>
      refine kept (fun key offered list found ep member place name => ?_) other
        (fun equal => differs (equal ▸ rfl)) key dropped
      obtain ⟨known, self, _⟩ := (sound key list found).served ep member
      refine unique ep.service known service ‹_› (self.symm.trans place) ?_
      refine (free key offered).2 ep.service.route ?_ name
      simp only [Catalog.routes, found, Option.elim_some, EndpointList.routes, List.mem_map,
        List.mem_filter, decide_eq_true_eq]
      exact ⟨ep, ⟨member, place⟩, rfl⟩

end Services

end Catalogs

/-- The actions that a service lists. -/
def ServiceInfo.listedActions (svc : ServiceInfo) : List ActionInfo :=
  svc.actions.elim [] (·.values)

/-- The events that a service lists. -/
def ServiceInfo.listedEvents (svc : ServiceInfo) : List EventInfo :=
  svc.events.elim [] (·.values)

namespace Registry

/-- Register a service on a node: a local one by itself, one of another node from an info. -/
def registerOn (registry : Registry) (node : Node) (svc : ServiceInfo) : Registry :=
  if node.isLocal then registry.registerLocalService svc
  else registry.registerService node.self false svc

/-- The item that a service goes to when it is registered on a node. -/
def entry (registry : Registry) (node : NodeRef) (svc : ServiceInfo) : ServiceRef :=
  (registry.enterService node svc).2.1

/-- A service has the same endpoints, with the same data. -/
def SameEndpoints (before after : Registry) (service : ServiceRef) : Prop :=
  (∀ name, after.actions.owned service name = before.actions.owned service name) ∧
    ∀ key, after.events.owned service key = before.events.owned service key

/-- Registering and unregistering a service leaves the others of the node what they have, and once
the service is registered it has an endpoint of its own for each visible action and for each
event. -/
structure KeepsNeighbours (registry : Registry) (node : Node) (svc : ServiceInfo) : Prop where
  registering : ∀ other ∈ registry.refs, other.node = node.self →
    other.fullName ≠ svc.resolvedName → registry.SameEndpoints (registry.registerOn node svc) other
  unregistering : ∀ other ∈ registry.refs, other.node = node.self →
    other.fullName ≠ svc.resolvedName →
      registry.SameEndpoints (registry.unregisterService svc.resolvedName node.self.id) other
  actions : ∀ action ∈ svc.listedActions, checkActionVisibility action node.isLocal = true →
    (registry.registerOn node svc).actions.owned (registry.entry node.self svc) action.name ≠ []
  events : ∀ event ∈ svc.listedEvents,
    (registry.registerOn node svc).events.owned (registry.entry node.self svc)
      (event.name, event.groupName (registry.entry node.self svc).name) ≠ []

/-- No service of the same name on the node has an endpoint for a visible action, or for an event in
the same group, and what an update drops is neither listed under another key nor offered by another
service of the node. -/
structure Unshared (registry : Registry) (node : Node) (svc : ServiceInfo) : Prop where
  actions : ∀ action ∈ svc.listedActions, checkActionVisibility action node.isLocal = true →
    registry.dropsAction node.self.id action.name svc = false ∧
      ∀ route ∈ registry.actions.routes node.self action.name,
        route.1 = (registry.entry node.self svc).name → route.2 = svc.resolvedName
  events : ∀ event ∈ svc.listedEvents,
    registry.dropsEvent node.self.id
        (event.name, event.groupName (registry.entry node.self svc).name) svc = false ∧
      ∀ route ∈ registry.events.routes node.self
          (event.name, event.groupName (registry.entry node.self svc).name),
        route.1 = (registry.entry node.self svc).name → route.2 = svc.resolvedName
  droppedActions : ∀ name, registry.dropsAction node.self.id name svc = true →
    ∀ route ∈ registry.actions.routes node.self name, route.2 = svc.resolvedName
  droppedEvents : ∀ key, registry.dropsEvent node.self.id key svc = true →
    ∀ route ∈ registry.events.routes node.self key, route.2 = svc.resolvedName

section Offers

variable {registry : Registry} {service other : ServiceRef}

theorem owned_registerActions (numbered : registry.Numbered) (differs : other ≠ service)
    (isLocal : Bool) (actions : List ActionInfo)
    (clear : ∀ action ∈ actions, checkActionVisibility action isLocal = true →
      registry.actions.Clear service action.name) (name : String) :
    (actions.foldl (fun state action => state.registerAction service.node isLocal service action)
      registry).actions.owned other name = registry.actions.owned other name := by
  -- Each action leaves the service clear for the actions behind it.
  induction actions generalizing registry with
  | nil => rfl
  | cons action rest ih =>
    obtain ⟨first, others⟩ := List.forall_mem_cons.mp clear
    rw [List.foldl_cons]
    by_cases visible : checkActionVisibility action isLocal = true
    · have added : (registry.registerAction service.node isLocal service action).actions =
          registry.actions.add registry.nodeID registry.nextRef service.node service action := by
        rw [registerAction, if_pos visible]
        rfl
      rw [ih (numbered.change
        (.registerAction isLocal action trivial trivial : Change (fun _ => True) _ _)), added]
      · exact Catalog.owned_add numbered.actions differs (first visible) ..
      · rw [added]
        exact fun action inside shown => (others action inside shown).add _ _ _ _ _ _
    · have same : registry.registerAction service.node isLocal service action = registry := by
        rw [registerAction, if_neg visible]
      rw [same]
      exact ih numbered others

theorem owned_registerEvents (numbered : registry.Numbered) (differs : other ≠ service)
    (events : List EventInfo)
    (clear : ∀ event ∈ events,
      registry.events.Clear service (event.name, event.groupName service.name))
    (key : String × String) :
    (events.foldl (fun state event => state.registerEvent service.node service event)
      registry).events.owned other key = registry.events.owned other key := by
  induction events generalizing registry with
  | nil => rfl
  | cons event rest ih =>
    obtain ⟨first, others⟩ := List.forall_mem_cons.mp clear
    rw [List.foldl_cons, ih (numbered.change
      (.registerEvent event trivial trivial : Change (fun _ => True) _ _))]
    · exact Catalog.owned_add numbered.events differs first ..
    · exact fun event inside => (others event inside).add _ _ _ _ _ _

theorem owned_syncActions (numbered : registry.Numbered) (differs : other ≠ service)
    (isLocal : Bool) (before : List String) (actions : Option (OrderedMap String ActionInfo))
    (clear : ∀ action ∈ actions.elim [] (·.values), checkActionVisibility action isLocal = true →
      registry.actions.Clear service action.name) {name : String}
    (stays : name ∉ dropped before actions) :
    (registry.syncActions service.node isLocal service before actions).actions.owned other name =
      registry.actions.owned other name := by
  have offered : (registry.offerActions service.node isLocal service actions).actions.owned other
      name = registry.actions.owned other name := by
    cases actions with
    | none => rfl
    | some actions => exact owned_registerActions numbered differs isLocal _ clear name
  unfold syncActions
  refine List.foldlRecOn _ _ (motive := fun state : Registry =>
    state.actions.owned other name = registry.actions.owned other name) offered
    fun state same gone inside => ?_
  refine (Catalog.owned_remove _ _ _ ?_).trans same
  exact decide_eq_false fun equal => stays (equal ▸ inside)

theorem owned_syncEvents (numbered : registry.Numbered) (differs : other ≠ service)
    (before : List String) (events : Option (OrderedMap String EventInfo))
    (clear : ∀ event ∈ events.elim [] (·.values),
      registry.events.Clear service (event.name, event.groupName service.name))
    {key : String × String} (stays : key.1 ∉ dropped before events) :
    (registry.syncEvents service.node service before events).events.owned other key =
      registry.events.owned other key := by
  have offered : (registry.offerEvents service.node service events).events.owned other key =
      registry.events.owned other key := by
    cases events with
    | none => rfl
    | some events => exact owned_registerEvents numbered differs _ clear key
  unfold syncEvents
  refine List.foldlRecOn _ _ (motive := fun state : Registry =>
    state.events.owned other key = registry.events.owned other key) offered
    fun state same gone inside => ?_
  refine (Catalog.owned_remove _ _ _ ?_).trans same
  exact decide_eq_false fun equal => stays (equal ▸ inside)

end Offers

variable {registry : Registry}

theorem Sound.unique_on (sound : registry.Sound) :
    ∀ one ∈ registry.refs, ∀ other ∈ registry.refs, one.node = other.node →
      one.fullName = other.fullName → one = other :=
  fun _ first _ second place name => sound.unique first second name (place ▸ rfl)

theorem Sound.syncActions_iff (sound : registry.Sound) (numbered : registry.Numbered)
    {service : ServiceRef} (member : service ∈ registry.refs) (isLocal : Bool)
    (before : List String) (svc : ServiceInfo) :
    ((∀ action ∈ svc.listedActions, checkActionVisibility action isLocal = true →
        (registry.syncActions service.node isLocal service before svc.actions).actions.owned
          service action.name ≠ []) ∧
      ∀ other ∈ registry.refs, other.node = service.node → other.fullName ≠ service.fullName →
        ∀ name, (registry.syncActions service.node isLocal service before
          svc.actions).actions.owned other name = registry.actions.owned other name) ↔
    (∀ action ∈ svc.listedActions, checkActionVisibility action isLocal = true →
      action.name ∉ dropped before svc.actions ∧
        ∀ route ∈ registry.actions.routes service.node action.name, route.1 = service.name →
          route.2 = service.fullName) ∧
    ∀ name ∈ dropped before svc.actions, ∀ route ∈ registry.actions.routes service.node name,
      route.2 = service.fullName := by
  have after := (sound.syncActions isLocal member before svc.actions).actions
  have keeps := keeps_syncActions registry service.node isLocal service before svc.actions
  rw [keeps.nodeID, keeps.refs] at after
  have listed {shows : String → Prop} : (∀ name, (svc.actions.any fun actions =>
      actions.values.any fun action => checkActionVisibility action isLocal && action.name = name)
        = true → shows name) ↔
      ∀ action ∈ svc.listedActions, checkActionVisibility action isLocal = true →
        shows action.name := by
    unfold ServiceInfo.listedActions
    cases svc.actions with
    | none => simp
    | some actions =>
      simp only [Option.any_some, List.any_eq_true, Bool.and_eq_true, decide_eq_true_eq,
        Option.elim_some]
      refine ⟨fun all action inside visible => all _ ⟨action, inside, visible, rfl⟩, ?_⟩
      rintro all _ ⟨action, inside, visible, rfl⟩
      exact all action inside visible
  have general := Catalog.neighbours_iff (fun name => svc.actions.any fun actions =>
      actions.values.any fun action => checkActionVisibility action isLocal && action.name = name)
    (fun name => name ∈ dropped before svc.actions) sound.actions after sound.unique_on member
    ?_ ?_
  · simpa only [listed, decide_eq_true_eq, decide_eq_false_iff_not] using general
  · intro name
    simpa only [decide_eq_true_eq] using routes_syncActions ..
  · intro clear other differs name stays
    exact owned_syncActions numbered differs isLocal before svc.actions (listed.mp clear)
      (of_decide_eq_false stays)

theorem Sound.syncEvents_iff (sound : registry.Sound) (numbered : registry.Numbered)
    {service : ServiceRef} (member : service ∈ registry.refs) (before : List String)
    (svc : ServiceInfo) :
    ((∀ event ∈ svc.listedEvents,
        (registry.syncEvents service.node service before svc.events).events.owned service
          (event.name, event.groupName service.name) ≠ []) ∧
      ∀ other ∈ registry.refs, other.node = service.node → other.fullName ≠ service.fullName →
        ∀ key, (registry.syncEvents service.node service before svc.events).events.owned other key =
          registry.events.owned other key) ↔
    (∀ event ∈ svc.listedEvents, event.name ∉ dropped before svc.events ∧
      ∀ route ∈ registry.events.routes service.node (event.name, event.groupName service.name),
        route.1 = service.name → route.2 = service.fullName) ∧
    ∀ key : String × String, key.1 ∈ dropped before svc.events →
      ∀ route ∈ registry.events.routes service.node key, route.2 = service.fullName := by
  have after := (sound.syncEvents member before svc.events).events
  have keeps := keeps_syncEvents registry service.node service before svc.events
  rw [keeps.nodeID, keeps.refs] at after
  have listed {shows : String × String → Prop} : (∀ key, (svc.events.any fun events =>
      events.values.any fun event => (event.name, event.groupName service.name) = key) = true →
        shows key) ↔
      ∀ event ∈ svc.listedEvents, shows (event.name, event.groupName service.name) := by
    unfold ServiceInfo.listedEvents
    cases svc.events with
    | none => simp
    | some events =>
      simp only [Option.any_some, List.any_eq_true, decide_eq_true_eq, Option.elim_some]
      refine ⟨fun all event inside => all _ ⟨event, inside, rfl⟩, ?_⟩
      rintro all _ ⟨event, inside, rfl⟩
      exact all event inside
  have general := Catalog.neighbours_iff (fun key => svc.events.any fun events =>
      events.values.any fun event => (event.name, event.groupName service.name) = key)
    (fun key => key.1 ∈ dropped before svc.events) sound.events after sound.unique_on member
    ?_ ?_
  · simpa only [listed, decide_eq_true_eq, decide_eq_false_iff_not] using general
  · intro key
    simpa only [decide_eq_true_eq] using routes_syncEvents ..
  · intro clear other differs key stays
    exact owned_syncEvents numbered differs before svc.events (listed.mp clear)
      (of_decide_eq_false stays)

/-- What a registration has done before it comes to the endpoints. -/
structure Entered (registry : Registry) (node : Node) (svc : ServiceInfo) (first : Registry)
    (prevActions prevEvents : List String) : Prop where
  sound : first.Sound
  numbered : first.Numbered
  member : registry.entry node.self svc ∈ first.refs
  place : (registry.entry node.self svc).node = node.self
  name : (registry.entry node.self svc).fullName = svc.resolvedName
  refs : ∀ service, service ∈ first.refs ↔
    service ∈ registry.refs ∨ service = registry.entry node.self svc
  actions : first.actions = registry.actions
  events : first.events = registry.events
  droppedActions : ∀ name, name ∈ dropped prevActions svc.actions ↔
    registry.dropsAction node.self.id name svc = true
  droppedEvents : ∀ key : String × String, key.1 ∈ dropped prevEvents svc.events ↔
    registry.dropsEvent node.self.id key svc = true
  after : (registry.registerOn node svc).actions =
      ((first.syncActions node.self node.isLocal (registry.entry node.self svc) prevActions
        svc.actions).syncEvents node.self (registry.entry node.self svc) prevEvents
          svc.events).actions ∧
    (registry.registerOn node svc).events =
      ((first.syncActions node.self node.isLocal (registry.entry node.self svc) prevActions
        svc.actions).syncEvents node.self (registry.entry node.self svc) prevEvents
          svc.events).events

theorem exists_entered (sound : registry.Sound) (numbered : registry.Numbered) {node : Node}
    (stored : registry.nodes.get node.self.id = some node)
    (able : node.available = true ∨ node.isLocal = true) {svc : ServiceInfo}
    (fresh : node.isLocal = true → registry.findService svc.resolvedName node.self.id = none) :
    ∃ first prevActions prevEvents,
      registry.Entered node svc first prevActions prevEvents := by
  have hosts : registry.Hosts node.self := ⟨node, stored, rfl, able⟩
  obtain ⟨_, named, isLocal⟩ := sound.keyed _ node stored
  by_cases home : node.isLocal = true
  · -- The local node takes the service as a new one.
    have free := fresh home
    have here : registry.localNode = node := by
      rw [localNode, ← isLocal.mp home, stored]
      rfl
    obtain ⟨added, extended⟩ := sound.addService hosts free true
    have entered : registry.entry node.self svc = (registry.addService node.self svc true).2 := by
      simp only [entry, enterService, free]
      rfl
    have drops (name : String) : registry.dropsAction node.self.id name svc = false := by
      simp [dropsAction, free]
    have dropsEvents (key : String × String) :
        registry.dropsEvent node.self.id key svc = false := by
      simp [dropsEvent, free]
    refine ⟨(registry.addService node.self svc true).1, [], [], added,
      numbered.of_catalogs (Nat.le_succ _) rfl rfl, ?_, ?_, ?_, ?_, rfl, rfl, ?_, ?_, ?_⟩
    · rw [entered, extended]
      simp
    · rw [entered]
      rfl
    · rw [entered]
      rfl
    · intro service
      rw [entered, extended]
      simp
    · simp [dropped, drops]
    · simp [dropped, dropsEvents]
    · rw [registerOn, if_pos home, entered, registerLocalService, ← isLocal.mp home, free, here]
      exact ⟨rfl, rfl⟩
  · obtain ⟨entered, member, place, name, refs⟩ := sound.enterService hosts named svc
    obtain ⟨actions, events⟩ := catalogs_enterService registry node.self svc
    have entering := (@Changes.enterService (fun _ => True) registry node.self trivial
      (fun _ _ => trivial) svc).1
    refine ⟨_, _, _, entered, numbered.changes entering, member, place, name, refs, actions, events,
      mem_dropped_actions registry node.self svc, mem_dropped_events registry node.self svc, ?_⟩
    rw [registerOn, if_neg home, Bool.eq_false_of_not_eq_true home]
    exact ⟨rfl, rfl⟩

theorem sameEndpoints_unregisterService (registry : Registry) {other : ServiceRef}
    {fullName : String} (differs : other.fullName ≠ fullName) (id : NodeID) :
    registry.SameEndpoints (registry.unregisterService fullName id) other := by
  have removed : registry.SameEndpoints
      (registry.removeService fullName (some (registry.targetID id))) other := by
    unfold removeService
    cases found : registry.findService fullName (some (registry.targetID id)) with
    | none => exact ⟨fun _ => rfl, fun _ => rfl⟩
    | some item =>
      have apart : other ≠ item.self := by
        intro same
        exact differs (same ▸ (findService_spec found (Option.some_ne_none _)).2.1)
      exact ⟨Catalog.owned_removeByService _ apart, Catalog.owned_removeByService _ apart⟩
  unfold unregisterService
  dsimp only
  split
  · exact removed
  · exact removed

/-- A service leaves its neighbours alone, and gets all its endpoints, exactly if it shares nothing
with a service of the same name on the node and drops nothing that another one offers. -/
theorem keepsNeighbours_iff {registry : Registry} (sound : registry.Sound)
    (numbered : registry.Numbered) {node : Node}
    (stored : registry.nodes.get node.self.id = some node)
    (able : node.available = true ∨ node.isLocal = true) {svc : ServiceInfo}
    (fresh : node.isLocal = true → registry.findService svc.resolvedName node.self.id = none) :
    registry.KeepsNeighbours node svc ↔ registry.Unshared node svc := by
  obtain ⟨first, prevActions, prevEvents, entered⟩ :=
    exists_entered sound numbered stored able fresh
  obtain ⟨actions_after, events_after⟩ := entered.after
  set service := registry.entry node.self svc with service_eq
  have place : node.self = service.node := entered.place.symm
  have name : svc.resolvedName = service.fullName := entered.name.symm
  -- The events come second and find the services and the event catalog as they were.
  have keeps := keeps_syncActions first service.node node.isLocal service prevActions svc.actions
  have actions_iff := entered.sound.syncActions_iff entered.numbered entered.member node.isLocal
    prevActions svc
  have events_iff := (entered.sound.syncActions node.isLocal entered.member prevActions
    svc.actions).syncEvents_iff (entered.numbered.changes
      (.syncActions trivial trivial _ _ _ : Changes (fun _ => True) _ _))
      (keeps.refs ▸ entered.member)
    prevEvents svc
  rw [place, actions_syncEvents] at actions_after
  rw [place] at events_after
  rw [← actions_after, entered.actions] at actions_iff
  rw [← events_after, events_syncActions, keeps.refs, entered.events] at events_iff
  have others (shows : ServiceRef → Prop) : (∀ other ∈ first.refs, other.node = service.node →
      other.fullName ≠ service.fullName → shows other) ↔
      ∀ other ∈ registry.refs, other.node = node.self → other.fullName ≠ svc.resolvedName →
        shows other := by
    rw [place, name]
    refine ⟨fun all other inside => all other ((entered.refs other).mpr (.inl inside)),
      fun all other inside here differs => ?_⟩
    rcases (entered.refs other).mp inside with known | rfl
    · exact all other known here differs
    · exact absurd rfl differs
  rw [others] at actions_iff events_iff
  rw [← place, ← name] at actions_iff events_iff
  constructor
  · intro neighbours
    obtain ⟨actions, droppedActions⟩ := actions_iff.mp ⟨neighbours.actions,
      fun other inside here differs => (neighbours.registering other inside here differs).1⟩
    obtain ⟨events, droppedEvents⟩ := events_iff.mp ⟨neighbours.events,
      fun other inside here differs => (neighbours.registering other inside here differs).2⟩
    refine ⟨fun action inside visible => ?_, fun event inside => ?_, ?_, ?_⟩
    · rw [← Bool.not_eq_true, ← entered.droppedActions]
      exact actions action inside visible
    · rw [← Bool.not_eq_true, ← entered.droppedEvents]
      exact events event inside
    · exact fun name drops => droppedActions name ((entered.droppedActions name).mpr drops)
    · exact fun key drops => droppedEvents key ((entered.droppedEvents key).mpr drops)
  · intro unshared
    obtain ⟨served, kept⟩ := actions_iff.mpr ⟨fun action inside visible => by
      rw [entered.droppedActions, Bool.not_eq_true]
      exact unshared.actions action inside visible,
      fun name drops => unshared.droppedActions name ((entered.droppedActions name).mp drops)⟩
    obtain ⟨heard, left⟩ := events_iff.mpr ⟨fun event inside => by
      rw [entered.droppedEvents (event.name, event.groupName service.name), Bool.not_eq_true]
      exact unshared.events event inside,
      fun key drops => unshared.droppedEvents key ((entered.droppedEvents key).mp drops)⟩
    exact ⟨fun other inside here differs =>
        ⟨kept other inside here differs, left other inside here differs⟩,
      fun other _ _ differs => sameEndpoints_unregisterService registry differs _, served, heard⟩

/-- A version of a service with one event. -/
def mails (version : Int) (fullName event : String) : ServiceInfo where
  name := "mails"
  version := some (.number version)
  fullName := some fullName
  settings := default
  metadata := default
  actions := none
  events := some (.set .empty event ⟨event, none, default⟩)

/-- A broker with the first version of the service. -/
def mailing : Registry :=
  run step (create "local" "instance" 0) [.registerLocalService (mails 1 "v1.mails" "user.created")]

/-- A second version that listens to another event. -/
theorem keepsNeighbours_other_event :
    mailing.KeepsNeighbours mailing.localNode (mails 2 "v2.mails" "user.removed") := by
  have free : mailing.findService (mails 2 "v2.mails" "user.removed").resolvedName
      mailing.localNode.self.id = none := by decide
  have sound : mailing.Sound := sound_run (sound_create ..) (by simp [Operation.Named])
  have numbered : mailing.Numbered := numbered_run ..
  refine (keepsNeighbours_iff sound numbered (by decide) (by decide) fun _ => free).mpr
    ⟨by decide, by decide, fun name drops => ?_, fun key drops => ?_⟩
  · rw [dropsAction, free] at drops
    cases drops
  · rw [dropsEvent, free] at drops
    cases drops

/-- A second version that listens to the same event finds the endpoint of the first one. -/
theorem version_shares_endpoint :
    ¬ mailing.KeepsNeighbours mailing.localNode (mails 2 "v2.mails" "user.created") := by
  intro neighbours
  exact absurd (neighbours.events ⟨"user.created", none, default⟩ (by decide)) (by decide)

end Registry

end Moleculer.Cluster
