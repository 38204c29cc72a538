import Moleculer.Registry.Listing

/-! Which infos leave the list of services of their node as they describe it. -/

namespace Moleculer.Cluster

open Base OrderedMap

/-- The actions of a service that other nodes register. -/
def ServiceInfo.registrable (isLocal : Bool) (svc : ServiceInfo) : List ActionInfo :=
  svc.listedActions.filter fun action => Registry.checkActionVisibility action isLocal

/-- The registrable actions that an info lists for a service, in the order of their registration. -/
def offeredActions (serviceList : List ServiceInfo) (fullName : String) : List ActionInfo :=
  (serviceList.filter fun svc => svc.resolvedName = fullName).flatMap (·.registrable false)

/-- The events that an info lists for a service. -/
def offeredEvents (serviceList : List ServiceInfo) (fullName : String) : List EventInfo :=
  (serviceList.filter fun svc => svc.resolvedName = fullName).flatMap (·.listedEvents)

/-- Actions and events are stored under their own names. -/
structure ServiceItem.Keyed (item : ServiceItem) : Prop where
  actions : ∀ name action, item.actions.get name = some action → action.name = name
  events : ∀ name event, item.events.get name = some event → event.name = name

theorem get_collect {δ : Type} {nameOf : δ → String} {entries : OrderedMap String δ}
    (keyed : ∀ name entry, entries.get name = some entry → nameOf entry = name)
    (test : δ → Bool) (name : String) :
    (Registry.collect nameOf test entries).get name = (entries.get name).filter test := by
  have member {entry : δ} : entry ∈ entries.values ↔ entries.get (nameOf entry) = some entry := by
    refine mem_values_iff.trans ⟨fun ⟨key, found⟩ => ?_, fun found => ⟨_, found⟩⟩
    rw [keyed key entry found]
    exact found
  rw [Registry.collect, get_foldl_set, get_empty, Option.or_none]
  cases found : latest nameOf (entries.values.filter test) name with
  | none =>
    rw [latest_eq_none_iff] at found
    cases located : entries.get name with
    | none => rfl
    | some entry =>
      -- An entry that passes would have been found.
      have here := keyed name entry located
      have fails : test entry = false := by
        by_contra passes
        rw [Bool.not_eq_false] at passes
        refine found entry (List.mem_filter.mpr ⟨member.mpr ?_, passes⟩) here
        rw [here]
        exact located
      rw [Option.filter_some, fails]
      rfl
  | some entry =>
    obtain ⟨inside, here⟩ := latest_spec found
    obtain ⟨listed, passes⟩ := List.mem_filter.mp inside
    rw [← here, member.mp listed]
    rw [Option.filter_some, passes]
    rfl

namespace Registry

theorem keyed_law : ItemLaw ServiceItem.Keyed where
  new := fun _ _ _ => ⟨nofun, nofun⟩
  update := fun _ _ keyed => ⟨keyed.actions, keyed.events⟩
  addAction := fun item action keyed => by
    refine ⟨fun name found stored => ?_, keyed.events⟩
    rw [ServiceItem.addAction, get_set] at stored
    split at stored
    · cases stored
      exact Eq.symm ‹_›
    · exact keyed.actions name found stored
  addEvent := fun item event keyed => by
    refine ⟨keyed.actions, fun name found stored => ?_⟩
    rw [ServiceItem.addEvent, get_set] at stored
    split at stored
    · cases stored
      exact Eq.symm ‹_›
    · exact keyed.events name found stored

variable (registry : Registry) {item : ServiceItem} {payload : NodeInfo} {node : NodeRef}
  (service : ServiceRef) {id : String} {now : Nat}

/-- An item of the service takes in actions and events, all others stay. -/
def taken (service : ServiceRef) (actions : List ActionInfo) (events : List EventInfo)
    (item : ServiceItem) : ServiceItem :=
  if item.self = service then
    { item with
      actions := actions.foldl (fun result action => result.set action.name action) item.actions
      events := events.foldl (fun result event => result.set event.name event) item.events }
  else item

theorem map_taken_nil (found : Option ServiceItem) :
    found.map (taken service [] []) = found := by
  have nothing : taken service [] [] = fun item => item := funext fun item => ite_self _
  rw [nothing, Option.map_id']

theorem taken_taken (actions more : List ActionInfo) (events further : List EventInfo)
    (item : ServiceItem) :
    taken service more further (taken service actions events item) =
      taken service (actions ++ more) (events ++ further) item := by
  unfold taken
  by_cases same : item.self = service <;> simp [same, List.foldl_append]

theorem findService_registerActions (node : NodeRef) (isLocal : Bool) (service : ServiceRef)
    (actions : List ActionInfo) (fullName : String) (id : NodeID) :
    (actions.foldl (fun state action => state.registerAction node isLocal service action)
      registry).findService fullName id =
      (registry.findService fullName id).map
        (taken service (actions.filter (checkActionVisibility · isLocal)) []) := by
  induction actions generalizing registry with
  | nil => exact (map_taken_nil ..).symm
  | cons action rest ih =>
    rw [List.foldl_cons, ih]
    by_cases visible : checkActionVisibility action isLocal = true
    · have first : (registry.registerAction node isLocal service action).findService fullName id =
          (registry.findService fullName id).map (taken service [action] []) := by
        rw [registerAction, if_pos visible,
          findService_modifyItem _ _ (·.addAction action) fun _ => rfl]
        rfl
      rw [first, Option.map_map, List.filter_cons_of_pos (by exact visible)]
      congr 1
      funext item
      exact taken_taken service [action] _ [] [] item
    · have first : registry.registerAction node isLocal service action = registry := by
        rw [registerAction, if_neg visible]
      rw [first, List.filter_cons_of_neg (by exact visible)]

theorem findService_registerEvents (node : NodeRef) (service : ServiceRef) (events : List EventInfo)
    (fullName : String) (id : NodeID) :
    (events.foldl (fun state event => state.registerEvent node service event)
      registry).findService fullName id =
      (registry.findService fullName id).map (taken service [] events) := by
  induction events generalizing registry with
  | nil => exact (map_taken_nil ..).symm
  | cons event rest ih =>
    have first : (registry.registerEvent node service event).findService fullName id =
        (registry.findService fullName id).map (taken service [] [event]) := by
      rw [registerEvent, findService_modifyItem _ _ (·.addEvent event) fun _ => rfl]
      rfl
    rw [List.foldl_cons, ih, first, Option.map_map]
    congr 1
    funext item
    exact taken_taken service [] [] [event] rest item

theorem findService_sync (node : NodeRef) (isLocal : Bool) (service : ServiceRef)
    (prevActions prevEvents : List String) (svc : ServiceInfo) (fullName : String) (id : NodeID) :
    ((registry.syncActions node isLocal service prevActions svc.actions).syncEvents node service
      prevEvents svc.events).findService fullName id =
      (registry.findService fullName id).map
        (taken service (svc.registrable isLocal) svc.listedEvents) := by
  have dropActions (state : Registry) (names : List String) :
      (names.foldl (fun state name => state.unregisterAction node name) state).findService fullName
        id = state.findService fullName id :=
    List.foldlRecOn names _ (motive := fun after : Registry =>
      after.findService fullName id = state.findService fullName id) rfl fun _ same _ _ => same
  have dropEvents (state : Registry) (names : List String) :
      (names.foldl (fun state name => state.unregisterEvent node name) state).findService fullName
        id = state.findService fullName id :=
    List.foldlRecOn names _ (motive := fun after : Registry =>
      after.findService fullName id = state.findService fullName id) rfl fun _ same _ _ => same
  have actions : (registry.offerActions node isLocal service svc.actions).findService fullName id =
      (registry.findService fullName id).map (taken service (svc.registrable isLocal) []) := by
    unfold ServiceInfo.registrable ServiceInfo.listedActions
    cases svc.actions with
    | none => exact (map_taken_nil ..).symm
    | some actions => exact findService_registerActions ..
  have events (state : Registry) : (state.offerEvents node service svc.events).findService fullName
      id = (state.findService fullName id).map (taken service [] svc.listedEvents) := by
    unfold ServiceInfo.listedEvents
    cases svc.events with
    | none => exact (map_taken_nil ..).symm
    | some events => exact findService_registerEvents ..
  rw [syncEvents, dropEvents, events, syncActions, dropActions, actions, Option.map_map]
  congr 1
  funext item
  rw [Function.comp_apply, taken_taken, List.append_nil, List.nil_append]

/-- The action that the item of a service holds under a name. -/
def heldAction (registry : Registry) (id : NodeID) (fullName name : String) : Option ActionInfo :=
  (registry.findService fullName id).bind (·.actions.get name)

/-- The event that the item of a service holds under a name. -/
def heldEvent (registry : Registry) (id : NodeID) (fullName name : String) : Option EventInfo :=
  (registry.findService fullName id).bind (·.events.get name)

theorem findService_enterService (node : NodeRef) (svc : ServiceInfo) :
    ∃ item, (registry.enterService node svc).1.findService svc.resolvedName node.id = some item ∧
      item.self = (registry.enterService node svc).2.1 ∧
      (∀ name, item.actions.get name = registry.heldAction node.id svc.resolvedName name) ∧
      ∀ name, item.events.get name = registry.heldEvent node.id svc.resolvedName name := by
  unfold enterService heldAction heldEvent
  cases found : registry.findService svc.resolvedName node.id with
  | none =>
    refine ⟨.new ⟨registry.nextRef, node, svc.name, svc.resolvedName⟩ svc false, ?_, rfl,
      fun _ => rfl, fun _ => rfl⟩
    rw [findService] at found ⊢
    rw [addService, List.find?_append, found, Option.none_or]
    simp [ServiceItem.equals, ServiceItem.new]
  | some item =>
    refine ⟨item.update svc, ?_, rfl, fun _ => rfl, fun _ => rfl⟩
    dsimp only
    rw [findService_modifyItem _ _ (·.update svc) fun _ => rfl, found, Option.map_some, if_pos rfl]

theorem held_registerService (named : node.id ≠ none) (isLocal : Bool) (svc : ServiceInfo)
    (fullName name : String) :
    (registry.registerService node isLocal svc).heldAction node.id fullName name =
        (latest (·.name) (if svc.resolvedName = fullName then svc.registrable isLocal else [])
            name).or
          (registry.heldAction node.id fullName name) ∧
      (registry.registerService node isLocal svc).heldEvent node.id fullName name =
        (latest (·.name) (if svc.resolvedName = fullName then svc.listedEvents else []) name).or
          (registry.heldEvent node.id fullName name) := by
  by_cases same : svc.resolvedName = fullName
  · subst same
    obtain ⟨item, found, self, actions, events⟩ := findService_enterService registry node svc
    have after : (registry.registerService node isLocal svc).findService svc.resolvedName node.id =
        some (taken (registry.enterService node svc).2.1 (svc.registrable isLocal)
          svc.listedEvents item) := by
      rw [registerService]
      dsimp only
      rw [findService_sync, found]
      rfl
    rw [heldAction, heldEvent, after, taken, if_pos self, if_pos rfl, if_pos rfl]
    dsimp only [Option.bind_some]
    rw [get_foldl_set, get_foldl_set, actions, events]
    exact ⟨rfl, rfl⟩
  · have kept : OthersKept svc.resolvedName registry (registry.registerService node isLocal svc) :=
      othersKept_registerService named isLocal svc
    rw [heldAction, heldEvent, kept fullName (Ne.symm same) node.id, if_neg same, if_neg same]
    exact ⟨rfl, rfl⟩

theorem held_registerEach (named : node.id ≠ none) (serviceList : List ServiceInfo)
    (fullName name : String) :
    (registry.registerEach node false serviceList).heldAction node.id fullName name =
        (latest (·.name) (offeredActions serviceList fullName) name).or
          (registry.heldAction node.id fullName name) ∧
      (registry.registerEach node false serviceList).heldEvent node.id fullName name =
        (latest (·.name) (offeredEvents serviceList fullName) name).or
          (registry.heldEvent node.id fullName name) := by
  induction serviceList generalizing registry with
  | nil => exact ⟨rfl, rfl⟩
  | cons svc rest ih =>
    obtain ⟨actions, events⟩ := ih (registry.registerService node false svc)
    obtain ⟨firstActions, firstEvents⟩ :=
      held_registerService registry named false svc fullName name
    have splitActions : offeredActions (svc :: rest) fullName =
        (if svc.resolvedName = fullName then svc.registrable false else []) ++
          offeredActions rest fullName := by
      unfold offeredActions
      by_cases same : svc.resolvedName = fullName <;> simp [same]
    have splitEvents : offeredEvents (svc :: rest) fullName =
        (if svc.resolvedName = fullName then svc.listedEvents else []) ++
          offeredEvents rest fullName := by
      unfold offeredEvents
      by_cases same : svc.resolvedName = fullName <;> simp [same]
    rw [registerEach_cons, actions, events, firstActions, firstEvents, splitActions, splitEvents,
      latest_append, latest_append, Option.or_assoc, Option.or_assoc]
    exact ⟨rfl, rfl⟩

theorem mem_services_pruneServices {registry : Registry} {serviceList : List ServiceInfo}
    {items : List ServiceItem}
    (inside : item ∈ (items.foldl (pruneService node serviceList) registry).services) :
    item ∈ registry.services := by
  induction items generalizing registry with
  | nil => exact inside
  | cons first rest ih =>
    have before := ih inside
    unfold pruneService at before
    split at before
    · exact mem_services_unregisterService before
    · exact before

theorem Sound.findService_item {registry : Registry} (sound : registry.Sound)
    (inside : item ∈ registry.services) :
    registry.findService item.self.fullName item.self.node.id = some item := by
  obtain ⟨other, found, same⟩ := sound.findService_eq (List.mem_map.mpr ⟨item, inside, rfl⟩)
  have distinct : registry.refs.Nodup :=
    sound.distinct.imp fun apart equal => apart ⟨congrArg _ equal, equal ▸ rfl⟩
  rw [found]
  exact congrArg some
    (List.inj_on_of_nodup_map distinct (List.mem_of_find?_eq_some found) inside same)

theorem services_processNodeInfo_of_none (lists : payload.services = none) (now : Nat) :
    (registry.processNodeInfo payload now).services = registry.services := by
  have entered := (frame_enterNode registry payload.sender now).2.2.1
  unfold processNodeInfo
  rw [lists]
  dsimp only
  split
  · rename_i listed
    cases listed
  · exact entered

theorem Sound.held_processNodeInfo {registry : Registry} (sound : registry.Sound)
    (sender : payload.sender = some id) (remote : id ≠ registry.nodeID)
    (accepts : registry.Accepts payload now)
    (inside : item ∈ (registry.processNodeInfo payload now).services)
    (place : item.self.node.id = some id) (name : String) :
    item.actions.get name =
        (latest (·.name) (offeredActions (payload.services.getD []) item.self.fullName) name).or
          (registry.heldAction (some id) item.self.fullName name) ∧
      item.events.get name =
        (latest (·.name) (offeredEvents (payload.services.getD []) item.self.fullName) name).or
          (registry.heldEvent (some id) item.self.fullName name) := by
  -- In either case the item is found in a registry that the infos of the node have filled.
  have shown {state : Registry}
      (found : state.findService item.self.fullName (some id) = some item) :
      state.heldAction (some id) item.self.fullName name = item.actions.get name ∧
        state.heldEvent (some id) item.self.fullName name = item.events.get name := by
    rw [heldAction, heldEvent, found]
    exact ⟨rfl, rfl⟩
  cases lists : payload.services with
  | none =>
    have services := services_processNodeInfo_of_none registry lists now
    have found := sound.findService_item (services ▸ inside)
    rw [place] at found
    rw [(shown found).1, (shown found).2]
    exact ⟨rfl, rfl⟩
  | some serviceList =>
    obtain ⟨stored, node, same, after, hosts, self, _, _, services, _⟩ :=
      sound.processNodeInfo_accepted sender remote lists accepts
    have named : node.id ≠ none := by
      rw [self]
      exact Option.some_ne_none id
    obtain ⟨registered, _⟩ := after.registerEach hosts named false serviceList
    rw [same, registerServices_eq] at inside
    have found := registered.findService_item (mem_services_pruneServices inside)
    have held := held_registerEach stored named serviceList item.self.fullName name
    have before : stored.findService item.self.fullName (some id) =
        registry.findService item.self.fullName (some id) := by
      rw [findService, services]
      rfl
    rw [place] at found
    rw [self, (shown found).1, (shown found).2, heldAction, heldEvent, before] at held
    exact held

/-- A listing shows the registrable actions and the events that an info lists for the service, as
far as the list shows them at all. -/
def ShowsInfo (serviceList : List ServiceInfo) (listing : ServiceListing) : Prop :=
  (∀ name, listing.actions.bind (·.get name) =
      (latest (·.name) (offeredActions serviceList listing.fullName) name).filter
        (!·.isProtected)) ∧
    ∀ name, listing.events.bind (·.get name) =
      (latest (·.name) (offeredEvents serviceList listing.fullName) name).filter
        fun event => !internalName event.name

/-- The operation is an accepted info of a node with this id, which is not the local one. -/
def Informs (registry : Registry) (payload : NodeInfo) (now : Nat) (id : String) : Prop :=
  payload.sender = some id ∧ id ≠ "" ∧ id ≠ registry.nodeID ∧ registry.Accepts payload now

/-- After an accepted info, the list shows the services of its node as the info describes them. -/
def ListsInfo (registry : Registry) : Operation → Prop
  | .processNodeInfo payload now => ∀ id, registry.Informs payload now id →
      ∀ listing ∈ (registry.processNodeInfo payload now).list
          { withActions := true, withEvents := true },
        listing.nodeID = some (some id) → ShowsInfo (payload.services.getD []) listing
  | _ => True

/-- A list of services repeats the names that the list shows for a service of a node. -/
def Repeats (registry : Registry) (id : String) (serviceList : List ServiceInfo)
    (fullName : String) : Prop :=
  (∀ name action, registry.heldAction (some id) fullName name = some action →
      (!action.isProtected) = true →
      ∃ offer ∈ offeredActions serviceList fullName, offer.name = name) ∧
    ∀ name event, registry.heldEvent (some id) fullName name = some event →
      (!internalName event.name) = true →
      ∃ offer ∈ offeredEvents serviceList fullName, offer.name = name

/-- An accepted info repeats the names of all actions and events that the list shows for those
services of its node that it keeps. -/
def RepeatsNames (registry : Registry) : Operation → Prop
  | .processNodeInfo payload now => ∀ id, registry.Informs payload now id →
      ∀ item ∈ registry.services, item.self.node.id = some id →
        (payload.services = none ∨
          ∃ svc ∈ payload.services.getD [], svc.resolvedName = item.self.fullName) →
        registry.Repeats id (payload.services.getD []) item.self.fullName
  | _ => True

theorem filter_or_eq_iff {δ : Type} {nameOf : δ → String} {offers : List δ} {test : δ → Bool}
    {held : String → Option δ} :
    (∀ name, ((latest nameOf offers name).or (held name)).filter test =
        (latest nameOf offers name).filter test) ↔
      ∀ name entry, held name = some entry → test entry = true →
        ∃ offer ∈ offers, nameOf offer = name := by
  refine forall_congr' fun name => ?_
  cases found : latest nameOf offers name with
  | some offer =>
    obtain ⟨inside, here⟩ := latest_spec found
    exact iff_of_true rfl fun _ _ _ => ⟨offer, inside, here⟩
  | none =>
    have absent : ¬ ∃ offer ∈ offers, nameOf offer = name := by
      rintro ⟨offer, inside, here⟩
      exact latest_eq_none_iff.mp found offer inside here
    cases held name with
    | none => simp
    | some entry =>
      simp only [Option.none_or, Option.filter_some, Option.filter_none, Option.some.injEq,
        forall_eq', absent, imp_false, ite_eq_right_iff, reduceCtorEq]

theorem Sound.exists_item_processNodeInfo {registry : Registry} (sound : registry.Sound)
    (informs : registry.Informs payload now id) (fullName : String) :
    (∃ item ∈ (registry.processNodeInfo payload now).services,
        item.self.node.id = some id ∧ item.self.fullName = fullName) ↔
      payload.services = none ∧ (∃ item ∈ registry.services,
        item.self.node.id = some id ∧ item.self.fullName = fullName) ∨
      ∃ svc ∈ payload.services.getD [], svc.resolvedName = fullName := by
  obtain ⟨sender, nonempty, remote, accepts⟩ := informs
  cases lists : payload.services with
  | none => simp [services_processNodeInfo_of_none registry lists now]
  | some serviceList =>
    obtain ⟨_, _, _, _, listed, _⟩ :=
      sound.processNodeInfo_registers sender nonempty remote lists accepts
    simp only [reduceCtorEq, false_and, false_or, Option.getD_some, ← listed fullName, refs,
      List.mem_map, exists_exists_and_eq_and]

theorem Sound.listsInfo_iff {registry : Registry} (sound : registry.Sound)
    (keyed : AllItems ServiceItem.Keyed registry) (operation : Operation) :
    registry.ListsInfo operation ↔ registry.RepeatsNames operation := by
  cases operation with
  | processNodeInfo payload now =>
    refine forall_congr' fun id => forall_congr' fun informs => ?_
    have ⟨sender, _, remote, accepts⟩ := informs
    -- What the list shows for a service depends on what its item held before.
    have shown : ∀ item ∈ (registry.processNodeInfo payload now).services,
        item.self.node.id = some id →
        (ShowsInfo (payload.services.getD []) ((registry.processNodeInfo payload now).newListing
          { withActions := true, withEvents := true } item) ↔
          registry.Repeats id (payload.services.getD []) item.self.fullName) := by
      intro item inside place
      have own := keyed.step keyed_law (.processNodeInfo payload now) item inside
      have held := sound.held_processNodeInfo sender remote accepts inside place
      refine and_congr ?_ ?_
      · rw [← filter_or_eq_iff]
        refine forall_congr' fun name => ?_
        show (collect _ _ item.actions).get name = _ ↔ _
        rw [get_collect own.actions, (held name).1]
        rfl
      · rw [← filter_or_eq_iff]
        refine forall_congr' fun name => ?_
        show (collect _ _ item.events).get name = _ ↔ _
        rw [get_collect own.events, (held name).2]
        rfl
    have stays := sound.exists_item_processNodeInfo informs
    rw [list_eq_map, List.forall_mem_map]
    constructor
    · intro lists item inside place kept
      obtain ⟨after, member, here, same⟩ := (stays item.self.fullName).mpr (kept.imp_left
        fun nothing => ⟨nothing, item, inside, place, rfl⟩)
      rw [← same]
      exact (shown after member here).mp (lists after member (by rw [← here]; rfl))
    · intro repeats item inside place
      have here : item.self.node.id = some id := by simpa [newListing] using place
      refine (shown item inside here).mpr ?_
      cases found : registry.findService item.self.fullName (some id) with
      | none => exact ⟨by simp [heldAction, found], by simp [heldEvent, found]⟩
      | some old =>
        -- The service was known, and it is still there because it is listed.
        obtain ⟨member, name, where_⟩ := findService_spec found (Option.some_ne_none id)
        rw [← name]
        refine repeats old member where_ ?_
        rw [name]
        exact ((stays item.self.fullName).mp ⟨item, inside, here, rfl⟩).imp_left And.left
  | _ => exact Iff.rfl

/-- Along every run of a registry, the list shows the services of a node as its last accepted info
describes them, exactly if every accepted info repeats the names that are shown. -/
theorem list_follows_info_iff (nodeID instanceID : String) (now : Nat)
    (operations : List Operation) (named : ∀ operation ∈ operations, operation.Named) :
    Meets step ListsInfo (create nodeID instanceID now) operations ↔
      Meets step RepeatsNames (create nodeID instanceID now) operations := by
  have agree : ∀ state : Registry, ∀ operation ∈ operations,
      state.Sound ∧ AllItems ServiceItem.Keyed state →
        (state.ListsInfo operation ↔ state.RepeatsNames operation) :=
    fun _ operation _ known => known.1.listsInfo_iff known.2 operation
  refine meets_iff agree (fun state operation inside known _ => ?_) ⟨sound_create .., nofun⟩
  refine ⟨known.1.step operation fun payload now same => ?_, known.2.step keyed_law operation⟩
  have sender := named operation inside
  rw [same] at sender
  exact sender

/-- The service without its action. -/
def postsWithout : NodeInfo :=
  { postsInfo (some "remote") with
    seq := some 2, services := some [{ posts with actions := none }] }

/-- A service is listed by an info and dropped as a whole by the next one. -/
theorem list_follows_dropped_service :
    Meets step ListsInfo (create "local" "instance" 0)
      [.processNodeInfo (postsInfo (some "remote")) 1,
        .processNodeInfo
          { postsInfo (some "remote") with seq := some 2, services := some [] } 2] := by
  refine (list_follows_info_iff "local" "instance" 0 _
    (by simp [Operation.Named, postsInfo])).mpr ⟨?_, ?_, trivial⟩
  · intro id _ item inside
    cases inside
  · rintro id _ item _ _ (nothing | ⟨svc, inside, _⟩)
    · cases nothing
    · cases inside

/-- A dropped action is still listed. -/
theorem dropped_action_stays_listed :
    ¬ Meets step ListsInfo (create "local" "instance" 0)
      [.processNodeInfo (postsInfo (some "remote")) 1, .processNodeInfo postsWithout 2] := by
  rintro ⟨_, lists, _⟩
  have shown := lists "remote" ⟨rfl, by decide, by decide, rfl⟩ _ List.mem_cons_self rfl
  exact absurd (shown.1 "posts.list") (by decide)

end Registry

end Moleculer.Cluster
