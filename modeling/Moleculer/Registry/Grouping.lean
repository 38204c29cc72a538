import Moleculer.Registry.Listing

/-! Lists of services that group the nodes of a service. -/

namespace Moleculer.Cluster

open Base

namespace Registry

/-- Whether a service passes the filters of a list. -/
def passes (registry : Registry) (opts : ListOptions) (item : ServiceItem) : Bool :=
  !(opts.skipInternal && internalName item.self.name) && !(opts.onlyLocal && !item.isLocal) &&
    !(opts.onlyAvailable && !registry.hostAvailable item.self.node)

/-- What is shown for a name is what the services of that name have, all together. -/
def Gathers {α : Type} (items : List ServiceItem) (fullName : String)
    (has : ServiceItem → α → Prop) (shown : α → Prop) : Prop :=
  ∀ value, shown value ↔ ∃ item ∈ items, item.self.fullName = fullName ∧ has item value

/-- A service has an action that is not protected. -/
def Offers (item : ServiceItem) (name : String) : Prop :=
  ∃ action ∈ item.actions.values, action.isProtected = false ∧ action.name = name

/-- A service has an event that is not internal. -/
def Hears (item : ServiceItem) (name : String) : Prop :=
  ∃ event ∈ item.events.values, internalName event.name = false ∧ event.name = name

/-- A grouped listing shows the nodes, actions and events of the services of its name. -/
@[mk_iff unites_iff]
structure Unites (items : List ServiceItem) (listing : ServiceListing) : Prop where
  nodes : ∃ nodes, listing.nodes = some nodes ∧ nodes.Nodup ∧
    Gathers items listing.fullName (fun item id => item.self.node.id = id) (· ∈ nodes)
  actions : ∃ actions, listing.actions = some actions ∧
    Gathers items listing.fullName Offers fun name => actions.has name = true
  events : ∃ events, listing.events = some events ∧
    Gathers items listing.fullName Hears fun name => events.has name = true

section Entries

variable {δ : Type} (nameOf : δ → String) (test : δ → Bool)

theorem has_set (map : OrderedMap String δ) (key : String) (value : δ) (name : String) :
    (map.set key value).has name = true ↔ name = key ∨ map.has name = true := by
  rw [OrderedMap.has, OrderedMap.get_set]
  by_cases same : name = key <;> simp [same, OrderedMap.has]

theorem has_mergeEntries (listed entries : OrderedMap String δ) (name : String) :
    (mergeEntries nameOf test listed entries).has name = true ↔
      listed.has name = true ∨ ∃ entry ∈ entries.values, test entry = true ∧
        nameOf entry = name := by
  unfold mergeEntries
  induction entries.values generalizing listed with
  | nil => simp
  | cons entry rest ih =>
    rw [List.foldl_cons, ih, List.exists_mem_cons_iff]
    by_cases skipped : (!test entry || listed.has (nameOf entry)) = true
    · -- A name that is taken already is there, and what fails the test is not wanted.
      rw [if_pos skipped]
      have known : test entry = true ∧ nameOf entry = name → listed.has name = true := by
        rintro ⟨passes, rfl⟩
        simpa [passes] using skipped
      tauto
    · rw [if_neg skipped, has_set]
      have passes : test entry = true := by
        by_contra fails
        exact skipped (by simp [fails])
      simp only [passes, true_and, eq_comm (a := name)]
      tauto

theorem has_collect (entries : OrderedMap String δ) (name : String) :
    (collect nameOf test entries).has name = true ↔
      ∃ entry ∈ entries.values, test entry = true ∧ nameOf entry = name := by
  rw [collect, OrderedMap.has, OrderedMap.get_foldl_set, OrderedMap.get_empty, Option.or_none,
    Option.isSome_iff_ne_none, ne_eq, OrderedMap.latest_eq_none_iff]
  simp

end Entries

section Gathering

variable {α : Type} {items : List ServiceItem} {item : ServiceItem} {fullName : String}
  {has : ServiceItem → α → Prop} {shown after : α → Prop}

theorem Gathers.skip (gathers : Gathers items fullName has shown)
    (other : item.self.fullName ≠ fullName) : Gathers (items ++ [item]) fullName has shown := by
  intro value
  simp [gathers value, or_and_right, exists_or, other]

theorem Gathers.add (gathers : Gathers items fullName has shown)
    (same : item.self.fullName = fullName)
    (more : ∀ value, after value ↔ shown value ∨ has item value) :
    Gathers (items ++ [item]) fullName has after := by
  intro value
  simp [more value, gathers value, or_and_right, exists_or, same]

theorem gathers_new (fresh : ∀ other ∈ items, other.self.fullName ≠ item.self.fullName)
    (only : ∀ value, shown value ↔ has item value) :
    Gathers (items ++ [item]) item.self.fullName has shown := by
  have none : Gathers items item.self.fullName has fun _ => False :=
    fun value => ⟨False.elim, fun listed => by
      obtain ⟨other, inside, same, _⟩ := listed
      exact fresh other inside same⟩
  exact none.add rfl (by simpa using only)

end Gathering

section Steps

variable {registry : Registry} {opts : ListOptions} {items : List ServiceItem} {item : ServiceItem}
  {listing : ServiceListing}

theorem Unites.skip (unites : Unites items listing)
    (other : item.self.fullName ≠ listing.fullName) : Unites (items ++ [item]) listing := by
  obtain ⟨⟨nodes, hosts, nodup, each⟩, ⟨actions, acts, offered⟩, events, listens, heard⟩ := unites
  exact ⟨⟨nodes, hosts, nodup, each.skip other⟩, ⟨actions, acts, offered.skip other⟩,
    events, listens, heard.skip other⟩

theorem Unites.of_mem {others : List ServiceItem} (unites : Unites items listing)
    (same : ∀ item, item ∈ items ↔ item ∈ others) : Unites others listing := by
  simpa only [unites_iff, Gathers, same] using unites

theorem mem_addNode (nodes : List NodeID) (id other : NodeID) :
    other ∈ (if id ∈ nodes then nodes else nodes ++ [id]) ↔ other ∈ nodes ∨ id = other := by
  split
  · exact ⟨.inl, fun inside => inside.elim (fun inside => inside) fun same => same ▸ ‹id ∈ nodes›⟩
  · simp [eq_comm]

theorem Unites.merge (withActions : opts.withActions = true) (withEvents : opts.withEvents = true)
    (unites : Unites items listing) (same : item.self.fullName = listing.fullName) :
    Unites (items ++ [item]) (mergeListing opts listing item) := by
  obtain ⟨⟨nodes, hosts, nodup, each⟩, ⟨actions, acts, offered⟩, events, listens, heard⟩ := unites
  have named : item.self.fullName = (mergeListing opts listing item).fullName := same
  refine ⟨⟨if item.self.node.id ∈ nodes then nodes else nodes ++ [item.self.node.id], ?_, ?_, ?_⟩,
    ⟨mergeEntries (·.name) (!·.isProtected) actions item.actions, ?_, ?_⟩,
    mergeEntries (·.name) (fun event => !internalName event.name) events item.events, ?_, ?_⟩
  · simp [mergeListing, hosts]
  · split
    · exact nodup
    · rename_i fresh
      exact nodup.append (List.nodup_singleton _) (by simpa using fresh)
  · exact each.add named fun id => mem_addNode nodes item.self.node.id id
  · simp [mergeListing, withActions, acts]
  · exact offered.add named fun name => by simp [has_mergeEntries, Offers]
  · simp [mergeListing, withEvents, listens]
  · exact heard.add named fun name => by simp [has_mergeEntries, Hears]

theorem unites_new (grouping : opts.grouping = true) (withActions : opts.withActions = true)
    (withEvents : opts.withEvents = true)
    (fresh : ∀ other ∈ items, other.self.fullName ≠ item.self.fullName) :
    Unites (items ++ [item]) (registry.newListing opts item) := by
  refine ⟨⟨[item.self.node.id], by simp [newListing, grouping], List.nodup_singleton _, ?_⟩,
    ⟨collect (·.name) (!·.isProtected) item.actions, by simp [newListing, withActions], ?_⟩,
    collect (·.name) (fun event => !internalName event.name) item.events,
    by simp [newListing, withEvents], ?_⟩
  · exact gathers_new fresh fun id => by simp [eq_comm]
  · exact gathers_new fresh fun name => by simp [has_collect, Offers]
  · exact gathers_new fresh fun name => by simp [has_collect, Hears]

theorem mergeFirst_eq {res : List ServiceListing} (nodup : (res.map (·.fullName)).Nodup) :
    mergeFirst opts item res = res.map fun listing =>
      if listing.fullName = item.self.fullName then mergeListing opts listing item
      else listing := by
  induction res with
  | nil => rfl
  | cons listing rest ih =>
    rw [List.map_cons, List.nodup_cons] at nodup
    rw [mergeFirst, List.map_cons]
    split
    · rename_i same
      have others : rest.map (fun listing => if listing.fullName = item.self.fullName then
          mergeListing opts listing item else listing) = rest := by
        refine (List.map_congr_left fun other inside => if_neg fun equal => nodup.1 ?_).trans
          (List.map_id' rest)
        exact same.trans equal.symm ▸ List.mem_map_of_mem inside
      rw [others]
    · rw [ih nodup.2]

/-- The listings show the services that were listed so far, each name once. -/
structure Grouped (items : List ServiceItem) (res : List ServiceListing) : Prop where
  nodup : (res.map (·.fullName)).Nodup
  named : ∀ name, name ∈ res.map (·.fullName) ↔ ∃ item ∈ items, item.self.fullName = name
  unites : ∀ listing ∈ res, Unites items listing

theorem listService_eq (grouping : opts.grouping = true) (res : List ServiceListing) :
    registry.listService opts res item =
      if registry.passes opts item then
        if item.self.fullName ∈ res.map (·.fullName) then mergeFirst opts item res
        else res ++ [registry.newListing opts item]
      else res := by
  have known : (res.any fun listing => listing.fullName = item.self.fullName) = true ↔
      item.self.fullName ∈ res.map (·.fullName) := by
    simp
  rw [listService, passes]
  cases opts.skipInternal && internalName item.self.name
  · cases opts.onlyLocal && !item.isLocal
    · cases opts.onlyAvailable && !registry.hostAvailable item.self.node
      · simp only [grouping, Bool.true_and, known]
        rfl
      · rfl
    · rfl
  · rfl

theorem Grouped.listService (grouping : opts.grouping = true)
    (withActions : opts.withActions = true)
    (withEvents : opts.withEvents = true) {res : List ServiceListing} (grouped : Grouped items res)
    (passing : registry.passes opts item = true) :
    Grouped (items ++ [item]) (registry.listService opts res item) := by
  rw [listService_eq grouping, if_pos passing]
  by_cases known : item.self.fullName ∈ res.map (·.fullName)
  · rw [if_pos known, mergeFirst_eq grouped.nodup]
    -- Merging keeps the names.
    have names : (res.map fun listing => if listing.fullName = item.self.fullName then
        mergeListing opts listing item else listing).map (·.fullName) = res.map (·.fullName) := by
      rw [List.map_map]
      refine List.map_congr_left fun listing _ => ?_
      dsimp only [Function.comp_apply]
      split <;> rfl
    refine ⟨names ▸ grouped.nodup, ?_, ?_⟩
    · intro name
      rw [names, grouped.named]
      obtain ⟨other, inside, same⟩ := (grouped.named _).mp known
      constructor
      · rintro ⟨one, member, rfl⟩
        exact ⟨one, List.mem_append_left _ member, rfl⟩
      · rintro ⟨one, member, rfl⟩
        rcases List.mem_append.mp member with old | new
        · exact ⟨one, old, rfl⟩
        · exact ⟨other, inside, same.trans (List.mem_singleton.mp new ▸ rfl)⟩
    · intro listing inside
      obtain ⟨old, member, rfl⟩ := List.mem_map.mp inside
      split
      · exact (grouped.unites old member).merge withActions withEvents (Eq.symm ‹_›)
      · exact (grouped.unites old member).skip (Ne.symm ‹_›)
  · rw [if_neg known]
    have fresh : ∀ other ∈ items, other.self.fullName ≠ item.self.fullName :=
      fun other inside same => known ((grouped.named _).mpr ⟨other, inside, same⟩)
    refine ⟨?_, ?_, ?_⟩
    · rw [List.map_append]
      exact grouped.nodup.append (List.nodup_singleton _) (by simpa [newListing] using known)
    · intro name
      have here : (registry.newListing opts item).fullName = item.self.fullName := rfl
      simp only [List.map_append, List.map_cons, List.map_nil, List.mem_append, List.mem_singleton,
        grouped.named, here, or_and_right, exists_or, exists_eq_left, eq_comm (a := name)]
    · intro listing inside
      rcases List.mem_append.mp inside with old | new
      · refine (grouped.unites listing old).skip fun same => known ?_
        exact same ▸ List.mem_map_of_mem old
      · rw [List.mem_singleton.mp new]
        exact unites_new grouping withActions withEvents fresh

end Steps

theorem grouped_list (registry : Registry) {opts : ListOptions} (grouping : opts.grouping = true)
    (withActions : opts.withActions = true) (withEvents : opts.withEvents = true) :
    Grouped (registry.services.filter (registry.passes opts)) (registry.list opts) := by
  have general (items : List ServiceItem) :
      Grouped (items.filter (registry.passes opts))
        (items.foldl (registry.listService opts) []) := by
    induction items using List.reverseRecOn with
    | nil => exact ⟨List.nodup_nil, by simp, by simp⟩
    | append_singleton items item ih =>
      rw [List.foldl_append, List.foldl_cons, List.foldl_nil, List.filter_append]
      by_cases passing : registry.passes opts item = true
      · have one : [item].filter (registry.passes opts) = [item] := by simp [passing]
        rw [one]
        exact ih.listService grouping withActions withEvents passing
      · have none : [item].filter (registry.passes opts) = [] := by simp [passing]
        rw [none, List.append_nil, listService_eq grouping, if_neg passing]
        exact ih
  exact general registry.services

/-- A grouped list has exactly one listing for each name of a service that passes the filters, which
shows the nodes, actions and events of all of them. The order of the services does not matter. -/
theorem grouped_list_unites (registry : Registry) (onlyLocal onlyAvailable skipInternal : Bool) :
    let opts : ListOptions :=
      { onlyLocal, onlyAvailable, skipInternal, withActions := true, withEvents := true,
        grouping := true }
    Grouped (registry.services.filter (registry.passes opts)) (registry.list opts) ∧
    ∀ services : List ServiceItem, services.Perm registry.services →
      let other : Registry := { registry with services }
      (∀ name, name ∈ (registry.list opts).map (·.fullName) ↔
        name ∈ (other.list opts).map (·.fullName)) ∧
      ∀ listing ∈ other.list opts,
        Unites (registry.services.filter (registry.passes opts)) listing := by
  intro opts
  have grouped : Grouped (registry.services.filter (registry.passes opts)) (registry.list opts) :=
    registry.grouped_list rfl rfl rfl
  refine ⟨grouped, fun services reordered => ?_⟩
  intro other
  have regrouped : Grouped (services.filter (other.passes opts)) (other.list opts) :=
    other.grouped_list rfl rfl rfl
  have same (item : ServiceItem) : item ∈ services.filter (other.passes opts) ↔
      item ∈ registry.services.filter (registry.passes opts) := (reordered.filter _).mem_iff
  refine ⟨fun name => ?_, fun listing inside => (regrouped.unites listing inside).of_mem same⟩
  rw [grouped.named, regrouped.named]
  simp only [← same]

end Registry

end Moleculer.Cluster
