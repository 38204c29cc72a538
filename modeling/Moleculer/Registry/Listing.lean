import Moleculer.Registry.Acceptance
import Moleculer.Registry.Neighbours

/-! The list of services that a registry shows to its users, and what the items behind it hold. -/

namespace Moleculer.Cluster

open Base

/-- The options of `ServiceCatalog.list`. -/
structure ListOptions where
  onlyLocal : Bool := false
  onlyAvailable : Bool := false
  skipInternal : Bool := false
  withActions : Bool := false
  withEvents : Bool := false
  grouping : Bool := false

/-- An element of the list, with one node or, when services are grouped, with all of them. -/
structure ServiceListing where
  name : String
  version : Option Version
  fullName : String
  settings : Json
  metadata : Json
  isLocal : Bool
  available : Bool
  nodeID : Option NodeID
  nodes : Option (List NodeID)
  actions : Option (OrderedMap String ActionInfo)
  events : Option (OrderedMap String EventInfo)
  deriving DecidableEq

/-- The test for internal names, `/^\$/`. -/
def internalName (name : String) : Bool := name.toList.head? = some '$'

namespace Registry

/-- Whether the node of a service is available. -/
def hostAvailable (registry : Registry) (node : NodeRef) : Bool :=
  (registry.nodes.get node.id).any (·.available)

/-- The listing of a service that is not grouped with an earlier one. -/
def newListing (registry : Registry) (opts : ListOptions) (item : ServiceItem) :
    ServiceListing where
  name := item.self.name
  version := item.version
  fullName := item.self.fullName
  settings := item.settings
  metadata := item.metadata
  isLocal := item.isLocal
  available := registry.hostAvailable item.self.node
  nodeID := if opts.grouping then none else some item.self.node.id
  nodes := if opts.grouping then some [item.self.node.id] else none
  actions :=
    if opts.withActions then some (collect (·.name) (!·.isProtected) item.actions) else none
  events := if opts.withEvents then
    some (collect (·.name) (fun event => !internalName event.name) item.events) else none

/-- Add the entries of a map that pass a test and whose names are not taken yet. -/
def mergeEntries {δ : Type} (nameOf : δ → String) (test : δ → Bool) (listed : OrderedMap String δ)
    (entries : OrderedMap String δ) : OrderedMap String δ :=
  entries.values.foldl (fun result entry =>
    if !test entry || result.has (nameOf entry) then result else result.set (nameOf entry) entry)
    listed

/-- Group a service of another node with the listing that is there. -/
def mergeListing (opts : ListOptions) (listing : ServiceListing) (item : ServiceItem) :
    ServiceListing :=
  { listing with
    nodes := listing.nodes.map fun nodes =>
      if item.self.node.id ∈ nodes then nodes else nodes ++ [item.self.node.id]
    -- Later nodes add what the first one does not have.
    actions := if opts.withActions then
      listing.actions.map (mergeEntries (·.name) (!·.isProtected) · item.actions)
      else listing.actions
    events := if opts.withEvents then
      listing.events.map
        (mergeEntries (·.name) (fun event => !internalName event.name) · item.events)
      else listing.events }

/-- Merge an item into the first listing of its full name. -/
def mergeFirst (opts : ListOptions) (item : ServiceItem) : List ServiceListing → List ServiceListing
  | [] => []
  | listing :: rest =>
    if listing.fullName = item.self.fullName then mergeListing opts listing item :: rest
    else listing :: mergeFirst opts item rest

/-- The loop body of `ServiceCatalog.list`. -/
def listService (registry : Registry) (opts : ListOptions) (res : List ServiceListing)
    (item : ServiceItem) : List ServiceListing :=
  if opts.skipInternal && internalName item.self.name then res
  else if opts.onlyLocal && !item.isLocal then res
  else if opts.onlyAvailable && !registry.hostAvailable item.self.node then res
  else if opts.grouping && res.any fun listing => listing.fullName = item.self.fullName then
    mergeFirst opts item res
  else res ++ [registry.newListing opts item]

/-- `ServiceCatalog.list`. -/
def list (registry : Registry) (opts : ListOptions) : List ServiceListing :=
  registry.services.foldl (registry.listService opts) []

theorem list_eq_map (registry : Registry) (withActions withEvents : Bool) :
    registry.list { withActions, withEvents } =
      registry.services.map (registry.newListing { withActions, withEvents }) := by
  have general (items : List ServiceItem) (res : List ServiceListing) :
      items.foldl (registry.listService { withActions, withEvents }) res =
        res ++ items.map (registry.newListing { withActions, withEvents }) := by
    -- Every item is appended to what is listed already.
    induction items generalizing res with
    | nil => simp
    | cons item rest ih => simp [ih, listService]
  exact general registry.services []

section Items

variable {holds : ServiceItem → Prop}

/-- What holds of a new item and is kept by everything that changes an item. -/
structure ItemLaw (holds : ServiceItem → Prop) : Prop where
  new : ∀ self svc isLocal, holds (.new self svc isLocal)
  update : ∀ item svc, holds item → holds (item.update svc)
  addAction : ∀ item action, holds item → holds (item.addAction action)
  addEvent : ∀ item event, holds item → holds (item.addEvent event)

/-- All items of a registry have a property. -/
def AllItems (holds : ServiceItem → Prop) (registry : Registry) : Prop :=
  ∀ item ∈ registry.services, holds item

namespace AllItems

variable {registry : Registry}

theorem of_services {after : Registry} (all : AllItems holds registry)
    (services : after.services = registry.services) : AllItems holds after := by
  intro item inside
  exact all item (services ▸ inside)

theorem of_subset {after : Registry} (all : AllItems holds registry)
    (part : ∀ item ∈ after.services, item ∈ registry.services) : AllItems holds after :=
  fun item inside => all item (part item inside)

theorem modifyItem (all : AllItems holds registry) (service : ServiceRef)
    {change : ServiceItem → ServiceItem} (kept : ∀ item, holds item → holds (change item)) :
    AllItems holds (registry.modifyItem service change) := by
  intro item inside
  obtain ⟨old, member, rfl⟩ := List.mem_map.mp inside
  split
  · exact kept old (all old member)
  · exact all old member

theorem change {on : NodeID → Prop} {after : Registry} (law : ItemLaw holds)
    (all : AllItems holds registry) (change : Change on registry after) :
    AllItems holds after := by
  cases change with
  | @addService node svc isLocal here =>
    intro item inside
    rcases List.mem_append.mp inside with old | new
    · exact all item old
    · rw [List.mem_singleton.mp new]
      exact law.new _ svc isLocal
  | update svc here => exact all.modifyItem _ (law.update · svc)
  | registerAction isLocal action here there =>
    unfold Registry.registerAction
    split
    · exact modifyItem (all.of_services rfl) _ (law.addAction · action)
    · exact all
  | registerEvent event here there =>
    exact modifyItem (all.of_services rfl) _ (law.addEvent · event)
  | removeItem here => exact all.of_subset fun item inside => (List.mem_filter.mp inside).1
  | _ => exact all

theorem step (law : ItemLaw holds) (all : AllItems holds registry) (operation : Operation) :
    AllItems holds (registry.step operation) :=
  (changes_step registry operation).invariant (fun _ _ before change => before.change law change)
    all

end AllItems

end Items

end Registry

end Moleculer.Cluster
