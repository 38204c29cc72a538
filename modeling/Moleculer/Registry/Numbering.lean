import Moleculer.Registry.WellFormed

/-! No two endpoints of a list are the same object. -/

namespace Moleculer.Cluster

open Base

section Lists

variable {κ δ : Type} {bound : Nat}

/-- The references of the endpoints are distinct and were handed out before. -/
structure EndpointList.Numbered (bound : Nat) (list : EndpointList δ) : Prop where
  below : ∀ ep ∈ list.endpoints, ep.ref < bound
  distinct : (list.endpoints.map (·.ref)).Nodup

theorem EndpointList.Numbered.filter {list other : EndpointList δ} (numbered : list.Numbered bound)
    {test : Endpoint δ → Bool} (part : other.endpoints = list.endpoints.filter test) :
    other.Numbered bound := by
  refine ⟨fun ep inside => ?_, ?_⟩
  · rw [part] at inside
    exact numbered.below ep (List.mem_filter.mp inside).1
  · rw [part]
    exact numbered.distinct.sublist (List.filter_sublist.map _)

theorem EndpointList.Numbered.add {list : EndpointList δ} (numbered : list.Numbered bound)
    (brokerID : String) (node : NodeRef) (service : ServiceRef) (data : δ) :
    (list.add brokerID bound node service data).Numbered (bound + 1) := by
  unfold EndpointList.add
  split
  · -- An update leaves the references alone.
    rename_i found _
    have unmoved (ep : Endpoint δ) :
        (if ep.ref = found.ref then { ep with data := data } else ep).ref = ep.ref := by
      split <;> rfl
    refine ⟨fun ep inside => ?_, ?_⟩
    · obtain ⟨old, member, rfl⟩ := List.mem_map.mp inside
      rw [unmoved]
      exact Nat.lt_succ_of_lt (numbered.below old member)
    · simp only [List.map_map, Function.comp_def, unmoved]
      exact numbered.distinct
  · refine ⟨fun ep inside => ?_, ?_⟩
    · rcases List.mem_append.mp inside with old | new
      · exact Nat.lt_succ_of_lt (numbered.below ep old)
      · rw [List.mem_singleton.mp new]
        exact Nat.lt_succ_self bound
    · simp only [EndpointList.setLocalEndpoints, List.map_append, List.map_cons, List.map_nil,
        List.nodup_append, List.nodup_singleton, true_and]
      refine ⟨numbered.distinct, ?_⟩
      intro ref old other new same
      obtain ⟨ep, member, rfl⟩ := List.mem_map.mp old
      rw [List.mem_singleton.mp new] at same
      exact absurd same (numbered.below ep member).ne

variable [DecidableEq κ]

/-- Every list of a catalog is numbered. -/
def Catalog.Numbered (bound : Nat) (catalog : Catalog κ δ) : Prop :=
  ∀ key list, catalog.get key = some list → list.Numbered bound

variable {catalog : Catalog κ δ}

theorem Catalog.Numbered.mono (numbered : Catalog.Numbered bound catalog) {more : Nat}
    (grow : bound ≤ more) : Catalog.Numbered more catalog := fun key list found =>
  ⟨fun ep inside => ((numbered key list found).below ep inside).trans_le grow,
    (numbered key list found).distinct⟩

theorem Catalog.Numbered.add (numbered : Catalog.Numbered bound catalog) (key : κ) (name : String)
    (group : Option String) (brokerID : String) (node : NodeRef) (service : ServiceRef) (data : δ) :
    Catalog.Numbered (bound + 1)
      (Catalog.add catalog key (.new name group) brokerID bound node service data) := by
  intro other list found
  rw [Catalog.add, OrderedMap.get_set] at found
  split at found
  · cases found
    apply EndpointList.Numbered.add
    cases located : catalog.get key with
    | none => exact ⟨List.forall_mem_nil _, List.nodup_nil⟩
    | some old => exact numbered key old located
  · exact numbered.mono (Nat.le_succ bound) other list found

theorem Catalog.Numbered.removeByService (numbered : Catalog.Numbered bound catalog)
    (service : ServiceRef) :
    Catalog.Numbered bound (Catalog.removeByService catalog service) := by
  intro key list found
  rw [Catalog.removeByService, OrderedMap.get_mapValues] at found
  obtain ⟨old, located, rfl⟩ := Option.map_eq_some_iff.mp found
  exact (numbered key old located).filter rfl

theorem Catalog.Numbered.remove (numbered : Catalog.Numbered bound catalog) (test : κ → Bool)
    (nodeID : NodeID) :
    Catalog.Numbered bound (Catalog.remove catalog test nodeID) := by
  intro key list found
  rw [Catalog.remove, OrderedMap.get_mapEntries] at found
  obtain ⟨old, located, rfl⟩ := Option.map_eq_some_iff.mp found
  split
  · exact (numbered key old located).filter rfl
  · exact numbered key old located

end Lists

namespace Registry

/-- Both catalogs are numbered by the references that the registry has handed out. -/
structure Numbered (registry : Registry) : Prop where
  actions : Catalog.Numbered registry.nextRef registry.actions
  events : Catalog.Numbered registry.nextRef registry.events

namespace Numbered

variable {registry : Registry}

theorem of_catalogs {after : Registry} (numbered : registry.Numbered)
    (grow : registry.nextRef ≤ after.nextRef) (actions : after.actions = registry.actions)
    (events : after.events = registry.events) : after.Numbered :=
  ⟨actions ▸ numbered.actions.mono grow, events ▸ numbered.events.mono grow⟩

theorem change {on : NodeID → Prop} {after : Registry} (numbered : registry.Numbered)
    (change : Change on registry after) : after.Numbered := by
  cases change with
  | nodes grow => exact numbered.of_catalogs grow rfl rfl
  | addService svc isLocal here => exact numbered.of_catalogs (Nat.le_succ _) rfl rfl
  | update svc here => exact numbered.of_catalogs le_rfl rfl rfl
  | registerAction isLocal action here there =>
    unfold Registry.registerAction
    split
    · exact ⟨numbered.actions.add _ _ _ _ _ _ _, numbered.events.mono (Nat.le_succ _)⟩
    · exact numbered
  | registerEvent event here there =>
    exact ⟨numbered.actions.mono (Nat.le_succ _), numbered.events.add _ _ _ _ _ _ _⟩
  | unregisterAction actionName here => exact ⟨numbered.actions.remove _ _, numbered.events⟩
  | unregisterEvent eventName here => exact ⟨numbered.actions, numbered.events.remove _ _⟩
  | removeItem here =>
    exact ⟨numbered.actions.removeByService _, numbered.events.removeByService _⟩

theorem changes {on : NodeID → Prop} {after : Registry} (numbered : registry.Numbered)
    (changes : Changes on registry after) : after.Numbered :=
  changes.invariant (fun _ _ before change => before.change change) numbered

end Numbered

theorem numbered_run (nodeID instanceID : String) (now : Nat) (operations : List Operation) :
    (run Registry.step (create nodeID instanceID now) operations).Numbered := by
  have any : Meets Registry.step (fun _ _ => True) (create nodeID instanceID now) operations :=
    meets_of_forall (fun _ _ => trivial) _ operations
  exact run_invariant (fun state operation numbered _ =>
    numbered.changes (changes_step state operation)) ⟨nofun, nofun⟩ any

end Registry

end Moleculer.Cluster
