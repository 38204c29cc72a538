import Moleculer.Registry.LocalInfo

/-! Whether the infos of a running broker list the services that are registered at the time. -/

namespace Moleculer.Cluster

open Base

/-- What can happen until `stop` is called: an info is forced by gossip only. -/
def LocalEvent.Running : LocalEvent → Prop
  | .getLocalNodeInfo force => force = false
  | .stop => False
  | .blocked => False
  | _ => True

namespace Registry

/-- The registry after an event. -/
def localStep (registry : Registry) (event : LocalEvent) : Registry := (registry.perform event).1

/-- The info that an event returns lists the local services. -/
def ListsServices (registry : Registry) (event : LocalEvent) : Prop :=
  ∀ info ∈ (registry.perform event).2, info.services = some registry.getLocalNodeServices

instance (registry : Registry) (event : LocalEvent) : Decidable (registry.ListsServices event) :=
  inferInstanceAs (Decidable (∀ info ∈ (registry.perform event).2,
    info.services = some registry.getLocalNodeServices))

/-- No object of the local services is in the info of the local node twice. -/
def ObjectsApart (registry : Registry) : Prop :=
  Sharing.Apart registry.ownObjects (registry.getLocalNodeServices.flatMap ServiceInfo.objects)

instance (registry : Registry) : Decidable registry.ObjectsApart :=
  inferInstanceAs (Decidable (Sharing.Apart ..))

/-- The info is asked for while no object is shared, and a claim that the local node is offline is
outdated, or it meets a broker that has started, that has a pending change of its services, or that
has no services. -/
def Claimable (registry : Registry) : LocalEvent → Prop
  | .getLocalNodeInfo _ => registry.ObjectsApart
  | .claimedOffline seq => registry.ObjectsApart ∧ ((seq = 0 ∨ seq < registry.localNode.seq) ∨
      registry.started = true ∨ registry.localNodeInfoInvalidated = .seq ∨
      registry.getLocalNodeServices = [])
  | _ => True

/-- All services are local ones, and the cached info lists them unless it was invalidated. -/
structure Current (registry : Registry) : Prop where
  home : registry.Home
  named : registry.localNode.self.id = some registry.nodeID
  locals : ∀ service ∈ registry.refs, service.node.id = some registry.nodeID
  cached : registry.localNodeInfoInvalidated = .none →
    registry.localNode.rawInfo.bind (·.services) =
      some (registry.safely registry.getLocalNodeServices)
  stale : registry.localNodeInfoInvalidated = .stale → registry.getLocalNodeServices = []

variable {registry : Registry}

/-- A service is listed in full exactly if none of its objects was met before. -/
theorem safe_eq_iff (seen : List Nat) (svc : ServiceInfo) :
    svc.safe seen = svc ↔ Sharing.Apart seen svc.objects := by
  have action (seen : List Nat) (info : ActionInfo) :
      info.safe seen = info ↔ Sharing.Apart seen info.rest.objects := by
    cases info
    simp [ActionInfo.safe, ← Sharing.Value.prune_eq_iff]
  have event (seen : List Nat) (info : EventInfo) :
      info.safe seen = info ↔ Sharing.Apart seen info.rest.objects := by
    cases info
    simp [EventInfo.safe, ← Sharing.Value.prune_eq_iff]
  simp only [ServiceInfo.objects, Sharing.apart_append, ServiceInfo.ownObjects,
    ServiceInfo.actionObjects, ← Sharing.Value.prune_eq_iff,
    ← Sharing.map_pruneValues_eq_iff action, ← Sharing.map_pruneValues_eq_iff event]
  cases svc
  simp [ServiceInfo.safe, and_assoc, ServiceInfo.ownObjects, ServiceInfo.actionObjects]

theorem mem_refs_registerLocalService {svc : ServiceInfo} {service : ServiceRef}
    (inside : service ∈ (registry.registerLocalService svc).refs) :
    service ∈ registry.refs ∨ service.node = registry.localNode.self := by
  unfold registerLocalService at inside
  split at inside
  · exact .inl inside
  · -- Offering the actions and the events adds no items.
    have offered := ((keeps_offerActions
      (registry.addService registry.localNode.self svc true).1 registry.localNode.self
      registry.localNode.isLocal (registry.addService registry.localNode.self svc true).2
      svc.actions).trans (keeps_offerEvents _ registry.localNode.self
        (registry.addService registry.localNode.self svc true).2 svc.events)).refs
    have known : service ∈ (registry.addService registry.localNode.self svc true).1.refs := by
      rw [← offered]
      exact inside
    simp only [refs, addService, List.map_append, List.mem_append, List.map_cons, List.map_nil,
      List.mem_singleton] at known
    rcases known with old | new
    · exact .inl old
    · rw [new]
      exact .inr rfl

theorem mem_refs_unregisterService {fullName : String} {id : NodeID} {service : ServiceRef}
    (inside : service ∈ (registry.unregisterService fullName id).refs) :
    service ∈ registry.refs := by
  obtain ⟨item, kept, same⟩ := List.mem_map.mp inside
  exact List.mem_map.mpr ⟨item, mem_services_unregisterService kept, same⟩

theorem unregisterService_cases
    (locals : ∀ service ∈ registry.refs, service.node.id = some registry.nodeID) (fullName : String)
    (id : NodeID) :
    registry.unregisterService fullName id = registry ∨
      (registry.unregisterService fullName id).localNodeInfoInvalidated = .seq := by
  unfold unregisterService
  dsimp only
  split
  · exact .inr rfl
  · rename_i remote
    -- All services are local ones, so another node has none to lose.
    have absent : registry.findService fullName (some (registry.targetID id)) = none := by
      refine List.find?_eq_none.mpr fun item inside found => remote ?_
      have here := locals item.self (List.mem_map.mpr ⟨item, inside, rfl⟩)
      simpa [ServiceItem.equals, here, eq_comm] using (of_decide_eq_true found).2
    rw [removeService, absent]
    exact .inl rfl

theorem Current.changed {before after : Registry} (current : before.Current)
    (kept : NodesKept before after)
    (locals : ∀ service ∈ after.refs, service.node.id = some before.nodeID)
    (outcome : after = before ∨ after.localNodeInfoInvalidated = .seq) : after.Current := by
  rcases outcome with rfl | flag
  · exact current
  · obtain ⟨home, _, _, self⟩ := kept.localNode current.home
    refine ⟨home, ?_, ?_, fun valid => ?_, fun stale => ?_⟩
    · rw [self, kept.nodeID]
      exact current.named
    · rw [kept.nodeID]
      exact locals
    · cases flag.symm.trans valid
    · cases flag.symm.trans stale

theorem safely_eq_iff (registry : Registry) :
    registry.safely registry.getLocalNodeServices = registry.getLocalNodeServices ↔
      registry.ObjectsApart :=
  Sharing.pruneEach_eq_iff safe_eq_iff _ _

theorem Current.generated {before after : Registry} {incSeq : Bool} {info : NodeInfo}
    (current : before.Current)
    (generated : Generated before incSeq (before.safely before.getLocalNodeServices) after info)
    (flag : after.localNodeInfoInvalidated = before.localNodeInfoInvalidated ∨
      after.localNodeInfoInvalidated = .none) : after.Current := by
  have listing : after.getLocalNodeServices = before.getLocalNodeServices := by
    rw [getLocalNodeServices, generated.services]
    rfl
  refine ⟨generated.home, ?_, ?_, fun _ => ?_, fun stale => ?_⟩
  · rw [generated.self, generated.nodeID]
    exact current.named
  · rw [refs, generated.services, generated.nodeID]
    exact current.locals
  · rw [generated.rawInfo, listing, safely, generated.own]
    exact generated.listed
  · rw [listing]
    rcases flag with same | valid
    · exact current.stale (same ▸ stale)
    · cases valid.symm.trans stale

/-- The port and the number of the local node have no part in what is listed. -/
theorem Current.modifyNode (current : registry.Current) (change : Node → Node)
    (only : ∀ node, change node =
      { node with port := (change node).port, seq := (change node).seq }) :
    (registry.modifyNode (some registry.nodeID) change).Current ∧
      (registry.modifyNode (some registry.nodeID) change).ownObjects = registry.ownObjects := by
  obtain ⟨same, stored⟩ := localNode_modifyNode current.home change
  have own : (registry.modifyNode (some registry.nodeID) change).ownObjects =
      registry.ownObjects := by
    rw [ownObjects, same, only]
    rfl
  refine ⟨⟨stored, ?_, current.locals, fun valid => ?_, current.stale⟩, own⟩
  · rw [same, only]
    exact current.named
  · rw [same, only, safely, own]
    exact current.cached valid

theorem advertised_eq (incSeq : Bool) (complete : registry.started = true ∨ incSeq = true ∨
      registry.getLocalNodeServices = []) :
    registry.advertised incSeq = registry.safely registry.getLocalNodeServices := by
  unfold advertised
  rcases complete with started | grows | none
  · rw [started, Bool.true_or, if_pos rfl]
  · rw [grows, Bool.or_true, if_pos rfl]
  · rw [none, ite_self]

theorem advertised_eq_iff (registry : Registry) (incSeq : Bool) :
    registry.advertised incSeq = registry.getLocalNodeServices ↔ registry.ObjectsApart ∧
      (registry.started = true ∨ incSeq = true ∨ registry.getLocalNodeServices = []) := by
  by_cases complete : registry.started = true ∨ incSeq = true ∨ registry.getLocalNodeServices = []
  · rw [advertised_eq incSeq complete, safely_eq_iff, and_iff_left complete]
  · refine iff_of_false (fun same => ?_) fun both => complete both.2
    push Not at complete
    obtain ⟨stopped, kept, some⟩ := complete
    rw [advertised, Bool.eq_false_of_not_eq_true stopped, Bool.eq_false_of_not_eq_true kept] at same
    exact some same.symm

theorem Current.plain (current : registry.Current) :
    ((registry.getLocalNodeInfo false).2.services = some registry.getLocalNodeServices ↔
      registry.ObjectsApart) ∧ (registry.getLocalNodeInfo false).1.Current := by
  rw [← safely_eq_iff]
  rcases getLocalNodeInfo_cases current.home false with
    ⟨_, same, valid, found⟩ | ⟨cause, valid, generated⟩
  · have cached := current.cached valid
    rw [found, Option.bind_some] at cached
    exact ⟨by rw [cached, Option.some.injEq], by rwa [same]⟩
  · -- It was invalidated: by a change, or because nothing was registered yet.
    have right : registry.advertised (registry.localNodeInfoInvalidated = .seq) =
        registry.safely registry.getLocalNodeServices := by
      refine advertised_eq _ ?_
      cases flag : registry.localNodeInfoInvalidated with
      | none =>
        have cached := current.cached flag
        rcases cause with forced | invalid | absent
        · cases forced
        · exact absurd flag invalid
        · rw [absent] at cached
          cases cached
      | stale => exact .inr (.inr (current.stale flag))
      | seq => exact .inr (.inl rfl)
    rw [right] at generated
    exact ⟨by rw [generated.listed, Option.some.injEq], current.generated generated (.inr valid)⟩

theorem Current.forced (current : registry.Current) :
    ((registry.getLocalNodeInfo true).2.services = some registry.getLocalNodeServices ↔
      registry.ObjectsApart ∧ (registry.started = true ∨ registry.localNodeInfoInvalidated = .seq ∨
        registry.getLocalNodeServices = [])) ∧
      ((registry.getLocalNodeInfo true).2.services = some registry.getLocalNodeServices →
        (registry.getLocalNodeInfo true).1.Current) := by
  rcases getLocalNodeInfo_cases current.home true with ⟨plain, _⟩ | ⟨_, valid, generated⟩
  · cases plain
  · rw [generated.listed, Option.some.injEq, advertised_eq_iff, decide_eq_true_eq]
    refine ⟨Iff.rfl, fun both => ?_⟩
    rw [advertised_eq _ (by simpa using both.2)] at generated
    exact current.generated generated (.inr valid)

theorem Current.step {registry : Registry} (current : registry.Current) {event : LocalEvent}
    (running : event.Running) :
    (registry.ListsServices event ↔ registry.Claimable event) ∧
      (registry.ListsServices event → (registry.localStep event).Current) := by
  unfold localStep ListsServices Claimable
  -- Only the events that ask for an info return one, so the others have to keep `Current`.
  cases event with
  | registerLocalService svc =>
    refine ⟨by simp [perform], fun _ => current.changed (nodesKept_registerLocalService ..) ?_
      (registerLocalService_cases ..)⟩
    intro service inside
    rcases mem_refs_registerLocalService inside with old | new
    · exact current.locals service old
    · rw [new]
      exact current.named
  | unregisterService fullName id =>
    exact ⟨by simp [perform], fun _ => current.changed (nodesKept_unregisterService ..)
      (fun service inside => current.locals service (mem_refs_unregisterService inside))
      (unregisterService_cases current.locals ..)⟩
  | getLocalNodeInfo force =>
    cases running
    simp only [perform, Option.mem_def, Option.some.injEq, forall_eq']
    exact ⟨current.plain.1, fun _ => current.plain.2⟩
  | connected port =>
    refine ⟨by simp [perform], fun _ => ?_⟩
    -- The number grows, so that the services are listed.
    have moved := (current.modifyNode (fun node => { node with port := port }) fun _ => rfl).1
    have generated := generated_regenerate moved.home true false
    rw [if_neg Bool.false_ne_true, advertised_eq true (.inr (.inl rfl))] at generated
    exact moved.generated generated (.inl rfl)
  | claimedOffline seq =>
    by_cases outdated : seq = 0 ∨ seq < registry.localNode.seq
    · -- An outdated claim is answered like a question.
      have asked : registry.perform (.claimedOffline seq) =
          registry.perform (.getLocalNodeInfo false) := if_pos outdated
      rw [asked]
      simp only [perform, Option.mem_def, Option.some.injEq, forall_eq', outdated, true_or,
        and_true]
      exact ⟨current.plain.1, fun _ => current.plain.2⟩
    · -- Raising the number changes neither the services nor the flags.
      have asked : registry.perform (.claimedOffline seq) =
          perform (registry.modifyNode (some registry.nodeID) fun node =>
            { node with seq := seq + 1 }) (.getLocalNodeInfo true) := if_neg outdated
      obtain ⟨raised, own⟩ := current.modifyNode (fun node => { node with seq := seq + 1 })
        fun _ => rfl
      rw [asked]
      simp only [perform, Option.mem_def, Option.some.injEq, forall_eq', outdated, false_or]
      rw [ObjectsApart, ← own]
      exact raised.forced
  | started =>
    exact ⟨by simp [perform],
      fun _ => ⟨current.home, current.named, current.locals, current.cached, current.stale⟩⟩
  | stop => exact running.elim
  | blocked => exact running.elim

theorem current_create (nodeID instanceID : String) (now : Nat) (metadata : Json) :
    (createWith nodeID instanceID now metadata).Current := by
  have sound := sound_createWith nodeID instanceID now metadata
  exact ⟨sound.home, sound.localNode_id, nofun, nofun, fun _ => rfl⟩

/-- Until `stop` is called, every info lists the local services of its moment, exactly as long as
they share no objects when it is asked for, and no fresh claim that the node is offline meets a
broker that has services but has not started and whose last change is already advertised. -/
theorem lists_services_iff (nodeID instanceID : String) (now : Nat) (metadata : Json)
    (events : List LocalEvent) (running : ∀ event ∈ events, event.Running) :
    Meets localStep ListsServices (createWith nodeID instanceID now metadata) events ↔
      Meets localStep Claimable (createWith nodeID instanceID now metadata) events :=
  meets_iff (fun _ event inside current => (current.step (running event inside)).1)
    (fun _ event inside current => (current.step (running event inside)).2)
    (current_create nodeID instanceID now metadata)

/-- A service is registered and advertised, the broker starts, and a claim is answered. -/
theorem lists_services_started :
    Meets localStep ListsServices (create "local" "instance" 0)
      [.registerLocalService posts, .getLocalNodeInfo false, .started, .claimedOffline 2] :=
  (lists_services_iff "local" "instance" 0 (.text "null") _ (by simp [LocalEvent.Running])).mpr
    ⟨trivial, (by decide +kernel : ObjectsApart _), trivial, ⟨by decide +kernel, .inr (.inl rfl)⟩,
      trivial⟩

/-- The same claim before the broker has started is answered with no services. -/
theorem claim_hides_services :
    ¬ Meets localStep ListsServices (create "local" "instance" 0)
      [.registerLocalService posts, .getLocalNodeInfo false, .claimedOffline 2] := by
  decide +kernel

end Registry

end Moleculer.Cluster
