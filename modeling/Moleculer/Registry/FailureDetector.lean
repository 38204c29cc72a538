import Moleculer.Registry.Heartbeats
import Moleculer.Registry.Places

/-! Nodes that stop beating lose their services, and no other node does (`discoverers/base.js`). -/

namespace Moleculer.Cluster

open Base

namespace Registry

/-- What `checkRemoteNodes` does with one node. -/
def checkRemoteNode (timeout now : Nat) (registry : Registry) (id : NodeID) : Registry :=
  match registry.nodes.get id with
  | none => registry
  | some node =>
    if node.isLocal || !node.available then registry
    else if node.lastHeartbeatTime = 0 then
      -- Not received the first heartbeat yet.
      registry.modifyNode id fun node => { node with lastHeartbeatTime := now }
    else if now - node.lastHeartbeatTime > timeout then registry.disconnected id now
    else registry

/-- `checkRemoteNodes`. -/
def checkRemoteNodes (registry : Registry) (timeout now : Nat) : Registry :=
  registry.nodes.keys.foldl (checkRemoteNode timeout now) registry

/-- What happens to a registry whose nodes are watched. -/
inductive Watch where
  | discovery (event : Discovery) (named : event.Named)
  | checkRemoteNodes (timeout now : Nat)

/-- One step. -/
def watch (registry : Registry) : Watch → Registry
  | .discovery event _ => registry.discover event
  | .checkRemoteNodes timeout now => registry.checkRemoteNodes timeout now

/-- A remote node that is online, but was not heard of for too long. -/
def Late (timeout now : Nat) (node : Node) : Prop :=
  node.isLocal = false ∧ node.available = true ∧ node.lastHeartbeatTime ≠ 0 ∧
    now - node.lastHeartbeatTime > timeout

/-- The node under an id is not late, if there is one. -/
def Prompt (timeout now : Nat) (registry : Registry) (id : NodeID) : Prop :=
  ∀ node, registry.nodes.get id = some node → ¬ Late timeout now node

variable {registry : Registry} {timeout now : Nat} {id other : NodeID}

/-- A node that is late is disconnected; of any other one at most the time is set. -/
theorem checkRemoteNode_cases (timeout now : Nat) (registry : Registry) (id : NodeID) :
    (∃ node, registry.nodes.get id = some node ∧ Late timeout now node ∧
      registry.checkRemoteNode timeout now id = registry.disconnected id now) ∨
    Prompt timeout now registry id ∧
      (registry.checkRemoteNode timeout now id = registry ∨
        registry.checkRemoteNode timeout now id =
          registry.modifyNode id fun node => { node with lastHeartbeatTime := now }) := by
  unfold checkRemoteNode Prompt
  cases registry.nodes.get id with
  | none => simp
  | some node =>
    simp only [Option.some.injEq, exists_eq_left', forall_eq']
    by_cases late : Late timeout now node
    · obtain ⟨remote, online, known, long⟩ := late
      simp [Late, remote, online, known, long]
    · refine .inr ⟨late, ?_⟩
      unfold Late at late
      grind

theorem Sound.checkRemoteNode (sound : registry.Sound) (id : NodeID) :
    (registry.checkRemoteNode timeout now id).Sound := by
  rcases checkRemoteNode_cases timeout now registry id with ⟨_, _, _, same⟩ | ⟨_, same | same⟩
  · rw [same]
    exact sound.disconnected id now
  · rw [same]
    exact sound
  · rw [same]
    -- A node with services is still available, or it is the local one.
    refine sound.modifyNode id _ (fun _ => ⟨rfl, rfl⟩) fun stored found served => ?_
    obtain ⟨service, member, here⟩ := served
    obtain ⟨host, located, _, able⟩ := sound.hosted service member
    rw [here, found] at located
    cases located
    exact able

/-- After its turn a node is not late any more, and no other turn makes it so. -/
theorem prompt_checkRemoteNode (before : other = id ∨ Prompt timeout now registry id) :
    Prompt timeout now (registry.checkRemoteNode timeout now other) id := by
  rcases checkRemoteNode_cases timeout now registry other with ⟨_, _, _, same⟩ |
    ⟨prompt, same | same⟩
  · intro node found
    rw [same, get_disconnected] at found
    split at found
    · obtain ⟨old, _, rfl⟩ := Option.map_eq_some_iff.mp found
      unfold Node.disconnected Late
      split <;> simp_all
    · rename_i apart
      exact before.resolve_left (Ne.symm apart) node found
  · rw [same]
    exact before.elim (· ▸ prompt) (·)
  · intro node found
    rw [same, get_modifyNode] at found
    split at found
    · obtain ⟨old, _, rfl⟩ := Option.map_eq_some_iff.mp found
      simp [Late]
    · rename_i apart
      exact before.resolve_left (Ne.symm apart) node found

theorem prompt_foldl {ids : List NodeID} (before : id ∈ ids ∨ Prompt timeout now registry id) :
    Prompt timeout now (ids.foldl (checkRemoteNode timeout now) registry) id := by
  induction ids generalizing registry with
  | nil => exact before.resolve_left List.not_mem_nil
  | cons other rest ih =>
    rw [List.mem_cons, or_right_comm] at before
    exact ih (before.symm.imp_right fun own => prompt_checkRemoteNode (own.imp_left Eq.symm))

theorem Sound.keptAt_checkRemoteNodes (sound : registry.Sound)
    (prompt : Prompt timeout now registry id) :
    KeptAt id registry (registry.checkRemoteNodes timeout now) := by
  refine (List.foldlRecOn registry.nodes.keys _ (motive := fun state : Registry =>
    state.Sound ∧ Prompt timeout now state id ∧ KeptAt id registry state)
    ⟨sound, prompt, .refl registry⟩ fun state kept other _ => ?_).2.2
  refine ⟨kept.1.checkRemoteNode other, prompt_checkRemoteNode (.inr kept.2.1), kept.2.2.trans ?_⟩
  rcases checkRemoteNode_cases timeout now state other with ⟨node, found, late, same⟩ |
    ⟨_, same | same⟩
  · -- The node that is disconnected is late, so it is another one.
    rw [same]
    refine kept.1.keptAt_disconnected ?_ now
    rintro rfl
    exact kept.2.1 node found late
  · rw [same]
    exact .refl state
  · rw [same]
    exact .of_catalogs rfl rfl rfl rfl

theorem Sound.checkRemoteNodes (sound : registry.Sound) :
    (registry.checkRemoteNodes timeout now).Sound :=
  List.foldlRecOn _ _ sound fun _ kept id _ => kept.checkRemoteNode id

theorem Sound.watch (sound : registry.Sound) (event : Watch) : (registry.watch event).Sound := by
  cases event with
  | discovery event named =>
    cases event with
    | operation change =>
      refine sound.step change ?_
      rintro payload now rfl
      exact named
    | beat nodeID payload now => exact sound.heartbeatReceived nodeID payload now
  | checkRemoteNodes timeout now => exact sound.checkRemoteNodes

/--
Nodes that stop beating lose their services, and no other node does.

Whatever happened to the registry before a check, its catalogs fit together after it, every service
that is left lies on the local node or on one that is online and not late, and nodes that were not
late keep all that they
offer. -/
theorem checkRemoteNodes_run (nodeID instanceID : String) (start : Nat) (events : List Watch)
    (timeout now : Nat) :
    let registry := run watch (create nodeID instanceID start) events
    let checked := registry.checkRemoteNodes timeout now
    checked.WellFormed ∧
      (∀ item ∈ checked.services, ∃ node, checked.nodes.get item.self.node.id = some node ∧
        (node.available = true ∨ node.isLocal = true) ∧ ¬ Late timeout now node) ∧
      ∀ id, Prompt timeout now registry id → KeptAt id registry checked := by
  intro registry checked
  have sound : registry.Sound := run_invariant (fun _ event kept _ => kept.watch event)
    (sound_create nodeID instanceID start) (meets_of_forall (fun _ _ => trivial) _ events)
  have after : checked.Sound := sound.checkRemoteNodes
  refine ⟨after.wellFormed, fun item inside => ?_, fun id => sound.keptAt_checkRemoteNodes⟩
  obtain ⟨node, located, _, able⟩ := after.hosted item.self (List.mem_map_of_mem inside)
  refine ⟨node, located, able, prompt_foldl ?_ node located⟩
  -- Every node that was there had its turn.
  rw [OrderedMap.mem_keys_iff]
  unfold Prompt
  cases registry.nodes.get item.self.node.id <;> simp

end Registry

end Moleculer.Cluster
