import Moleculer.Registry.Places
import Moleculer.Tcp.Records

/-! What gossip about one node is to the services and endpoints of another one. -/

namespace Moleculer.Tcp

open Base Cluster Cluster.Registry

variable {registry : Registry} {id : NodeID}

theorem keptAt_answerNode {state : Registry × GossipResponse} (sound : state.1.Sound)
    (payload : GossipRequest) (now : Nat) {node : Node}
    (other : node.isLocal = false → node.self.id ≠ id) :
    KeptAt id state.1 (answerNode payload now state node).1 ∧
      (node.isLocal = false →
        (answerNode payload now state node).1.started = state.1.started ∧
        (answerNode payload now state node).1.localNodeInfoInvalidated =
          state.1.localNodeInfoInvalidated) := by
  obtain ⟨registry, response⟩ := state
  dsimp only at sound ⊢
  have changed (change : Node → Node) :
      KeptAt id registry (registry.modifyNode node.self.id change) ∧ (node.isLocal = false →
        registry.started = registry.started ∧
          registry.localNodeInfoInvalidated = registry.localNodeInfoInvalidated) :=
    ⟨.of_catalogs rfl rfl rfl rfl, fun _ => ⟨rfl, rfl⟩⟩
  refine answerNode_rule (motive := fun after => KeptAt id registry after ∧ (node.isLocal = false →
    after.started = registry.started ∧ after.localNodeInfoInvalidated =
      registry.localNodeInfoInvalidated)) ⟨.refl registry, fun _ => ⟨rfl, rfl⟩⟩ ?_
    (fun _ _ => changed _) ?_ ?_ fun _ _ _ _ => changed _
  · exact fun home => ⟨keptAt_getLocalNodeInfo registry false id, fun remote => by
      rw [remote] at home; cases home⟩
  · -- The node leaves, and the others keep what they have.
    intro _ away _
    exact ⟨(sound.keptAt_disconnected (other away) now).trans (.of_catalogs rfl rfl rfl rfl),
      fun _ => flags_disconnected registry node.self.id now⟩
  · refine fun _ home _ => ⟨KeptAt.trans ?_ (keptAt_getLocalNodeInfo _ true id), fun remote => by
      rw [remote] at home; cases home⟩
    exact .of_catalogs rfl rfl rfl rfl

theorem keptAt_learnOnline (sound : registry.Sound) (now : Nat) (entry : String × OnlineRow)
    (other : some entry.1 ≠ id) (target : some (registry.targetID (some entry.1)) ≠ id) :
    KeptAt id registry (learnOnline now registry entry) := by
  refine learnOnline_rule (.refl registry) (fun info _ _ => ?_)
    fun _ _ _ kept _ _ => kept.trans (.of_catalogs rfl rfl rfl rfl)
  exact @Sound.keptAt_processNodeInfo registry sound { info with sender := some entry.1 } id
    (Option.some_ne_none _) other target now

theorem keptAt_learnOffline (sound : registry.Sound) (now : Nat) (entry : String × ℚ)
    (other : some entry.1 ≠ id) : KeptAt id registry (learnOffline now registry entry) :=
  learnOffline_rule (.refl registry) (fun _ => .of_catalogs rfl rfl rfl rfl)
    fun _ => (sound.keptAt_disconnected other now).trans (.of_catalogs rfl rfl rfl rfl)

end Moleculer.Tcp
