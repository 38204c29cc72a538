import Moleculer.Registry.WellFormed
import Moleculer.Tcp.Gossip

/-! The infos that a broker hands out about itself, by their numbers and by what they list. -/

namespace Moleculer.Cluster

open Base

/-- What happens to the local node of a broker. -/
inductive LocalEvent where
  | registerLocalService (svc : ServiceInfo)
  | unregisterService (fullName : String) (nodeID : NodeID)
  | getLocalNodeInfo (force : Bool)
  /-- The TCP transporter is connected and knows its port. -/
  | connected (port : Option Nat)
  /-- A gossip request says that the local node went offline with this number. -/
  | claimedOffline (seq : ℚ)
  /-- The services have started. -/
  | started
  /-- The synchronous part of `stop`. -/
  | stop
  /-- The part of `stop` that blocks incoming requests. -/
  | blocked
  deriving DecidableEq

namespace Registry

/-- What an event does to the registry, and the info that `getLocalNodeInfo` returns in it. -/
def perform (registry : Registry) : LocalEvent → Registry × Option NodeInfo
  | .registerLocalService svc => (registry.registerLocalService svc, none)
  | .unregisterService fullName nodeID => (registry.unregisterService fullName nodeID, none)
  | .getLocalNodeInfo force =>
    let (asked, info) := registry.getLocalNodeInfo force
    (asked, some info)
  | .connected port =>
    (((registry.modifyNode (some registry.nodeID) fun node =>
      { node with port := port }).regenerateLocalRawInfo true false).1, none)
  | .claimedOffline seq =>
    if seq = 0 ∨ seq < registry.localNode.seq then
      -- We have newer info.
      let (asked, info) := registry.getLocalNodeInfo false
      (asked, some info)
    else
      -- A higher number makes the requester update us.
      let (asked, info) := getLocalNodeInfo (registry.modifyNode (some registry.nodeID)
        fun node => { node with seq := seq + 1 }) true
      (asked, some info)
  | .started => ({ registry with started := true }, none)
  | .stop => ({ registry with started := false }, none)
  | .blocked => ((registry.regenerateLocalRawInfo true true).1, none)

/-- The objects that the info of the local node has before the services. -/
def ownObjects (registry : Registry) : List Nat :=
  registry.localNode.client.objects ++ registry.localNode.config.objects ++
    registry.localNode.metadata.objects

/-- What an info keeps of services: an object that the node or an earlier service has is left
out. -/
def safely (registry : Registry) (services : List ServiceInfo) : List ServiceInfo :=
  Sharing.pruneEach ServiceInfo.objects (fun seen svc => svc.safe seen) registry.ownObjects services

/-- The services that an info lists when it is generated outside of `stop`. -/
def advertised (registry : Registry) (incSeq : Bool) : List ServiceInfo :=
  registry.safely (if registry.started || incSeq then registry.getLocalNodeServices else [])

/-- The local node is stored. -/
def Home (registry : Registry) : Prop :=
  (registry.nodes.get (some registry.nodeID)).isSome = true

variable {registry : Registry}

theorem safely_eq_nil_iff (registry : Registry) (services : List ServiceInfo) :
    registry.safely services = [] ↔ services = [] := by
  rw [← List.length_eq_zero_iff, safely, Sharing.length_pruneEach, List.length_eq_zero_iff]

theorem localNode_modifyNode (home : registry.Home) (change : Node → Node) :
    (registry.modifyNode (some registry.nodeID) change).localNode = change registry.localNode ∧
      (registry.modifyNode (some registry.nodeID) change).Home := by
  obtain ⟨node, found⟩ := Option.isSome_iff_exists.mp home
  simp [Home, localNode, modifyNode, OrderedMap.get_modify, found]

theorem NodesKept.localNode {before after : Registry} (kept : NodesKept before after)
    (home : before.Home) : after.Home ∧
      after.localNode.seq = before.localNode.seq ∧
      after.localNode.rawInfo = before.localNode.rawInfo ∧
      after.localNode.self = before.localNode.self := by
  obtain ⟨services, stored⟩ := kept.home
  obtain ⟨node, found⟩ := Option.isSome_iff_exists.mp home
  rw [found, Option.map_some] at stored
  unfold Home Registry.localNode
  rw [kept.nodeID, stored, found]
  exact ⟨rfl, rfl, rfl, rfl⟩

theorem registerLocalService_cases (registry : Registry) (svc : ServiceInfo) :
    registry.registerLocalService svc = registry ∨
      (registry.registerLocalService svc).localNodeInfoInvalidated = .seq := by
  unfold registerLocalService
  split
  · exact .inl rfl
  · exact .inr rfl

/-- An info was generated and is the cached one now. -/
structure Generated (before : Registry) (incSeq : Bool) (listing : List ServiceInfo)
    (after : Registry) (info : NodeInfo) : Prop where
  home : after.Home
  nodeID : after.nodeID = before.nodeID
  self : after.localNode.self = before.localNode.self
  services : after.services = before.services
  own : after.ownObjects = before.ownObjects
  seq : after.localNode.seq = if incSeq then before.localNode.seq + 1 else before.localNode.seq
  rawInfo : after.localNode.rawInfo = some info
  number : info.seq = some after.localNode.seq
  listed : info.services = some listing

theorem generated_regenerate (home : registry.Home) (incSeq isStopping : Bool) :
    Generated registry incSeq (if isStopping then [] else registry.advertised incSeq)
      (registry.regenerateLocalRawInfo incSeq isStopping).1
      (registry.regenerateLocalRawInfo incSeq isStopping).2 := by
  have stored := localNode_modifyNode home fun node =>
    { node with
      seq := if incSeq then registry.localNode.seq + 1 else registry.localNode.seq
      rawInfo := some (registry.regenerateLocalRawInfo incSeq isStopping).2 }
  have after : (registry.regenerateLocalRawInfo incSeq isStopping).1.localNode =
      { registry.localNode with
        seq := if incSeq then registry.localNode.seq + 1 else registry.localNode.seq
        rawInfo := some (registry.regenerateLocalRawInfo incSeq isStopping).2 } := stored.1
  refine ⟨stored.2, rfl, by rw [after], rfl, ?_, by rw [after], by rw [after],
    by rw [after]; rfl, ?_⟩
  · rw [ownObjects, after]
    rfl
  · cases isStopping <;> rfl

theorem getLocalNodeInfo_cases (home : registry.Home) (force : Bool) :
    (force = false ∧ (registry.getLocalNodeInfo force).1 = registry ∧
      registry.localNodeInfoInvalidated = .none ∧
      registry.localNode.rawInfo = some (registry.getLocalNodeInfo force).2) ∨
    ((force = true ∨ registry.localNodeInfoInvalidated ≠ .none ∨
        registry.localNode.rawInfo = none) ∧
      (registry.getLocalNodeInfo force).1.localNodeInfoInvalidated = .none ∧
      Generated registry (registry.localNodeInfoInvalidated = .seq)
        (registry.advertised (registry.localNodeInfoInvalidated = .seq))
        (registry.getLocalNodeInfo force).1 (registry.getLocalNodeInfo force).2) := by
  have generated := generated_regenerate home (registry.localNodeInfoInvalidated = .seq) false
  unfold getLocalNodeInfo
  split
  · rename_i found valid
    exact .inl ⟨rfl, rfl, valid, found⟩
  · rename_i other
    refine .inr ⟨?_, rfl, { generated with }⟩
    by_contra cached
    push Not at cached
    obtain ⟨plain, valid, present⟩ := cached
    obtain ⟨info, found⟩ := Option.ne_none_iff_exists'.mp present
    exact other info (by simpa using plain) found valid

/-- What an event can do to the number and the cached info of the local node. -/
inductive Effect (registry : Registry) (event : LocalEvent) (after : Registry) :
    Option NodeInfo → Prop where
  /-- Nothing is generated. -/
  | silent (other : event ≠ .getLocalNodeInfo true)
      (seq : after.localNode.seq = registry.localNode.seq)
      (rawInfo : after.localNode.rawInfo = registry.localNode.rawInfo)
      (flag : after.localNodeInfoInvalidated = registry.localNodeInfoInvalidated ∨
        after.localNodeInfoInvalidated = .seq) : Effect registry event after none
  /-- The cached info is returned. -/
  | cached (info : NodeInfo) (other : event ≠ .getLocalNodeInfo true) (same : after = registry)
      (valid : registry.localNodeInfoInvalidated = .none)
      (found : registry.localNode.rawInfo = some info) : Effect registry event after (some info)
  /-- An info with a higher number is generated, and returned or not. -/
  | raised (info : NodeInfo) (answer : Option NodeInfo)
      (other : event ≠ .getLocalNodeInfo true ∨ registry.localNodeInfoInvalidated ≠ .none)
      (higher : registry.localNode.seq < after.localNode.seq)
      (rawInfo : after.localNode.rawInfo = some info)
      (number : info.seq = some after.localNode.seq)
      (outcome : answer = none ∧
          after.localNodeInfoInvalidated = registry.localNodeInfoInvalidated ∨
        answer = some info ∧ after.localNodeInfoInvalidated = .none) :
      Effect registry event after answer
  /-- An info with the same number is generated and returned. -/
  | again (info : NodeInfo)
      (cause : registry.localNodeInfoInvalidated = .stale ∨ registry.localNode.rawInfo = none ∨
        registry.localNodeInfoInvalidated = .none ∧ event = .getLocalNodeInfo true)
      (seq : after.localNode.seq = registry.localNode.seq)
      (rawInfo : after.localNode.rawInfo = some info)
      (number : info.seq = some after.localNode.seq)
      (listed : info.services = some (registry.advertised false))
      (valid : after.localNodeInfoInvalidated = .none) : Effect registry event after (some info)

theorem effect_getLocalNodeInfo (home : registry.Home) (force : Bool) {event : LocalEvent}
    (asks : event = .getLocalNodeInfo true ↔ force = true) :
    (registry.getLocalNodeInfo force).1.Home ∧
      Effect registry event (registry.getLocalNodeInfo force).1
        (some (registry.getLocalNodeInfo force).2) := by
  rcases getLocalNodeInfo_cases home force with
    ⟨plain, same, valid, found⟩ | ⟨cause, valid, generated⟩
  · refine ⟨by rwa [same], .cached _ ?_ same valid found⟩
    rw [Ne, asks, plain]
    exact Bool.false_ne_true
  · refine ⟨generated.home, ?_⟩
    have seq := generated.seq
    by_cases changed : registry.localNodeInfoInvalidated = .seq
    · simp only [changed, decide_true, if_true] at seq
      exact .raised _ _ (.inr (by rw [changed]; decide)) (by grind) generated.rawInfo
        generated.number (.inr ⟨rfl, valid⟩)
    · simp only [changed, decide_false, Bool.false_eq_true, if_false] at seq
      have listed := generated.listed
      rw [decide_eq_false changed] at listed
      refine .again _ ?_ seq generated.rawInfo generated.number listed valid
      -- The flag is clear or stale, and a clear one leaves the other two reasons.
      rcases cause with forced | invalid | absent
      · cases flag : registry.localNodeInfoInvalidated with
        | none => exact .inr (.inr ⟨rfl, asks.mpr forced⟩)
        | stale => exact .inl rfl
        | seq => exact absurd flag changed
      · cases flag : registry.localNodeInfoInvalidated with
        | none => exact absurd flag invalid
        | stale => exact .inl rfl
        | seq => exact absurd flag changed
      · exact .inr (.inl absent)

/-- Every event has one of these effects, and the local node stays. -/
theorem effect_perform (home : registry.Home) (event : LocalEvent) :
    (registry.perform event).1.Home ∧
      Effect registry event (registry.perform event).1 (registry.perform event).2 := by
  have raised (state : Registry) (stored : state.Home)
      (seq : state.localNode.seq = registry.localNode.seq)
      (flag : state.localNodeInfoInvalidated = registry.localNodeInfoInvalidated)
      (isStopping : Bool) (other : event ≠ .getLocalNodeInfo true) :
      (state.regenerateLocalRawInfo true isStopping).1.Home ∧
        Effect registry event (state.regenerateLocalRawInfo true isStopping).1 none := by
    have generated := generated_regenerate stored true isStopping
    have above := generated.seq
    rw [if_pos rfl, seq] at above
    exact ⟨generated.home, .raised _ _ (.inl other) (by grind) generated.rawInfo
      generated.number (.inl ⟨rfl, flag⟩)⟩
  cases event with
  | registerLocalService svc =>
    obtain ⟨stored, seq, rawInfo, _⟩ := (nodesKept_registerLocalService registry svc).localNode home
    refine ⟨stored, .silent nofun seq rawInfo ?_⟩
    exact (registerLocalService_cases registry svc).imp (congrArg _) id
  | unregisterService fullName id =>
    obtain ⟨stored, seq, rawInfo, _⟩ :=
      (nodesKept_unregisterService registry fullName id).localNode home
    have removed : (registry.removeService fullName
        (some (registry.targetID id))).localNodeInfoInvalidated =
          registry.localNodeInfoInvalidated := by
      unfold removeService
      split <;> rfl
    refine ⟨stored, .silent nofun seq rawInfo ?_⟩
    dsimp only [perform, unregisterService]
    split
    · exact .inr rfl
    · exact .inl removed
  | getLocalNodeInfo force => exact effect_getLocalNodeInfo home force (by simp)
  | connected port =>
    obtain ⟨same, stored⟩ := localNode_modifyNode home fun node => { node with port := port }
    exact raised _ stored (by rw [same]) rfl false nofun
  | claimedOffline seq =>
    rw [perform]
    split
    · exact effect_getLocalNodeInfo home false (by simp)
    · rename_i newer
      obtain ⟨same, stored⟩ := localNode_modifyNode home fun node => { node with seq := seq + 1 }
      -- The number was raised before the info is generated.
      rcases getLocalNodeInfo_cases stored true with ⟨plain, _⟩ | ⟨_, valid, generated⟩
      · cases plain
      · have above := generated.seq
        rw [same] at above
        have higher : registry.localNode.seq < seq + 1 := by grind
        refine ⟨generated.home, .raised _ _ (.inl nofun) ?_ generated.rawInfo generated.number
          (.inr ⟨rfl, valid⟩)⟩
        dsimp only at above ⊢
        split at above <;> grind
  | started => exact ⟨home, .silent nofun rfl rfl (.inl rfl)⟩
  | stop => exact ⟨home, .silent nofun rfl rfl (.inl rfl)⟩
  | blocked => exact raised registry home rfl rfl true nofun

/-- The number of an info is not lower than an earlier one, and the same number lists the same
services. -/
def Follows (earlier later : NodeInfo) : Prop :=
  ∃ low ∈ earlier.seq, ∃ high ∈ later.seq,
    low ≤ high ∧ (low = high → earlier.services = later.services)

instance (earlier later : NodeInfo) : Decidable (Follows earlier later) :=
  inferInstanceAs (Decidable (∃ low ∈ earlier.seq, ∃ high ∈ later.seq,
    low ≤ high ∧ (low = high → earlier.services = later.services)))

end Registry

/-- A registry with the infos that `getLocalNodeInfo` has returned. -/
structure Advertiser where
  registry : Registry
  returned : List NodeInfo

namespace Advertiser

open Registry

/-- A broker that was just created. -/
def create (nodeID instanceID : String) (now : Nat) (metadata : Json) : Advertiser :=
  ⟨.createWith nodeID instanceID now metadata, []⟩

/-- One event. -/
def step (state : Advertiser) (event : LocalEvent) : Advertiser :=
  let (registry, answer) := state.registry.perform event
  ⟨registry, state.returned ++ answer.toList⟩

/-- A forced call without a pending change, once the number was handed out, finds the list that the
broker would advertise now in the cached info. -/
def Harmless (state : Advertiser) (event : LocalEvent) : Prop :=
  event = .getLocalNodeInfo true → state.registry.localNodeInfoInvalidated = .none →
    (∃ info ∈ state.returned, info.seq = some state.registry.localNode.seq) →
    state.registry.localNode.rawInfo.bind (·.services) = some (state.registry.advertised false)

/-- The numbers that were handed out are not above the current one, and those that are equal to it
come with the services of the cached info. -/
structure Numbered (state : Advertiser) : Prop where
  home : state.registry.Home
  cached : ∀ raw, state.registry.localNode.rawInfo = some raw →
    raw.seq = some state.registry.localNode.seq
  below : ∀ info ∈ state.returned, ∃ number, info.seq = some number ∧
    number ≤ state.registry.localNode.seq
  current : ∀ info ∈ state.returned, info.seq = some state.registry.localNode.seq →
    state.registry.localNode.rawInfo.bind (·.services) = info.services
  unseen : state.registry.localNodeInfoInvalidated = .stale ∨
    state.registry.localNode.rawInfo = none → state.returned = []

/-- What an event returns follows everything that was returned before. -/
def Continues (state : Advertiser) (event : LocalEvent) : Prop :=
  ∀ info ∈ (state.registry.perform event).2, ∀ earlier ∈ state.returned, Follows earlier info

theorem Numbered.continues_iff {state : Advertiser} (numbered : state.Numbered)
    (event : LocalEvent) : state.Continues event ↔ state.Harmless event := by
  unfold Continues Harmless
  generalize performed : state.registry.perform event = result
  have effect := (effect_perform numbered.home event).2
  rw [performed] at effect
  obtain ⟨after, answer⟩ := result
  cases effect with
  | silent other => exact iff_of_true (by simp) fun same => absurd same other
  | cached info other same valid found =>
    refine iff_of_true ?_ fun same => absurd same other
    rintro _ ⟨⟩ earlier inside
    obtain ⟨low, seq, le⟩ := numbered.below earlier inside
    refine ⟨low, seq, _, numbered.cached info found, le, fun equal => ?_⟩
    rw [← numbered.current earlier inside (equal ▸ seq), found]
    rfl
  | raised info answer other higher rawInfo number outcome =>
    refine iff_of_true ?_ fun same valid => absurd other (by simp [same, valid])
    rintro _ returned earlier inside
    rcases outcome with ⟨rfl, _⟩ | ⟨rfl, _⟩
    · cases returned
    · cases returned
      obtain ⟨low, seq, le⟩ := numbered.below earlier inside
      exact ⟨low, seq, _, number, by grind, fun equal => by grind⟩
  | again info cause seq rawInfo number listed valid =>
    by_cases fresh : state.returned = []
    · simp [fresh]
    · -- The number was handed out before, by a forced call.
      have forced : state.registry.localNodeInfoInvalidated = .none ∧
          event = .getLocalNodeInfo true := by
        rcases cause with stale | absent | forced
        · exact absurd (numbered.unseen (.inl stale)) fresh
        · exact absurd (numbered.unseen (.inr absent)) fresh
        · exact forced
      simp only [Option.mem_def, Option.some.injEq, forall_eq', forced.1, forced.2, true_imp_iff]
      rw [← listed]
      refine ⟨fun follows => ?_, fun harmless earlier inside => ?_⟩
      · rintro ⟨earlier, inside, same⟩
        obtain ⟨low, low_eq, high, high_eq, _, equal⟩ := follows earlier inside
        rw [numbered.current earlier inside same]
        refine equal ?_
        rw [Option.mem_def, same] at low_eq
        rw [Option.mem_def, number, seq] at high_eq
        exact Option.some.inj (low_eq.symm.trans high_eq)
      · obtain ⟨low, low_eq, le⟩ := numbered.below earlier inside
        refine ⟨low, low_eq, _, number, by grind, fun equal => ?_⟩
        have same : earlier.seq = some state.registry.localNode.seq := by
          rw [low_eq, equal, seq]
        rw [← numbered.current earlier inside same]
        exact harmless ⟨earlier, inside, same⟩

/-- An info that follows all the others becomes the cached one, and is returned or not. -/
theorem Numbered.extend {returned : List NodeInfo} {after : Registry} {info : NodeInfo}
    {answer : Option NodeInfo} (home : after.Home) (rawInfo : after.localNode.rawInfo = some info)
    (number : info.seq = some after.localNode.seq)
    (follows : ∀ earlier ∈ returned, Follows earlier info) (answers : ∀ one ∈ answer, one = info)
    (unseen : after.localNodeInfoInvalidated = .stale → returned ++ answer.toList = []) :
    Numbered ⟨after, returned ++ answer.toList⟩ := by
  -- Nothing that was returned has a higher number than the info, which may be among it.
  have all : ∀ one ∈ returned ++ answer.toList, ∃ low, one.seq = some low ∧
      low ≤ after.localNode.seq ∧ (low = after.localNode.seq → one.services = info.services) := by
    intro one inside
    rcases List.mem_append.mp inside with old | new
    · obtain ⟨low, low_eq, high, high_eq, le, equal⟩ := follows one old
      cases number.symm.trans high_eq
      exact ⟨low, low_eq, le, equal⟩
    · rw [answers one (by simpa using new)]
      exact ⟨_, number, le_rfl, fun _ => rfl⟩
  refine ⟨home, fun raw found => ?_, fun one inside => ?_, fun one inside here => ?_, ?_⟩
  · cases rawInfo.symm.trans found
    exact number
  · obtain ⟨low, seq, le, _⟩ := all one inside
    exact ⟨low, seq, le⟩
  · obtain ⟨low, seq, _, equal⟩ := all one inside
    rw [rawInfo, Option.bind_some, equal (Option.some.inj (seq.symm.trans here))]
  · rintro (stale | absent)
    · exact unseen stale
    · cases rawInfo.symm.trans absent

/-- An event that continues the numbers keeps them in order. -/
theorem Numbered.step {state : Advertiser} (numbered : state.Numbered) {event : LocalEvent}
    (continues : state.Continues event) : (state.step event).Numbered := by
  unfold Continues at continues
  unfold Advertiser.step
  generalize performed : state.registry.perform event = result at *
  have effect := effect_perform numbered.home event
  rw [performed] at effect
  obtain ⟨after, answer⟩ := result
  obtain ⟨home, effect⟩ := effect
  dsimp only at *
  have returns {info : NodeInfo} : ∀ one ∈ some info, one = info := by simp
  cases effect with
  | silent other seq rawInfo flag =>
    simp only [Option.toList_none, List.append_nil]
    refine ⟨home, ?_, ?_, ?_, ?_⟩
    · rw [seq, rawInfo]
      exact numbered.cached
    · rw [seq]
      exact numbered.below
    · rw [seq, rawInfo]
      exact numbered.current
    · rw [rawInfo]
      rintro (stale | absent)
      · refine numbered.unseen (.inl ?_)
        rcases flag with same | changed
        · exact same ▸ stale
        · rw [changed] at stale
          cases stale
      · exact numbered.unseen (.inr absent)
  | cached info other same valid found =>
    subst same
    refine .extend home found (numbered.cached info found) (continues info rfl) returns ?_
    rw [valid]
    exact nofun
  | raised info answer other higher rawInfo number outcome =>
    -- A higher number was never returned, so nothing has to be compared.
    have follows : ∀ earlier ∈ state.returned, Follows earlier info := by
      intro earlier inside
      obtain ⟨low, seq, le⟩ := numbered.below earlier inside
      have lower := le.trans_lt higher
      exact ⟨low, seq, _, number, lower.le, fun equal => absurd equal lower.ne⟩
    rcases outcome with ⟨rfl, same⟩ | ⟨rfl, valid⟩
    · refine .extend home rawInfo number follows nofun fun stale => ?_
      rw [numbered.unseen (.inl (same ▸ stale))]
      rfl
    · refine .extend home rawInfo number follows returns ?_
      rw [valid]
      exact nofun
  | again info cause seq rawInfo number listed valid =>
    refine .extend home rawInfo number (continues info rfl) returns ?_
    rw [valid]
    exact nofun

theorem pairwise_returned_iff (state : Advertiser) (events : List LocalEvent) :
    (run step state events).returned.Pairwise Follows ↔
      state.returned.Pairwise Follows ∧ Meets step Continues state events := by
  induction events generalizing state with
  | nil => exact (and_iff_left trivial).symm
  | cons event rest ih =>
    have first : (state.step event).returned.Pairwise Follows ↔
        state.returned.Pairwise Follows ∧ state.Continues event := by
      unfold Advertiser.step Continues
      dsimp only
      cases (state.registry.perform event).2 with
      | none => simp
      | some info =>
        simp only [Option.toList_some, List.pairwise_append, List.pairwise_singleton, true_and,
          List.mem_singleton, forall_eq, Option.mem_def, Option.some.injEq, forall_eq']
    rw [run, ih, first, Meets, and_assoc]

theorem numbered_create (nodeID instanceID : String) (now : Nat) (metadata : Json) :
    (create nodeID instanceID now metadata).Numbered := by
  have home : (Registry.createWith nodeID instanceID now metadata).Home :=
    (sound_createWith nodeID instanceID now metadata).home
  have empty : (Registry.createWith nodeID instanceID now metadata).localNode.rawInfo = none := by
    simp [Registry.createWith, localNode, OrderedMap.get_set, Node.new]
  refine ⟨home, fun raw found => ?_, List.forall_mem_nil _, List.forall_mem_nil _, fun _ => rfl⟩
  cases empty.symm.trans found

/-- An event leaves the local node with a number that a double counts exactly. -/
def Exact (state : Advertiser) (event : LocalEvent) : Prop :=
  ∃ number : Nat, number ≤ 2 ^ 53 ∧ (state.step event).registry.localNode.seq = number

/-- As long as the numbers are exact, those of the infos never decrease and identify the listed
services if and only if every forced call is harmless. -/
theorem seq_identifies_services_iff (nodeID instanceID : String) (now : Nat) (metadata : Json)
    (events : List LocalEvent)
    (_exact : Meets step Exact (create nodeID instanceID now metadata) events) :
    (run step (create nodeID instanceID now metadata) events).returned.Pairwise Follows ↔
      Meets step Harmless (create nodeID instanceID now metadata) events := by
  have nothing : (create nodeID instanceID now metadata).returned.Pairwise Follows := .nil
  rw [pairwise_returned_iff, and_iff_right nothing]
  exact meets_iff (fun _ event _ numbered => numbered.continues_iff event)
    (fun _ _ _ numbered continues => numbered.step continues)
    (numbered_create nodeID instanceID now metadata)

/-- A service is registered and its info asked for twice. -/
theorem seq_identifies_services_twice :
    (run step (create "local" "instance" 0 (.text "null"))
      [.registerLocalService posts, .getLocalNodeInfo false,
        .getLocalNodeInfo false]).returned.Pairwise Follows := by
  refine (seq_identifies_services_iff "local" "instance" 0 (.text "null") _ ?_).mpr
    ⟨nofun, nofun, nofun, trivial⟩
  exact ⟨⟨1, by decide, by decide +kernel⟩, ⟨2, by decide, by decide +kernel⟩,
    ⟨2, by decide, by decide +kernel⟩, trivial⟩

/-- A forced call before the broker has started takes the services back under the same number. -/
theorem seq_reused_by_forced_call :
    ¬ (run step (create "local" "instance" 0 (.text "null"))
      [.registerLocalService posts, .getLocalNodeInfo false,
        .getLocalNodeInfo true]).returned.Pairwise Follows := by
  decide +kernel

end Advertiser

end Moleculer.Cluster
