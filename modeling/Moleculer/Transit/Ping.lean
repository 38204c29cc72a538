import Moleculer.Base.OrderedMap
import Moleculer.Base.Run

/-! Pings of several nodes at once, whose answers all come over one event (`ServiceBroker.ping`,
`Transit.processPong`). -/

namespace Moleculer.Pings

open Base

variable {ι : Type}

/-- The payload of a PONG packet. -/
structure PongPayload (ι : Type) where
  sender : ι
  time : ℚ
  arrived : ℚ
  id : String
  deriving DecidableEq

/-- The payload of the event `$node.pong`. -/
structure Pong (ι : Type) where
  nodeID : ι
  elapsedTime : ℚ
  timeDiff : Int
  id : String
  deriving DecidableEq

/-- `Math.round`: a half is rounded up. -/
def mathRound (number : ℚ) : Int := ⌊number + 1 / 2⌋

/-- `processPong`: the event for a packet. -/
def processPong (payload : PongPayload ι) (now : ℚ) : Pong ι :=
  let elapsedTime := now - payload.time
  let timeDiff := mathRound (now - payload.arrived - elapsedTime / 2)
  ⟨payload.sender, elapsedTime, timeDiff, payload.id⟩

/-- The argument of `ping`: a node, a list of nodes, or nothing. -/
inductive Target (ι : Type) where
  | node (nodeID : ι)
  | nodes (ids : List ι)
  | all

/-- The nodes that a ping asks. -/
inductive Asked (ι : Type) where
  | node (nodeID : ι)
  | nodes (ids : List ι)
  deriving DecidableEq

/-- What a promise of `ping` is resolved to; `pongs` is the object that the ping has filled. -/
inductive Resolution (ι : Type) where
  | null
  | emptyArray
  | pong (pong : Pong ι)
  | pongs
  deriving DecidableEq

/-- A call of `ping`. -/
structure Ping (ι : Type) where
  asked : Asked ι
  pongs : OrderedMap ι (Option (Pong ι))
  processing : List ι
  /-- The timer is running. -/
  timer : Bool
  /-- All calls of `resolve`. -/
  resolutions : List (Resolution ι)
  /-- The transit was connected when `ping` was called. -/
  connected : Bool
  /-- The timer has fired. -/
  timedOut : Bool
  /-- The events from the call of `ping` to the resolution. -/
  arrived : List (Pong ι)

/-- The broker: the listeners of `$node.pong` on its local bus, and the pings by number. -/
structure PingBroker (ι : Type) where
  nodeID : ι
  listeners : List Nat
  ping : Nat → Option (Ping ι)
  created : Nat

/-- What happens to the broker. -/
inductive PingInput (ι : Type) where
  /-- A call of `ping`, with the nodes of the registry and whether they are available. -/
  | ping (target : Target ι) (connected : Bool) (nodeList : List (ι × Bool))
  /-- A PONG packet arrives. -/
  | pong (payload : PongPayload ι) (now : ℚ)
  /-- The timer of a ping fires. -/
  | timeout (ref : Nat)

namespace Ping

/-- Stop the timer and call `resolve`. -/
def resolve (ping : Ping ι) (value : Resolution ι) : Ping ι :=
  { ping with timer := false, resolutions := ping.resolutions ++ [value] }

variable [DecidableEq ι]

/-- The listener of a ping, and whether it removes itself from the bus. -/
def handler (ping : Ping ι) (pong : Pong ι) : Ping ι × Bool :=
  match ping.asked with
  | .node nodeID =>
    if pong.nodeID = nodeID then (ping.resolve (.pong pong), true) else (ping, false)
  | .nodes _ =>
    let heard := { ping with
      pongs := ping.pongs.set pong.nodeID (some pong)
      processing := ping.processing.filter (· ≠ pong.nodeID) }
    if heard.processing = [] then (heard.resolve .pongs, true) else (heard, false)

/-- The callback of the timer. -/
def timeout (ping : Ping ι) : Ping ι :=
  { ping.resolve (match ping.asked with | .node _ => .null | .nodes _ => .pongs) with
    timedOut := true }

/-- The event is noted by a ping that is not resolved yet. -/
def note (ping : Ping ι) (pong : Pong ι) : Ping ι :=
  if ping.resolutions = [] then { ping with arrived := ping.arrived ++ [pong] } else ping

/-- The last answer of a node, `none` without one. -/
def answer (ping : Ping ι) (nodeID : ι) : Option (Pong ι) :=
  (ping.arrived.filter fun pong => pong.nodeID = nodeID).getLast?

/-- A ping of one node. -/
def single (nodeID : ι) : Ping ι :=
  ⟨.node nodeID, .empty, [], true, [], true, false, []⟩

/-- A ping of several nodes. -/
def several (ids : List ι) : Ping ι :=
  ⟨.nodes ids, ids.foldl (fun pongs id => pongs.set id none) .empty, ids.dedup, true, [], true,
    false, []⟩

/-- A ping without a connection. -/
def refused (asked : Asked ι) (value : Resolution ι) : Ping ι :=
  ⟨asked, .empty, [], false, [value], false, false, []⟩

end Ping

namespace PingBroker

/-- A broker without pings. -/
def new (nodeID : ι) : PingBroker ι := ⟨nodeID, [], fun _ => none, 0⟩

/-- Start a ping that listens. -/
def listen (broker : PingBroker ι) (ping : Ping ι) : PingBroker ι :=
  { broker with
    listeners := broker.listeners ++ [broker.created]
    ping := Function.update broker.ping broker.created (some ping)
    created := broker.created + 1 }

/-- A ping that is resolved at once. -/
def refuse (broker : PingBroker ι) (ping : Ping ι) : PingBroker ι :=
  { broker with
    ping := Function.update broker.ping broker.created (some ping)
    created := broker.created + 1 }

variable [DecidableEq ι]

/-- The available nodes other than the own one. -/
def others (broker : PingBroker ι) (nodeList : List (ι × Bool)) : List ι :=
  ((nodeList.filter (·.2)).map Prod.fst).filter (· ≠ broker.nodeID)

/-- `ping`. -/
def startPing (broker : PingBroker ι) (target : Target ι) (connected : Bool)
    (nodeList : List (ι × Bool)) : PingBroker ι :=
  if connected then
    match target with
    | .node nodeID => broker.listen (.single nodeID)
    | .nodes ids => broker.listen (.several ids)
    | .all => broker.listen (.several (broker.others nodeList))
  else
    match target with
    | .node nodeID => broker.refuse (.refused (.node nodeID) .null)
    | .nodes ids => broker.refuse (.refused (.nodes ids) .null)
    | .all => broker.refuse (.refused (.nodes (broker.others nodeList)) .emptyArray)

/-- One listener is called. -/
def handle (pong : Pong ι) (broker : PingBroker ι) (ref : Nat) : PingBroker ι :=
  match broker.ping ref with
  | some ping =>
    let (heard, off) := ping.handler pong
    { broker with
      listeners := if off then broker.listeners.filter (· ≠ ref) else broker.listeners
      ping := Function.update broker.ping ref (some heard) }
  | none => broker

/-- The event `$node.pong` on the local bus: the listeners of its start are called in order. -/
def emit (broker : PingBroker ι) (pong : Pong ι) : PingBroker ι :=
  broker.listeners.foldl (handle pong) broker

/-- The timer of a ping fires. -/
def timeout (broker : PingBroker ι) (ref : Nat) : PingBroker ι :=
  match broker.ping ref with
  | some ping =>
    if ping.timer then
      { broker with
        listeners := broker.listeners.filter (· ≠ ref)
        ping := Function.update broker.ping ref (some ping.timeout) }
    else broker
  | none => broker

/-- One step. -/
def step (broker : PingBroker ι) : PingInput ι → PingBroker ι
  | .ping target connected nodeList => broker.startPing target connected nodeList
  | .pong payload now =>
    let pong := processPong payload now
    emit { broker with ping := fun ref => (broker.ping ref).map (·.note pong) } pong
  | .timeout ref => broker.timeout ref

/-- A ping of several nodes is right: it is resolved once, at the latest when its timer fires, to an
object with the asked nodes as its keys and their answers; before the timer fires only if all have
answered; and then its listener is removed. -/
structure Right (broker : PingBroker ι) (ref : Nat) (ping : Ping ι) (ids : List ι) : Prop where
  once : ping.resolutions.length ≤ 1
  awaited : ping.resolutions = [] → ping.timer = true
  expired : ping.timedOut = true → ping.resolutions ≠ []
  keys : ∀ value ∈ ping.resolutions, value = .pongs ∧ ∀ id, id ∈ ping.pongs.keys ↔ id ∈ ids
  answers : ping.resolutions ≠ [] → ∀ id ∈ ids, ping.pongs.get id = some (ping.answer id)
  early : ping.resolutions ≠ [] → ping.timedOut = false →
    ∀ id ∈ ids, ∃ pong ∈ ping.arrived, pong.nodeID = id
  removed : ping.resolutions ≠ [] → ref ∉ broker.listeners

/-- The transit was connected, and before the resolution only asked nodes have answered. -/
def Undisturbed (ping : Ping ι) (ids : List ι) : Prop :=
  ping.connected = true ∧
    (ping.resolutions ≠ [] → ∀ pong ∈ ping.arrived, pong.nodeID ∈ ids)

section Laws

/-- What a ping of several nodes has collected: an entry for each asked node and each node that has
answered, and the asked nodes that have not. -/
structure Collected (ping : Ping ι) (ids : List ι) : Prop where
  pongs : ∀ id, ping.pongs.get id =
    if id ∈ ids ∨ ∃ pong ∈ ping.arrived, pong.nodeID = id then some (ping.answer id) else none
  processing : ∀ id, id ∈ ping.processing ↔ id ∈ ids ∧ ∀ pong ∈ ping.arrived, pong.nodeID ≠ id

/-- A ping that waits. -/
structure Waiting (ping : Ping ι) : Prop where
  timer : ping.timer = true
  unresolved : ping.resolutions = []
  inTime : ping.timedOut = false
  connected : ping.connected = true
  collected : ∀ ids, ping.asked = .nodes ids → Collected ping ids

/-- A ping that is over. -/
structure Settled (ping : Ping ι) : Prop where
  timer : ping.timer = false
  once : ping.resolutions.length = 1
  collected : ∀ ids, ping.asked = .nodes ids → ping.connected = true →
    ping.resolutions = [.pongs] ∧ Collected ping ids ∧
      (ping.timedOut = false → ping.processing = [])
  refused : ∀ ids, ping.asked = .nodes ids → ping.connected = false → .pongs ∉ ping.resolutions

/-- The listeners are those of the pings that wait. -/
structure Sound (broker : PingBroker ι) : Prop where
  nodup : broker.listeners.Nodup
  fresh : ∀ ref, broker.created ≤ ref → broker.ping ref = none ∧ ref ∉ broker.listeners
  course : ∀ ref ping, broker.ping ref = some ping →
    ref ∈ broker.listeners ∧ Waiting ping ∨ ref ∉ broker.listeners ∧ Settled ping

variable {broker : PingBroker ι} {ping : Ping ι} {ids : List ι}

theorem answer_append (ping : Ping ι) (pong : Pong ι) (id : ι) :
    Ping.answer { ping with arrived := ping.arrived ++ [pong] } id =
      if pong.nodeID = id then some pong else ping.answer id := by
  unfold Ping.answer
  by_cases same : pong.nodeID = id
  · simp [same]
  · simp [same]

theorem Collected.hear (collected : Collected ping ids) (pong : Pong ι) :
    Collected { ping with
      arrived := ping.arrived ++ [pong]
      pongs := ping.pongs.set pong.nodeID (some pong)
      processing := ping.processing.filter (· ≠ pong.nodeID) } ids := by
  refine ⟨fun id => ?_, fun id => ?_⟩
  · have answered : Ping.answer { ping with
        arrived := ping.arrived ++ [pong]
        pongs := ping.pongs.set pong.nodeID (some pong)
        processing := ping.processing.filter (· ≠ pong.nodeID) } id =
        if pong.nodeID = id then some pong else ping.answer id := answer_append ping pong id
    rw [answered, OrderedMap.get_set]
    by_cases same : pong.nodeID = id
    · simp [same]
    · have other : ¬ id = pong.nodeID := fun equal => same equal.symm
      simp [same, other, collected.pongs id]
  · simp only [List.mem_filter, collected.processing id, List.mem_append, List.mem_singleton,
      decide_eq_true_eq, ne_eq]
    constructor
    · intro both
      refine ⟨both.1.1, fun pong' inside => ?_⟩
      obtain old | rfl := inside
      · exact both.1.2 pong' old
      · exact fun same => both.2 same.symm
    · intro both
      refine ⟨⟨both.1, fun old inside => both.2 old (.inl inside)⟩, fun same => ?_⟩
      exact both.2 pong (.inr rfl) same.symm

theorem get_foldl_set_none (ids : List ι) (pongs : OrderedMap ι (Option (Pong ι))) (id : ι) :
    (ids.foldl (fun pongs id => pongs.set id none) pongs).get id =
      if id ∈ ids then some none else pongs.get id := by
  induction ids generalizing pongs with
  | nil => rfl
  | cons first rest ih =>
    rw [List.foldl_cons, ih, OrderedMap.get_set]
    by_cases later : id ∈ rest
    · simp [later]
    · by_cases same : id = first <;> simp [later, same]

theorem waiting_several (ids : List ι) : Waiting (Ping.several ids) := by
  refine ⟨rfl, rfl, rfl, rfl, fun asked equal => ?_⟩
  cases equal
  refine ⟨fun id => ?_, fun id => ?_⟩
  · simp [Ping.several, get_foldl_set_none, Ping.answer]
  · simp [Ping.several]

theorem waiting_single (nodeID : ι) : Waiting (Ping.single nodeID) := by
  refine ⟨rfl, rfl, rfl, rfl, fun asked equal => ?_⟩
  cases equal

theorem settled_refused (asked : Asked ι) {value : Resolution ι} (empty : value ≠ .pongs) :
    Settled (Ping.refused asked value) := by
  refine ⟨rfl, rfl, fun ids _ connected => ?_, fun ids _ _ inside => ?_⟩
  · cases connected
  · exact empty (List.mem_singleton.mp inside).symm

theorem Waiting.hear (waiting : Waiting ping) (pong : Pong ι) :
    ((ping.note pong).handler pong).2 = false ∧ Waiting ((ping.note pong).handler pong).1 ∨
      ((ping.note pong).handler pong).2 = true ∧ Settled ((ping.note pong).handler pong).1 := by
  have noted : ping.note pong = { ping with arrived := ping.arrived ++ [pong] } := by
    rw [Ping.note, if_pos waiting.unresolved]
  rw [noted]
  unfold Ping.handler
  dsimp only
  split
  · rename_i nodeID asked
    split
    · refine .inr ⟨rfl, rfl, ?_, fun ids equal => ?_, fun ids equal => ?_⟩
      · simp [Ping.resolve, waiting.unresolved]
      · cases asked.symm.trans equal
      · cases asked.symm.trans equal
    · refine .inl ⟨rfl, waiting.timer, waiting.unresolved, waiting.inTime, waiting.connected,
        fun ids equal => ?_⟩
      cases asked.symm.trans equal
  · rename_i ids asked
    have collected := (waiting.collected ids asked).hear pong
    split
    · rename_i done
      refine .inr ⟨rfl, rfl, ?_, fun other equal _ => ?_, fun other equal offline => ?_⟩
      · simp [Ping.resolve, waiting.unresolved]
      · cases asked.symm.trans equal
        refine ⟨?_, ⟨collected.pongs, collected.processing⟩, fun _ => done⟩
        simp [Ping.resolve, waiting.unresolved]
      · cases waiting.connected.symm.trans offline
    · refine .inl ⟨rfl, waiting.timer, waiting.unresolved, waiting.inTime, waiting.connected,
        fun other equal => ?_⟩
      cases asked.symm.trans equal
      exact collected

theorem Waiting.timeout (waiting : Waiting ping) : Settled ping.timeout := by
  refine ⟨rfl, ?_, fun ids asked _ => ?_, fun ids _ offline => ?_⟩
  · simp [Ping.timeout, Ping.resolve, waiting.unresolved]
  · have collected := waiting.collected ids asked
    refine ⟨?_, ⟨collected.pongs, collected.processing⟩, fun inTime => ?_⟩
    · have multi : ping.asked = .nodes ids := asked
      simp [Ping.timeout, Ping.resolve, waiting.unresolved, multi]
    · cases inTime
  · cases waiting.connected.symm.trans offline

theorem Settled.note (settled : Settled ping) (pong : Pong ι) : ping.note pong = ping := by
  have resolved : ping.resolutions ≠ [] := by
    intro empty
    have once := settled.once
    rw [empty] at once
    cases once
  rw [Ping.note, if_neg resolved]

theorem foldl_handle (pong : Pong ι) (refs : List Nat) (nodup : refs.Nodup)
    (broker : PingBroker ι) (ref : Nat) :
    (refs.foldl (handle pong) broker).ping ref =
        (if ref ∈ refs then (broker.ping ref).map fun ping => (ping.handler pong).1
        else broker.ping ref) ∧
      (ref ∈ (refs.foldl (handle pong) broker).listeners ↔ ref ∈ broker.listeners ∧
        ¬ (ref ∈ refs ∧ ∃ ping, broker.ping ref = some ping ∧ (ping.handler pong).2 = true)) := by
  -- Each listener changes the state of its own ping only, so the order does not matter.
  induction refs generalizing broker with
  | nil => simp
  | cons first rest ih =>
    obtain ⟨apart, nodup⟩ := List.nodup_cons.mp nodup
    rw [List.foldl_cons, (ih nodup _).1, (ih nodup _).2]
    unfold handle
    cases found : broker.ping first with
    | none =>
      by_cases same : ref = first
      · subst same
        simp [apart, found]
      · simp [same]
    | some ping =>
      by_cases same : ref = first
      · subst same
        cases off : (ping.handler pong).2 <;> simp [apart, found, off]
      · cases off : (ping.handler pong).2 <;> simp [same, off]

theorem foldl_handle_listeners (pong : Pong ι) (refs : List Nat) (broker : PingBroker ι) :
    (refs.foldl (handle pong) broker).listeners.Sublist broker.listeners ∧
      (refs.foldl (handle pong) broker).created = broker.created := by
  induction refs generalizing broker with
  | nil => exact ⟨.refl _, rfl⟩
  | cons first rest ih =>
    obtain ⟨sublist, created⟩ := ih (handle pong broker first)
    have here : (handle pong broker first).listeners.Sublist broker.listeners ∧
        (handle pong broker first).created = broker.created := by
      unfold handle
      split
      · refine ⟨?_, rfl⟩
        dsimp only
        split
        · exact List.filter_sublist
        · exact .refl _
      · exact ⟨.refl _, rfl⟩
    exact ⟨sublist.trans here.1, created.trans here.2⟩

theorem Sound.listen (sound : broker.Sound) {ping : Ping ι} (waiting : Waiting ping) :
    (broker.listen ping).Sound := by
  have unused := sound.fresh broker.created le_rfl
  refine ⟨?_, fun ref later => ?_, fun ref other found => ?_⟩
  · refine List.nodup_append.mpr ⟨sound.nodup, List.nodup_singleton _, ?_⟩
    intro ref inside last equal
    rw [List.mem_singleton.mp equal]
    rintro rfl
    exact unused.2 inside
  · have later : broker.created + 1 ≤ ref := later
    have old := sound.fresh ref (by omega)
    have new : ref ≠ broker.created := by omega
    exact ⟨(Function.update_of_ne new _ _).trans old.1, by simp [PingBroker.listen, old.2, new]⟩
  · by_cases new : ref = broker.created
    · subst new
      have same : (broker.listen ping).ping broker.created = some ping := Function.update_self ..
      cases same.symm.trans found
      exact .inl ⟨by simp [PingBroker.listen], waiting⟩
    · have old : broker.ping ref = some other := (Function.update_of_ne new _ _).symm.trans found
      have inside : ref ∈ (broker.listen ping).listeners ↔ ref ∈ broker.listeners := by
        simp [PingBroker.listen, new]
      rw [inside]
      exact sound.course ref other old

theorem Sound.refuse (sound : broker.Sound) {ping : Ping ι} (settled : Settled ping) :
    (broker.refuse ping).Sound := by
  have unused := sound.fresh broker.created le_rfl
  refine ⟨sound.nodup, fun ref later => ?_, fun ref other found => ?_⟩
  · have later : broker.created + 1 ≤ ref := later
    have old := sound.fresh ref (by omega)
    exact ⟨(Function.update_of_ne (by omega) _ _).trans old.1, old.2⟩
  · by_cases new : ref = broker.created
    · subst new
      have same : (broker.refuse ping).ping broker.created = some ping := Function.update_self ..
      cases same.symm.trans found
      exact .inr ⟨unused.2, settled⟩
    · exact sound.course ref other ((Function.update_of_ne new _ _).symm.trans found)

/-- A call of `ping`. -/
theorem Sound.startPing (sound : broker.Sound) (target : Target ι) (connected : Bool)
    (nodeList : List (ι × Bool)) : (broker.startPing target connected nodeList).Sound := by
  unfold PingBroker.startPing
  split
  · split
    · exact sound.listen (waiting_single _)
    · exact sound.listen (waiting_several _)
    · exact sound.listen (waiting_several _)
  · split
    · exact sound.refuse (settled_refused _ (by simp))
    · exact sound.refuse (settled_refused _ (by simp))
    · exact sound.refuse (settled_refused _ (by simp))

theorem Sound.timeout (sound : broker.Sound) (ref : Nat) : (broker.timeout ref).Sound := by
  unfold PingBroker.timeout
  split
  · rename_i ping found
    split
    · rename_i running
      refine ⟨sound.nodup.sublist List.filter_sublist, fun other later => ?_,
        fun other changed there => ?_⟩
      · have unused := sound.fresh other later
        have apart : other ≠ ref := by
          rintro rfl
          cases found.symm.trans unused.1
        refine ⟨(Function.update_of_ne apart _ _).trans unused.1, ?_⟩
        exact fun inside => unused.2 (List.mem_of_mem_filter inside)
      · by_cases same : other = ref
        · subst same
          have fired : Function.update broker.ping other (some ping.timeout) other =
              some ping.timeout := Function.update_self ..
          cases fired.symm.trans there
          obtain ⟨_, waiting⟩ | ⟨_, settled⟩ := sound.course other ping found
          · exact .inr ⟨by simp, waiting.timeout⟩
          · cases running.symm.trans settled.timer
        · have old : broker.ping other = some changed :=
            (Function.update_of_ne same _ _).symm.trans there
          simpa [same] using sound.course other changed old
    · exact sound
  · exact sound

theorem Sound.pong (sound : broker.Sound) (payload : PongPayload ι) (now : ℚ) :
    (broker.step (.pong payload now)).Sound := by
  have kept := foldl_handle_listeners (processPong payload now) broker.listeners
    { broker with ping := fun ref => (broker.ping ref).map (·.note (processPong payload now)) }
  have effect := foldl_handle (processPong payload now) broker.listeners sound.nodup
    { broker with ping := fun ref => (broker.ping ref).map (·.note (processPong payload now)) }
  show Sound (broker.listeners.foldl (handle (processPong payload now)) _)
  refine ⟨sound.nodup.sublist kept.1, fun ref later => ?_, fun ref changed there => ?_⟩
  · rw [kept.2] at later
    have unused := sound.fresh ref later
    refine ⟨?_, fun inside => unused.2 (kept.1.subset inside)⟩
    rw [(effect ref).1]
    simp [unused.1]
  · rw [(effect ref).1] at there
    rw [(effect ref).2]
    cases found : broker.ping ref with
    | none => simp [found] at there
    | some ping =>
      simp only [found, Option.map_some] at there ⊢
      obtain ⟨listens, waiting⟩ | ⟨silent, settled⟩ := sound.course ref ping found
      · rw [if_pos listens, Option.some.injEq] at there
        subst there
        obtain ⟨goes, still⟩ | ⟨off, finished⟩ := waiting.hear (processPong payload now)
        · exact .inl ⟨⟨listens, by simp [goes]⟩, still⟩
        · exact .inr ⟨fun both => both.2 ⟨listens, _, rfl, off⟩, finished⟩
      · rw [if_neg silent, Option.some.injEq, settled.note] at there
        subst there
        exact .inr ⟨fun both => silent both.1, settled⟩

theorem Sound.step (sound : broker.Sound) (input : PingInput ι) : (broker.step input).Sound := by
  cases input with
  | ping target connected nodeList => exact sound.startPing target connected nodeList
  | pong payload now => exact sound.pong payload now
  | timeout ref => exact sound.timeout ref

theorem sound_run (nodeID : ι) (inputs : List (PingInput ι)) :
    (run step (new nodeID) inputs).Sound := by
  have always : Meets step (fun _ _ => True) (new nodeID) inputs :=
    meets_of_forall (fun _ _ => trivial) _ _
  have start : (new nodeID).Sound :=
    ⟨List.nodup_nil, fun _ _ => ⟨rfl, List.not_mem_nil⟩, fun _ _ found => (by cases found)⟩
  exact run_invariant (fun _ input sound _ => sound.step input) start always

theorem Collected.keys_iff (collected : Collected ping ids) :
    (∀ id, id ∈ ping.pongs.keys ↔ id ∈ ids) ↔ ∀ pong ∈ ping.arrived, pong.nodeID ∈ ids := by
  have key (id : ι) : id ∈ ping.pongs.keys ↔
      id ∈ ids ∨ ∃ pong ∈ ping.arrived, pong.nodeID = id := by
    rw [OrderedMap.mem_keys_iff, collected.pongs id]
    split <;> simp_all
  simp only [key]
  constructor
  · intro same pong inside
    exact (same pong.nodeID).mp (.inr ⟨pong, inside, rfl⟩)
  · intro asked id
    refine ⟨?_, .inl⟩
    rintro (inside | ⟨pong, inside, rfl⟩)
    · exact inside
    · exact asked pong inside

end Laws

/-- In every run, a ping of several nodes is right exactly if the transit was connected and no other
node has answered before the resolution. -/
theorem ping_right_iff (nodeID : ι) (inputs : List (PingInput ι)) {ref : Nat} {ping : Ping ι}
    {ids : List ι} (found : (run step (new nodeID) inputs).ping ref = some ping)
    (asked : ping.asked = .nodes ids) :
    Right (run step (new nodeID) inputs) ref ping ids ↔ Undisturbed ping ids := by
  obtain ⟨_, waiting⟩ | ⟨silent, settled⟩ := (sound_run nodeID inputs).course ref ping found
  · have nothing := waiting.unresolved
    refine ⟨fun _ => ⟨waiting.connected, fun resolved => absurd nothing resolved⟩, fun _ => ?_⟩
    refine ⟨by simp [nothing], fun _ => waiting.timer, fun late => ?_, by simp [nothing],
      ?_, ?_, ?_⟩
    · cases waiting.inTime.symm.trans late
    · exact fun resolved => absurd nothing resolved
    · exact fun resolved => absurd nothing resolved
    · exact fun resolved => absurd nothing resolved
  · have resolved : ping.resolutions ≠ [] := by
      intro empty
      have once := settled.once
      rw [empty] at once
      cases once
    cases connected : ping.connected with
    | false =>
      -- The promise was resolved to something else than the object.
      refine ⟨fun right => ?_, fun clean => absurd clean.1 (by simp [connected])⟩
      obtain ⟨value, inside⟩ := List.exists_mem_of_ne_nil _ resolved
      rw [(right.keys value inside).1] at inside
      exact absurd inside (settled.refused ids asked connected)
    | true =>
      obtain ⟨value, collected, early⟩ := settled.collected ids asked connected
      constructor
      · intro right
        refine ⟨connected, fun _ => collected.keys_iff.mp ?_⟩
        exact (right.keys .pongs (by simp [value])).2
      · intro clean
        refine ⟨settled.once.le, fun empty => absurd empty resolved, fun _ => resolved, ?_, ?_, ?_,
          fun _ => silent⟩
        · intro other inside
          rw [value, List.mem_singleton] at inside
          exact ⟨inside, collected.keys_iff.mpr (clean.2 resolved)⟩
        · intro _ id inside
          rw [collected.pongs id, if_pos (.inl inside)]
        · intro _ inTime id inside
          by_contra missing
          have left : id ∈ ping.processing :=
            (collected.processing id).mpr ⟨inside, fun pong there same =>
              missing ⟨pong, there, same⟩⟩
          rw [early inTime] at left
          cases left

/-- Two nodes are asked, and both answer. -/
theorem ping_right_iff_two :
    ∃ ping : Ping String, (run step (new "node-1")
        [.ping (.nodes ["node-2", "node-3"]) true [], .pong ⟨"node-3", 0, 5, "a"⟩ 10,
          .pong ⟨"node-2", 0, 5, "b"⟩ 11]).ping 0 = some ping ∧
      (Right (run step (new "node-1")
        [.ping (.nodes ["node-2", "node-3"]) true [], .pong ⟨"node-3", 0, 5, "a"⟩ 10,
          .pong ⟨"node-2", 0, 5, "b"⟩ 11]) 0 ping ["node-2", "node-3"] ↔
        Undisturbed ping ["node-2", "node-3"]) :=
  ⟨_, rfl, ping_right_iff "node-1" _ rfl rfl⟩

/-- The answer to a ping of another node gets into the result. -/
theorem other_node_in_pongs :
    ∃ ping : Ping String, (run step (new "node-1")
        [.ping (.nodes ["node-2"]) true [], .ping (.node "node-3") true [],
          .pong ⟨"node-3", 0, 5, "b"⟩ 10, .pong ⟨"node-2", 0, 5, "a"⟩ 11]).ping 0 = some ping ∧
      ping.asked = .nodes ["node-2"] ∧
      ¬ Right (run step (new "node-1")
        [.ping (.nodes ["node-2"]) true [], .ping (.node "node-3") true [],
          .pong ⟨"node-3", 0, 5, "b"⟩ 10, .pong ⟨"node-2", 0, 5, "a"⟩ 11]) 0 ping ["node-2"] := by
  refine ⟨_, rfl, rfl, fun right => ?_⟩
  have keys := (right.keys .pongs (by decide +kernel)).2 "node-3"
  exact absurd (keys.mp (by decide +kernel)) (by decide)

end PingBroker

end Moleculer.Pings
