import Moleculer.Bulkhead.Bulkhead

/-! What the bulkhead guarantees as long as every handler returns a promise, and that a handler
that throws breaks it. -/

namespace Moleculer.Bulkhead

open Base

variable {ρ ε : Type}

/-- What a callback settles when it is over. -/
def Callback.answer (callback : Callback ρ ε) : Option (Nat × Except ε ρ) :=
  if callback.job.queued then none else some (callback.job.id, callback.outcome)

/-- What is settled when a call of the handler returns. -/
def Frame.answer : Frame ρ ε → Option (Nat × Except ε ρ)
  | .direct _ => none
  | .next _ callback => callback.answer

/-- The request whose handler is being called. -/
def Frame.id : Frame ρ ε → Nat
  | .direct id => id
  | .next id _ => id

/-- The handlers return promises. -/
def Event.Promised : Event ρ ε → Prop
  | .throws _ => False
  | _ => True

namespace State

variable {s : State ρ ε} {wrapper : Wrapper} {pending : List (Nat × Except ε ρ)}
  {callback : Callback ρ ε} {id : Nat} {outcome : Except ε ρ}

/-- The bound on the handlers and on the queue, the order of the queue, and that every request that
is not refused runs once and is answered with the outcome of its run. -/
structure Accounted (wrapper : Wrapper) (s : State ρ ε) : Prop where
  inFlight : s.currentInFlight = s.running.length
  /-- The runs that are counted are those that were started and have not ended. -/
  runs : ∀ id, (s.running.map Job.id).count id + (s.ended.map Prod.fst).count id =
    (s.started.map Job.id).count id
  atMost : s.running.length ≤ wrapper.opts.concurrency
  queue : ∀ most, wrapper.opts.maxQueueSize = some most → most ≠ 0 → s.queue.length ≤ most
  busy : s.queue ≠ [] → s.running.length = wrapper.opts.concurrency
  /-- The requests that were started from the queue and those that are in it, in the order of their
  arrival. -/
  inOrder : ((s.started.filter Job.queued).map Job.id ++ s.queue).Pairwise (· < ·)
  refusal : ∀ ctx, (s.bulkheadMiddleware wrapper ctx).refused ≠ s.refused →
    s.running.length = wrapper.opts.concurrency ∧
      ∃ most, wrapper.opts.maxQueueSize = some most ∧ most ≠ 0 ∧ s.queue.length = most
  once : ∀ id, id < s.arrivals → id ∉ s.refused.map Prod.fst →
    (id ∈ s.queue ∧ (s.started.map Job.id).count id = 0) ∨
      (id ∉ s.queue ∧ (s.started.map Job.id).count id = 1)
  settledOnce : (s.settled.map Prod.fst).Nodup
  settled : ∀ entry ∈ s.settled, entry ∈ s.ended
  answered : s.stack = [] → ∀ entry ∈ s.ended, entry ∈ s.settled

/-- Some code that is still to run will settle the request. -/
def Awaited (s : State ρ ε) (id : Nat) : Prop :=
  id ∈ s.queue ∨ id ∈ s.running.map Job.id ∨
    id ∈ (s.stack.filterMap Frame.answer).map Prod.fst ∨
    ∃ entry ∈ s.failing, entry.1.queued = false ∧ entry.1.id = id

/-- The counter is the number of runs that have started and not ended, every run that has ended
has given its slot back once, and every request that is not refused is settled once or will be. -/
structure Balanced (s : State ρ ε) : Prop where
  inFlight : s.currentInFlight = s.running.length
  returned : ∀ id, s.released.count id = (s.ended.map Prod.fst).count id
  answered : ∀ id, id < s.arrivals → id ∉ s.refused.map Prod.fst →
    (s.Awaited id ∧ (s.settled.map Prod.fst).count id = 0) ∨
      (¬ s.Awaited id ∧ (s.settled.map Prod.fst).count id = 1)

/-- The books of a bulkhead whose handlers have not thrown, while some answers are in the hand of
the code that is running. -/
structure Ledger (s : State ρ ε) (pending : List (Nat × Except ε ρ)) : Prop where
  inFlight : s.currentInFlight = s.running.length
  failing : s.failing = []
  numbered : ∀ id, (s.started.map Job.id).count id + s.queue.count id +
    (s.refused.map Prod.fst).count id = if id < s.arrivals then 1 else 0
  runs : ∀ id, (s.running.map Job.id).count id + (s.ended.map Prod.fst).count id =
    (s.started.map Job.id).count id
  ordered : ((s.started.filter Job.queued).map Job.id ++ s.queue).Pairwise (· < ·)
  answers : (s.settled ++ (pending ++ s.stack.filterMap Frame.answer)).Perm s.ended
  returned : ∀ id, s.released.count id = (s.ended.map Prod.fst).count id
  called : ∀ frame ∈ s.stack, frame.id ∈ s.running.map Job.id

/-- The bounds. -/
structure Bounded (wrapper : Wrapper) (s : State ρ ε) : Prop where
  atMost : s.running.length ≤ wrapper.opts.concurrency
  queue : ∀ most, wrapper.opts.maxQueueSize = some most → most ≠ 0 → s.queue.length ≤ most
  busy : s.queue ≠ [] → s.running.length = wrapper.opts.concurrency

/-- Everything that holds between two steps. -/
structure Sound (wrapper : Wrapper) (s : State ρ ε) : Prop where
  ledger : s.Ledger []
  bounded : s.Bounded wrapper

/-! The books. -/

theorem Ledger.started_le (ledger : s.Ledger pending) (id : Nat) :
    (s.started.map Job.id).count id ≤ 1 := by
  have numbered := ledger.numbered id
  split at numbered <;> omega

theorem Ledger.ended_le (ledger : s.Ledger pending) (id : Nat) :
    (s.ended.map Prod.fst).count id ≤ 1 := by
  have runs := ledger.runs id
  have started := ledger.started_le id
  omega

theorem Ledger.ended_count (ledger : s.Ledger pending) (id : Nat) :
    (s.settled.map Prod.fst).count id + ((pending.map Prod.fst).count id +
      ((s.stack.filterMap Frame.answer).map Prod.fst).count id) =
      (s.ended.map Prod.fst).count id := by
  have same := (ledger.answers.map Prod.fst).count_eq id
  simpa only [List.map_append, List.count_append] using same

theorem Ledger.unsettled (ledger : s.Ledger ((id, outcome) :: pending)) :
    s.settled.any (fun entry => entry.1 = id) = false := by
  have count := ledger.ended_count id
  have once := ledger.ended_le id
  rw [List.map_cons, List.count_cons_self] at count
  have none : (s.settled.map Prod.fst).count id = 0 := by omega
  rw [List.count_eq_zero, List.mem_map] at none
  rw [List.any_eq_false]
  intro entry inside same
  exact none ⟨entry, inside, of_decide_eq_true same⟩

theorem Ledger.settle (ledger : s.Ledger ((id, outcome) :: pending)) :
    (s.settle id outcome).Ledger pending := by
  have eq : s.settle id outcome = { s with settled := s.settled ++ [(id, outcome)] } := by
    rw [State.settle, ledger.unsettled]
    rfl
  rw [eq]
  refine { ledger with answers := ?_ }
  simpa using ledger.answers

theorem Ledger.resume (ledger : s.Ledger callback.answer.toList) :
    (s.resume callback).Ledger [] := by
  unfold Callback.answer at ledger
  unfold State.resume
  split
  · rename_i queued
    rw [if_pos queued] at ledger
    exact ledger
  · rename_i direct
    rw [if_neg direct] at ledger
    exact ledger.settle

theorem next_number {arrivals id total : Nat} (numbered : total = if id < arrivals then 1 else 0) :
    total + [arrivals].count id = if id < arrivals + 1 then 1 else 0 := by
  rw [numbered, List.count_singleton]
  simp only [beq_iff_eq]
  split_ifs <;> omega

theorem Ledger.start {arrivals : Nat} {queue : List Nat} {job : Job} {frame : Frame ρ ε}
    (ledger : s.Ledger pending) (same : frame.id = job.id)
    (numbered : ∀ id, (s.started.map Job.id).count id + [job.id].count id + queue.count id +
      (s.refused.map Prod.fst).count id = if id < arrivals then 1 else 0)
    (ordered : (((s.started ++ [job]).filter Job.queued).map Job.id ++ queue).Pairwise (· < ·))
    (answers : frame.answer.toList = pending) :
    (State.start { s with arrivals := arrivals, queue := queue } job frame).Ledger [] := by
  constructor
  case inFlight =>
    have inFlight := ledger.inFlight
    simp only [State.start, List.length_append, List.length_singleton]
    omega
  case failing => exact ledger.failing
  case numbered =>
    intro id
    refine Eq.trans ?_ (numbered id)
    simp only [State.start, List.map_append, List.map_cons, List.map_nil, List.count_append]
  case runs =>
    intro id
    have runs := ledger.runs id
    simp only [State.start, List.map_append, List.count_append]
    omega
  case ordered => exact ordered
  case answers =>
    have before := ledger.answers
    rw [← answers] at before
    cases answer : frame.answer <;> simpa [State.start, List.filterMap_cons, answer] using before
  case returned => exact ledger.returned
  case called =>
    intro called inside
    simp only [State.start, List.mem_cons, List.map_append, List.mem_append] at inside ⊢
    obtain rfl | inside := inside
    · exact .inr (same ▸ List.mem_cons_self)
    · exact .inl (ledger.called called inside)

theorem Ledger.direct (ledger : s.Ledger []) :
    (State.start { s with arrivals := s.arrivals + 1 } ⟨s.arrivals, false⟩
      (.direct s.arrivals)).Ledger [] := by
  refine ledger.start rfl (fun id => ?_) ?_ rfl
  · refine Eq.trans ?_ (next_number (ledger.numbered id))
    dsimp only
    omega
  · simpa [List.filter_append] using ledger.ordered

theorem Ledger.next {rest : List Nat} (ledger : s.Ledger callback.answer.toList)
    (queue : s.queue = id :: rest) :
    (State.start { s with queue := rest } ⟨id, true⟩ (.next id callback)).Ledger [] := by
  refine ledger.start rfl (fun other => ?_) ?_ rfl
  · have numbered := ledger.numbered other
    rw [queue, ← List.singleton_append, List.count_append] at numbered
    dsimp only
    omega
  · have ordered := ledger.ordered
    rw [queue] at ordered
    simpa [List.filter_append] using ordered

theorem length_filter_running (jobs : List Job) (id : Nat) :
    (jobs.filter (·.id ≠ id)).length + (jobs.map Job.id).count id = jobs.length := by
  rw [List.count, List.countP_map, ← List.countP_eq_length_filter, Nat.add_comm,
    List.length_eq_countP_add_countP (fun job : Job => job.id == id)]
  congr 1
  exact List.countP_congr fun job _ => by simp

theorem count_filter_running (jobs : List Job) (id other : Nat) :
    ((jobs.filter (·.id ≠ id)).map Job.id).count other =
      if other = id then 0 else (jobs.map Job.id).count other := by
  have filtered : (jobs.filter (·.id ≠ id)).map Job.id = (jobs.map Job.id).filter (· ≠ id) := by
    rw [List.filter_map]
    rfl
  rw [filtered]
  split
  · rename_i same
    exact List.count_eq_zero.mpr (by simp [same])
  · rename_i differs
    exact List.count_filter (by simpa using differs)

theorem Ledger.finish (ledger : s.Ledger []) (idle : s.stack = [])
    (running : id ∈ s.running.map Job.id) (outcome : Except ε ρ) :
    ((s.finish id outcome).release id).Ledger [(id, outcome)] ∧
      (s.running.filter (·.id ≠ id)).length + 1 = s.running.length := by
  have runs := ledger.runs id
  have once := ledger.started_le id
  have there : 0 < (s.running.map Job.id).count id := List.count_pos_iff.mpr running
  have length := length_filter_running s.running id
  have fewer : (s.running.filter (·.id ≠ id)).length + 1 = s.running.length := by omega
  refine ⟨?_, fewer⟩
  constructor
  case inFlight =>
    have inFlight := ledger.inFlight
    show s.currentInFlight - 1 = ((s.running.filter (·.id ≠ id)).length : Int)
    omega
  case failing => exact ledger.failing
  case numbered => exact ledger.numbered
  case runs =>
    intro other
    have runs := ledger.runs other
    show ((s.running.filter (·.id ≠ id)).map Job.id).count other + _ = _
    rw [count_filter_running]
    simp only [release, State.finish, List.map_append, List.map_cons, List.map_nil,
      List.count_append, List.count_singleton, beq_iff_eq]
    by_cases same : other = id
    · subst same
      simp only [if_true]
      omega
    · rw [if_neg same, if_neg (Ne.symm same)]
      omega
  case ordered => exact ledger.ordered
  case answers =>
    have answers := ledger.answers
    simp only [release, State.finish, idle, List.filterMap_nil, List.append_nil] at answers ⊢
    exact answers.append_right _
  case returned =>
    intro other
    have returned := ledger.returned other
    simp only [release, State.finish, List.map_append, List.count_append, List.map_cons,
      List.map_nil]
    omega
  case called =>
    intro frame inside
    simp only [release, State.finish, idle, List.not_mem_nil] at inside

theorem Ledger.below (ledger : s.Ledger pending)
    (inside : id ∈ (s.started.filter Job.queued).map Job.id ++ s.queue) : id < s.arrivals := by
  have numbered := ledger.numbered id
  by_contra above
  rw [if_neg above] at numbered
  rw [List.mem_append] at inside
  obtain taken | waits := inside
  · have among : id ∈ s.started.map Job.id := by
      obtain ⟨job, there, same⟩ := List.mem_map.mp taken
      exact List.mem_map.mpr ⟨job, (List.mem_filter.mp there).1, same⟩
    have := List.count_pos_iff.mpr among
    omega
  · have := List.count_pos_iff.mpr waits
    omega

/-! The steps. -/

theorem settle_frame (s : State ρ ε) (id : Nat) (outcome : Except ε ρ) :
    (s.settle id outcome).queue = s.queue ∧ (s.settle id outcome).running = s.running ∧
      (s.settle id outcome).started = s.started ∧ (s.settle id outcome).ended = s.ended ∧
      (s.settle id outcome).currentInFlight = s.currentInFlight ∧
      (s.settle id outcome).released = s.released := by
  unfold settle
  split <;> exact ⟨rfl, rfl, rfl, rfl, rfl, rfl⟩

theorem resume_frame (s : State ρ ε) (callback : Callback ρ ε) :
    (s.resume callback).queue = s.queue ∧ (s.resume callback).running = s.running ∧
      (s.resume callback).started = s.started ∧ (s.resume callback).ended = s.ended := by
  unfold resume
  split
  · exact ⟨rfl, rfl, rfl, rfl⟩
  · obtain ⟨queue, running, started, ended, -⟩ := settle_frame s callback.job.id callback.outcome
    exact ⟨queue, running, started, ended⟩

/-- `callNext` after a slot was given back. If anyone waits, the first one is started. -/
theorem callNext_spec (ledger : s.Ledger callback.answer.toList)
    (free : s.queue ≠ [] → s.running.length + 1 = wrapper.opts.concurrency) :
    (s.callNext wrapper callback).Ledger [] ∧
      (s.callNext wrapper callback).ended = s.ended ∧
      (s.callNext wrapper callback).queue = s.queue.tail ∧
      (s.queue = [] → (s.callNext wrapper callback).running = s.running ∧
        (s.callNext wrapper callback).started = s.started) ∧
      ∀ id rest, s.queue = id :: rest →
        (s.callNext wrapper callback).running = s.running ++ [⟨id, true⟩] ∧
        (s.callNext wrapper callback).started = s.started ++ [⟨id, true⟩] := by
  unfold callNext
  cases queue : s.queue with
  | nil =>
    obtain ⟨sameQueue, running, started, ended⟩ := resume_frame s callback
    exact ⟨ledger.resume, ended, sameQueue.trans queue, fun _ => ⟨running, started⟩, nofun⟩
  | cons id rest =>
    have inFlight := ledger.inFlight
    have room : ¬ (wrapper.opts.concurrency : Int) ≤ s.currentInFlight := by
      have := free (by rw [queue]; exact nofun)
      omega
    dsimp only
    rw [if_neg room]
    refine ⟨ledger.next queue, rfl, rfl, nofun, fun other others same => ?_⟩
    cases same
    exact ⟨rfl, rfl⟩

/-- The callback of a run that has just ended. -/
theorem call_spec (sound : s.Sound wrapper) (idle : s.stack = []) {job : Job}
    (running : job ∈ s.running) (outcome : Except ε ρ) :
    ((s.finish job.id outcome).call wrapper ⟨job, outcome⟩).Sound wrapper ∧
      ((s.finish job.id outcome).call wrapper ⟨job, outcome⟩).ended =
        s.ended ++ [(job.id, outcome)] ∧
      ((s.finish job.id outcome).call wrapper ⟨job, outcome⟩).queue = s.queue.tail ∧
      ((s.finish job.id outcome).call wrapper ⟨job, outcome⟩).started =
        s.started ++ (s.queue.head?.map (Job.mk · true)).toList := by
  obtain ⟨ledger, fewer⟩ :=
    sound.ledger.finish idle (List.mem_map_of_mem running) outcome
  -- The state in which `callNext` is called, and what is in hand then.
  obtain ⟨freed, eq, ledger, queue, nowRunning, started, ended⟩ : ∃ freed : State ρ ε,
      (s.finish job.id outcome).call wrapper ⟨job, outcome⟩ =
        freed.callNext wrapper ⟨job, outcome⟩ ∧
      freed.Ledger (Callback.answer ⟨job, outcome⟩).toList ∧ freed.queue = s.queue ∧
      freed.running = s.running.filter (·.id ≠ job.id) ∧ freed.started = s.started ∧
      freed.ended = s.ended ++ [(job.id, outcome)] := by
    refine ⟨_, rfl, ?_⟩
    unfold Callback.answer
    dsimp only
    split
    · obtain ⟨queue, nowRunning, started, ended, -⟩ :=
        settle_frame ((s.finish job.id outcome).release job.id) job.id outcome
      exact ⟨ledger.settle, queue, nowRunning, started, ended⟩
    · exact ⟨ledger, rfl, rfl, rfl, rfl⟩
  have bounded := sound.bounded
  have free : freed.queue ≠ [] → freed.running.length + 1 = wrapper.opts.concurrency := by
    rw [queue, nowRunning, fewer]
    exact bounded.busy
  obtain ⟨kept, sameEnded, tail, whenEmpty, whenNot⟩ := callNext_spec ledger free
  rw [eq, sameEnded, tail, ended, queue]
  refine ⟨⟨kept, ?_⟩, rfl, rfl, ?_⟩
  · cases waiting : s.queue with
    | nil =>
      obtain ⟨unchanged, -⟩ := whenEmpty (queue.trans waiting)
      constructor
      case atMost =>
        have := bounded.atMost
        rw [unchanged, nowRunning]
        omega
      case queue =>
        intro most _ _
        rw [tail, queue, waiting]
        exact Nat.zero_le most
      case busy =>
        rw [tail, queue, waiting]
        exact fun wrong => absurd rfl wrong
    | cons first rest =>
      obtain ⟨extended, -⟩ := whenNot first rest (queue.trans waiting)
      have busy := bounded.busy (by rw [waiting]; exact nofun)
      have full : (freed.callNext wrapper ⟨job, outcome⟩).running.length =
          wrapper.opts.concurrency := by
        rw [extended, List.length_append, nowRunning, List.length_singleton]
        omega
      constructor
      case atMost => exact Nat.le_of_eq full
      case queue =>
        intro most set positive
        have := bounded.queue most set positive
        rw [waiting, List.length_cons] at this
        rw [tail, queue, waiting, List.tail_cons]
        omega
      case busy => exact fun _ => full
  · cases waiting : s.queue with
    | nil =>
      rw [(whenEmpty (queue.trans waiting)).2, started]
      exact (List.append_nil _).symm
    | cons first rest =>
      rw [(whenNot first rest (queue.trans waiting)).2, started]
      rfl

theorem full_iff (opts : Options) (size : Nat) :
    opts.full size = true ↔ ∃ most, opts.maxQueueSize = some most ∧ most ≠ 0 ∧ most ≤ size := by
  unfold Options.full
  cases opts.maxQueueSize <;> simp

theorem Sound.arrive (sound : s.Sound wrapper) (ctx : Ctx) :
    (s.bulkheadMiddleware wrapper ctx).Sound wrapper := by
  obtain ⟨ledger, bounded⟩ := sound
  have inFlight := ledger.inFlight
  have atMost := bounded.atMost
  unfold bulkheadMiddleware
  dsimp only
  split
  · rename_i room
    refine ⟨ledger.direct, ?_⟩
    constructor
    case atMost =>
      simp only [start, List.length_append, List.length_singleton]
      omega
    case queue => exact bounded.queue
    case busy =>
      -- While someone waits, there is no room.
      intro waiting
      have := bounded.busy waiting
      omega
  · rename_i noRoom
    split
    · refine ⟨{ ledger with numbered := fun id => ?_ }, { bounded with }⟩
      refine Eq.trans ?_ (next_number (ledger.numbered id))
      simp only [List.map_append, List.map_cons, List.map_nil, List.count_append]
      omega
    · rename_i fits
      refine ⟨{ ledger with numbered := fun id => ?_, ordered := ?_ }, ?_⟩
      · refine Eq.trans ?_ (next_number (ledger.numbered id))
        simp only [List.count_append]
        omega
      · -- The new number is above all that were given before.
        rw [← List.append_assoc, List.pairwise_append]
        refine ⟨ledger.ordered, List.pairwise_singleton _ _, fun id inside last lastly => ?_⟩
        rw [List.mem_singleton.mp lastly]
        exact ledger.below inside
      · constructor
        case atMost => exact atMost
        case queue =>
          intro most set positive
          have notFull := mt (full_iff wrapper.opts s.queue.length).mpr fits
          rw [List.length_append, List.length_singleton]
          by_contra above
          exact notFull ⟨most, set, positive, by omega⟩
        case busy =>
          intro _
          show s.running.length = wrapper.opts.concurrency
          omega

theorem Sound.returns (sound : s.Sound wrapper) : s.returns.Sound wrapper := by
  obtain ⟨ledger, bounded⟩ := sound
  unfold State.returns
  cases stack : s.stack with
  | nil => exact ⟨ledger, bounded⟩
  | cons frame rest =>
    have answers := ledger.answers
    rw [stack] at answers
    have called : ∀ frame ∈ rest, frame.id ∈ s.running.map Job.id := fun frame inside =>
      ledger.called frame (by rw [stack]; exact List.mem_cons_of_mem _ inside)
    cases frame with
    | direct id =>
      exact ⟨{ ledger with answers := answers, called := called }, { bounded with }⟩
    | next id callback =>
      -- The answer that the call held back is now in hand.
      have inHand : State.Ledger { s with stack := rest } callback.answer.toList := by
        refine { ledger with answers := ?_, called := called }
        cases answer : callback.answer with
        | none => simpa [List.filterMap_cons, Frame.answer, answer] using answers
        | some entry => simpa [List.filterMap_cons, Frame.answer, answer] using answers
      obtain ⟨queue, running, -, -⟩ := resume_frame { s with stack := rest } callback
      refine ⟨inHand.resume, ?_⟩
      constructor
      case atMost => rw [running]; exact bounded.atMost
      case queue => rw [queue]; exact bounded.queue
      case busy => rw [queue, running]; exact bounded.busy

theorem settles_spec (sound : s.Sound wrapper) (id : Nat) (outcome : Except ε ρ) :
    (s.settles wrapper id outcome = s) ∨
      (s.settles wrapper id outcome).Sound wrapper ∧
      (s.settles wrapper id outcome).ended = s.ended ++ [(id, outcome)] ∧
      (s.settles wrapper id outcome).queue = s.queue.tail ∧
      (s.settles wrapper id outcome).started =
        s.started ++ (s.queue.head?.map (Job.mk · true)).toList := by
  unfold settles
  split
  · rename_i job idle found
    have same : job.id = id := by simpa using List.find?_some found
    rw [← same]
    exact .inr (call_spec sound idle (List.mem_of_find?_eq_some found) outcome)
  · exact .inl rfl

/-- A run that no handler has broken has no `catch` callback that is due. -/
theorem Sound.catches (sound : s.Sound wrapper) (id : Nat) : s.catches wrapper id = s := by
  unfold State.catches
  rw [sound.ledger.failing]
  split
  · rename_i found
    cases found
  · rfl

/-- A step in which no handler throws. -/
def Calm (s : State ρ ε) : Event ρ ε → Prop
  | .throws _ => s.stack = []
  | _ => True

theorem Sound.step (sound : s.Sound wrapper) (event : Event ρ ε) (calm : s.Calm event) :
    (s.step wrapper event).Sound wrapper := by
  cases event with
  | arrive ctx => exact sound.arrive ctx
  | returns => exact sound.returns
  | throws err =>
    show (s.throws err).Sound wrapper
    unfold throws
    rw [show s.stack = [] from calm]
    exact sound
  | settles id outcome =>
    show (s.settles wrapper id outcome).Sound wrapper
    obtain same | ⟨kept, -⟩ := settles_spec sound id outcome
    · rw [same]
      exact sound
    · exact kept
  | catches id =>
    show (s.catches wrapper id).Sound wrapper
    rw [sound.catches id]
    exact sound

theorem sound_initial (wrapper : Wrapper) : (initial : State ρ ε).Sound wrapper := by
  refine ⟨⟨rfl, rfl, fun _ => rfl, fun _ => rfl, List.Pairwise.nil, List.Perm.refl _,
    fun _ => rfl, nofun⟩, ⟨Nat.zero_le _, fun most _ _ => Nat.zero_le most, ?_⟩⟩
  exact fun wrong => absurd rfl wrong

theorem calm_of_promised {events : List (Event ρ ε)}
    (promised : ∀ event ∈ events, event.Promised) (s : State ρ ε) :
    Meets (step wrapper) Calm s events := by
  induction events generalizing s with
  | nil => trivial
  | cons event rest ih =>
    refine ⟨?_, ih (fun event inside => promised event (List.mem_cons_of_mem _ inside)) _⟩
    have first := promised event List.mem_cons_self
    cases event with
    | throws err => exact first.elim
    | arrive ctx => trivial
    | returns => trivial
    | settles id outcome => trivial
    | catches id => trivial

/-! Waiting in the queue. -/

/-- No run has ended; requests may have joined the queue, and others may have been started. -/
def Grows (s after : State ρ ε) : Prop :=
  ∃ later more, after.queue = s.queue ++ later ∧ after.ended = s.ended ∧
    after.started = s.started ++ more

theorem grows_of_eq {after : State ρ ε} (queue : after.queue = s.queue)
    (ended : after.ended = s.ended) (started : after.started = s.started) : s.Grows after :=
  ⟨[], [], by rw [queue, List.append_nil], ended, by rw [started, List.append_nil]⟩

theorem Sound.step_cases (sound : s.Sound wrapper) (event : Event ρ ε) (calm : s.Calm event) :
    s.Grows (s.step wrapper event) ∨
    ∃ entry, (s.step wrapper event).queue = s.queue.tail ∧
      (s.step wrapper event).ended = s.ended ++ [entry] ∧
      (s.step wrapper event).started =
        s.started ++ (s.queue.head?.map (Job.mk · true)).toList := by
  cases event with
  | arrive ctx =>
    refine .inl ?_
    show s.Grows (s.bulkheadMiddleware wrapper ctx)
    unfold bulkheadMiddleware
    dsimp only
    split
    · exact ⟨[], _, (List.append_nil _).symm, rfl, rfl⟩
    · split
      · exact grows_of_eq rfl rfl rfl
      · exact ⟨_, [], rfl, rfl, (List.append_nil _).symm⟩
  | returns =>
    refine .inl ?_
    show s.Grows s.returns
    unfold State.returns
    split
    · exact grows_of_eq rfl rfl rfl
    · exact grows_of_eq rfl rfl rfl
    · rename_i callback rest _
      obtain ⟨queue, -, started, ended⟩ := resume_frame { s with stack := rest } callback
      exact grows_of_eq queue ended started
  | throws err =>
    refine .inl ?_
    show s.Grows (s.throws err)
    unfold throws
    rw [show s.stack = [] from calm]
    exact grows_of_eq rfl rfl rfl
  | settles id outcome =>
    obtain same | ⟨-, ended, queue, started⟩ := settles_spec sound id outcome
    · refine .inl ?_
      show s.Grows (s.settles wrapper id outcome)
      rw [same]
      exact grows_of_eq rfl rfl rfl
    · exact .inr ⟨(id, outcome), queue, ended, started⟩
  | catches id =>
    refine .inl ?_
    show s.Grows (s.catches wrapper id)
    rw [sound.catches id]
    exact grows_of_eq rfl rfl rfl

theorem Sound.started_kept (sound : s.Sound wrapper) (event : Event ρ ε) (calm : s.Calm event)
    (started : id ∈ s.started.map Job.id) : id ∈ (s.step wrapper event).started.map Job.id := by
  obtain ⟨_, more, -, -, eq⟩ | ⟨_, -, -, eq⟩ := sound.step_cases event calm
  · rw [eq, List.map_append]
    exact List.mem_append_left _ started
  · rw [eq, List.map_append]
    exact List.mem_append_left _ started

theorem Sound.waiting (sound : s.Sound wrapper) {place : Nat} (waits : s.queue[place]? = some id)
    (event : Event ρ ε) (calm : s.Calm event) :
    id ∈ (s.step wrapper event).started.map Job.id ∨
      ∃ place', (s.step wrapper event).queue[place']? = some id ∧
        place' + (s.step wrapper event).ended.length ≤ place + s.ended.length := by
  obtain ⟨later, _, queue, ended, -⟩ | ⟨entry, queue, ended, started⟩ := sound.step_cases event calm
  · have inside := (List.getElem?_eq_some_iff.mp waits).1
    refine .inr ⟨place, ?_, by rw [ended]⟩
    rw [queue, List.getElem?_append_left inside, waits]
  · rw [queue, ended, started]
    cases list : s.queue with
    | nil =>
      rw [list] at waits
      cases waits
    | cons first rest =>
      rw [list] at waits
      cases place with
      | zero =>
        -- It is the first one in the queue, and the slot is its own.
        cases waits
        exact .inl (by simp)
      | succ place =>
        refine .inr ⟨place, waits, ?_⟩
        rw [List.length_append, List.length_singleton]
        omega

theorem Sound.waiting_run (sound : s.Sound wrapper) {place : Nat}
    (waits : s.queue[place]? = some id) {events : List (Event ρ ε)}
    (calm : Meets (State.step wrapper) Calm s events) :
    id ∈ (run (State.step wrapper) s events).started.map Job.id ∨
      ∃ place', (run (State.step wrapper) s events).queue[place']? = some id ∧
        place' + (run (State.step wrapper) s events).ended.length ≤ place + s.ended.length := by
  induction events generalizing s place with
  | nil => exact .inr ⟨place, waits, Nat.le_refl _⟩
  | cons event rest ih =>
    have next := sound.step event calm.1
    obtain started | ⟨moved, waits, closer⟩ := sound.waiting waits event calm.1
    · have kept : ∀ (s : State ρ ε) (event : Event ρ ε),
          s.Sound wrapper ∧ id ∈ s.started.map Job.id → s.Calm event →
          (s.step wrapper event).Sound wrapper ∧ id ∈ (s.step wrapper event).started.map Job.id :=
        fun s event known calm =>
          ⟨known.1.step event calm, known.1.started_kept event calm known.2⟩
      exact .inl (run_invariant kept ⟨next, started⟩ calm.2).2
    · obtain started | ⟨last, waits, closest⟩ := ih next waits calm.2
      · exact .inl started
      · exact .inr ⟨last, waits, Nat.le_trans closest closer⟩

/-! The results. -/

theorem Sound.refusal (sound : s.Sound wrapper) (ctx : Ctx)
    (refused : (s.bulkheadMiddleware wrapper ctx).refused ≠ s.refused) :
    s.running.length = wrapper.opts.concurrency ∧
      ∃ most, wrapper.opts.maxQueueSize = some most ∧ most ≠ 0 ∧ s.queue.length = most := by
  have inFlight := sound.ledger.inFlight
  have atMost := sound.bounded.atMost
  unfold bulkheadMiddleware at refused
  dsimp only at refused
  split at refused
  · exact absurd rfl refused
  · split at refused
    · rename_i noRoom full
      obtain ⟨most, set, positive, reached⟩ := (full_iff _ _).mp full
      have bound := sound.bounded.queue most set positive
      exact ⟨by omega, most, set, positive, by omega⟩
    · exact absurd rfl refused

theorem Sound.accounted (sound : s.Sound wrapper) : s.Accounted wrapper := by
  obtain ⟨ledger, bounded⟩ := sound
  have answers := ledger.answers
  rw [List.nil_append] at answers
  constructor
  case inFlight => exact ledger.inFlight
  case runs => exact ledger.runs
  case atMost => exact bounded.atMost
  case queue => exact bounded.queue
  case busy => exact bounded.busy
  case inOrder => exact ledger.ordered
  case refusal => exact Sound.refusal ⟨ledger, bounded⟩
  case once =>
    intro id arrived accepted
    have numbered := ledger.numbered id
    rw [if_pos arrived, List.count_eq_zero.mpr accepted] at numbered
    by_cases waits : id ∈ s.queue
    · have := List.count_pos_iff.mpr waits
      exact .inl ⟨waits, by omega⟩
    · have := List.count_eq_zero.mpr waits
      exact .inr ⟨waits, by omega⟩
  case settledOnce =>
    refine List.nodup_iff_count_le_one.mpr fun id => ?_
    have count := ledger.ended_count id
    have once := ledger.ended_le id
    omega
  case settled => exact fun entry inside => answers.subset (List.mem_append_left _ inside)
  case answered =>
    intro idle entry inside
    rw [idle, List.filterMap_nil, List.append_nil] at answers
    exact answers.symm.subset inside

theorem Sound.balanced (sound : s.Sound wrapper) : s.Balanced := by
  have ledger := sound.ledger
  constructor
  case inFlight => exact ledger.inFlight
  case returned => exact ledger.returned
  case answered =>
    intro id arrived accepted
    have numbered := ledger.numbered id
    have runs := ledger.runs id
    have ended := ledger.ended_count id
    rw [if_pos arrived, List.count_eq_zero.mpr accepted] at numbered
    rw [List.map_nil, List.count_nil] at ended
    by_cases waits : id ∈ s.queue
    · have := List.count_pos_iff.mpr waits
      exact .inl ⟨.inl waits, by omega⟩
    by_cases running : id ∈ s.running.map Job.id
    · have := List.count_pos_iff.mpr running
      exact .inl ⟨.inr (.inl running), by omega⟩
    by_cases held : id ∈ (s.stack.filterMap Frame.answer).map Prod.fst
    · have := List.count_pos_iff.mpr held
      exact .inl ⟨.inr (.inr (.inl held)), by omega⟩
    · -- Its run is over and nobody holds its answer, so it has been answered.
      have := List.count_eq_zero.mpr waits
      have := List.count_eq_zero.mpr running
      have := List.count_eq_zero.mpr held
      refine .inr ⟨?_, by omega⟩
      intro awaited
      obtain inQueue | inRun | inStack | ⟨entry, inside, -⟩ := awaited
      · exact waits inQueue
      · exact running inRun
      · exact held inStack
      · rw [ledger.failing] at inside
        cases inside

theorem Sound.unbalanced (sound : s.Sound wrapper) (err : ε) (busy : s.stack ≠ []) :
    ¬ (s.throws err).Balanced := by
  intro balanced
  cases stack : s.stack with
  | nil => exact busy stack
  | cons frame rest =>
    have ledger := sound.ledger
    -- The run that throws has neither ended nor given its slot back before.
    have running := List.count_pos_iff.mpr
      (ledger.called frame (by rw [stack]; exact List.mem_cons_self))
    have runs := ledger.runs frame.id
    have once := ledger.started_le frame.id
    have before := ledger.returned frame.id
    have thrown : (s.throws err).released = s.released ∧
        (s.throws err).ended = s.ended ++ [(frame.id, .error err)] := by
      unfold throws
      rw [stack]
      cases frame with
      | direct id =>
        obtain ⟨-, -, -, ended, -, released⟩ := settle_frame
          (State.finish { s with stack := rest } id (.error err)) id (.error err)
        exact ⟨released, ended⟩
      | next id callback =>
        dsimp only
        split
        · exact ⟨rfl, rfl⟩
        · split
          · exact ⟨rfl, rfl⟩
          · obtain ⟨-, -, -, ended, -, released⟩ := settle_frame
              (State.finish { s with stack := rest } id (.error err)) callback.job.id (.error err)
            exact ⟨released, ended⟩
    have after := balanced.returned frame.id
    rw [thrown.1, thrown.2, List.map_append, List.count_append, List.map_singleton,
      List.count_singleton_self] at after
    omega

/-- After the step, the books are balanced. -/
def KeepsBalance (wrapper : Wrapper) (s : State ρ ε) (event : Event ρ ε) : Prop :=
  (s.step wrapper event).Balanced

theorem Sound.keepsBalance_iff (sound : s.Sound wrapper) (event : Event ρ ε) :
    s.KeepsBalance wrapper event ↔ s.Calm event := by
  refine ⟨fun kept => ?_, fun calm => (sound.step event calm).balanced⟩
  cases event with
  | throws err =>
    by_contra busy
    exact sound.unbalanced err busy kept
  | arrive ctx => trivial
  | returns => trivial
  | settles id outcome => trivial
  | catches id => trivial

end State

open State

/-- As long as the handlers return promises, the bulkhead keeps its bounds, runs every request that
it accepts once and in order, and answers it with the outcome of its run. A request at some place
of the queue is started once more runs have ended than stand before it. -/
theorem bulkhead_accounting (wrapper : Wrapper) (events : List (Event ρ ε))
    (promised : ∀ event ∈ events, event.Promised) :
    (run (step wrapper) initial events).Accounted wrapper ∧
      ∀ (later : List (Event ρ ε)) (place id : Nat), (∀ event ∈ later, event.Promised) →
        (run (step wrapper) initial events).queue[place]? = some id →
        (run (step wrapper) initial events).ended.length + place <
          (run (step wrapper) initial (events ++ later)).ended.length →
        id ∈ (run (step wrapper) initial (events ++ later)).started.map Job.id := by
  have sound : (run (step wrapper) initial events).Sound wrapper :=
    run_invariant (fun _ event sound calm => sound.step event calm) (sound_initial wrapper)
      (calm_of_promised promised initial)
  refine ⟨sound.accounted, fun later place id promised waits enough => ?_⟩
  rw [run_append] at enough ⊢
  obtain started | ⟨place', -, closer⟩ := sound.waiting_run waits (calm_of_promised promised _)
  · exact started
  · omega

/-- One handler at a time and one place to wait. -/
def narrow : Wrapper := wrapActionBulkheadMiddleware ⟨1, some 1⟩

/-- Three requests: one runs, one waits and one is refused. -/
def crowd : List (Event Nat String) :=
  [.arrive ⟨"posts.find", "node"⟩, .returns, .arrive ⟨"posts.find", "node"⟩,
    .arrive ⟨"posts.find", "node"⟩]

theorem bulkhead_accounting_crowd :
    (run (step narrow) initial crowd).Accounted narrow ∧
      1 ∈ (run (step narrow) initial (crowd ++ [.settles 0 (.ok 7)])).started.map Job.id := by
  have promised : ∀ event ∈ crowd, event.Promised := by simp [crowd, Event.Promised]
  obtain ⟨accounted, later⟩ := bulkhead_accounting narrow crowd promised
  refine ⟨accounted, later _ 0 1 ?_ ?_ ?_⟩
  · simp [Event.Promised]
  · decide +kernel
  · decide +kernel

/-- In every run, the books of the bulkhead are balanced in all states that are reached, exactly if
no handler throws. -/
theorem balanced_run_iff (wrapper : Wrapper) (events : List (Event ρ ε)) :
    Meets (step wrapper) (KeepsBalance wrapper) initial events ↔
      Meets (step wrapper) Calm initial events := by
  refine meets_iff (fun s event _ sound => ?_) (fun s event _ sound kept => ?_)
    (sound_initial wrapper)
  · exact sound.keepsBalance_iff event
  · exact sound.step event ((sound.keepsBalance_iff event).mp kept)

/-- A handler throws where it is called from the queue. -/
def thrownInQueue : List (Event Nat String) :=
  [.arrive ⟨"posts.find", "node"⟩, .returns, .arrive ⟨"posts.find", "node"⟩, .settles 0 (.ok 7),
    .throws "checker", .catches 0]

/-- A handler that throws when it is called directly keeps its slot, and then the next request waits
although nothing runs. One that throws when it is called from the queue is never answered, and its
error goes to the request that had just been resolved. -/
theorem throwing_handler_unbalanced :
    (¬ Meets (step narrow) (KeepsBalance narrow) (initial : State Nat String)
      [.arrive ⟨"posts.find", "node"⟩, .throws "checker"] ∧
      (run (step narrow) (initial : State Nat String) [.arrive ⟨"posts.find", "node"⟩,
        .throws "checker", .arrive ⟨"posts.find", "node"⟩]).queue = [1] ∧
      (run (step narrow) (initial : State Nat String) [.arrive ⟨"posts.find", "node"⟩,
        .throws "checker", .arrive ⟨"posts.find", "node"⟩]).running = []) ∧
    ¬ Meets (step narrow) (KeepsBalance narrow) initial thrownInQueue ∧
      (run (step narrow) initial thrownInQueue).settled.map Prod.fst = [0] ∧
      (run (step narrow) initial thrownInQueue).running = [] ∧
      (run (step narrow) initial thrownInQueue).queue = [] := by
  refine ⟨⟨?_, by decide +kernel, by decide +kernel⟩, ?_, by decide +kernel, by decide +kernel,
    by decide +kernel⟩
  · intro ⟨_, kept, _⟩
    exact absurd kept.inFlight (by decide +kernel)
  · intro ⟨_, _, _, _, kept, _⟩
    exact absurd (kept.returned 1) (by decide +kernel)

end Moleculer.Bulkhead
