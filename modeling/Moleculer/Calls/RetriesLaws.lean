import Moleculer.Calls.Retries

/-! How often a call with retries is executed, and where its attempts go. -/

namespace Moleculer.Retries

open Base

variable {ε ρ : Type}

/-- The endpoint whose handler a call waits for. -/
def Phase.endpoint : Phase ε ρ → Option (Endpoint ε)
  | .running endpoint => some endpoint
  | .remote endpoint => some endpoint
  | _ => none

namespace State

variable {s : State ε ρ} {t : Nat} {endpoint : Endpoint ε} {outcome : Except ε ρ}

/-- The attempt that an event starts. -/
def chosen (s : State ε ρ) : Event ε ρ → Option (Nat × Endpoint ε)
  | .call t answers _ =>
    match (s.thread t).phase with
    | .calling target => (lookUp answers target).map (t, ·)
    | _ => none
  | _ => none

/-- All endpoints that are chosen have the same retry count. -/
def Uniform (most : Nat) (s : State ε ρ) (event : Event ε ρ) : Prop :=
  ∀ t endpoint, s.chosen event = some (t, endpoint) →
    (s.thread t).retries.getD endpoint.policy.retries = most

/-- Requests go to other nodes, and there they only run the handler. -/
structure Rooted (s : State ε ρ) : Prop where
  root : 0 < s.threadCount
  packets : ∀ packet ∈ s.packets, packet.target ≠ packet.sender
  others : ∀ t, 0 < t → t < s.threadCount → (s.thread t).nodeID ≠ (s.thread t).node ∧
    ((∃ endpoint, (s.thread t).phase = .running endpoint ∧
      endpoint.nodeID = (s.thread t).node) ∨ ∃ outcome, (s.thread t).phase = .finished outcome)

/-- The books of the call of the user. -/
structure Counted (most : Nat) (s : State ε ρ) : Prop where
  attempts : s.attempts.length ≤ (s.thread 0).retryAttempts + 1
  next : ∀ target, (s.thread 0).phase = .calling target →
    s.attempts.length ≤ (s.thread 0).retryAttempts
  retried : (s.thread 0).retryAttempts ≤ most
  uniform : ∀ endpoint, (s.thread 0).phase.endpoint = some endpoint →
    (s.thread 0).retries.getD endpoint.policy.retries = most
  executed : s.executed.length + s.packets.length ≤ s.attempts.length
  waits : s.waits.length = (s.thread 0).retryAttempts
  delays : ∀ (k : Nat) (wait : Wait ε), s.waits[k]? = some wait → wait.thread = 0 ∧
    wait.delay = min (wait.policy.delay * wait.policy.factor ^ k) wait.policy.maxDelay

/-! What the steps do. -/

@[simp] theorem thread_setThread_self (s : State ε ρ) (t : Nat)
    (change : Thread ε ρ → Thread ε ρ) : (s.setThread t change).thread t = change (s.thread t) := by
  simp [setThread]

@[simp] theorem phase_finish (s : State ε ρ) (t : Nat) (outcome : Except ε ρ) :
    ((s.finish t outcome).thread t).phase = .finished outcome := by
  simp [finish]

theorem thread_setThread_of_ne {other : Nat} (ne : other ≠ t) (change : Thread ε ρ → Thread ε ρ) :
    (s.setThread t change).thread other = s.thread other := by
  simp [setThread, ne]

variable {event : Event ε ρ} (home : String) (retries : Option Nat)

theorem settlement_spec (settled : s.settlement event = some (t, endpoint, outcome)) :
    t < s.threadCount ∧ (s.thread t).phase.endpoint = some endpoint := by
  cases event with
  | settles thread result =>
    unfold settlement at settled
    cases phase : (s.thread thread).phase with
    | running there =>
      simp only [phase] at settled
      split at settled
      · cases settled
        exact ⟨by assumption, by rw [phase]; rfl⟩
      · cases settled
    | _ => simp [phase] at settled
  | respond thread =>
    unfold settlement at settled
    cases phase : (s.thread thread).phase with
    | finished result =>
      cases parent : (s.thread thread).parent with
      | none => simp [phase, parent] at settled
      | some sender =>
        simp only [phase, parent] at settled
        cases waiting : (s.thread sender.1).phase with
        | remote there =>
          simp only [waiting] at settled
          split at settled
          · rename_i known
            cases settled
            exact ⟨known.2.1, by rw [waiting]; rfl⟩
          · cases settled
        | _ => simp [waiting] at settled
    | _ => simp [phase] at settled
  | fails thread err =>
    unfold settlement at settled
    cases phase : (s.thread thread).phase with
    | remote there =>
      simp only [phase] at settled
      split at settled
      · cases settled
        exact ⟨by assumption, by rw [phase]; rfl⟩
      · cases settled
    | _ => simp [phase] at settled
  | call _ _ _ => cases settled
  | deliver _ _ => cases settled

/-- A step: an attempt is started, a call ends without one, a packet arrives or is lost, an attempt
is settled, or nothing happens. -/
inductive Step (s : State ε ρ) (event : Event ε ρ) : State ε ρ → Prop where
  | started {t : Nat} {endpoint : Endpoint ε} (target : Target ε) (below : t < s.threadCount)
      (calling : (s.thread t).phase = .calling target)
      (chosen : s.chosen event = some (t, endpoint)) :
      Step s event (s.start t endpoint)
  | missing {t : Nat} (target : Target ε) (err : ε) (below : t < s.threadCount)
      (calling : (s.thread t).phase = .calling target) : Step s event (s.finish t (.error err))
  | delivered (index : Nat) (packet : Packet) (policy : RetryPolicy ε)
      (there : s.packets[index]? = some packet) :
      Step s event
        (State.requestHandler { s with packets := s.packets.eraseIdx index } packet policy)
  | lost (index : Nat) : Step s event { s with packets := s.packets.eraseIdx index }
  | settled {t : Nat} {endpoint : Endpoint ε} {outcome : Except ε ρ}
      (settled : s.settlement event = some (t, endpoint, outcome)) :
      Step s event (s.settle t endpoint outcome)
  | idle : Step s event s

theorem step_cases (s : State ε ρ) (event : Event ε ρ) : s.Step event (s.step event) := by
  cases event with
  | call t answers notFound =>
    unfold step
    dsimp only
    split
    · rename_i below
      unfold call
      cases phase : (s.thread t).phase with
      | calling target =>
        dsimp only
        cases found : lookUp answers target with
        | none => exact .missing target notFound below phase
        | some endpoint =>
          refine .started target below phase ?_
          unfold chosen
          simp [phase, found]
      | _ => exact .idle
    · exact .idle
  | deliver index policy =>
    unfold step
    dsimp only
    split
    · exact .delivered index _ _ (by assumption)
    · exact .lost index
  | _ =>
    unfold step
    dsimp only
    split
    · exact .settled ‹_›
    · exact .idle

theorem Rooted.no_retry (rooted : s.Rooted) (other : 0 < t) (below : t < s.threadCount)
    (under : (s.thread t).phase.endpoint = some endpoint) (err : ε) :
    afterFailure (s.thread t) endpoint err = none := by
  obtain ⟨sent, ⟨own, running, here⟩ | ⟨result, ended⟩⟩ := rooted.others t other below
  · rw [running] at under
    cases under
    exact if_pos ⟨sent, here⟩
  · rw [ended] at under
    cases under

theorem Rooted.settle_other (rooted : s.Rooted) (other : 0 < t) (below : t < s.threadCount)
    (under : (s.thread t).phase.endpoint = some endpoint) :
    s.settle t endpoint outcome = s.finish t outcome := by
  unfold settle
  cases outcome with
  | ok value => rfl
  | error err =>
    dsimp only
    rw [rooted.no_retry other below under]

theorem Rooted.calling (rooted : s.Rooted) {target : Target ε} (below : t < s.threadCount)
    (calling : (s.thread t).phase = .calling target) : t = 0 := by
  by_contra other
  obtain ⟨-, ⟨own, running, -⟩ | ⟨result, ended⟩⟩ :=
    rooted.others t (Nat.pos_of_ne_zero other) below
  · rw [running] at calling
    cases calling
  · rw [ended] at calling
    cases calling

theorem Rooted.setThread_zero (rooted : s.Rooted) (change : Thread ε ρ → Thread ε ρ) :
    (s.setThread 0 change).Rooted := by
  refine ⟨rooted.root, rooted.packets, fun t other below => ?_⟩
  rw [thread_setThread_of_ne (Nat.pos_iff_ne_zero.mp other)]
  exact rooted.others t other below

theorem Rooted.finish (rooted : s.Rooted) (t : Nat) (outcome : Except ε ρ) :
    (s.finish t outcome).Rooted := by
  refine ⟨rooted.root, rooted.packets, fun other positive below => ?_⟩
  have known := rooted.others other positive below
  by_cases same : other = t
  · subst same
    unfold State.finish
    rw [thread_setThread_self]
    exact ⟨known.1, .inr ⟨outcome, rfl⟩⟩
  · unfold State.finish
    rw [thread_setThread_of_ne same]
    exact known

theorem Rooted.start (rooted : s.Rooted) (endpoint : Endpoint ε) : (s.start 0 endpoint).Rooted := by
  unfold State.start
  dsimp only
  split
  · have kept := rooted.setThread_zero fun thread =>
      { thread with nodeID := endpoint.nodeID, phase := .running endpoint }
    exact ⟨kept.root, kept.packets, kept.others⟩
  · rename_i away
    have kept := rooted.setThread_zero fun thread =>
      { thread with nodeID := endpoint.nodeID, phase := .remote endpoint }
    refine ⟨kept.root, fun packet inside => ?_, kept.others⟩
    obtain before | new := List.mem_append.mp inside
    · exact rooted.packets packet before
    · rw [List.mem_singleton.mp new]
      exact away

theorem Rooted.lose (rooted : s.Rooted) (index : Nat) :
    State.Rooted { s with packets := s.packets.eraseIdx index } :=
  ⟨rooted.root, fun packet inside => rooted.packets packet (List.mem_of_mem_eraseIdx inside),
    rooted.others⟩

theorem Rooted.requestHandler (rooted : s.Rooted) {packet : Packet}
    (sent : packet.target ≠ packet.sender) (policy : RetryPolicy ε) :
    (s.requestHandler packet policy).Rooted := by
  refine ⟨Nat.succ_pos _, rooted.packets, fun t positive below => ?_⟩
  by_cases new : t = s.threadCount
  · subst new
    simp only [State.requestHandler, Function.update_self]
    exact ⟨sent.symm, .inl ⟨_, rfl, rfl⟩⟩
  · have old : t < s.threadCount :=
      lt_of_le_of_ne (Nat.le_of_lt_succ below) new
    simp only [State.requestHandler, Function.update_of_ne new]
    exact rooted.others t positive old

theorem Rooted.settle (rooted : s.Rooted) (below : t < s.threadCount)
    (under : (s.thread t).phase.endpoint = some endpoint) (outcome : Except ε ρ) :
    (s.settle t endpoint outcome).Rooted := by
  by_cases user : t = 0
  · subst user
    unfold State.settle
    cases outcome with
    | ok value => exact rooted.finish 0 _
    | error err =>
      dsimp only
      cases afterFailure (s.thread 0) endpoint err with
      | none => exact rooted.finish 0 _
      | some delay =>
        dsimp only
        have kept := rooted.setThread_zero fun thread => { thread with
          retryAttempts := thread.retryAttempts + 1
          phase := .calling (if endpoint.isPrivate then .own endpoint else .balanced) }
        exact ⟨kept.root, kept.packets, kept.others⟩
  · rw [rooted.settle_other (Nat.pos_of_ne_zero user) below under]
    exact rooted.finish t outcome

theorem Rooted.step (rooted : s.Rooted) (event : Event ε ρ) : (s.step event).Rooted := by
  have taken := step_cases s event
  generalize s.step event = after at taken ⊢
  cases taken with
  | started target below calling chosen =>
    obtain rfl := rooted.calling below calling
    exact rooted.start _
  | missing target err below calling => exact rooted.finish _ _
  | delivered index packet policy there =>
    exact (rooted.lose index).requestHandler (rooted.packets packet (List.mem_of_getElem? there))
      policy
  | lost index => exact rooted.lose index
  | settled settled =>
    obtain ⟨below, under⟩ := settlement_spec settled
    exact rooted.settle below under _
  | idle => exact rooted

theorem rooted_initial (target : Target ε) :
    (initial home retries target : State ε ρ).Rooted :=
  ⟨Nat.one_pos, nofun, fun t positive below => absurd (Nat.lt_one_iff.mp below) (by omega)⟩

/-! The number of executions. -/

variable {most : Nat}

theorem Counted.start (counted : Counted most s) {target : Target ε}
    (calling : (s.thread 0).phase = .calling target)
    (uniform : (s.thread 0).retries.getD endpoint.policy.retries = most) :
    Counted most (s.start 0 endpoint) := by
  have next := counted.next target calling
  have executed := counted.executed
  unfold State.start
  dsimp only
  split
  · constructor
    case attempts => simpa [setThread] using next
    case next => simp [setThread]
    case retried => simpa [setThread] using counted.retried
    case uniform => simpa [setThread, Phase.endpoint] using uniform
    case executed =>
      simp only [setThread, List.length_append, List.length_singleton]
      omega
    case waits => simpa [setThread] using counted.waits
    case delays => exact counted.delays
  · constructor
    case attempts => simpa [setThread] using next
    case next => simp [setThread]
    case retried => simpa [setThread] using counted.retried
    case uniform => simpa [setThread, Phase.endpoint] using uniform
    case executed =>
      simp only [setThread, List.length_append, List.length_singleton]
      omega
    case waits => simpa [setThread] using counted.waits
    case delays => exact counted.delays

theorem Counted.finish (counted : Counted most s) (t : Nat) (outcome : Except ε ρ) :
    Counted most (s.finish t outcome) := by
  -- Only the phase of one thread changes, and no attempt is under way in it any more.
  have same : ((s.finish t outcome).thread 0).retryAttempts = (s.thread 0).retryAttempts ∧
      ((s.finish t outcome).thread 0).retries = (s.thread 0).retries ∧
      (((s.finish t outcome).thread 0).phase = .finished outcome ∨
        ((s.finish t outcome).thread 0).phase = (s.thread 0).phase) := by
    unfold State.finish
    by_cases user : 0 = t
    · subst user
      rw [thread_setThread_self]
      exact ⟨rfl, rfl, .inl rfl⟩
    · rw [thread_setThread_of_ne user]
      exact ⟨rfl, rfl, .inr rfl⟩
  obtain ⟨attempts, retries, phase⟩ := same
  constructor
  case attempts => rw [attempts]; exact counted.attempts
  case next =>
    intro target calling
    rw [attempts]
    obtain ended | before := phase
    · rw [ended] at calling
      cases calling
    · exact counted.next target (before ▸ calling)
  case retried => rw [attempts]; exact counted.retried
  case uniform =>
    intro endpoint under
    rw [retries]
    obtain ended | before := phase
    · rw [ended] at under
      cases under
    · exact counted.uniform endpoint (before ▸ under)
  case executed => exact counted.executed
  case waits => rw [attempts]; exact counted.waits
  case delays => exact counted.delays

theorem Counted.retry (counted : Counted most s)
    (under : (s.thread 0).phase.endpoint = some endpoint) {err : ε} {delay : ℚ}
    (again : afterFailure (s.thread 0) endpoint err = some delay) :
    Counted most (s.settle 0 endpoint (.error err)) := by
  have waits := counted.waits
  have uniform := counted.uniform endpoint under
  unfold afterFailure at again
  split at again
  · cases again
  · split at again
    · split at again
      · rename_i apart retryable more
        have eq : afterFailure (s.thread 0) endpoint err = some delay := by
          rw [← again, afterFailure, if_neg apart, if_pos retryable, if_pos more]
        unfold State.settle
        dsimp only
        rw [eq]
        constructor
        case attempts =>
          have := counted.attempts
          simp only [thread_setThread_self]
          show s.attempts.length ≤ _
          omega
        case next =>
          intro target _
          simp only [thread_setThread_self]
          exact counted.attempts
        case retried =>
          simp only [thread_setThread_self]
          omega
        case uniform => simp [Phase.endpoint]
        case executed => exact counted.executed
        case waits =>
          simp only [thread_setThread_self, List.length_append, List.length_singleton]
          omega
        case delays =>
          intro k wait found
          simp only [List.getElem?_append] at found
          split at found
          · exact counted.delays k wait found
          · -- The new entry is the one for this attempt.
            rw [List.getElem?_singleton] at found
            split at found
            · rename_i k_eq
              have number : k = (s.thread 0).retryAttempts := by omega
              cases found
              refine ⟨rfl, ?_⟩
              show delay = _
              rw [← Option.some.inj again, number]
            · cases found
      · cases again
    · cases again

theorem Counted.settle (counted : Counted most s) (rooted : s.Rooted) (below : t < s.threadCount)
    (under : (s.thread t).phase.endpoint = some endpoint) (outcome : Except ε ρ) :
    Counted most (s.settle t endpoint outcome) := by
  by_cases user : t = 0
  · subst user
    cases outcome with
    | ok value => exact counted.finish 0 _
    | error err =>
      cases again : afterFailure (s.thread 0) endpoint err with
      | none =>
        unfold State.settle
        dsimp only
        rw [again]
        exact counted.finish 0 _
      | some delay => exact counted.retry under again
  · rw [rooted.settle_other (Nat.pos_of_ne_zero user) below under]
    exact counted.finish t outcome

theorem Counted.step (counted : Counted most s) (rooted : s.Rooted) (event : Event ε ρ)
    (uniform : s.Uniform most event) : Counted most (s.step event) := by
  have taken := step_cases s event
  generalize s.step event = after at taken ⊢
  cases taken with
  | started target below calling chosen =>
    obtain rfl := rooted.calling below calling
    exact counted.start calling (uniform _ _ chosen)
  | missing target err below calling => exact counted.finish _ _
  | delivered index packet policy there =>
    have inside := (List.getElem?_eq_some_iff.mp there).1
    have fewer := List.length_eraseIdx_of_lt inside
    have executed := counted.executed
    have user :
        (Function.update s.thread s.threadCount (Thread.mk packet.target packet.sender 0 none
        (.running ⟨packet.target, false, policy⟩) (some packet.parent) : Thread ε ρ)) 0 =
        s.thread 0 := Function.update_of_ne (Nat.ne_of_lt rooted.root) _ _
    unfold requestHandler
    constructor
    case attempts => simpa [user] using counted.attempts
    case next => simpa [user] using counted.next
    case retried => simpa [user] using counted.retried
    case uniform => simpa [user] using counted.uniform
    case executed =>
      simp only [List.length_append, List.length_singleton]
      omega
    case waits => simpa [user] using counted.waits
    case delays => exact counted.delays
  | lost index =>
    have fewer := List.length_eraseIdx_le s.packets index
    have executed := counted.executed
    refine { counted with executed := ?_ }
    show s.executed.length + (s.packets.eraseIdx index).length ≤ s.attempts.length
    omega
  | settled settled =>
    obtain ⟨below, under⟩ := settlement_spec settled
    exact counted.settle rooted below under _
  | idle => exact counted

theorem counted_initial (target : Target ε) (most : Nat) :
    Counted most (initial home retries target : State ε ρ) where
  attempts := Nat.zero_le _
  next := fun _ _ => Nat.zero_le _
  retried := Nat.zero_le _
  uniform := nofun
  executed := Nat.le_refl _
  waits := rfl
  delays := nofun

theorem step_of_settlement (settled : s.settlement event = some (t, endpoint, outcome)) :
    s.step event = s.settle t endpoint outcome := by
  cases event with
  | call _ _ _ => cases settled
  | deliver _ _ => cases settled
  | settles _ _ => simp only [step, settled]
  | respond _ => simp only [step, settled]
  | fails _ _ => simp only [step, settled]

/-- What is claimed of a state: how often the handler was executed, how long the waits are, that
only the node of the user retries, and that it stops at the first success or error that is not to be
retried. -/
structure WithinBounds (most : Nat) (s : State ε ρ) : Prop where
  executed : s.executed.length ≤ most + 1
  delays : ∀ (k : Nat) (wait : Wait ε), s.waits[k]? = some wait → wait.thread = 0 ∧
    wait.delay = min (wait.policy.delay * wait.policy.factor ^ k) wait.policy.maxDelay
  stops : ∀ event endpoint outcome, s.settlement event = some (0, endpoint, outcome) →
    (∀ err, outcome = .error err → endpoint.policy.check err = false) →
    ((s.step event).thread 0).phase = .finished outcome
  stopped : ∀ outcome, (s.thread 0).phase = .finished outcome → ∀ event,
    (s.step event).attempts = s.attempts ∧ (s.step event).waits = s.waits ∧
      ((s.step event).thread 0).phase = .finished outcome
  others : ∀ event t endpoint outcome, s.settlement event = some (t, endpoint, outcome) → 0 < t →
    (s.step event).waits = s.waits ∧ ((s.step event).thread t).phase = .finished outcome

theorem settle_stops (final : ∀ err, outcome = .error err → endpoint.policy.check err = false) :
    s.settle t endpoint outcome = s.finish t outcome := by
  unfold settle
  cases outcome with
  | ok value => rfl
  | error err =>
    have skipped : afterFailure (s.thread t) endpoint err = none := by
      unfold afterFailure
      rw [final err rfl]
      split <;> rfl
    dsimp only
    rw [skipped]

theorem Rooted.stopped (rooted : s.Rooted) (ended : (s.thread 0).phase = .finished outcome)
    (event : Event ε ρ) : (s.step event).attempts = s.attempts ∧ (s.step event).waits = s.waits ∧
      ((s.step event).thread 0).phase = .finished outcome := by
  have taken := step_cases s event
  generalize s.step event = after at taken ⊢
  cases taken with
  | started target below calling chosen =>
    obtain rfl := rooted.calling below calling
    rw [ended] at calling
    cases calling
  | missing target err below calling =>
    obtain rfl := rooted.calling below calling
    rw [ended] at calling
    cases calling
  | delivered index packet policy there =>
    refine ⟨rfl, rfl, ?_⟩
    show (Function.update s.thread s.threadCount _ 0).phase = _
    rw [Function.update_of_ne (Nat.ne_of_lt rooted.root), ended]
  | lost index => exact ⟨rfl, rfl, ended⟩
  | @settled t endpoint result settled =>
    obtain ⟨below, under⟩ := settlement_spec settled
    have other : 0 < t := by
      refine Nat.pos_of_ne_zero fun user => ?_
      rw [user, ended] at under
      cases under
    rw [rooted.settle_other other below under]
    refine ⟨rfl, rfl, ?_⟩
    unfold State.finish
    rw [thread_setThread_of_ne (Nat.ne_of_lt other), ended]
  | idle => exact ⟨rfl, rfl, ended⟩

theorem Counted.withinBounds (counted : Counted most s) (rooted : s.Rooted) :
    s.WithinBounds most := by
  constructor
  case executed =>
    have executed := counted.executed
    have attempts := counted.attempts
    have retried := counted.retried
    omega
  case delays => exact counted.delays
  case stops =>
    intro event endpoint outcome settled final
    rw [step_of_settlement settled, settle_stops final, phase_finish]
  case stopped => exact fun outcome ended event => rooted.stopped ended event
  case others =>
    intro event t endpoint outcome settled other
    obtain ⟨below, under⟩ := settlement_spec settled
    rw [step_of_settlement settled, rooted.settle_other other below under]
    exact ⟨rfl, phase_finish s t outcome⟩

/-! Direct calls. -/

/-- All attempts so far went to the node, and while an endpoint is being looked up without one on
the node, the call fails. -/
def KeepsNode (nodeID : String) (s : State ε ρ) (event : Event ε ρ) : Prop :=
  (∀ entry ∈ (s.step event).attempts, entry.2.nodeID = nodeID) ∧
    ∀ answers notFound target, event = .call 0 answers notFound →
      (s.thread 0).phase = .calling target → answers.byNode nodeID = none →
      ((s.step event).thread 0).phase = .finished (.error notFound)

/-- When a retry looks for an endpoint, the balancer happens to pick the node, or nothing if the
node has no endpoint. -/
def Returns (nodeID : String) (s : State ε ρ) (event : Event ε ρ) : Prop :=
  ∀ answers notFound, event = .call 0 answers notFound → (s.thread 0).phase = .calling .balanced →
    (∀ endpoint, answers.next = some endpoint → endpoint.nodeID = nodeID) ∧
      (answers.byNode nodeID = none → answers.next = none)

/-- A direct call whose attempts have all gone to the node. -/
structure Aimed (nodeID : String) (s : State ε ρ) : Prop where
  rooted : s.Rooted
  attempts : ∀ entry ∈ s.attempts, entry.2.nodeID = nodeID
  target : ∀ target, (s.thread 0).phase = .calling target →
    target = .direct nodeID ∨ target = .balanced
  visible : ∀ endpoint, (s.thread 0).phase.endpoint = some endpoint → endpoint.isPrivate = false

variable {nodeID : String}

section LookUp

variable (answers : Answers ε) (notFound : ε) {target : Target ε} (below : 0 < s.threadCount)
  (calling : (s.thread 0).phase = .calling target)

include below calling

theorem call_missing (nothing : lookUp answers target = none) :
    s.step (.call 0 answers notFound) = s.finish 0 (.error notFound) := by
  show (if 0 < s.threadCount then s.call 0 answers notFound else s) = _
  rw [if_pos below, State.call, calling]
  simp only [nothing]

theorem call_found {endpoint : Endpoint ε} (picked : lookUp answers target = some endpoint) :
    s.step (.call 0 answers notFound) = s.start 0 endpoint := by
  show (if 0 < s.threadCount then s.call 0 answers notFound else s) = _
  rw [if_pos below, State.call, calling]
  simp only [picked]

end LookUp

theorem attempts_start (s : State ε ρ) (t : Nat) (endpoint : Endpoint ε) :
    (s.start t endpoint).attempts = s.attempts ++ [(t, endpoint)] := by
  unfold start
  dsimp only
  split <;> rfl

theorem phase_start (s : State ε ρ) (t : Nat) (endpoint : Endpoint ε) :
    ((s.start t endpoint).thread t).phase.endpoint = some endpoint := by
  unfold start
  dsimp only
  split <;> simp [setThread, Phase.endpoint]

theorem chosen_spec (chosen : s.chosen event = some (0, endpoint)) :
    ∃ answers notFound target, event = .call 0 answers notFound ∧
      (s.thread 0).phase = .calling target ∧ lookUp answers target = some endpoint := by
  cases event with
  | call thread answers notFound =>
    unfold State.chosen at chosen
    cases phase : (s.thread thread).phase with
    | calling target =>
      simp only [phase, Option.map_eq_some_iff, Prod.mk.injEq] at chosen
      obtain ⟨found, there, rfl, rfl⟩ := chosen
      exact ⟨answers, notFound, target, rfl, phase, there⟩
    | _ => simp [phase] at chosen
  | _ => cases chosen

theorem Aimed.found (aimed : s.Aimed nodeID) (returns : s.Returns nodeID event)
    (chosen : s.chosen event = some (0, endpoint)) :
    endpoint.nodeID = nodeID ∧ endpoint.isPrivate = false := by
  obtain ⟨answers, notFound, target, rfl, calling, there⟩ := chosen_spec chosen
  obtain rfl | rfl := aimed.target target calling
  · exact ⟨answers.onNode nodeID endpoint there, answers.visible endpoint (.inl ⟨nodeID, there⟩)⟩
  · exact ⟨(returns answers notFound rfl calling).1 endpoint there,
      answers.visible endpoint (.inr there)⟩

theorem Aimed.step (aimed : s.Aimed nodeID) (event : Event ε ρ) (returns : s.Returns nodeID event) :
    (s.step event).Aimed nodeID := by
  have rooted := aimed.rooted.step event
  have taken := step_cases s event
  generalize s.step event = after at rooted taken ⊢
  suffices rest : (∀ entry ∈ after.attempts, entry.2.nodeID = nodeID) ∧
      (∀ target, (after.thread 0).phase = .calling target →
        target = .direct nodeID ∨ target = .balanced) ∧
      ∀ endpoint, (after.thread 0).phase.endpoint = some endpoint → endpoint.isPrivate = false from
    ⟨rooted, rest.1, rest.2.1, rest.2.2⟩
  clear rooted
  cases taken with
  | @started t endpoint target below calling chosen =>
    obtain rfl := aimed.rooted.calling below calling
    obtain ⟨there, visible⟩ := aimed.found returns chosen
    have under := phase_start s 0 endpoint
    refine ⟨fun entry inside => ?_, fun target calling => ?_, fun other same => ?_⟩
    · rw [attempts_start] at inside
      obtain before | new := List.mem_append.mp inside
      · exact aimed.attempts entry before
      · rw [List.mem_singleton.mp new]
        exact there
    · rw [calling] at under
      cases under
    · rw [under] at same
      cases same
      exact visible
  | missing target err below calling =>
    obtain rfl := aimed.rooted.calling below calling
    refine ⟨aimed.attempts, fun target calling => ?_, fun other same => ?_⟩
    · rw [phase_finish] at calling
      cases calling
    · rw [phase_finish] at same
      cases same
  | delivered index packet policy there =>
    have user : (State.thread (State.requestHandler { s with packets := s.packets.eraseIdx index }
        packet policy) 0) = s.thread 0 := Function.update_of_ne (Nat.ne_of_lt aimed.rooted.root) _ _
    rw [user]
    exact ⟨aimed.attempts, aimed.target, aimed.visible⟩
  | lost index => exact ⟨aimed.attempts, aimed.target, aimed.visible⟩
  | @settled t endpoint outcome settled =>
    obtain ⟨below, under⟩ := settlement_spec settled
    by_cases user : t = 0
    · subst user
      have visible := aimed.visible endpoint under
      -- The call is over, or it is retried with the balancer.
      have next : ((s.settle 0 endpoint outcome).attempts = s.attempts) ∧
          (((s.settle 0 endpoint outcome).thread 0).phase = .finished outcome ∨
            ((s.settle 0 endpoint outcome).thread 0).phase = .calling .balanced) := by
        unfold settle
        cases outcome with
        | ok value => exact ⟨rfl, .inl (phase_finish s 0 _)⟩
        | error err =>
          dsimp only
          cases afterFailure (s.thread 0) endpoint err with
          | none => exact ⟨rfl, .inl (phase_finish s 0 _)⟩
          | some delay => exact ⟨rfl, .inr (by simp [setThread, visible])⟩
      obtain ⟨attempts, ended | again⟩ := next
      · rw [attempts, ended]
        exact ⟨aimed.attempts, nofun, nofun⟩
      · rw [attempts, again]
        refine ⟨aimed.attempts, fun target same => ?_, nofun⟩
        cases same
        exact .inr rfl
    · rw [aimed.rooted.settle_other (Nat.pos_of_ne_zero user) below under]
      unfold State.finish
      rw [thread_setThread_of_ne (Ne.symm user)]
      exact ⟨aimed.attempts, aimed.target, aimed.visible⟩
  | idle => exact ⟨aimed.attempts, aimed.target, aimed.visible⟩

theorem Aimed.keepsNode_iff (aimed : s.Aimed nodeID) (event : Event ε ρ) :
    s.KeepsNode nodeID event ↔ s.Returns nodeID event := by
  have root := aimed.rooted.root
  constructor
  · intro ⟨attempts, missing⟩ answers notFound same calling
    subst same
    refine ⟨fun endpoint picked => ?_, fun none => ?_⟩
    · rw [call_found answers notFound root calling picked] at attempts
      exact attempts (0, endpoint) (by
        rw [attempts_start]
        exact List.mem_append_right _ List.mem_cons_self)
    · have ended := missing answers notFound .balanced rfl calling none
      cases picked : answers.next with
      | none => rfl
      | some endpoint =>
        rw [call_found answers notFound root calling picked] at ended
        have under := phase_start s 0 endpoint
        rw [ended] at under
        cases under
  · intro returns
    refine ⟨(aimed.step event returns).attempts,
      fun answers notFound target same calling none => ?_⟩
    subst same
    have nothing : lookUp answers target = Option.none := by
      obtain rfl | rfl := aimed.target target calling
      · exact none
      · exact (returns answers notFound rfl calling).2 none
    rw [call_missing answers notFound root calling nothing]
    exact phase_finish s 0 _

theorem aimed_initial (nodeID : String) :
    (initial home retries (.direct nodeID) : State ε ρ).Aimed nodeID := by
  refine ⟨rooted_initial home retries _, nofun, fun target calling => ?_, nofun⟩
  cases calling
  exact .inl rfl

end State

open State

/-- In every run of a call, the handler is executed at most once more than the retry count says,
over all nodes. Only the node of the user retries, after the delays of the policy, and it stops at
the first success or error that is not to be retried. -/
theorem retries_bounded (home : String) (retries : Option Nat) (target : Target ε) (most : Nat)
    (events : List (Event ε ρ))
    (uniform : Meets State.step (Uniform most) (initial home retries target) events) :
    (run State.step (initial home retries target) events).WithinBounds most := by
  have kept : ∀ (s : State ε ρ) (event : Event ε ρ), s.Rooted ∧ Counted most s →
      s.Uniform most event → (s.step event).Rooted ∧ Counted most (s.step event) :=
    fun s event known uniform => ⟨known.1.step event, known.2.step known.1 event uniform⟩
  obtain ⟨rooted, counted⟩ := run_invariant kept
    ⟨rooted_initial home retries target, counted_initial home retries target most⟩ uniform
  exact counted.withinBounds rooted

/-- One retry after ten milliseconds, whatever the error is. -/
def retryOnce : RetryPolicy String := ⟨1, 10, 2, 1000, fun _ => true⟩

/-- The balancer picks a node, and all nodes that are asked for have the action. -/
def picks (nodeID : String) : Answers String where
  byNode := fun nodeID => some ⟨nodeID, false, retryOnce⟩
  next := some ⟨nodeID, false, retryOnce⟩
  onNode := by
    intro _ _ found
    cases found
    rfl
  visible := by
    intro endpoint found
    obtain ⟨_, found⟩ | found := found <;> cases found <;> rfl

/-- A local attempt that fails, and a remote one that succeeds. -/
def localThenRemote : List (Event String Nat) :=
  [.call 0 (picks "home") "missing", .settles 0 (.error "first"), .call 0 (picks "away") "missing",
    .deliver 0 (some retryOnce), .settles 1 (.ok 5), .respond 1]

theorem retries_bounded_twice :
    (run State.step (initial "home" none .balanced) localThenRemote).WithinBounds 1 ∧
      (run State.step (initial "home" none .balanced) localThenRemote).executed =
        ["home", "away"] := by
  refine ⟨retries_bounded "home" none .balanced 1 localThenRemote ?_, by decide +kernel⟩
  have pick : ∀ (s : State String Nat) (nodeID : String), (s.thread 0).retries = none →
      (s.thread 0).phase = .calling .balanced → Uniform 1 s (.call 0 (picks nodeID) "missing") := by
    intro s nodeID unset phase other endpoint chosen
    unfold State.chosen at chosen
    simp only [phase, Option.map_eq_some_iff, Prod.mk.injEq] at chosen
    obtain ⟨found, there, rfl, rfl⟩ := chosen
    rw [unset]
    cases there
    rfl
  exact ⟨pick _ _ rfl rfl, nofun, pick _ _ rfl rfl, nofun, nofun, nofun, trivial⟩

/-- A direct call keeps to its node in every state that is reached, exactly if every retry happens
to find the balancer on the node. -/
theorem direct_call_stays_iff (home : String) (retries : Option Nat) (nodeID : String)
    (events : List (Event ε ρ)) :
    Meets State.step (KeepsNode nodeID) (initial home retries (.direct nodeID)) events ↔
      Meets State.step (Returns nodeID) (initial home retries (.direct nodeID)) events := by
  refine meets_iff (fun s event _ aimed => ?_) (fun s event _ aimed kept => ?_)
    (aimed_initial home retries nodeID)
  · exact aimed.keepsNode_iff event
  · exact aimed.step event ((aimed.keepsNode_iff event).mp kept)

/-- The first attempt goes to the node of the call, and the retry to another one. -/
theorem retry_leaves_the_node :
    ¬ Meets State.step (KeepsNode "wanted") (initial "home" none (.direct "wanted"))
      ([.call 0 (picks "other") "missing", .fails 0 "timeout", .call 0 (picks "other") "missing"] :
        List (Event String Nat)) ∧
    (run State.step (initial "home" none (.direct "wanted"))
      ([.call 0 (picks "other") "missing", .fails 0 "timeout", .call 0 (picks "other") "missing",
        .deliver 1 (some retryOnce)] : List (Event String Nat))).executed = ["other"] := by
  refine ⟨?_, by decide +kernel⟩
  intro ⟨_, _, kept, _⟩
  have attempts : (run State.step (initial "home" none (.direct "wanted"))
      ([.call 0 (picks "other") "missing", .fails 0 "timeout", .call 0 (picks "other") "missing"] :
        List (Event String Nat))).attempts.map (fun entry => entry.2.nodeID) =
      ["wanted", "other"] := by decide +kernel
  have mem : "other" ∈ (run State.step (initial "home" none (.direct "wanted"))
      ([.call 0 (picks "other") "missing", .fails 0 "timeout", .call 0 (picks "other") "missing"] :
        List (Event String Nat))).attempts.map (fun entry => entry.2.nodeID) := by
    rw [attempts]
    decide
  obtain ⟨entry, inside, there⟩ := List.mem_map.mp mem
  have wanted := kept.1 entry inside
  rw [there] at wanted
  exact absurd wanted (by decide)

end Moleculer.Retries
