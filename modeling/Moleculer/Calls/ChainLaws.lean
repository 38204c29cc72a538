import Moleculer.Calls.Chain

/-! Which attempts of a remote call leave their entry in the pending requests. -/

namespace Moleculer.Calls

open Base

variable {β : Type}

/-- A call, the network it meets and the state in which it is made. -/
structure Scenario (β : Type) where
  broker : Broker β
  network : Network β
  options : CallOptions β
  start : CallState

namespace Scenario

/-- The request of an attempt is refused because of the queue limit. -/
def refused (scenario : Scenario β) (size : Nat) : Bool :=
  scenario.broker.maxQueueSize ≠ 0 ∧ scenario.broker.maxQueueSize ≤ size

/-- Neither an error nor a result comes back from the other node. -/
def silent (scenario : Scenario β) (attempt : Nat) : Bool :=
  match scenario.network.reply attempt with
  | .publishFailure _ => true
  | .noResponse => true
  | _ => false

/-- The number of pending requests when an attempt is made. -/
def occupied (scenario : Scenario β) : Nat → Nat
  | 0 => scenario.start.pendingRequests.size
  | attempt + 1 =>
    let size := occupied scenario attempt
    if !scenario.refused size && scenario.silent attempt then size + 1 else size

/-- The attempt was published, or tried to be, and was not answered. -/
def unanswered (scenario : Scenario β) (attempt : Nat) : Bool :=
  !scenario.refused (scenario.occupied attempt) && scenario.silent attempt

/-- The context of an attempt. -/
def context (scenario : Scenario β) (attempt : Nat) : Context :=
  ⟨scenario.start.nextUid + attempt, (scenario.network.endpoint attempt).getD "", attempt⟩

/-- The error with which the request of an attempt fails. -/
def failure (scenario : Scenario β) (attempt : Nat) : Option CallError :=
  let size := scenario.occupied attempt
  if scenario.refused size then some (.queueIsFull size scenario.broker.maxQueueSize)
  else match scenario.network.reply attempt with
    | .publishFailure message => some (.publish message)
    | .noResponse => some (.requestTimeout (scenario.context attempt).nodeID)
    | .errorResponse message => some (.remote message)
    | .success _ => none

/-- The retry policy asks for another attempt after this one. -/
def retried (scenario : Scenario β) (attempt : Nat) : Bool :=
  (scenario.network.endpoint attempt).isSome && scenario.broker.retryPolicy.enabled &&
  match scenario.failure attempt with
  | some err => scenario.broker.retryPolicy.check err &&
    belowLimit attempt (allowedRetries scenario.broker scenario.options)
  | none => false

/-- The attempt is reached and finds an endpoint. -/
def Made (scenario : Scenario β) (attempt : Nat) : Prop :=
  (∀ earlier < attempt, scenario.retried earlier = true) ∧
    (scenario.network.endpoint attempt).isSome = true

/-- An error reaches the error handler middleware of an attempt: the attempt, or the last one that
was made for it, failed, and neither a fallback nor the error handler of a later attempt turned the
failure into a response on the way. -/
inductive Reaches (scenario : Scenario β) : Nat → CallError → Prop where
  | own {attempt err raised} : (scenario.network.endpoint attempt).isSome = true →
      scenario.failure attempt = some err → scenario.retried attempt = false →
      handleFallback scenario.broker scenario.options (scenario.context attempt) err
        = .error raised →
      Reaches scenario attempt raised
  | missing {attempt err raised} : scenario.retried attempt = true →
      scenario.network.endpoint (attempt + 1) = none →
      scenario.broker.handleError .serviceNotFound = .error err →
      handleFallback scenario.broker scenario.options (scenario.context attempt) err
        = .error raised →
      Reaches scenario attempt raised
  | nested {attempt inner err raised} : scenario.retried attempt = true →
      Reaches scenario (attempt + 1) inner →
      scenario.broker.handleError inner = .error err →
      handleFallback scenario.broker scenario.options (scenario.context attempt) err
        = .error raised →
      Reaches scenario attempt raised

/-- All endpoints that are found belong to other nodes. -/
def Remote (scenario : Scenario β) : Prop :=
  ∀ attempt, scenario.network.endpoint attempt ≠ some scenario.broker.nodeID

/-- The call of the scenario, with a bound on the depth of its retries. -/
def result (scenario : Scenario β) (fuel : Nat) : Settlement CallError β × CallState :=
  call scenario.broker scenario.network scenario.options fuel scenario.start

end Scenario

/-- The state of the pending requests when an attempt is about to be made. -/
structure Ready (scenario : Scenario β) (attempt : Nat) (state : CallState) : Prop where
  size : state.pendingRequests.size = scenario.occupied attempt
  nextUid : state.nextUid = scenario.start.nextUid + attempt + 1
  fresh : ∀ id, scenario.start.nextUid + attempt ≤ id → state.pendingRequests.get id = none

variable (scenario : Scenario β) {state : CallState} {attempt : Nat} {after : CallState}
  {handler : Handler β} {ctx : Context} (again : Handler β) {inner : Handler β} (fuel : Nat)
  (node : String)

theorem Scenario.occupied_succ (attempt : Nat) :
    scenario.occupied (attempt + 1) = if scenario.unanswered attempt then
      scenario.occupied attempt + 1 else scenario.occupied attempt := rfl

/-- The state once the request of an attempt is over. -/
def Scenario.afterRequest (scenario : Scenario β) (attempt : Nat) (state : CallState) :
    CallState :=
  if scenario.unanswered attempt then { state with
    pendingRequests := state.pendingRequests.set (scenario.context attempt).id
      ⟨(scenario.context attempt).nodeID⟩ }
  else state

/-- What the request of an attempt alone comes to. -/
def Scenario.answer (scenario : Scenario β) (attempt : Nat) : Settlement CallError β :=
  let size := scenario.occupied attempt
  if scenario.refused size then .rejected (.queueIsFull size scenario.broker.maxQueueSize)
  else match scenario.network.reply attempt with
    | .publishFailure message => .rejected (.publish message)
    | .noResponse => .pending
    | .errorResponse message => .rejected (.remote message)
    | .success data => .fulfilled data

theorem circuitBreakerMiddleware_eq (handler : Handler β) :
    circuitBreakerMiddleware handler = handler := by
  funext ctx state
  simp only [circuitBreakerMiddleware, Promise.andThen, Promise.recover]
  rcases handler ctx state with ⟨settled, after⟩
  cases settled <;> rfl

theorem request_eq (ready : Ready scenario attempt state) :
    request scenario.broker scenario.network (scenario.context attempt) state =
      (scenario.answer attempt, scenario.afterRequest attempt state) := by
  have absent := ready.fresh _ (Nat.le_refl (scenario.start.nextUid + attempt))
  have named : (scenario.context attempt).id = scenario.start.nextUid + attempt := rfl
  have numbered : (scenario.context attempt).retryAttempts = attempt := rfl
  have limit : (scenario.broker.maxQueueSize ≠ 0 ∧
      scenario.broker.maxQueueSize ≤ scenario.occupied attempt) ↔
      scenario.refused (scenario.occupied attempt) = true := by
    rw [Scenario.refused, decide_eq_true_iff]
  unfold request Scenario.answer Scenario.afterRequest Scenario.unanswered
  simp only [ready.size, limit, named, numbered]
  by_cases refused : scenario.refused (scenario.occupied attempt) = true
  · simp [refused]
  · cases sent : scenario.network.reply attempt <;>
      simp [refused, sent, Scenario.silent, responseHandler, removePendingRequest,
        OrderedMap.get_set, OrderedMap.delete_set_of_get_none absent]

theorem attempt_spec (ready : Ready scenario attempt state) :
    ∃ settled, timeoutMiddleware scenario.broker scenario.options
        (circuitBreakerMiddleware (request scenario.broker scenario.network))
        (scenario.context attempt) state = (settled, scenario.afterRequest attempt state) ∧
      ((settled = .pending ∧ effectiveTimeout scenario.broker scenario.options = 0) ∨
        (∃ err, scenario.failure attempt = some err ∧ settled = .rejected err) ∨
        (scenario.failure attempt = none ∧ scenario.unanswered attempt = false ∧
          ∃ data, settled = .fulfilled data)) := by
  rw [circuitBreakerMiddleware_eq]
  unfold timeoutMiddleware Scenario.failure Scenario.unanswered
  rw [request_eq scenario ready]
  unfold Scenario.answer
  by_cases refused : scenario.refused (scenario.occupied attempt) = true
  · simp [refused]
  · cases sent : scenario.network.reply attempt with
    | noResponse =>
      -- Only here does the timeout have something to do.
      by_cases timed : 0 < effectiveTimeout scenario.broker scenario.options
      · simp [refused, timed]
      · simp [refused, Nat.eq_zero_of_not_pos timed]
    | publishFailure message => simp [refused]
    | errorResponse message => simp [refused]
    | success data => simp [refused, Scenario.silent, sent]

/-- The settlement that the answer of a user function stands for. -/
def settlementOf : Except CallError β → Settlement CallError β
  | .ok value => .fulfilled value
  | .error error => .rejected error

@[simp] theorem settle_apply (answer : Except CallError β) (state : CallState) :
    settle answer state = (settlementOf answer, state) := by
  cases answer <;> rfl

theorem outer_rejected {err : CallError} (elsewhere : ctx.nodeID ≠ scenario.broker.nodeID)
    (rejects : handler ctx state = (.rejected err, after)) :
    errorHandlerMiddleware scenario.broker
        (fallbackMiddleware scenario.broker scenario.options handler) ctx state =
      match handleFallback scenario.broker scenario.options ctx err with
      | .ok value => (.fulfilled value, after)
      | .error raised => (settlementOf (scenario.broker.handleError raised),
          { after with pendingRequests := after.pendingRequests.delete ctx.id }) := by
  unfold errorHandlerMiddleware fallbackMiddleware
  cases handled : handleFallback scenario.broker scenario.options ctx err <;>
    simp [Promise.recover, rejects, handled, settlementOf, elsewhere, removePendingRequest]

theorem outer_fulfilled {value : β} (fulfils : handler ctx state = (.fulfilled value, after)) :
    errorHandlerMiddleware scenario.broker
        (fallbackMiddleware scenario.broker scenario.options handler) ctx state
      = (.fulfilled value, after) := by
  simp [errorHandlerMiddleware, fallbackMiddleware, Promise.recover, fulfils]

theorem outer_pending (waits : handler ctx state = (.pending, after)) :
    errorHandlerMiddleware scenario.broker
        (fallbackMiddleware scenario.broker scenario.options handler) ctx state
      = (.pending, after) := by
  simp [errorHandlerMiddleware, fallbackMiddleware, Promise.recover, waits]

namespace Scenario

/-- The call on the context of an attempt is rejected. -/
def CallRejects (scenario : Scenario β) (attempt : Nat) (err : CallError) : Prop :=
  (scenario.network.endpoint attempt = none ∧
      scenario.broker.handleError .serviceNotFound = .error err) ∨
    ∃ raised, scenario.Reaches attempt raised ∧ scenario.broker.handleError raised = .error err

/-- Counting from one attempt on, a later one is made and leaves its entry behind. -/
def Leaves (scenario : Scenario β) (attempt later : Nat) : Prop :=
  (∀ between, attempt ≤ between → between < later → scenario.retried between = true) ∧
    (scenario.network.endpoint later).isSome = true ∧ scenario.unanswered later = true ∧
    ¬ ∃ raised, scenario.Reaches later raised

variable (scenario : Scenario β) {attempt : Nat} {raised : CallError}

theorem not_reaches_of_failure (succeeds : scenario.failure attempt = none) :
    ¬ scenario.Reaches attempt raised := by
  have stops : scenario.retried attempt = false := by simp [retried, succeeds]
  intro reaches
  cases reaches with
  | own _ fails => simp [succeeds] at fails
  | missing again => simp [stops] at again
  | nested again => simp [stops] at again

theorem reaches_of_stop {err : CallError}
    (found : (scenario.network.endpoint attempt).isSome = true)
    (fails : scenario.failure attempt = some err) (stops : scenario.retried attempt = false) :
    scenario.Reaches attempt raised ↔ handleFallback scenario.broker scenario.options
      (scenario.context attempt) err = .error raised := by
  constructor
  · intro reaches
    cases reaches with
    | own _ fails' _ passes =>
      rw [fails] at fails'
      cases fails'
      exact passes
    | missing again => simp [stops] at again
    | nested again => simp [stops] at again
  · exact .own found fails stops

theorem reaches_of_retried (again : scenario.retried attempt = true) :
    scenario.Reaches attempt raised ↔ ∃ err, scenario.CallRejects (attempt + 1) err ∧
      handleFallback scenario.broker scenario.options (scenario.context attempt) err
        = .error raised := by
  constructor
  · intro reaches
    cases reaches with
    | own _ _ stops => simp [again] at stops
    | missing _ absent handled passes => exact ⟨_, .inl ⟨absent, handled⟩, passes⟩
    | nested _ inner handled passes => exact ⟨_, .inr ⟨_, inner, handled⟩, passes⟩
  · rintro ⟨err, ⟨absent, handled⟩ | ⟨inner, reaches, handled⟩, passes⟩
    · exact .missing again absent handled passes
    · exact .nested again reaches handled passes

theorem leaves_succ_iff {later : Nat} (again : scenario.retried attempt = true) :
    scenario.Leaves attempt later ↔ scenario.Leaves (attempt + 1) later := by
  unfold Leaves
  refine and_congr_left fun _ => ⟨fun all between lower => all between (by omega), ?_⟩
  intro all between lower upper
  rcases Nat.eq_or_lt_of_le lower with rfl | above
  · exact again
  · exact all between above upper

theorem not_leaves_of_stop {later : Nat} (stops : scenario.retried attempt = false)
    (after : attempt < later) :
    ¬ scenario.Leaves attempt later := by
  rintro ⟨all, _⟩
  simp [all attempt (Nat.le_refl _) after] at stops

theorem leaves_self_iff (found : (scenario.network.endpoint attempt).isSome = true) :
    scenario.Leaves attempt attempt ↔ scenario.unanswered attempt = true ∧
      ¬ ∃ raised, scenario.Reaches attempt raised := by
  refine ⟨fun leaves => leaves.2.2, fun own => ⟨?_, found, own⟩⟩
  intro between lower upper
  omega

end Scenario

/-- What a call on the context of an attempt does to the pending requests, and how it settles. -/
structure Outcome (scenario : Scenario β) (attempt : Nat) (before after : CallState)
    (settled : Settlement CallError β) : Prop where
  kept : ∀ id < scenario.start.nextUid + attempt,
    after.pendingRequests.get id = before.pendingRequests.get id
  left : ∀ later, attempt ≤ later →
    ((after.pendingRequests.get (scenario.start.nextUid + later)).isSome = true ↔
      scenario.Leaves attempt later)
  rejects : ∀ err, settled = .rejected err ↔ scenario.CallRejects attempt err

/-- Fallback and error handler decide about the entry of their own attempt only. -/
theorem Outcome.of_inner {settled : Settlement CallError β}
    (found : (scenario.network.endpoint attempt).isSome = true)
    (elsewhere : (scenario.context attempt).nodeID ≠ scenario.broker.nodeID)
    (ran : handler (scenario.context attempt) state = (settled, after))
    (settles : settled ≠ .pending) (kept : ∀ id < scenario.start.nextUid + attempt,
      after.pendingRequests.get id = state.pendingRequests.get id)
    (own : (after.pendingRequests.get (scenario.start.nextUid + attempt)).isSome = true ↔
      scenario.unanswered attempt = true) (others : ∀ later, attempt < later →
      ((after.pendingRequests.get (scenario.start.nextUid + later)).isSome = true ↔
        scenario.Leaves attempt later))
    (reaches : ∀ raised, scenario.Reaches attempt raised ↔ ∃ err, settled = .rejected err ∧
      handleFallback scenario.broker scenario.options (scenario.context attempt) err
        = .error raised) :
    ∃ final last, errorHandlerMiddleware scenario.broker
        (fallbackMiddleware scenario.broker scenario.options handler)
        (scenario.context attempt) state = (final, last) ∧ final ≠ .pending ∧
      Outcome scenario attempt state last final := by
  have present : scenario.network.endpoint attempt ≠ none := by
    intro absent
    simp [absent] at found
  -- When no error reaches the error handler, the entry of the attempt stays as it is.
  have untouched (final : β) (quiet : ∀ raised, ¬ scenario.Reaches attempt raised) :
      Outcome scenario attempt state after (.fulfilled final) := by
    refine ⟨kept, fun later lower => ?_, fun err => ?_⟩
    · rcases Nat.eq_or_lt_of_le lower with rfl | above
      · rw [own, scenario.leaves_self_iff found]
        simp [quiet]
      · exact others later above
    · simp [Scenario.CallRejects, present, quiet]
  cases settled with
  | pending => exact absurd rfl settles
  | fulfilled value =>
    refine ⟨_, _, outer_fulfilled scenario ran, by simp, untouched value fun raised => ?_⟩
    simp [reaches]
  | rejected err =>
    cases handled : handleFallback scenario.broker scenario.options
      (scenario.context attempt) err with
    | ok value =>
      refine ⟨.fulfilled value, after, ?_, by simp, untouched value fun raised => ?_⟩
      · rw [outer_rejected scenario elsewhere ran, handled]
      · simp [reaches, handled]
    | error raised =>
      have only (other : CallError) : scenario.Reaches attempt other ↔ other = raised := by
        simp [reaches, handled, eq_comm]
      have named : (scenario.context attempt).id = scenario.start.nextUid + attempt := rfl
      refine ⟨_, _, by rw [outer_rejected scenario elsewhere ran, handled], ?_, ?_, ?_, ?_⟩
      · cases scenario.broker.handleError raised <;> simp [settlementOf]
      · intro id below
        rw [named, OrderedMap.get_delete, if_neg (by omega)]
        exact kept id below
      · intro later lower
        rw [named, OrderedMap.get_delete]
        rcases Nat.eq_or_lt_of_le lower with rfl | above
        · rw [scenario.leaves_self_iff found]
          simp [only]
        · rw [if_neg (by omega)]
          exact others later above
      · intro err
        cases answer : scenario.broker.handleError raised <;>
          simp [settlementOf, Scenario.CallRejects, present, only, answer]

theorem retryMiddleware_again {err : CallError} (retried : scenario.retried attempt = true)
    (fails : scenario.failure attempt = some err)
    (ran : inner (scenario.context attempt) state = (.rejected err, after)) :
    retryMiddleware scenario.broker scenario.options again inner (scenario.context attempt) state =
      again ⟨after.nextUid, (scenario.context attempt).nodeID, attempt + 1⟩
        { after with nextUid := after.nextUid + 1 } := by
  have numbered : (scenario.context attempt).retryAttempts = attempt := rfl
  simp only [Scenario.retried, fails, Bool.and_eq_true] at retried
  simp [retryMiddleware, Promise.recover, ran, numbered, retried, createContext, Promise.andThen]

theorem retryMiddleware_stop {settled : Settlement CallError β}
    (found : (scenario.network.endpoint attempt).isSome = true)
    (stops : scenario.retried attempt = false)
    (fails : ∀ err, settled = .rejected err → scenario.failure attempt = some err)
    (ran : inner (scenario.context attempt) state = (settled, after)) :
    retryMiddleware scenario.broker scenario.options again inner (scenario.context attempt) state =
      (settled, after) := by
  have numbered : (scenario.context attempt).retryAttempts = attempt := rfl
  unfold retryMiddleware
  cases enabled : scenario.broker.retryPolicy.enabled with
  | false => simpa using ran
  | true =>
    cases settled with
    | fulfilled value => simp [Promise.recover, ran]
    | pending => simp [Promise.recover, ran]
    | rejected err =>
      have refuses : (scenario.broker.retryPolicy.check err && belowLimit attempt
          (allowedRetries scenario.broker scenario.options)) = false := by
        simpa [Scenario.retried, found, enabled, fails err rfl] using stops
      simp [Promise.recover, ran, numbered, refuses]

theorem retryMiddleware_pending {again : Handler β} (waits : inner ctx state = (.pending, after)) :
    retryMiddleware scenario.broker scenario.options again inner ctx state
      = (.pending, after) := by
  unfold retryMiddleware
  split
  · simp [Promise.recover, waits]
  · exact waits

theorem remoteAction_eq :
    remoteAction scenario.broker scenario.network scenario.options again =
      errorHandlerMiddleware scenario.broker
        (fallbackMiddleware scenario.broker scenario.options
          (retryMiddleware scenario.broker scenario.options again
            (timeoutMiddleware scenario.broker scenario.options
              (circuitBreakerMiddleware (request scenario.broker scenario.network))))) := rfl

/-- The call on the context of an attempt, whose node is still that of the attempt before. -/
def Scenario.callAt (scenario : Scenario β) (fuel attempt : Nat) (node : String) :
    Promise CallState CallError β :=
  callWith scenario.broker scenario.network scenario.options fuel
    ⟨scenario.start.nextUid + attempt, node, attempt⟩

theorem callAt_found (found : (scenario.network.endpoint attempt).isSome = true) :
    scenario.callAt (fuel + 1) attempt node =
      remoteAction scenario.broker scenario.network scenario.options
        (callWith scenario.broker scenario.network scenario.options fuel)
        (scenario.context attempt) := by
  obtain ⟨nodeID, located⟩ := Option.isSome_iff_exists.mp found
  simp [Scenario.callAt, callWith, located, Scenario.context]

theorem get_afterRequest (ready : Ready scenario attempt state) (id : Nat) :
    (id ≠ scenario.start.nextUid + attempt →
      (scenario.afterRequest attempt state).pendingRequests.get id
        = state.pendingRequests.get id) ∧
    (((scenario.afterRequest attempt state).pendingRequests.get
      (scenario.start.nextUid + attempt)).isSome = true ↔ scenario.unanswered attempt = true) := by
  have absent := ready.fresh _ (Nat.le_refl (scenario.start.nextUid + attempt))
  have named : (scenario.context attempt).id = scenario.start.nextUid + attempt := rfl
  unfold Scenario.afterRequest
  by_cases open_ : scenario.unanswered attempt = true
  · simp +contextual [open_, OrderedMap.get_set, named]
  · simp [open_, absent]

/-- The state in which the attempt after this one is made. -/
def Scenario.nextState (scenario : Scenario β) (attempt : Nat) (state : CallState) : CallState :=
  { scenario.afterRequest attempt state with
    nextUid := (scenario.afterRequest attempt state).nextUid + 1 }

theorem nextUid_afterRequest (ready : Ready scenario attempt state) :
    (scenario.afterRequest attempt state).nextUid = scenario.start.nextUid + (attempt + 1) := by
  have supply : (scenario.afterRequest attempt state).nextUid = state.nextUid := by
    unfold Scenario.afterRequest
    split <;> rfl
  rw [supply, ready.nextUid]
  omega

theorem Ready.next {scenario : Scenario β} (ready : Ready scenario attempt state) :
    Ready scenario (attempt + 1) (scenario.nextState attempt state) := by
  have absent := ready.fresh _ (Nat.le_refl (scenario.start.nextUid + attempt))
  refine ⟨?_, ?_, ?_⟩
  · rw [Scenario.occupied_succ, ← ready.size]
    unfold Scenario.nextState Scenario.afterRequest
    split
    · exact OrderedMap.size_set_of_get_none absent _
    · rfl
  · unfold Scenario.nextState
    rw [nextUid_afterRequest scenario ready]
  · intro id above
    unfold Scenario.nextState
    rw [((get_afterRequest scenario ready id).1 (by omega))]
    exact ready.fresh id (by omega)

/-- If the call on the context of an attempt settles, then with the right outcome. -/
def Proper (scenario : Scenario β) (attempt : Nat) (before : CallState)
    (ran : Settlement CallError β × CallState) : Prop :=
  ran.1 ≠ .pending → Outcome scenario attempt before ran.2 ran.1

theorem Scenario.Remote.context_ne {scenario : Scenario β} (remote : scenario.Remote)
    (found : (scenario.network.endpoint attempt).isSome = true) :
    (scenario.context attempt).nodeID ≠ scenario.broker.nodeID := by
  obtain ⟨nodeID, located⟩ := Option.isSome_iff_exists.mp found
  intro same
  apply remote attempt
  rw [← same, located]
  simp [Scenario.context, located]

theorem callAt_missing (ready : Ready scenario attempt state)
    (absent : scenario.network.endpoint attempt = none) :
    Proper scenario attempt state (scenario.callAt (fuel + 1) attempt node state) ∧
      (scenario.callAt (fuel + 1) attempt node state).1 ≠ .pending := by
  have stops : scenario.retried attempt = false := by simp [Scenario.retried, absent]
  have quiet (raised : CallError) : ¬ scenario.Reaches attempt raised := by
    intro reaches
    cases reaches <;> simp_all
  have handled : scenario.callAt (fuel + 1) attempt node state
      = (settlementOf (scenario.broker.handleError .serviceNotFound), state) := by
    simp [Scenario.callAt, callWith, absent]
  rw [handled]
  refine ⟨fun _ => ⟨fun _ _ => rfl, fun later lower => ?_, fun err => ?_⟩, ?_⟩
  · rw [ready.fresh _ (by omega)]
    rcases Nat.eq_or_lt_of_le lower with rfl | above
    · simp [Scenario.Leaves, absent]
    · simp [scenario.not_leaves_of_stop stops above]
  · cases answer : scenario.broker.handleError .serviceNotFound <;>
      simp [settlementOf, Scenario.CallRejects, absent, quiet, answer]
  · cases scenario.broker.handleError .serviceNotFound <;> simp [settlementOf]

theorem callAt_last (remote : scenario.Remote) (fuel : Nat) (node : String)
    (ready : Ready scenario attempt state)
    (found : (scenario.network.endpoint attempt).isSome = true)
    (stops : scenario.retried attempt = false) :
    Proper scenario attempt state (scenario.callAt (fuel + 1) attempt node state) ∧
      ((scenario.callAt (fuel + 1) attempt node state).1 = .pending →
        effectiveTimeout scenario.broker scenario.options = 0) := by
  rw [callAt_found scenario fuel node found, remoteAction_eq]
  obtain ⟨first, attempted, ends⟩ := attempt_spec scenario ready
  have entries := get_afterRequest scenario ready
  have keeps (id : Nat) (below : id < scenario.start.nextUid + attempt) :=
    (entries id).1 (Nat.ne_of_lt below)
  have unmade (later : Nat) (above : attempt < later) :
      ((scenario.afterRequest attempt state).pendingRequests.get
        (scenario.start.nextUid + later)).isSome = true ↔ scenario.Leaves attempt later := by
    rw [(entries _).1 (by omega), ready.fresh _ (by omega)]
    simp [scenario.not_leaves_of_stop stops above]
  rcases ends with ⟨rfl, endless⟩ | settles
  · rw [outer_pending scenario (retryMiddleware_pending scenario attempted)]
    exact ⟨fun waits => absurd rfl waits, fun _ => endless⟩
  · have failing (err : CallError) (rejects : first = .rejected err) :
        scenario.failure attempt = some err := by
      rcases settles with ⟨other, fails, rfl⟩ | ⟨_, _, data, rfl⟩
      · cases rejects
        exact fails
      · cases rejects
    have reaches (raised : CallError) : scenario.Reaches attempt raised ↔
        ∃ err, first = .rejected err ∧ handleFallback scenario.broker scenario.options
          (scenario.context attempt) err = .error raised := by
      rcases settles with ⟨err, fails, rfl⟩ | ⟨succeeds, _, data, rfl⟩
      · simp [scenario.reaches_of_stop found fails stops]
      · simp [scenario.not_reaches_of_failure succeeds]
    have settled : first ≠ .pending := by
      rcases settles with ⟨err, _, rfl⟩ | ⟨_, _, data, rfl⟩ <;> simp
    obtain ⟨final, last, whole, ends, outcome⟩ := Outcome.of_inner scenario found
      (remote.context_ne found) (retryMiddleware_stop scenario
        (callWith scenario.broker scenario.network scenario.options fuel) found stops failing
        attempted) settled keeps (entries 0).2 unmade reaches
    rw [whole]
    exact ⟨fun _ => outcome, fun waits => absurd waits ends⟩

theorem callAt_again (remote : scenario.Remote) (fuel : Nat) (node : String)
    (ready : Ready scenario attempt state) (again : scenario.retried attempt = true)
    (inside : Proper scenario (attempt + 1) (scenario.nextState attempt state)
      (scenario.callAt fuel (attempt + 1) (scenario.context attempt).nodeID
        (scenario.nextState attempt state))) :
    Proper scenario attempt state (scenario.callAt (fuel + 1) attempt node state) ∧
      ((scenario.callAt (fuel + 1) attempt node state).1 = .pending →
        effectiveTimeout scenario.broker scenario.options = 0 ∨
        (scenario.callAt fuel (attempt + 1) (scenario.context attempt).nodeID
          (scenario.nextState attempt state)).1 = .pending) := by
  have found : (scenario.network.endpoint attempt).isSome = true := by
    simp only [Scenario.retried, Bool.and_eq_true] at again
    exact again.1.1
  rw [callAt_found scenario fuel node found, remoteAction_eq]
  obtain ⟨first, attempted, ends⟩ := attempt_spec scenario ready
  rcases ends with ⟨rfl, endless⟩ | ⟨err, fails, rfl⟩ | ⟨succeeds, _⟩
  · rw [outer_pending scenario (retryMiddleware_pending scenario attempted)]
    exact ⟨fun waits => absurd rfl waits, fun _ => .inl endless⟩
  · have inner : retryMiddleware scenario.broker scenario.options
          (callWith scenario.broker scenario.network scenario.options fuel)
          (timeoutMiddleware scenario.broker scenario.options
            (circuitBreakerMiddleware (request scenario.broker scenario.network)))
          (scenario.context attempt) state
        = scenario.callAt fuel (attempt + 1) (scenario.context attempt).nodeID
          (scenario.nextState attempt state) := by
      rw [retryMiddleware_again scenario _ again fails attempted,
        nextUid_afterRequest scenario ready, Scenario.callAt, Scenario.nextState,
        nextUid_afterRequest scenario ready]
    rcases rest : scenario.callAt fuel (attempt + 1) (scenario.context attempt).nodeID
      (scenario.nextState attempt state) with ⟨settled, after⟩
    rw [rest] at inner inside
    by_cases waits : settled = .pending
    · subst waits
      rw [outer_pending scenario inner]
      exact ⟨fun settles => absurd rfl settles, fun _ => .inr rfl⟩
    · -- The entry of this attempt is untouched by the rest, so its own error handler decides.
      obtain ⟨kept, left, rejects⟩ := inside waits
      have entries := get_afterRequest scenario ready
      obtain ⟨final, last, whole, ends, outcome⟩ := Outcome.of_inner scenario found
        (remote.context_ne found) inner waits
        (fun id below => (kept id (by omega)).trans ((entries id).1 (by omega)))
        (by rw [kept _ (by omega)]; exact (entries 0).2)
        (fun later above => (left later above).trans (scenario.leaves_succ_iff again).symm)
        (fun raised => by rw [scenario.reaches_of_retried again]; simp only [rejects])
      rw [whole]
      exact ⟨fun _ => outcome, fun pending => absurd pending ends⟩
  · simp [Scenario.retried, succeeds] at again

theorem callAt_proper (remote : scenario.Remote) (fuel : Nat) (node : String)
    (ready : Ready scenario attempt state) :
    Proper scenario attempt state (scenario.callAt fuel attempt node state) := by
  induction fuel generalizing attempt state node with
  | zero => exact fun settles => absurd rfl settles
  | succ fuel ih =>
    by_cases found : (scenario.network.endpoint attempt).isSome = true
    · cases again : scenario.retried attempt with
      | true => exact (callAt_again scenario remote fuel node ready again (ih _ ready.next)).1
      | false => exact (callAt_last scenario remote fuel node ready found again).1
    · exact (callAt_missing scenario fuel node ready (by simpa using found)).1

theorem callAt_settles (remote : scenario.Remote) (fuel : Nat) {limit : Nat} (node : String)
    (ready : Ready scenario attempt state)
    (timed : 0 < effectiveTimeout scenario.broker scenario.options)
    (limited : allowedRetries scenario.broker scenario.options = some limit)
    (reach : attempt ≤ limit) (enough : limit < attempt + fuel) :
    (scenario.callAt fuel attempt node state).1 ≠ .pending := by
  induction fuel generalizing attempt state node with
  | zero => omega
  | succ fuel ih =>
    by_cases found : (scenario.network.endpoint attempt).isSome = true
    · cases again : scenario.retried attempt with
      | false =>
        intro waits
        have endless := (callAt_last scenario remote fuel node ready found again).2 waits
        omega
      | true =>
        intro waits
        -- Another attempt is below the limit.
        have below : attempt < limit := by
          unfold Scenario.retried at again
          cases fails : scenario.failure attempt <;>
            simp_all [belowLimit]
        rcases (callAt_again scenario remote fuel node ready again
          (callAt_proper scenario remote fuel _ ready.next)).2 waits with endless | inside
        · omega
        · exact ih _ ready.next below (by omega) inside
    · exact (callAt_missing scenario fuel node ready (by simpa using found)).2

/-- Once a remote call has settled, no attempt of it is pending exactly when for every attempt that
was left unanswered, the error of the call came back to the error handler of that attempt. -/
theorem no_pending_attempt_iff (scenario : Scenario β) (remote : scenario.Remote)
    (fresh : ∀ id, scenario.start.nextUid ≤ id → scenario.start.pendingRequests.get id = none) :
    (∀ fuel, (scenario.result fuel).1 ≠ .pending →
      ((∀ id, scenario.start.nextUid ≤ id →
          (scenario.result fuel).2.pendingRequests.get id = none) ↔
        ∀ attempt, scenario.Made attempt → scenario.unanswered attempt = true →
          ∃ raised, scenario.Reaches attempt raised)) ∧
    (∀ limit, allowedRetries scenario.broker scenario.options = some limit →
      0 < effectiveTimeout scenario.broker scenario.options →
      ∀ fuel, limit < fuel → (scenario.result fuel).1 ≠ .pending) := by
  have ready : Ready scenario 0
      { scenario.start with nextUid := scenario.start.nextUid + 1 } := ⟨rfl, rfl, fresh⟩
  have called (fuel : Nat) : scenario.result fuel = scenario.callAt fuel 0 scenario.broker.nodeID
      { scenario.start with nextUid := scenario.start.nextUid + 1 } := rfl
  constructor
  · intro fuel settles
    rw [called] at settles ⊢
    obtain ⟨_, left, _⟩ := callAt_proper scenario remote fuel _ ready settles
    constructor
    · intro cleared attempt made unanswered
      by_contra quiet
      have stays := (left attempt (Nat.zero_le _)).mpr
        ⟨fun between _ upper => made.1 between upper, made.2, unanswered, quiet⟩
      simp [cleared _ (Nat.le_add_right _ _)] at stays
    · intro handled id above
      obtain ⟨attempt, rfl⟩ := Nat.exists_eq_add_of_le above
      rw [← Option.not_isSome_iff_eq_none, left attempt (Nat.zero_le _)]
      rintro ⟨all, found, unanswered, quiet⟩
      exact quiet (handled attempt ⟨fun earlier => all earlier (Nat.zero_le _), found⟩ unanswered)
  · intro limit limited timed fuel enough
    rw [called]
    exact callAt_settles scenario remote fuel _ ready timed limited (Nat.zero_le _) (by omega)

/-- A call with one retry that is answered on the second attempt at the latest. -/
def retryOnce (first : Reply Nat) : Scenario Nat where
  broker :=
    { nodeID := "node-1"
      maxQueueSize := 0
      requestTimeout := 1000
      retryPolicy := ⟨true, some 1, fun _ => true⟩
      errorHandler := none
      actionTimeout := none
      actionFallback := none }
  network :=
    { endpoint := fun _ => some "node-2"
      reply := fun attempt => if attempt = 0 then first else .success 5 }
  options := ⟨none, none, .unset⟩
  start := ⟨.empty, 0⟩

theorem no_pending_attempt_iff_answered :
    (∀ id, ((retryOnce (.errorResponse "busy")).result 2).2.pendingRequests.get id = none) ∧
      ((retryOnce .noResponse).result 2).1 ≠ .pending := by
  have remote (first : Reply Nat) : (retryOnce first).Remote := fun _ => by
    simp [retryOnce]
  have laws (first : Reply Nat) :=
    no_pending_attempt_iff (retryOnce first) (remote first) fun _ _ => rfl
  constructor
  · intro id
    refine (((laws (.errorResponse "busy")).1 2 (by decide)).mpr ?_) id (Nat.zero_le _)
    intro attempt _ unanswered
    -- Both attempts are answered.
    cases attempt <;> simp [Scenario.unanswered, Scenario.silent, retryOnce] at unanswered
  · exact (laws .noResponse).2 1 rfl (by decide) 2 (by decide)

/-- When publishing fails once and the retry succeeds, the first attempt stays pending. -/
theorem retried_publish_failure_stays_pending :
    ((retryOnce (.publishFailure "offline")).result 2).1 = .fulfilled 5 ∧
      ((retryOnce (.publishFailure "offline")).result 2).2.pendingRequests.get 0
        = some ⟨"node-2"⟩ := by
  decide

end Moleculer.Calls
