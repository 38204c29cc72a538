import Moleculer.Base.Run
import Moleculer.Calls.Chain
import Moleculer.Registry.Balancer

/-! The retry middleware in a cluster: one call of a user, its attempts, and the nodes that execute
them. -/

namespace Moleculer.Retries

variable {ε ρ : Type}

/-- The options of the middleware, merged from those of the broker and of the action. -/
structure RetryPolicy (ε : Type) where
  retries : Nat
  delay : ℚ
  factor : ℚ
  maxDelay : ℚ
  check : ε → Bool

/-- An endpoint of the action, with the options that wrap its handler on the calling node. -/
structure Endpoint (ε : Type) where
  nodeID : String
  isPrivate : Bool
  policy : RetryPolicy ε

/-- What the registry of a node answers at one time: `getActionEndpointByNodeId`, and the next
endpoint of the balancer. Private actions are not registered. -/
structure Answers (ε : Type) where
  byNode : String → Option (Endpoint ε)
  next : Option (Endpoint ε)
  onNode : ∀ nodeID endpoint, byNode nodeID = some endpoint → endpoint.nodeID = nodeID
  visible : ∀ endpoint, ((∃ nodeID, byNode nodeID = some endpoint) ∨ next = some endpoint) →
    endpoint.isPrivate = false

/-- Where a call goes: `opts.nodeID`, the balancer, or the action of the own service. -/
inductive Target (ε : Type) where
  | direct (nodeID : String)
  | balanced
  | own (endpoint : Endpoint ε)

/-- Where a call on a node stands. -/
inductive Phase (ε ρ : Type) where
  /-- An endpoint is to be looked up, at once or after the delay of a retry. -/
  | calling (target : Target ε)
  /-- The handler is running here. -/
  | running (endpoint : Endpoint ε)
  /-- A request was sent, and its promise is pending. -/
  | remote (endpoint : Endpoint ε)
  | finished (outcome : Except ε ρ)

/-- A call on a node. The first one is that of the user, the others are made by `requestHandler`. -/
structure Thread (ε ρ : Type) where
  node : String
  /-- `ctx.nodeID`. -/
  nodeID : String
  retryAttempts : Nat
  /-- The calling option. -/
  retries : Option Nat
  phase : Phase ε ρ
  /-- The call that sent the request, and which of its attempts. -/
  parent : Option (Nat × Nat)

/-- A request on its way. -/
structure Packet where
  target : String
  sender : String
  parent : Nat × Nat
deriving DecidableEq, Repr

/-- A retry that was decided on. -/
structure Wait (ε : Type) where
  thread : Nat
  policy : RetryPolicy ε
  delay : ℚ

/-- The calls on all nodes and the packets between them. The lists record what has happened. -/
structure State (ε ρ : Type) where
  thread : Nat → Thread ε ρ
  threadCount : Nat
  packets : List Packet
  /-- The nodes that have executed the handler. -/
  executed : List String
  attempts : List (Nat × Endpoint ε)
  waits : List (Wait ε)

/-- The retry middleware when the handler fails: the delay, if there is a retry. -/
def afterFailure (thread : Thread ε ρ) (endpoint : Endpoint ε) (err : ε) : Option ℚ :=
  -- Skip retry if it is a remote call.
  if thread.nodeID ≠ thread.node ∧ endpoint.nodeID = thread.node then none
  else if endpoint.policy.check err then
    if thread.retryAttempts < thread.retries.getD endpoint.policy.retries then
      some (min (endpoint.policy.delay * endpoint.policy.factor ^ thread.retryAttempts)
        endpoint.policy.maxDelay)
    else none
  else none

/-- A call by its thread and by what the chain of middlewares reads: the caller is on this node or
the endpoint is on another one. -/
structure SameCall (broker : Calls.Broker ρ) (options : Calls.CallOptions ρ) (ctx : Calls.Context)
    (thread : Thread Calls.CallError ρ) (endpoint : Endpoint Calls.CallError) : Prop where
  enabled : broker.retryPolicy.enabled = true
  check : broker.retryPolicy.check = endpoint.policy.check
  retries : broker.retryPolicy.retries = some endpoint.policy.retries
  option : options.retries = thread.retries.map some
  attempts : ctx.retryAttempts = thread.retryAttempts
  caller : ¬ (thread.nodeID ≠ thread.node ∧ endpoint.nodeID = thread.node)

/-- The chain repeats a failed attempt just where there is a delay. -/
theorem retryMiddleware_eq {broker : Calls.Broker ρ} {options : Calls.CallOptions ρ}
    {ctx : Calls.Context} {thread : Thread Calls.CallError ρ} {endpoint : Endpoint Calls.CallError}
    (same : SameCall broker options ctx thread endpoint) (call handler : Calls.Handler ρ)
    {state after : Calls.CallState} {err : Calls.CallError}
    (failed : handler ctx state = (.rejected err, after)) :
    Calls.retryMiddleware broker options call handler ctx state =
      if (afterFailure thread endpoint err).isSome then
        (Calls.createContext ctx.nodeID (ctx.retryAttempts + 1)).andThen call after
      else (.rejected err, after) := by
  have limit : Calls.allowedRetries broker options =
      some (thread.retries.getD endpoint.policy.retries) := by
    rw [Calls.allowedRetries, same.option, same.retries]
    cases thread.retries <;> rfl
  have decision : (afterFailure thread endpoint err).isSome =
      (broker.retryPolicy.check err &&
        Calls.belowLimit ctx.retryAttempts (Calls.allowedRetries broker options)) := by
    rw [afterFailure, if_neg same.caller, limit, same.check, same.attempts, Calls.belowLimit]
    split
    · rename_i retryable
      rw [retryable]
      split <;> simp_all
    · simp_all
  rw [decision, Calls.retryMiddleware, if_pos same.enabled]
  simp only [Base.Promise.recover, failed]
  split <;> rfl

namespace State

variable (s : State ε ρ)

/-- Change a thread. -/
def setThread (t : Nat) (change : Thread ε ρ → Thread ε ρ) : State ε ρ :=
  { s with thread := Function.update s.thread t (change (s.thread t)) }

/-- The call is over. -/
def finish (t : Nat) (outcome : Except ε ρ) : State ε ρ :=
  s.setThread t fun thread => { thread with phase := .finished outcome }

/-- The handler of an endpoint is called: it is executed here, or a request is sent. -/
def start (t : Nat) (endpoint : Endpoint ε) : State ε ρ :=
  let thread := s.thread t
  let s := { s with attempts := s.attempts ++ [(t, endpoint)] }
  if endpoint.nodeID = thread.node then
    { s.setThread t fun thread =>
        { thread with nodeID := endpoint.nodeID, phase := .running endpoint } with
      executed := s.executed ++ [thread.node] }
  else
    { s.setThread t fun thread =>
        { thread with nodeID := endpoint.nodeID, phase := .remote endpoint } with
      packets := s.packets ++ [⟨endpoint.nodeID, thread.node, t, thread.retryAttempts⟩] }

/-- `findNextActionEndpoint` for a target, at the time of the answers. -/
def lookUp (answers : Answers ε) : Target ε → Option (Endpoint ε)
  | .direct nodeID => answers.byNode nodeID
  | .balanced => answers.next
  | .own endpoint => some endpoint

/-- `ServiceBroker.call`, or the action of the own service. -/
def call (t : Nat) (answers : Answers ε) (notFound : ε) : State ε ρ :=
  match (s.thread t).phase with
  | .calling target =>
    match lookUp answers target with
    | none => s.finish t (.error notFound)
    | some endpoint => s.start t endpoint
  | _ => s

/-- The promise of the handler is settled in the retry middleware. -/
def settle (t : Nat) (endpoint : Endpoint ε) (outcome : Except ε ρ) : State ε ρ :=
  match outcome with
  | .ok _ => s.finish t outcome
  | .error err =>
    match afterFailure (s.thread t) endpoint err with
    | none => s.finish t outcome
    | some delay =>
      { s.setThread t fun thread => { thread with
          retryAttempts := thread.retryAttempts + 1
          -- `broker.call(actionName, ctx.params, { ctx: newCtx })` names no node.
          phase := .calling (if endpoint.isPrivate then .own endpoint else .balanced) } with
        waits := s.waits ++ [⟨t, endpoint.policy, delay⟩] }

/-- `Transit.requestHandler`, where the node has the action; it is wrapped with the options of that
node. -/
def requestHandler (packet : Packet) (policy : RetryPolicy ε) : State ε ρ :=
  let thread : Thread ε ρ :=
    ⟨packet.target, packet.sender, 0, none, .running ⟨packet.target, false, policy⟩,
      some packet.parent⟩
  { s with
    thread := Function.update s.thread s.threadCount thread
    threadCount := s.threadCount + 1
    executed := s.executed ++ [packet.target] }

end State

/-- What can happen. -/
inductive Event (ε ρ : Type) where
  | call (t : Nat) (answers : Answers ε) (notFound : ε)
  /-- A packet arrives at a node that has the action, or not any more. -/
  | deliver (index : Nat) (policy : Option (RetryPolicy ε))
  /-- The handler that runs in a thread settles. -/
  | settles (t : Nat) (outcome : Except ε ρ)
  /-- The response of a finished thread arrives. -/
  | respond (t : Nat)
  /-- A pending request fails: it times out, the node disconnects, the packet cannot be sent or the
  node answers that it has no such action. -/
  | fails (t : Nat) (err : ε)

/-- The attempt that an event settles: the thread, its endpoint and the outcome. -/
def State.settlement (s : State ε ρ) : Event ε ρ → Option (Nat × Endpoint ε × Except ε ρ)
  | .settles t outcome =>
    match (s.thread t).phase with
    | .running endpoint => if t < s.threadCount then some (t, endpoint, outcome) else none
    | _ => none
  | .respond t =>
    match (s.thread t).phase, (s.thread t).parent with
    | .finished outcome, some (sender, attempt) =>
      match (s.thread sender).phase with
      | .remote endpoint =>
        -- The response of an earlier attempt finds no pending request.
        if t < s.threadCount ∧ sender < s.threadCount ∧
            (s.thread sender).retryAttempts = attempt then
          some (sender, endpoint, outcome)
        else none
      | _ => none
    | _, _ => none
  | .fails t err =>
    match (s.thread t).phase with
    | .remote endpoint => if t < s.threadCount then some (t, endpoint, .error err) else none
    | _ => none
  | _ => none

/-- One step. -/
def State.step (s : State ε ρ) (event : Event ε ρ) : State ε ρ :=
  match event with
  | .call t answers notFound => if t < s.threadCount then s.call t answers notFound else s
  | .deliver index policy =>
    match s.packets[index]?, policy with
    | some packet, some policy =>
      State.requestHandler { s with packets := s.packets.eraseIdx index } packet policy
    | _, _ => { s with packets := s.packets.eraseIdx index }
  | event =>
    match s.settlement event with
    | some (t, endpoint, outcome) => s.settle t endpoint outcome
    | none => s

/-- A user on a node calls the action. -/
def State.initial (home : String) (retries : Option Nat) (target : Target ε) : State ε ρ where
  thread := fun _ => ⟨home, home, 0, retries, .calling target, none⟩
  threadCount := 1
  packets := []
  executed := []
  attempts := []
  waits := []

section Registry

open Cluster

/-- `EndpointList.getEndpointByNodeID`. -/
def getEndpointByNodeID {δ : Type} (list : EndpointList δ) (nodeID : String) :
    Option (Cluster.Endpoint δ) :=
  (list.endpoints.find? fun ep => ep.node.id = some nodeID).filter (·.state)

/-- An endpoint of the registry with the options that wrap it. -/
def ofEndpoint (endpoint : Cluster.Endpoint (RetryPolicy ε)) : Endpoint ε :=
  ⟨endpoint.node.id.getD "", false, endpoint.data⟩

/-- The answers of a registry whose list of the action is given, if there is one. -/
def Answers.ofList (list : Option (EndpointList (RetryPolicy ε)))
    (strategy : Strategy (RetryPolicy ε)) (preferLocal : Bool) : Answers ε where
  byNode := fun nodeID => (list.bind (getEndpointByNodeID · nodeID)).map ofEndpoint
  next := (list.bind (·.next strategy preferLocal)).map ofEndpoint
  onNode := by
    intro nodeID endpoint found
    obtain ⟨ep, there, rfl⟩ := Option.map_eq_some_iff.mp found
    obtain ⟨list, -, there⟩ := Option.bind_eq_some_iff.mp there
    obtain ⟨first, -⟩ := Option.filter_eq_some_iff.mp there
    have id : ep.node.id = some nodeID := by simpa using List.find?_some first
    show ep.node.id.getD "" = nodeID
    rw [id, Option.getD_some]
  visible := by
    intro endpoint found
    obtain ⟨nodeID, there⟩ | there := found
    · obtain ⟨ep, -, rfl⟩ := Option.map_eq_some_iff.mp there
      rfl
    · obtain ⟨ep, -, rfl⟩ := Option.map_eq_some_iff.mp there
      rfl

end Registry

end Moleculer.Retries
