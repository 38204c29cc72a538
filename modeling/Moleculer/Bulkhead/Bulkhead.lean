import Moleculer.Base.Run

/-! The bulkhead middleware: a bound on the handlers that run at one time, and a queue. -/

namespace Moleculer.Bulkhead

/-- The merged options of a bulkhead that is enabled. -/
structure Options where
  concurrency : Nat
  maxQueueSize : Option Nat
deriving DecidableEq, Repr

/-- The part of a context that a refusal names: of the action or the event, and of the node. -/
structure Ctx where
  name : String
  nodeID : String
deriving DecidableEq, Repr

/-- `QueueIsFullError`. -/
structure QueueIsFullError where
  message : String
  code : Nat
  type : String
  data : List (String × String)
  retryable : Bool
deriving DecidableEq, Repr

/-- The constructor of `QueueIsFullError`. The message is written for actions. -/
def queueIsFullError (data : List (String × String)) : QueueIsFullError where
  message := "Queue is full. Request '" ++ (data.lookup "action").getD "undefined" ++
    "' action on '" ++ (data.lookup "nodeID").getD "undefined" ++ "' node is rejected."
  code := 429
  type := "QUEUE_FULL"
  data := data
  retryable := true

/-- A wrapped handler: the options, and the error for a request that does not fit. -/
structure Wrapper where
  opts : Options
  refusal : Ctx → QueueIsFullError

/-- `wrapActionBulkheadMiddleware`. -/
def wrapActionBulkheadMiddleware (opts : Options) : Wrapper where
  opts := opts
  refusal := fun ctx => queueIsFullError [("action", ctx.name), ("nodeID", ctx.nodeID)]

/-- `wrapEventBulkheadMiddleware`. -/
def wrapEventBulkheadMiddleware (opts : Options) (service : String) : Wrapper where
  opts := opts
  refusal := fun ctx =>
    queueIsFullError [("event", ctx.name), ("service", service), ("nodeID", ctx.nodeID)]

/-- `opts.maxQueueSize && size >= opts.maxQueueSize`: zero stands for no bound. -/
def Options.full (opts : Options) (size : Nat) : Bool :=
  opts.maxQueueSize.any fun most => most ≠ 0 && most ≤ size

/-- A run of the handler. Requests are numbered in the order of their arrival. -/
structure Job where
  id : Nat
  queued : Bool
deriving DecidableEq, Repr

variable {ρ ε : Type}

/-- A callback on the promise of a handler: `then` if it was resolved and `catch` if not. -/
structure Callback (ρ ε : Type) where
  job : Job
  outcome : Except ε ρ

/-- A call of the handler that has not returned yet: of the middleware itself, or of `callNext` in
a callback of another request. -/
inductive Frame (ρ ε : Type) where
  | direct (id : Nat)
  | next (id : Nat) (callback : Callback ρ ε)

/-- The queue and the counter, with the calls that are under way. The lists from `started` on
record what has happened. -/
structure State (ρ ε : Type) where
  queue : List Nat
  currentInFlight : Int
  arrivals : Nat
  /-- The runs that were started and have not ended. -/
  running : List Job
  /-- The innermost call comes first. -/
  stack : List (Frame ρ ε)
  /-- The requests whose `then` callback threw, so that their `catch` callback is due. -/
  failing : List (Job × ε)
  started : List Job
  ended : List (Nat × Except ε ρ)
  /-- The requests that gave a slot back. -/
  released : List Nat
  settled : List (Nat × Except ε ρ)
  refused : List (Nat × QueueIsFullError)

namespace State

/-- Nothing has arrived. -/
def initial : State ρ ε := ⟨[], 0, 0, [], [], [], [], [], [], [], []⟩

/-- The promise of a request is settled, unless it was settled before. -/
def settle (s : State ρ ε) (id : Nat) (outcome : Except ε ρ) : State ρ ε :=
  if s.settled.any fun entry => entry.1 = id then s
  else { s with settled := s.settled ++ [(id, outcome)] }

/-- The run of a request is over. -/
def finish (s : State ρ ε) (id : Nat) (outcome : Except ε ρ) : State ρ ε :=
  { s with running := s.running.filter (·.id ≠ id), ended := s.ended ++ [(id, outcome)] }

/-- `currentInFlight++` and the call of the handler. -/
def start (s : State ρ ε) (job : Job) (frame : Frame ρ ε) : State ρ ε :=
  { s with
    currentInFlight := s.currentInFlight + 1
    running := s.running ++ [job]
    started := s.started ++ [job]
    stack := frame :: s.stack }

/-- `currentInFlight--`. -/
def release (s : State ρ ε) (id : Nat) : State ρ ε :=
  { s with currentInFlight := s.currentInFlight - 1, released := s.released ++ [id] }

/-- The end of a callback. The promise that the middleware returned follows the callback, while a
request of the queue has been answered before. -/
def resume (s : State ρ ε) (callback : Callback ρ ε) : State ρ ε :=
  if callback.job.queued then s else s.settle callback.job.id callback.outcome

section

variable (wrapper : Wrapper)

/-- `callNext`, in a callback. -/
def callNext (s : State ρ ε) (callback : Callback ρ ε) : State ρ ε :=
  match s.queue with
  | [] => s.resume callback
  | id :: rest =>
    if (wrapper.opts.concurrency : Int) ≤ s.currentInFlight then s.resume callback
    else State.start { s with queue := rest } ⟨id, true⟩ (.next id callback)

/-- The callbacks on the promise of the handler. -/
def call (s : State ρ ε) (callback : Callback ρ ε) : State ρ ε :=
  let s := s.release callback.job.id
  -- `item.resolve(res)` or `item.reject(err)`, for an item of the queue.
  let s := if callback.job.queued then s.settle callback.job.id callback.outcome else s
  s.callNext wrapper callback

/-- `bulkheadMiddleware`, up to the call of the handler. -/
def bulkheadMiddleware (s : State ρ ε) (ctx : Ctx) : State ρ ε :=
  let id := s.arrivals
  let s := { s with arrivals := id + 1 }
  -- Call handler without waiting.
  if s.currentInFlight < (wrapper.opts.concurrency : Int) then s.start ⟨id, false⟩ (.direct id)
  -- Check whether the queue is full.
  else if wrapper.opts.full s.queue.length then
    { s with refused := s.refused ++ [(id, wrapper.refusal ctx)] }
  -- Store the request in the queue.
  else { s with queue := s.queue ++ [id] }

/-- The innermost call of the handler returns a promise. -/
def returns (s : State ρ ε) : State ρ ε :=
  match s.stack with
  | [] => s
  | .direct _ :: rest => { s with stack := rest }
  | .next _ callback :: rest => State.resume { s with stack := rest } callback

/-- The innermost call of the handler throws. -/
def throws (s : State ρ ε) (err : ε) : State ρ ε :=
  match s.stack with
  | [] => s
  -- The exception leaves the middleware, past the code that gives the slot back.
  | .direct id :: rest =>
    (State.finish { s with stack := rest } id (.error err)).settle id (.error err)
  | .next id callback :: rest =>
    let s := State.finish { s with stack := rest } id (.error err)
    match callback.outcome with
    -- The promise of the `then` callback is rejected, so the `catch` callback follows.
    | .ok _ => { s with failing := s.failing ++ [(callback.job, err)] }
    | .error _ => if callback.job.queued then s else s.settle callback.job.id (.error err)

/-- The promise of a handler is settled, and its callback is called. No other code is running. -/
def settles (s : State ρ ε) (id : Nat) (outcome : Except ε ρ) : State ρ ε :=
  match s.stack, s.running.find? (·.id = id) with
  | [], some job => (s.finish id outcome).call wrapper ⟨job, outcome⟩
  | _, _ => s

/-- The `catch` callback that follows a `then` callback that threw. -/
def catches (s : State ρ ε) (id : Nat) : State ρ ε :=
  match s.stack, s.failing.find? (·.1.id = id) with
  | [], some (job, err) =>
    State.call wrapper { s with failing := s.failing.filter (·.1.id ≠ id) } ⟨job, .error err⟩
  | _, _ => s

end

end State

/-- What can happen. A request may arrive at any time, also while a handler is being called. -/
inductive Event (ρ ε : Type) where
  | arrive (ctx : Ctx)
  | returns
  | throws (err : ε)
  | settles (id : Nat) (outcome : Except ε ρ)
  | catches (id : Nat)

/-- One step. -/
def State.step (wrapper : Wrapper) (s : State ρ ε) : Event ρ ε → State ρ ε
  | .arrive ctx => s.bulkheadMiddleware wrapper ctx
  | .returns => s.returns
  | .throws err => s.throws err
  | .settles id outcome => s.settles wrapper id outcome
  | .catches id => s.catches wrapper id

end Moleculer.Bulkhead
