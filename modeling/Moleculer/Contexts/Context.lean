import Moleculer.Base.JsonObject

/-! The contexts of calls and events, and how they are created. -/

namespace Moleculer.Contexts

open Base

/-- How an event was sent. -/
inductive EventType where
  | emit
  | broadcast
  | broadcastLocal
  deriving DecidableEq, Repr

/-- The endpoint of an action, by what a context takes from it. -/
structure ActionEndpoint where
  id : String
  action : String
  /-- The full name of the service. -/
  service : String
  deriving DecidableEq, Repr

/-- A context, where no value stands for `null` and for `undefined`. -/
structure Context (ν : Type) where
  id : String
  nodeID : Option String
  /-- The name of the action. -/
  action : Option String
  /-- The full name of the service. -/
  service : Option String
  eventName : Option String
  eventType : Option EventType
  eventGroups : Option (List String)
  /-- The calling option. -/
  timeout : Option ν
  /-- The stream of the calling options, by its object mode. -/
  stream : Option Bool
  parentID : Option String
  caller : Option String
  level : Nat
  params : Json ν
  metadata : Json ν
  headers : Json ν
  requestID : Option String
  tracing : Option Bool
  /-- The id of the current span. -/
  span : Option String

/-- The span that a call is made in. -/
structure ParentSpan where
  id : String
  traceID : String
  sampled : Bool
  deriving DecidableEq, Repr

/-- The options of a call that the context is created from. -/
structure CallingOptions (ν : Type) where
  timeout : Option ν
  stream : Option Bool
  requestID : Option String
  parentCtx : Option (Context ν)
  metadata : Option (Json ν)
  headers : Option (Json ν)
  caller : Option String
  parentSpan : Option ParentSpan

namespace Context

variable {ν : Type}

/-- The constructor, with the id that `generateUid` gives. -/
def new (brokerID uid : String) : Context ν where
  id := uid
  nodeID := some brokerID
  action := none
  service := none
  eventName := none
  eventType := none
  eventGroups := none
  timeout := none
  stream := none
  parentID := none
  caller := none
  level := 1
  params := .null
  metadata := .object []
  headers := .object []
  requestID := some uid
  tracing := none
  span := none

/-- `setEndpoint` for an action. -/
def setEndpoint (ctx : Context ν) (endpoint : ActionEndpoint) : Context ν :=
  { ctx with
    nodeID := some endpoint.id
    action := some endpoint.action
    service := some endpoint.service }

variable [Zero ν] [DecidableEq ν]

/-- `Context.create`. -/
def create (brokerID uid : String) (endpoint : Option ActionEndpoint) (params : Option (Json ν))
    (opts : CallingOptions ν) : Context ν :=
  let ctx := (endpoint.map (new brokerID uid).setEndpoint).getD (new brokerID uid)
  let ctx := { ctx with
    params := params.getD .null
    timeout := opts.timeout
    stream := opts.stream
    requestID := opts.requestID <|> (opts.parentCtx.bind (·.requestID)) <|> ctx.requestID
    metadata := match opts.parentCtx with
      | some parent => Json.assign [parent.metadata.orEmpty, (opts.metadata.getD .null).orEmpty]
      | none => opts.metadata.getD ctx.metadata
    headers := (opts.headers.filter Json.truthy).getD ctx.headers }
  let ctx := match opts.parentCtx with
    | some parent => { ctx with
        tracing := parent.tracing
        level := parent.level + 1
        parentID := some (parent.span.getD parent.id)
        caller := parent.service <|> ctx.caller }
    | none => ctx
  let ctx := { ctx with caller := (opts.caller.filter (· ≠ "")) <|> ctx.caller }
  match opts.parentSpan with
  | some span => { ctx with
      parentID := some span.id
      requestID := some span.traceID
      tracing := some span.sampled }
  | none => ctx

theorem requestID_create (brokerID uid : String) (endpoint : Option ActionEndpoint)
    (params : Option (Json ν)) (opts : CallingOptions ν) :
    (create brokerID uid endpoint params opts).requestID =
      (opts.parentSpan.map (·.traceID) <|> opts.requestID <|>
        (opts.parentCtx.bind (·.requestID)) <|> some uid) := by
  unfold create
  cases endpoint <;> cases opts.parentSpan <;> cases opts.parentCtx <;> rfl

end Context

end Moleculer.Contexts
