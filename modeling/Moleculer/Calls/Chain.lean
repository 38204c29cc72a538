import Moleculer.Base.OrderedMap
import Moleculer.Base.Promise

/-! A remote action call: the transit request inside of the middlewares that wrap it. -/

namespace Moleculer.Calls

open Base

/-- The errors a remote call can end with. -/
inductive CallError where
  | queueIsFull (size limit : Nat)
  | serviceNotFound
  | requestTimeout (nodeID : String)
  /-- Created from the error field of a response packet. -/
  | remote (message : String)
  /-- The transporter could not publish the packet. -/
  | publish (message : String)
  /-- The fallback named in the definition of a remote action is not a function here. -/
  | invalidFallback (name : String)
  /-- Thrown by a function of the user. -/
  | user (message : String)
  deriving DecidableEq, Repr

/-- The part of a calling context that the chain reads. -/
structure Context where
  id : Nat
  nodeID : String
  retryAttempts : Nat
  deriving DecidableEq, Repr

/-- The call option that replaces an error by a response. -/
inductive FallbackResponse (β : Type) where
  | unset
  | value (response : β)
  | function (respond : Context → CallError → Except CallError β)

/-- Merged retry options of the broker and the action, where no number means `Infinity`. -/
structure RetryPolicy where
  enabled : Bool
  retries : Option Nat
  check : CallError → Bool

/-- The options of one call. -/
structure CallOptions (β : Type) where
  timeout : Option Nat
  retries : Option (Option Nat)
  fallbackResponse : FallbackResponse β

/-- The options of the broker and of the action definition it received. -/
structure Broker (β : Type) where
  nodeID : String
  /-- Zero stands for an unlimited queue. -/
  maxQueueSize : Nat
  requestTimeout : Nat
  retryPolicy : RetryPolicy
  errorHandler : Option (CallError → Except CallError β)
  actionTimeout : Option Nat
  actionFallback : Option String

/-- What happens to a published request. -/
inductive Reply (β : Type) where
  | publishFailure (message : String)
  | noResponse
  | errorResponse (message : String)
  | success (data : β)
  deriving DecidableEq, Repr

/-- The surroundings of a call: the endpoint found for each attempt, and what comes back. -/
structure Network (β : Type) where
  endpoint : Nat → Option String
  reply : Nat → Reply β

/-- An entry of the pending requests. -/
structure PendingRequest where
  nodeID : String
  deriving DecidableEq, Repr

/-- The pending requests of the transit and the supply of unique ids. -/
structure CallState where
  pendingRequests : OrderedMap Nat PendingRequest
  nextUid : Nat

/-- An action handler. -/
abbrev Handler (β : Type) := Context → Promise CallState CallError β

variable {β : Type}

/-- The constructor of a context takes a new id from `generateUid`. -/
def createContext (nodeID : String) (retryAttempts : Nat) : Promise CallState CallError Context :=
  fun state => (.fulfilled ⟨state.nextUid, nodeID, retryAttempts⟩,
    { state with nextUid := state.nextUid + 1 })

/-- `Transit.removePendingRequest`. -/
def removePendingRequest (id : Nat) : Promise CallState CallError Unit :=
  .act fun state => { state with pendingRequests := state.pendingRequests.delete id }

/-- `Transit.responseHandler`, which settles the promise of a request that is still pending. -/
def responseHandler (id : Nat) (response : Except CallError β) : Promise CallState CallError β :=
  fun state =>
    match state.pendingRequests.get id with
    -- An orphan response is skipped.
    | none => (.pending, state)
    | some _ => (do
        removePendingRequest id
        match response with
        | .ok data => Promise.resolve data
        | .error error => Promise.reject error) state

/-- `Transit.request` and `_sendRequest`, together with the answer of the network. -/
def request (broker : Broker β) (network : Network β) : Handler β := fun ctx state =>
  let size := state.pendingRequests.size
  if broker.maxQueueSize ≠ 0 ∧ broker.maxQueueSize ≤ size then
    (.rejected (.queueIsFull size broker.maxQueueSize), state)
  else
    -- Add to pendings, then publish.
    let waiting := { state with
      pendingRequests := state.pendingRequests.set ctx.id ⟨ctx.nodeID⟩ }
    match network.reply ctx.retryAttempts with
    | .publishFailure message => (.rejected (.publish message), waiting)
    | .noResponse => (.pending, waiting)
    | .errorResponse message => responseHandler ctx.id (.error (.remote message)) waiting
    | .success data => responseHandler ctx.id (.ok data) waiting

/-- `wrapCBMiddleware`: the store of the breaker aside, results and errors pass through. -/
def circuitBreakerMiddleware (handler : Handler β) : Handler β := fun ctx =>
  ((handler ctx).andThen fun res => Promise.resolve res).recover fun err => Promise.reject err

/-- The timeout of a call, from its own options, the action or the broker. -/
def effectiveTimeout (broker : Broker β) (options : CallOptions β) : Nat :=
  match options.timeout, broker.actionTimeout with
  | some timeout, _ => timeout
  | none, some timeout => timeout
  | none, none => broker.requestTimeout

/-- `wrapTimeoutMiddleware`: a promise that stays pending is rejected when there is a timeout. -/
def timeoutMiddleware (broker : Broker β) (options : CallOptions β) (handler : Handler β) :
    Handler β := fun ctx state =>
  match handler ctx state with
  | (.pending, after) =>
    if 0 < effectiveTimeout broker options then (.rejected (.requestTimeout ctx.nodeID), after)
    else (.pending, after)
  | settled => settled

/-- The number of retries, from the call options or the policy. -/
def allowedRetries (broker : Broker β) (options : CallOptions β) : Option Nat :=
  options.retries.getD broker.retryPolicy.retries

/-- The test `ctx._retryAttempts < attempts`. -/
def belowLimit (attempts : Nat) : Option Nat → Bool
  | none => true
  | some limit => attempts < limit

/-- `wrapRetryMiddleware`: a failed attempt is repeated by a new call with a copied context. -/
def retryMiddleware (broker : Broker β) (options : CallOptions β) (call : Handler β)
    (handler : Handler β) : Handler β :=
  if broker.retryPolicy.enabled then fun ctx =>
    (handler ctx).recover fun err =>
      if broker.retryPolicy.check err && belowLimit ctx.retryAttempts
          (allowedRetries broker options) then do
        let newCtx ← createContext ctx.nodeID (ctx.retryAttempts + 1)
        call newCtx
      else Promise.reject err
  else handler

/-- What the fallback middleware makes of an error. -/
def handleFallback (broker : Broker β) (options : CallOptions β) (ctx : Context)
    (err : CallError) : Except CallError β :=
  match options.fallbackResponse with
  | .value response => .ok response
  | .function respond => respond ctx err
  | .unset =>
    match broker.actionFallback with
    -- The service item of a remote service carries no such method.
    | some name => .error (.invalidFallback name)
    | none => .error err

/-- A promise settled by a function of the user. -/
def settle : Except CallError β → Promise CallState CallError β
  | .ok value => Promise.resolve value
  | .error error => Promise.reject error

/-- `wrapFallbackMiddleware`. -/
def fallbackMiddleware (broker : Broker β) (options : CallOptions β) (handler : Handler β) :
    Handler β := fun ctx =>
  (handler ctx).recover fun err => settle (handleFallback broker options ctx err)

/-- `ServiceBroker.errorHandler`. -/
def Broker.handleError (broker : Broker β) (err : CallError) : Except CallError β :=
  match broker.errorHandler with
  | some handler => handler err
  | none => .error err

/-- `wrapActionErrorHandler`. -/
def errorHandlerMiddleware (broker : Broker β) (handler : Handler β) : Handler β := fun ctx =>
  (handler ctx).recover fun err => do
    if ctx.nodeID ≠ broker.nodeID then
      -- Remove pending request (the request didn't reach the target service).
      removePendingRequest ctx.id
    settle (broker.handleError err)

/-- `MiddlewareHandler.wrapHandler`: every registered middleware wraps the ones before it. -/
def wrapHandler (middlewares : List (Handler β → Handler β)) (handler : Handler β) : Handler β :=
  middlewares.foldl (fun wrapped middleware => middleware wrapped) handler

/-- The handler of a remote action, in the order of the internal middlewares. -/
def remoteAction (broker : Broker β) (network : Network β) (options : CallOptions β)
    (call : Handler β) : Handler β :=
  wrapHandler
    [circuitBreakerMiddleware, timeoutMiddleware broker options,
      retryMiddleware broker options call, fallbackMiddleware broker options,
      errorHandlerMiddleware broker]
    (request broker network)

/-- `ServiceBroker.call` on an existing context, with a bound on the depth of nested retries. -/
def callWith (broker : Broker β) (network : Network β) (options : CallOptions β) :
    Nat → Handler β
  | 0, _ => Promise.never
  | fuel + 1, ctx =>
    match network.endpoint ctx.retryAttempts with
    | none => settle (broker.handleError .serviceNotFound)
    | some nodeID =>
      remoteAction broker network options (callWith broker network options fuel)
        { ctx with nodeID := nodeID }

/-- `ServiceBroker.call` from outside, which creates the first context. -/
def call (broker : Broker β) (network : Network β) (options : CallOptions β) (fuel : Nat) :
    Promise CallState CallError β := do
  let ctx ← createContext broker.nodeID 0
  callWith broker network options fuel ctx

end Moleculer.Calls
