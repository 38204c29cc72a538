import Moleculer.Base.OrderedMap
import Moleculer.Base.Run

/-! The circuit breaker middleware: its items, their timers and the endpoints they switch. -/

namespace Moleculer.Breaker

open Base

/-- The states of a breaker. -/
inductive CircuitState where
  | circuitClose
  | circuitHalfOpen
  | circuitHalfOpenWait
  | circuitOpen
deriving DecidableEq, Repr

/-- An error of a call, as the breaker reads it. -/
structure CallError where
  code : Int
  nodeID : Option String
deriving DecidableEq, Repr

/-- The options of an action, merged with those of the broker. -/
structure Options where
  enabled : Bool
  threshold : ℚ
  minRequestCount : Nat
  check : Option (CallError → Bool)

/-- An action endpoint object. -/
structure Endpoint where
  id : String
  action : String
  state : Bool
deriving DecidableEq, Repr

/-- The name of an endpoint. -/
def Endpoint.name (ep : Endpoint) : String := ep.id ++ ":" ++ ep.action

/-- A request as the wrapped handler sees it: the endpoint of its context, and what the wrapper
has captured. -/
structure Request where
  ep : Nat
  nodeID : String
  service : String
  opts : Options

/-- An item of the breaker's store. -/
structure Item where
  ep : Nat
  service : String
  opts : Options
  count : Nat
  failures : Nat
  state : CircuitState
  cbTimer : Option Nat

/-- The events that the breaker broadcasts. -/
inductive Broadcast where
  | opened (nodeID service action : String) (failures count : Nat) (rate : ℚ)
  | halfOpened (nodeID service action : String)
  | closed (nodeID service action : String)

/-- How the wrapped handler ends. -/
inductive Outcome where
  | resolved
  | rejected (err : CallError)

/-- Objects are numbered in the order they are made. An object stays after the store or the
registry has forgotten it, because timers and requests still refer to it. -/
structure State where
  endpoint : Nat → Endpoint
  endpointCount : Nat
  /-- The endpoints by their name and the name of their service. -/
  registered : OrderedMap (String × String) Nat
  item : Nat → Item
  itemCount : Nat
  store : OrderedMap String Nat
  timers : OrderedMap Nat Nat
  timerCount : Nat
  requests : OrderedMap Nat Request
  requestCount : Nat
  broadcasts : List Broadcast

namespace State

/-- A broker without endpoints. -/
def initial : State where
  endpoint := fun _ => ⟨"", "", true⟩
  endpointCount := 0
  registered := .empty
  item := fun _ => ⟨0, "", ⟨false, 0, 0, none⟩, 0, 0, .circuitClose, none⟩
  itemCount := 0
  store := .empty
  timers := .empty
  timerCount := 0
  requests := .empty
  requestCount := 0
  broadcasts := []

/-- Change an item. -/
def setItem (s : State) (i : Nat) (change : Item → Item) : State :=
  { s with item := Function.update s.item i (change (s.item i)) }

/-- `item.state = ...; item.ep.state = ...`. -/
def turn (s : State) (i : Nat) (state : CircuitState) (available : Bool) : State :=
  let ep := (s.item i).ep
  { s.setItem i fun item => { item with state := state } with
    endpoint := Function.update s.endpoint ep { s.endpoint ep with state := available } }

/-- Set the timer that half-opens an item. -/
def startTimer (s : State) (i : Nat) : State :=
  { s.setItem i fun item => { item with cbTimer := some s.timerCount } with
    timers := s.timers.set s.timerCount i, timerCount := s.timerCount + 1 }

/-- `clearTimeout` of the timer of an item, if it has one. -/
def clearTimer (s : State) (i : Nat) : State :=
  match (s.item i).cbTimer with
  | none => s
  | some timer =>
    { s.setItem i fun item => { item with cbTimer := none } with timers := s.timers.delete timer }

/-- The name under which a request finds its item. -/
def keyOf (s : State) (request : Request) : String := (s.endpoint request.ep).name

/-- `getEpState`. -/
def getEpState (s : State) (request : Request) : Nat × State :=
  match s.store.get (s.keyOf request) with
  | some i => (i, s)
  | none => (s.itemCount, { s with
      item := Function.update s.item s.itemCount
        ⟨request.ep, request.service, request.opts, 0, 0, .circuitClose, none⟩
      itemCount := s.itemCount + 1
      store := s.store.set (s.keyOf request) s.itemCount })

/-- `halfOpenWait`. -/
def halfOpenWait (s : State) (i : Nat) : State :=
  -- Anti-stick protection: the timer half-opens the item when the request does not end.
  (s.turn i .circuitHalfOpenWait false).startTimer i

/-- `wrapCBMiddleware`, up to the call of the handler. -/
def circuitBreakerMiddleware (s : State) (request : Request) : State :=
  if request.opts.enabled then
    let (i, s) := s.getEpState request
    -- Handle half-open state in circuit breaker.
    let s := if (s.item i).state = .circuitHalfOpen then s.halfOpenWait i else s
    { s with requests := s.requests.set s.requestCount request, requestCount := s.requestCount + 1 }
  else s

/-- `broker.broadcast` runs the local listeners at once, and they may start requests. -/
def broadcast (s : State) (event : Broadcast) (listeners : List Request) : State :=
  listeners.foldl circuitBreakerMiddleware { s with broadcasts := s.broadcasts ++ [event] }

/-- `halfOpen`. -/
def halfOpen (s : State) (i : Nat) (listeners : List Request) : State :=
  let ep := s.endpoint (s.item i).ep
  (((s.turn i .circuitHalfOpen true).broadcast
    (.halfOpened ep.id (s.item i).service ep.action) listeners).clearTimer i)

/-- `circuitClose`. -/
def circuitClose (s : State) (i : Nat) (listeners : List Request) : State :=
  let ep := s.endpoint (s.item i).ep
  ((((s.turn i .circuitClose true).setItem i fun item => { item with failures := 0, count := 0 }
    ).broadcast (.closed ep.id (s.item i).service ep.action) listeners).clearTimer i)

section

variable (divide : Nat → Nat → ℚ)

/-- `trip`. -/
def trip (s : State) (i : Nat) (listeners : List Request) : State :=
  if (s.item i).state = .circuitOpen then s
  else
    let item := s.item i
    let ep := s.endpoint item.ep
    let rate := if 0 < item.count then divide item.failures item.count else 0
    (((s.turn i .circuitOpen false).clearTimer i).startTimer i).broadcast
      (.opened ep.id item.service ep.action item.failures item.count rate) listeners

/-- `checkThreshold`. -/
def checkThreshold (s : State) (i : Nat) (listeners : List Request) : State :=
  let item := s.item i
  if item.opts.minRequestCount ≤ item.count then
    if item.opts.threshold ≤ divide item.failures item.count then s.trip divide i listeners else s
  else s

/-- `failure`. -/
def failure (s : State) (i : Nat) (listeners : List Request) : State :=
  (s.setItem i fun item => { item with count := item.count + 1, failures := item.failures + 1 }
    ).checkThreshold divide i listeners

/-- `success`. -/
def success (s : State) (i : Nat) (listeners : List Request) : State :=
  let s := s.setItem i fun item => { item with count := item.count + 1 }
  if (s.item i).state = .circuitHalfOpenWait then s.circuitClose i listeners
  else s.checkThreshold divide i listeners

/-- An error that counts: it passes the check of the action and was not passed on from a third
node. -/
def counted (request : Request) (err : CallError) : Bool :=
  request.opts.check.any (· err) && (err.nodeID.getD "" == "" || err.nodeID == some request.nodeID)

/-- The callbacks of `wrapCBMiddleware` on the promise of the handler. -/
def complete (s : State) (id : Nat) (outcome : Outcome) (listeners : List Request) : State :=
  match s.requests.get id with
  | none => s
  | some request =>
    let s := { s with requests := s.requests.delete id }
    match outcome with
    | .resolved =>
      let (i, s) := s.getEpState request
      s.success divide i listeners
    | .rejected err =>
      if counted request err then
        let (i, s) := s.getEpState request
        s.failure divide i listeners
      else s

end

/-- The callback of a timer. -/
def fire (s : State) (timer : Nat) (listeners : List Request) : State :=
  match s.timers.get timer with
  | none => s
  | some i => State.halfOpen { s with timers := s.timers.delete timer } i listeners

/-- One turn of the loop of `resetStore`. -/
def resetItem (s : State) (entry : String × Nat) : State :=
  if (s.item entry.2).count = 0 then { s with store := s.store.delete entry.1 }
  else s.setItem entry.2 fun item => { item with count := 0, failures := 0 }

/-- `resetStore`. -/
def resetStore (s : State) : State := s.store.entries.foldl resetItem s

/-- `EndpointList.add`: an endpoint of the node and the service that is there is only updated. -/
def add (s : State) (id action service : String) : State :=
  let ep : Endpoint := ⟨id, action, true⟩
  match s.registered.get (ep.name, service) with
  | some _ => s
  | none => { s with
      endpoint := Function.update s.endpoint s.endpointCount ep
      endpointCount := s.endpointCount + 1
      registered := s.registered.set (ep.name, service) s.endpointCount }

/-- The endpoint leaves the registry with its node or service. -/
def remove (s : State) (name service : String) : State :=
  { s with registered := s.registered.delete (name, service) }

end State

/-- What can happen to the breaker. -/
inductive Operation where
  | start (request : Request)
  | complete (id : Nat) (outcome : Outcome) (listeners : List Request)
  | fire (timer : Nat) (listeners : List Request)
  | resetStore
  | add (id action service : String)
  | remove (name service : String)

/-- One step. -/
def State.step (divide : Nat → Nat → ℚ) (s : State) : Operation → State
  | .start request => s.circuitBreakerMiddleware request
  | .complete id outcome listeners => s.complete divide id outcome listeners
  | .fire timer listeners => s.fire timer listeners
  | .resetStore => s.resetStore
  | .add id action service => s.add id action service
  | .remove name service => s.remove name service

end Moleculer.Breaker
