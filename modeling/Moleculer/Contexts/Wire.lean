import Moleculer.Contexts.Context
import Moleculer.Transit.Streams

/-! Contexts on their way to other nodes: the payloads of requests and events, and the contexts that
are built from them. -/

namespace Moleculer.Contexts

open Base

variable {ν : Type}

/-- The payload of the first REQUEST packet of a call. -/
structure RequestPayload (ν : Type) where
  sender : String
  id : String
  action : Option String
  params : Json ν
  metadata : Json ν
  headers : Json ν
  timeout : Option ν
  level : Nat
  tracing : Option Bool
  parentID : Option String
  requestID : Option String
  caller : Option String
  stream : Bool
  seq : Option Nat

/-- The payload of an EVENT packet. -/
structure EventPayload (ν : Type) where
  sender : String
  id : String
  event : Option String
  data : Json ν
  groups : Option (List String)
  broadcast : Bool
  metadata : Json ν
  headers : Json ν
  level : Nat
  tracing : Option Bool
  parentID : Option String
  requestID : Option String
  caller : Option String

/-- A serializer that gives back what it was given. -/
structure Serializer (π ω : Type) where
  serialize : π → ω
  deserialize : ω → Option π
  faithful : ∀ payload, deserialize (serialize payload) = some payload

/-- The header that tells the receiver of a stream its mode. -/
def streamObjectMode : Text := Text.ascii "$streamObjectMode"

/-- The headers of the payload, unless setting the mode fails. -/
def sentHeaders (ctx : Context ν) : Option (Json ν) :=
  if ctx.stream = some true then
    ctx.headers.orEmptyIfNull.assignProperty streamObjectMode (.bool true)
  else some ctx.headers

/-- The payload that `_sendRequest` publishes first, with the sender that the transporter adds. -/
def sendRequest (nodeID : String) (ctx : Context ν) : Option (RequestPayload ν) :=
  (sentHeaders ctx).map fun headers => {
    sender := nodeID
    id := ctx.id
    action := ctx.action
    params := ctx.params
    metadata := ctx.metadata
    headers := headers
    timeout := ctx.timeout
    level := ctx.level
    tracing := ctx.tracing
    parentID := ctx.parentID
    requestID := ctx.requestID
    caller := ctx.caller
    stream := ctx.stream.isSome
    seq := if ctx.stream.isSome then some 0 else none }

/-- The payload that `sendEvent` publishes, with the sender that the transporter adds. -/
def sendEvent (nodeID : String) (ctx : Context ν) : EventPayload ν where
  sender := nodeID
  id := ctx.id
  event := ctx.eventName
  data := ctx.params
  groups := ctx.eventGroups
  broadcast := ctx.eventType = some .broadcast
  metadata := ctx.metadata
  headers := ctx.headers
  level := ctx.level
  tracing := ctx.tracing
  parentID := ctx.parentID
  requestID := ctx.requestID
  caller := ctx.caller

/-- The node that a packet arrives at. -/
structure Receiver (ν : Type) where
  nodeID : String
  stopping : Bool
  transit : Streams.Transit String (Json ν)
  /-- The id that `generateUid` gives to the new context. -/
  uid : String
  /-- `_getLocalActionEndpoint`, without a result when it throws. -/
  localEndpoint : String → Option ActionEndpoint
  /-- Endpoints are found under the names of their actions. -/
  named : ∀ name endpoint, localEndpoint name = some endpoint → endpoint.action = name

/-- The fields of a request that concern its stream. -/
def RequestPayload.packet (payload : RequestPayload ν) : Streams.Packet String (Json ν) :=
  ⟨payload.id, payload.sender, payload.seq, some payload.stream, .other payload.params, none⟩

variable [Zero ν] [DecidableEq ν]

/-- The headers after `_handleIncomingRequestStream`, which deletes the mode when it opens a
stream. -/
def Receiver.readHeaders (receiver : Receiver ν) (payload : RequestPayload ν) : Json ν :=
  if (receiver.transit.pendingReqStreams.get payload.id).isNone &&
      !Streams.Transit.isPlain payload.packet then
    payload.headers.deleteProperty streamObjectMode
  else payload.headers

/-- Recreate the context of the caller. -/
def Receiver.recreate (receiver : Receiver ν) (payload : RequestPayload ν)
    (endpoint : ActionEndpoint) : Context ν :=
  { (Context.new receiver.nodeID receiver.uid : Context ν).setEndpoint endpoint with
    id := payload.id
    params := payload.params
    parentID := payload.parentID
    requestID := payload.requestID
    caller := payload.caller
    metadata := payload.metadata.orEmpty
    headers := (receiver.readHeaders payload).orEmpty
    level := payload.level
    tracing := payload.tracing
    nodeID := some payload.sender
    timeout := payload.timeout }

/-- The context that `requestHandler` calls the action with, if it gets that far. -/
def requestHandler (receiver : Receiver ν) (payload : RequestPayload ν) : Option (Context ν) :=
  if receiver.stopping then none
  else if (receiver.transit.handleIncomingRequestStream payload.packet).2 = .handled then none
  else (payload.action.bind receiver.localEndpoint).map (receiver.recreate payload)

variable {receiver : Receiver ν} {payload : RequestPayload ν} {sender : String}
  {received ctx : Context ν}

theorem requestHandler_spec (arrived : requestHandler receiver payload = some received) :
    ∃ endpoint, some endpoint.action = payload.action ∧
      received = receiver.recreate payload endpoint := by
  unfold requestHandler at arrived
  split at arrived
  · cases arrived
  · split at arrived
    · cases arrived
    · obtain ⟨endpoint, found, rfl⟩ := Option.map_eq_some_iff.mp arrived
      obtain ⟨name, called, located⟩ := Option.bind_eq_some_iff.mp found
      exact ⟨endpoint, (congrArg some (receiver.named name endpoint located)).trans called.symm,
        rfl⟩

/-- The context that `eventHandler` gives to the local services. -/
def eventHandler (receiver : Receiver ν) (payload : EventPayload ν) : Option (Context ν) :=
  if receiver.stopping then none
  else some { Context.new receiver.nodeID receiver.uid with
    id := payload.id
    eventName := payload.event
    params := payload.data
    eventGroups := payload.groups
    eventType := some (if payload.broadcast then .broadcast else .emit)
    metadata := payload.metadata.orEmpty
    headers := payload.headers.orEmpty
    level := payload.level
    -- A flag that is not decided becomes false.
    tracing := some (payload.tracing.getD false)
    parentID := payload.parentID
    requestID := payload.requestID
    caller := payload.caller
    nodeID := some payload.sender }

/-- A context is sent with a request or with an event. -/
inductive Kind where
  | request
  | event
  deriving DecidableEq, Repr

variable {ω : Type}

/-- The serializers that the nodes use for requests and events. -/
structure Wire (ν ω : Type) where
  request : Serializer (RequestPayload ν) ω
  event : Serializer (EventPayload ν) ω

/-- The context that is built from the packet for a context. -/
def Wire.deliver (wire : Wire ν ω) (sender : String) (receiver : Receiver ν) (ctx : Context ν) :
    Kind → Option (Context ν)
  | .request => do
    let payload ← sendRequest sender ctx
    requestHandler receiver (← wire.request.deserialize (wire.request.serialize payload))
  | .event => do
    eventHandler receiver
      (← wire.event.deserialize (wire.event.serialize (sendEvent sender ctx)))

/-- What requests and events have to keep of a context. -/
structure SameCommon (ctx received : Context ν) : Prop where
  id : received.id = ctx.id
  params : received.params = ctx.params
  metadata : received.metadata = ctx.metadata
  headers : received.headers = ctx.headers
  level : received.level = ctx.level
  tracing : received.tracing = ctx.tracing
  parentID : received.parentID = ctx.parentID
  requestID : received.requestID = ctx.requestID
  caller : received.caller = ctx.caller

/-- The received context is the one that was sent. -/
def Same (sender : String) (ctx received : Context ν) : Kind → Prop
  | .request => SameCommon ctx received ∧ received.action = ctx.action ∧
      received.timeout = ctx.timeout ∧ received.nodeID = some sender
  | .event => SameCommon ctx received ∧ received.eventName = ctx.eventName ∧
      received.eventGroups = ctx.eventGroups ∧ received.eventType = ctx.eventType

/-- The header for the mode of the stream does not get in the way: if the packet opens the stream
there is no such header, and if chunks of an object stream were faster it was set before. -/
def StreamHeaderFits (receiver : Receiver ν) (ctx : Context ν) : Prop :=
  ctx.stream.isSome →
    if (receiver.transit.pendingReqStreams.get ctx.id).isNone then
      ¬ ctx.headers.Has streamObjectMode
    else ctx.stream = some true → ctx.headers.Holds streamObjectMode (.bool true)

/-- The contexts that arrive as they were sent. -/
def Transferable (receiver : Receiver ν) (ctx : Context ν) : Kind → Prop
  | .request => ctx.metadata.truthy = true ∧ ctx.headers.truthy = true ∧
      StreamHeaderFits receiver ctx
  | .event => ctx.metadata.truthy = true ∧ ctx.headers.truthy = true ∧ ctx.tracing ≠ none

theorem orEmpty_ne_null (value : Json ν) : value.orEmpty ≠ .null := by
  unfold Json.orEmpty
  split
  · rename_i holds
    intro same
    rw [same] at holds
    cases holds
  · exact nofun

theorem readHeaders_eq_iff {nodeID : String} (receiver : Receiver ν)
    (sent : sendRequest nodeID ctx = some payload) :
    (receiver.readHeaders payload).orEmpty = ctx.headers ↔
      ctx.headers.truthy = true ∧ StreamHeaderFits receiver ctx := by
  obtain ⟨headers, written, rfl⟩ := Option.map_eq_some_iff.mp sent
  unfold Receiver.readHeaders StreamHeaderFits sentHeaders at *
  cases stream : ctx.stream with
  | none =>
    -- A plain request is passed on as it is.
    rw [stream, if_neg (by simp)] at written
    cases written
    simp [Streams.Transit.isPlain, RequestPayload.packet, Json.orEmpty_eq_iff]
  | some mode =>
    have plain : Streams.Transit.isPlain
        (⟨ctx.id, nodeID, some 0, some true, .other ctx.params, none⟩ :
          Streams.Packet String (Json ν)) = false := rfl
    simp only [RequestPayload.packet, Option.isSome_some, if_true, plain, Bool.not_false,
      Bool.and_true, forall_const]
    -- What was set for an object stream can be deleted, and shows unless it was there before.
    have set_ : headers.truthy = true ∧ ctx.headers = .null ∨
        headers.truthy = ctx.headers.truthy ∧
        headers.deleteProperty streamObjectMode = ctx.headers.deleteProperty streamObjectMode ∧
        (headers = ctx.headers ↔ (some mode = some true →
          ctx.headers.Holds streamObjectMode (.bool true))) := by
      rw [stream] at written
      cases mode with
      | false =>
        rw [if_neg (by decide)] at written
        cases written
        exact .inr ⟨rfl, rfl, iff_of_true rfl (by simp)⟩
      | true =>
        rw [if_pos rfl] at written
        by_cases null : ctx.headers = .null
        · exact .inl ⟨(Json.truthy_assignProperty written).2, null⟩
        · have target : ctx.headers.assignProperty streamObjectMode (.bool true) =
              some headers := by
            have same : ctx.headers.orEmptyIfNull = ctx.headers := by
              unfold Json.orEmptyIfNull
              split
              · exact absurd ‹_› null
              · rfl
            rw [← same]
            exact written
          obtain ⟨deleted, shows⟩ := Json.assignProperty_spec target
          obtain ⟨before, after⟩ := Json.truthy_assignProperty target
          exact .inr ⟨after.trans before.symm, deleted, shows.trans (by simp)⟩
    rcases set_ with ⟨_, null⟩ | ⟨truth, deleted, shows⟩
    · rw [null]
      exact iff_of_false (orEmpty_ne_null _) fun both => Bool.noConfusion both.1
    · by_cases free : (receiver.transit.pendingReqStreams.get ctx.id).isNone = true
      · rw [if_pos free, if_pos free, deleted,
          Json.orEmpty_eq_iff _ _ (Json.truthy_deleteProperty _ _),
          Json.deleteProperty_eq_iff]
      · rw [if_neg free, if_neg free, Json.orEmpty_eq_iff _ _ truth, shows]

theorem requestHandler_same_iff (sent : sendRequest sender ctx = some payload)
    (arrived : requestHandler receiver payload = some received) :
    Same sender ctx received .request ↔ Transferable receiver ctx .request := by
  have fits := readHeaders_eq_iff receiver sent
  have truth := Json.orEmpty_eq_iff ctx.metadata ctx.metadata rfl
  obtain ⟨endpoint, action, rfl⟩ := requestHandler_spec arrived
  obtain ⟨headers, _, rfl⟩ := Option.map_eq_some_iff.mp sent
  refine ⟨fun ⟨common, _⟩ => ⟨(truth.mp common.metadata).1, fits.mp common.headers⟩,
    fun ⟨metadata, headers⟩ => ⟨?_, action, rfl, rfl⟩⟩
  exact ⟨rfl, rfl, truth.mpr ⟨metadata, rfl⟩, fits.mpr headers, rfl, rfl, rfl, rfl, rfl⟩

theorem eventHandler_same_iff (type : ctx.eventType = some .emit ∨ ctx.eventType = some .broadcast)
    (arrived : eventHandler receiver (sendEvent sender ctx) = some received) :
    Same sender ctx received .event ↔ Transferable receiver ctx .event := by
  unfold eventHandler at arrived
  split at arrived
  · cases arrived
  · cases arrived
    have metadata := Json.orEmpty_eq_iff ctx.metadata ctx.metadata rfl
    have headers := Json.orEmpty_eq_iff ctx.headers ctx.headers rfl
    have tracing : some (ctx.tracing.getD false) = ctx.tracing ↔ ctx.tracing ≠ none := by
      cases ctx.tracing <;> simp
    refine ⟨fun ⟨common, _⟩ => ⟨(metadata.mp common.metadata).1, (headers.mp common.headers).1,
      tracing.mp common.tracing⟩, fun ⟨first, second, third⟩ => ⟨?_, rfl, rfl, ?_⟩⟩
    · exact ⟨rfl, rfl, metadata.mpr ⟨first, rfl⟩, headers.mpr ⟨second, rfl⟩, rfl,
        tracing.mpr third, rfl, rfl, rfl⟩
    · rcases type with type | type <;> simp [sendEvent, type]

/-- A node on the way of a request, and the call that its handler makes. -/
structure Hop (ν : Type) where
  sender : String
  receiver : Receiver ν
  /-- The id of the new context. -/
  uid : String
  endpoint : ActionEndpoint
  params : Option (Json ν)
  timeout : Option ν
  stream : Option Bool
  metadata : Option (Json ν)
  headers : Option (Json ν)
  caller : Option String

/-- Send a request, whose handler calls another action in turn. -/
def Wire.forward (wire : Wire ν ω) (ctx : Context ν) (hop : Hop ν) : Option (Context ν) :=
  (wire.deliver hop.sender hop.receiver ctx .request).map fun received =>
    .create hop.receiver.nodeID hop.uid (some hop.endpoint) hop.params
      { timeout := hop.timeout
        stream := hop.stream
        requestID := none
        parentCtx := some received
        metadata := hop.metadata
        headers := hop.headers
        caller := hop.caller
        parentSpan := none }

theorem Wire.requestID_deliver {wire : Wire ν ω}
    (arrived : wire.deliver sender receiver ctx .request = some received) :
    received.requestID = ctx.requestID := by
  obtain ⟨payload, sent, handled⟩ := Option.bind_eq_some_iff.mp arrived
  rw [wire.request.faithful] at handled
  obtain ⟨endpoint, _, rfl⟩ := requestHandler_spec handled
  obtain ⟨headers, _, rfl⟩ := Option.map_eq_some_iff.mp sent
  rfl

theorem Wire.requestID_forward {wire : Wire ν ω} {hops : List (Hop ν)} {last : Context ν}
    (arrived : hops.foldlM wire.forward ctx = some last) {requestID : String}
    (given : ctx.requestID = some requestID) : last.requestID = some requestID := by
  induction hops generalizing ctx with
  | nil =>
    cases arrived
    exact given
  | cons hop rest ih =>
    rw [List.foldlM_cons] at arrived
    obtain ⟨next, hopped, onward⟩ := Option.bind_eq_some_iff.mp arrived
    obtain ⟨received, delivered, rfl⟩ := Option.map_eq_some_iff.mp hopped
    -- The new context takes the id of its parent.
    refine ih onward ?_
    rw [Context.requestID_create]
    dsimp only
    rw [Option.bind_some, requestID_deliver delivered, given]
    rfl

/-- A context arrives as it was sent exactly when its metadata and headers are true, the header for
the mode of a stream does not get in the way, and an event says whether it is traced. Forwarded
requests keep their ids. -/
theorem received_same_iff (wire : Wire ν ω) (sender : String) (receiver : Receiver ν)
    {ctx received : Context ν} {kind : Kind}
    (type : kind = .event → ctx.eventType = some .emit ∨ ctx.eventType = some .broadcast)
    (arrived : wire.deliver sender receiver ctx kind = some received) :
    (Same sender ctx received kind ↔ Transferable receiver ctx kind) ∧
      ∀ (hops : List (Hop ν)) (last : Context ν) (requestID : String),
        ctx.requestID = some requestID →
        hops.foldlM wire.forward ctx = some last → last.requestID = some requestID := by
  refine ⟨?_, fun hops last requestID given onward => wire.requestID_forward onward given⟩
  cases kind with
  | request =>
    obtain ⟨payload, sent, handled⟩ := Option.bind_eq_some_iff.mp arrived
    rw [wire.request.faithful] at handled
    exact requestHandler_same_iff sent handled
  | event =>
    obtain ⟨payload, read, handled⟩ := Option.bind_eq_some_iff.mp arrived
    rw [wire.event.faithful] at read
    cases read
    exact eventHandler_same_iff (type rfl) handled

/-- Payloads that are handed over as they are. -/
def directWire : Wire Nat (RequestPayload Nat ⊕ EventPayload Nat) where
  request := ⟨.inl, Sum.getLeft?, fun _ => rfl⟩
  event := ⟨.inr, Sum.getRight?, fun _ => rfl⟩

/-- A running node that offers all actions. -/
def openReceiver : Receiver Nat where
  nodeID := "b"
  stopping := false
  transit := ⟨[], .empty, .empty, .empty, [], [], []⟩
  uid := "new"
  localEndpoint := fun name => some ⟨"b", name, "posts"⟩
  named := fun _ _ found => by cases found; rfl

/-- A call from one node to the other is transferable. -/
theorem received_same_iff_call :
    (Same "a" ((Context.new "a" "1").setEndpoint ⟨"b", "posts.get", "posts"⟩)
        (openReceiver.recreate ⟨"a", "1", "posts.get", .null, .object [], .object [], none, 1, none,
          none, some "1", none, false, none⟩ ⟨"b", "posts.get", "posts"⟩) .request ↔
      Transferable openReceiver ((Context.new "a" "1").setEndpoint ⟨"b", "posts.get", "posts"⟩)
        .request) ∧
      ∀ (hops : List (Hop Nat)) (last : Context Nat) (requestID : String),
        ((Context.new "a" "1" : Context Nat).setEndpoint
          ⟨"b", "posts.get", "posts"⟩).requestID = some requestID →
        hops.foldlM directWire.forward ((Context.new "a" "1").setEndpoint
          ⟨"b", "posts.get", "posts"⟩) = some last → last.requestID = some requestID :=
  received_same_iff directWire "a" openReceiver nofun rfl

/-- A broadcast whose tracing is not decided arrives with the decision not to trace it. -/
theorem undecided_tracing_becomes_false :
    ∃ ctx received : Context Nat, ctx.eventType = some .broadcast ∧ ctx.tracing = none ∧
      directWire.deliver "a" openReceiver ctx .event = some received ∧
      received.tracing = some false ∧ ¬ Same "a" ctx received .event := by
  refine ⟨{ Context.new "a" "1" with
    eventName := some "user.created", eventType := some .broadcast }, _, rfl, rfl, rfl, rfl, ?_⟩
  intro same
  exact absurd same.1.tracing nofun

end Moleculer.Contexts
