import Moleculer.Base.JsonValue

/-! The error classes and their constructors. -/

namespace Moleculer.Errors

open Base

/-- The fields of an error that say what happened. -/
structure Content (ν : Type) where
  name : String
  message : Json ν
  code : Value ν
  type : Value ν
  data : Value ν

/-- An error. -/
structure ErrorObject (ν : Type) extends Content ν where
  retryable : Value ν
  nodeID : Option String

/-- The exported error classes. -/
inductive ErrorClass where
  | extendableError
  | timeoutError
  | moleculerError
  | moleculerRetryableError
  | moleculerServerError
  | moleculerClientError
  | serviceNotFoundError
  | serviceNotAvailableError
  | validationError
  | requestTimeoutError
  | requestSkippedError
  | requestRejectedError
  | queueIsFullError
  | maxCallLevelError
  | serviceSchemaError
  | brokerOptionsError
  | gracefulStopTimeoutError
  | protocolVersionMismatchError
  | invalidPacketDataError
  | brokerDisconnectedError
  deriving DecidableEq, Repr

namespace ErrorClass

/-- The name of a class. -/
def name : ErrorClass → String
  | extendableError => "ExtendableError"
  | timeoutError => "TimeoutError"
  | moleculerError => "MoleculerError"
  | moleculerRetryableError => "MoleculerRetryableError"
  | moleculerServerError => "MoleculerServerError"
  | moleculerClientError => "MoleculerClientError"
  | serviceNotFoundError => "ServiceNotFoundError"
  | serviceNotAvailableError => "ServiceNotAvailableError"
  | validationError => "ValidationError"
  | requestTimeoutError => "RequestTimeoutError"
  | requestSkippedError => "RequestSkippedError"
  | requestRejectedError => "RequestRejectedError"
  | queueIsFullError => "QueueIsFullError"
  | maxCallLevelError => "MaxCallLevelError"
  | serviceSchemaError => "ServiceSchemaError"
  | brokerOptionsError => "BrokerOptionsError"
  | gracefulStopTimeoutError => "GracefulStopTimeoutError"
  | protocolVersionMismatchError => "ProtocolVersionMismatchError"
  | invalidPacketDataError => "InvalidPacketDataError"
  | brokerDisconnectedError => "BrokerDisconnectedError"

/-- All classes, in the order of the exports. -/
def all : List ErrorClass :=
  [extendableError, timeoutError, moleculerError, moleculerRetryableError, moleculerServerError,
    moleculerClientError, serviceNotFoundError, serviceNotAvailableError, validationError,
    requestTimeoutError, requestSkippedError, requestRejectedError, queueIsFullError,
    maxCallLevelError, serviceSchemaError, brokerOptionsError, gracefulStopTimeoutError,
    protocolVersionMismatchError, invalidPacketDataError, brokerDisconnectedError]

/-- The class that is exported under a name. -/
def find? (name : String) : Option ErrorClass := all.find? fun errorClass => errorClass.name = name

theorem find?_name (errorClass : ErrorClass) : find? errorClass.name = some errorClass := by
  cases errorClass <;> decide

end ErrorClass

/-- The names that the module exports. -/
def exported : List String :=
  ErrorClass.all.map (·.name) ++ ["recreateError", "resolveRegenerator", "Regenerator"]

theorem find?_eq_none {name : String} (other : name ∉ exported) : ErrorClass.find? name = none := by
  refine List.find?_eq_none.mpr fun errorClass inside same => other ?_
  have named : errorClass.name = name := by simpa using same
  exact List.mem_append_left _ (List.mem_map.mpr ⟨errorClass, inside, named⟩)

variable {ν : Type} [AddMonoidWithOne ν] [DecidableEq ν]

/-- The number of a status code. -/
def status (code : Nat) : Json ν := .number code

section Constructors

/-- The constructor of `ExtendableError`, for the class that is constructed. -/
def extendableError (errorClass : ErrorClass) (message : Value ν) : ErrorObject ν where
  name := errorClass.name
  message := message.getD (.string [])
  code := none
  type := none
  data := none
  retryable := none
  nodeID := none

/-- The constructor of `MoleculerError`, for the class that is constructed. -/
def moleculerError (errorClass : ErrorClass) (message code type data : Value ν) : ErrorObject ν :=
  { extendableError errorClass message with
    code := code.orElse (status 500)
    type := type
    data := data
    retryable := some (.bool false) }

/-- The constructor of `MoleculerRetryableError`, for the class that is constructed. -/
def moleculerRetryableError (errorClass : ErrorClass) (message code type data : Value ν) :
    ErrorObject ν :=
  { moleculerError errorClass message none none none with
    code := code.orElse (status 500)
    type := type
    data := data
    retryable := some (.bool true) }

/-- The constructor of `BrokerDisconnectedError`. -/
def brokerDisconnectedError : ErrorObject ν :=
  moleculerRetryableError .brokerDisconnectedError
    (.text ("The broker's transporter has disconnected. " ++
      "Please try again when a connection is reestablished."))
    (some (status 502)) (.text "BAD_GATEWAY") none

/-- The constructor of `MoleculerClientError`, for the class that is constructed. -/
def moleculerClientError (errorClass : ErrorClass) (message code type data : Value ν) :
    ErrorObject ν :=
  moleculerError errorClass message (code.orElse (status 400)) type data

/-- The constructor of `ValidationError`. -/
def validationError (message type data : Value ν) : ErrorObject ν :=
  moleculerClientError .validationError message (some (status 422))
    (type.orElse (.string (.ascii "VALIDATION_ERROR"))) data

/-- The constructor of `ServiceSchemaError`. -/
def serviceSchemaError (msg data : Value ν) : ErrorObject ν :=
  moleculerError .serviceSchemaError msg (some (status 500)) (.text "SERVICE_SCHEMA_ERROR") data

/-- The constructor of `BrokerOptionsError`. -/
def brokerOptionsError (msg data : Value ν) : ErrorObject ν :=
  moleculerError .brokerOptionsError msg (some (status 500)) (.text "BROKER_OPTIONS_ERROR") data

/-- The constructor of `ProtocolVersionMismatchError`. -/
def protocolVersionMismatchError (data : Value ν) : ErrorObject ν :=
  moleculerError .protocolVersionMismatchError (.text "Protocol version mismatch.")
    (some (status 500)) (.text "PROTOCOL_VERSION_MISMATCH") data

/-- The constructor of `InvalidPacketDataError`. -/
def invalidPacketDataError (data : Value ν) : ErrorObject ν :=
  moleculerError .invalidPacketDataError (.text "Invalid packet data.")
    (some (status 500)) (.text "INVALID_PACKET_DATA") data

variable (text : ν → Text)

/-- The message of a `ServiceNotFoundError`, where a service replaces what an action said. -/
def serviceNotFoundMessage (data : Value ν) : Option (Value ν) := do
  let nodeID ← data.property "nodeID"
  let action ← data.property "action"
  let service ← data.property "service"
  let version ← data.property "version"
  let msg ←
    if nodeID.truthy && action.truthy then
      Value.template text
        [.inl "Service '", .inr action, .inl "' is not found on '", .inr nodeID, .inl "' node."]
    else if action.truthy then
      Value.template text [.inl "Service '", .inr action, .inl "' is not found."]
    else pure none
  if service.truthy && version.truthy then
    Value.template text
      [.inl "Service '", .inr version, .inl ".", .inr service, .inl "' not found."]
  else if service.truthy then
    Value.template text [.inl "Service '", .inr service, .inl "' not found."]
  else pure msg

/-- The constructor of `ServiceNotFoundError`, which is without a result when it throws. -/
def serviceNotFoundError (data : Value ν) : Option (ErrorObject ν) := do
  let data : Value ν := some (data.getD (.object []))
  let msg ← serviceNotFoundMessage text data
  pure (moleculerRetryableError .serviceNotFoundError msg (some (status 404))
    (.text "SERVICE_NOT_FOUND") data)

/-- The message of a `ServiceNotAvailableError`. -/
def serviceNotAvailableMessage (data : Value ν) : Option (Value ν) := do
  let nodeID ← data.property "nodeID"
  let action ← data.property "action"
  if nodeID.truthy then
    Value.template text [.inl "Service '", .inr action, .inl "' is not available on '",
      .inr nodeID, .inl "' node."]
  else Value.template text [.inl "Service '", .inr action, .inl "' is not available."]

/-- The constructor of `ServiceNotAvailableError`. -/
def serviceNotAvailableError (data : Value ν) : Option (ErrorObject ν) := do
  let msg ← serviceNotAvailableMessage text data
  pure (moleculerRetryableError .serviceNotAvailableError msg (some (status 404))
    (.text "SERVICE_NOT_AVAILABLE") data)

/-- A message about a property of the data and its node, between three texts. -/
def placeMessage (data : Value ν) (key first second third : String) : Option (Value ν) := do
  let subject ← data.property key
  let nodeID ← data.property "nodeID"
  Value.template text [.inl first, .inr subject, .inl second, .inr nodeID, .inl third]

/-- The constructor of `RequestTimeoutError`. -/
def requestTimeoutError (data : Value ν) : Option (ErrorObject ν) := do
  let msg ← placeMessage text data "action"
    "Request is timed out when call '" "' action on '" "' node."
  pure (moleculerRetryableError .requestTimeoutError msg (some (status 504))
    (.text "REQUEST_TIMEOUT") data)

/-- The constructor of `RequestSkippedError`. -/
def requestSkippedError (data : Value ν) : Option (ErrorObject ν) := do
  let msg ← placeMessage text data "action"
    "Calling '" "' is skipped because timeout reached on '" "' node."
  pure (moleculerError .requestSkippedError msg (some (status 514)) (.text "REQUEST_SKIPPED") data)

/-- The constructor of `RequestRejectedError`. -/
def requestRejectedError (data : Value ν) : Option (ErrorObject ν) := do
  let msg ← placeMessage text data "action"
    "Request is rejected when call '" "' action on '" "' node."
  pure (moleculerRetryableError .requestRejectedError msg (some (status 503))
    (.text "REQUEST_REJECTED") data)

/-- The constructor of `QueueIsFullError`. -/
def queueIsFullError (data : Value ν) : Option (ErrorObject ν) := do
  let msg ← placeMessage text data "action"
    "Queue is full. Request '" "' action on '" "' node is rejected."
  pure (moleculerRetryableError .queueIsFullError msg (some (status 429)) (.text "QUEUE_FULL") data)

/-- The constructor of `MaxCallLevelError`. -/
def maxCallLevelError (data : Value ν) : Option (ErrorObject ν) := do
  let msg ← placeMessage text data "level"
    "Request level is reached the limit (" ") on '" "' node."
  pure (moleculerError .maxCallLevelError msg (some (status 500)) (.text "MAX_CALL_LEVEL") data)

/-- The service that the data of a `GracefulStopTimeoutError` names. -/
def stoppedService (data : Value ν) : Value ν :=
  if data.truthy then ((data.property "service").getD none).filter Json.truthy else none

/-- The constructor of `GracefulStopTimeoutError`. -/
def gracefulStopTimeoutError (data : Value ν) : Option (ErrorObject ν) :=
  match stoppedService data with
  | some service => do
    let name ← Value.property (some service) "name"
    let version ← Value.property (some service) "version"
    let msg ← Value.template text
      [.inl "Unable to stop '", .inr name, .inl "' service gracefully."]
    -- Members that are undefined do not count.
    let members := [("name", name), ("version", version)].filterMap fun (key, value) =>
      value.map fun value => (Text.ascii key, value)
    pure (moleculerError .gracefulStopTimeoutError msg (some (status 500))
      (.text "GRACEFUL_STOP_TIMEOUT") (some (.object members)))
  | none =>
    pure (moleculerError .gracefulStopTimeoutError
      (.text "Unable to stop ServiceBroker gracefully.") (some (status 500))
      (.text "GRACEFUL_STOP_TIMEOUT") none)

end Constructors

end Moleculer.Errors
