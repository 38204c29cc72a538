import Moleculer.Errors.Errors

/-! Errors on their way to other nodes: the plain errors in packets, and the errors that are
restored from them. -/

namespace Moleculer.Errors

open Base

variable {ν : Type} [AddMonoidWithOne ν] [DecidableEq ν]

/-- The plain error in a packet. -/
structure PlainError (ν : Type) extends Content ν where
  retryable : Value ν
  nodeID : String

/-- `extractPlainError` on the broker of the given id. -/
def extractPlainError (brokerID : String) (err : ErrorObject ν) : PlainError ν :=
  { err with nodeID := (err.nodeID.filter (· ≠ "")).getD brokerID }

section Restore

variable (text : ν → Text)

/-- The cases of `recreateError`, where the inner option is without a result for a class that has no
case, and the outer one when a constructor throws. -/
def recreateAs (errorClass : ErrorClass) (err : Content ν) : Option (Option (ErrorObject ν)) :=
  match errorClass with
  | .moleculerError =>
    some (some (moleculerError .moleculerError (some err.message) err.code err.type err.data))
  | .moleculerRetryableError =>
    some (some (moleculerRetryableError .moleculerRetryableError (some err.message) err.code
      err.type err.data))
  | .moleculerServerError =>
    some (some (moleculerRetryableError .moleculerServerError (some err.message) err.code
      err.type err.data))
  | .moleculerClientError =>
    some (some (moleculerClientError .moleculerClientError (some err.message) err.code err.type
      err.data))
  | .validationError => some (some (validationError (some err.message) err.type err.data))
  | .serviceNotFoundError => (serviceNotFoundError text err.data).map some
  | .serviceNotAvailableError => (serviceNotAvailableError text err.data).map some
  | .requestTimeoutError => (requestTimeoutError text err.data).map some
  | .requestSkippedError => (requestSkippedError text err.data).map some
  | .requestRejectedError => (requestRejectedError text err.data).map some
  | .queueIsFullError => (queueIsFullError text err.data).map some
  | .maxCallLevelError => (maxCallLevelError text err.data).map some
  | .gracefulStopTimeoutError => (gracefulStopTimeoutError text err.data).map some
  | .protocolVersionMismatchError => some (some (protocolVersionMismatchError err.data))
  | .invalidPacketDataError => some (some (invalidPacketDataError err.data))
  | .serviceSchemaError => some (some (serviceSchemaError (some err.message) err.data))
  | .brokerOptionsError => some (some (brokerOptionsError (some err.message) err.data))
  | .extendableError | .timeoutError | .brokerDisconnectedError => some none

/-- `recreateError`. -/
def recreateError (err : Content ν) : Option (Option (ErrorObject ν)) :=
  match ErrorClass.find? err.name with
  | none => some none
  | some errorClass => recreateAs text errorClass err

/-- `_createDefaultError`, where the constructor of `Error` makes a text of the message. -/
def createDefaultError (plainError : Content ν) : Option (ErrorObject ν) :=
  (plainError.message.display text).map fun message =>
    { plainError with message := .string message, retryable := none, nodeID := none }

/-- The error that is restored, before its external fields are. -/
def regenerate (plainError : Content ν) : Option (ErrorObject ν) := do
  match ← recreateError text plainError with
  | some err => pure err
  | none => createDefaultError text plainError

/-- `restore`, with the sender of the packet. -/
def restore (sender : String) (plainError : PlainError ν) : Option (ErrorObject ν) :=
  (regenerate text plainError.toContent).map fun err => { err with
    retryable := plainError.retryable
    nodeID := some (if plainError.nodeID = "" then sender else plainError.nodeID) }

/-- A way of an error to another node: the broker that extracts it, and the sender that is named. -/
structure Hop where
  brokerID : String
  named : brokerID ≠ ""
  sender : String

/-- Extract an error on one broker and restore it on another one. -/
def transfer (err : ErrorObject ν) (hop : Hop) : Option (ErrorObject ν) :=
  restore text hop.sender (extractPlainError hop.brokerID err)

end Restore

/-- A call of a constructor with any arguments, or an error of the user. -/
inductive Construction (ν : Type) where
  | extendableError (message : Value ν)
  | timeoutError (message : Value ν)
  | moleculerError (message code type data : Value ν)
  | moleculerRetryableError (message code type data : Value ν)
  | moleculerServerError (message code type data : Value ν)
  | moleculerClientError (message code type data : Value ν)
  | serviceNotFoundError (data : Value ν)
  | serviceNotAvailableError (data : Value ν)
  | validationError (message type data : Value ν)
  | requestTimeoutError (data : Value ν)
  | requestSkippedError (data : Value ν)
  | requestRejectedError (data : Value ν)
  | queueIsFullError (data : Value ν)
  | maxCallLevelError (data : Value ν)
  | serviceSchemaError (message data : Value ν)
  | brokerOptionsError (message data : Value ν)
  | gracefulStopTimeoutError (data : Value ν)
  | protocolVersionMismatchError (data : Value ν)
  | invalidPacketDataError (data : Value ν)
  | brokerDisconnectedError
  | other (name : { name : String // name ∉ exported }) (message : Json ν)
      (code type data retryable : Value ν)

/-- The error that is constructed, unless the constructor throws. -/
def Construction.construct (text : ν → Text) : Construction ν → Option (ErrorObject ν)
  | .extendableError message => some (Errors.extendableError .extendableError message)
  | .timeoutError message => some (Errors.extendableError .timeoutError message)
  | .moleculerError message code type data =>
    some (Errors.moleculerError .moleculerError message code type data)
  | .moleculerRetryableError message code type data =>
    some (Errors.moleculerRetryableError .moleculerRetryableError message code type data)
  | .moleculerServerError message code type data =>
    some (Errors.moleculerRetryableError .moleculerServerError message code type data)
  | .moleculerClientError message code type data =>
    some (Errors.moleculerClientError .moleculerClientError message code type data)
  | .serviceNotFoundError data => Errors.serviceNotFoundError text data
  | .serviceNotAvailableError data => Errors.serviceNotAvailableError text data
  | .validationError message type data => some (Errors.validationError message type data)
  | .requestTimeoutError data => Errors.requestTimeoutError text data
  | .requestSkippedError data => Errors.requestSkippedError text data
  | .requestRejectedError data => Errors.requestRejectedError text data
  | .queueIsFullError data => Errors.queueIsFullError text data
  | .maxCallLevelError data => Errors.maxCallLevelError text data
  | .serviceSchemaError message data => some (Errors.serviceSchemaError message data)
  | .brokerOptionsError message data => some (Errors.brokerOptionsError message data)
  | .gracefulStopTimeoutError data => Errors.gracefulStopTimeoutError text data
  | .protocolVersionMismatchError data => some (Errors.protocolVersionMismatchError data)
  | .invalidPacketDataError data => some (Errors.invalidPacketDataError data)
  | .brokerDisconnectedError => some Errors.brokerDisconnectedError
  | .other name message code type data retryable =>
    some ⟨⟨name, message, code, type, data⟩, retryable, none⟩

section Laws

variable {text : ν → Text}

/-- An error that comes out of a regeneration with the content it went in with. -/
def Stable (text : ν → Text) (content : Content ν) : Prop :=
  ∃ err, regenerate text content = some err ∧ err.toContent = content

/-- The node that a transferred error names. -/
def firstNode (nodeID : Option String) (hop : Hop) : String :=
  (nodeID.filter (· ≠ "")).getD hop.brokerID

theorem firstNode_ne_empty (nodeID : Option String) (hop : Hop) : firstNode nodeID hop ≠ "" := by
  unfold firstNode
  cases found : nodeID.filter (· ≠ "") with
  | none => exact hop.named
  | some id => simpa using (Option.filter_eq_some_iff.mp found).2

theorem transfer_eq (err : ErrorObject ν) (hop : Hop) :
    transfer text err hop = (regenerate text err.toContent).map fun again =>
      { again with retryable := err.retryable, nodeID := some (firstNode err.nodeID hop) } := by
  have named := firstNode_ne_empty err.nodeID hop
  unfold transfer restore
  exact congrArg (Option.map · _) (funext fun again => by
    show ({ again with retryable := _, nodeID := some (if firstNode err.nodeID hop = "" then _
      else _) } : ErrorObject ν) = _
    rw [if_neg named]
    rfl)

variable {content : Content ν} {err : ErrorObject ν}

theorem Stable.transfer (stable : Stable text err.toContent) {id : String}
    (named : err.nodeID = some id) (nonempty : id ≠ "") (hop : Hop) :
    transfer text err hop = some err := by
  obtain ⟨again, regenerated, same⟩ := stable
  have node : firstNode err.nodeID hop = id := by
    simp [firstNode, named, Option.filter_some, nonempty]
  rw [transfer_eq, regenerated, node, ← named, Option.map_some, same]

theorem Stable.transfers (stable : Stable text err.toContent) {id : String}
    (named : err.nodeID = some id) (nonempty : id ≠ "") (hops : List Hop) :
    hops.foldlM (Errors.transfer text) err = some err := by
  induction hops with
  | nil => rfl
  | cons hop rest ih =>
    rw [List.foldlM_cons, stable.transfer named nonempty hop]
    exact ih

theorem recreateError_of_name (errorClass : ErrorClass) (named : content.name = errorClass.name) :
    recreateError text content = recreateAs text errorClass content := by
  rw [recreateError, named, ErrorClass.find?_name]

theorem stable_of_recreate (recreated : recreateError text content = some (some err))
    (same : err.toContent = content) :
    Stable text content := by
  refine ⟨err, ?_, same⟩
  unfold regenerate
  rw [recreated]
  rfl

theorem regenerate_default (other : recreateError text content = some none) :
    regenerate text content = (content.message.display text).map fun message =>
      { content with message := .string message, retryable := none, nodeID := none } := by
  unfold regenerate
  rw [other]
  rfl

theorem default_spec
    (other : ∀ message, recreateError text { content with message := message } = some none) :
    (Stable text content ↔ ∃ message, content.message = .string message) ∧
      ∀ again, regenerate text content = some again → Stable text again.toContent := by
  have regenerated (message : Json ν) := regenerate_default (other message)
  have settled (message : Text) : Stable text { content with message := .string message } :=
    ⟨_, (regenerated (.string message)).trans rfl, rfl⟩
  constructor
  · constructor
    · rintro ⟨err, found, same⟩
      rw [regenerated content.message] at found
      obtain ⟨message, _, rfl⟩ := Option.map_eq_some_iff.mp found
      exact ⟨message, (congrArg Content.message same).symm⟩
    · rintro ⟨message, written⟩
      have whole : { content with message := .string message } = content := by rw [← written]
      exact whole ▸ settled message
  · intro again found
    rw [regenerated content.message] at found
    obtain ⟨message, _, rfl⟩ := Option.map_eq_some_iff.mp found
    exact settled message

end Laws

section Constructions

variable {text : ν → Text} {err : ErrorObject ν}

variable {data : Value ν} (errorClass : ErrorClass) (message : Value ν)

theorem stable_of_data {construct : Value ν → Option (ErrorObject ν)}
    (case : ∀ content, recreateAs text errorClass content = (construct content.data).map some)
    (built : construct data = some err) (made : err.name = errorClass.name ∧ err.data = data) :
    Stable text err.toContent := by
  rw [← made.2] at built
  exact stable_of_recreate ((recreateError_of_name errorClass made.1).trans
    ((case err.toContent).trans (congrArg (Option.map some) built))) rfl

omit [AddMonoidWithOne ν] [DecidableEq ν] in
theorem message_spec {message : Option (Value ν)} {make : Value ν → ErrorObject ν} {name : String}
    (built : (do pure (make (← message))) = some err)
    (made : ∀ msg, (make msg).name = name ∧ (make msg).data = data) :
    err.name = name ∧ err.data = data := by
  obtain ⟨msg, _, same⟩ := Option.bind_eq_some_iff.mp built
  cases same
  exact made msg

/-- The error for a broker that could not be stopped. -/
def stopped : ErrorObject ν :=
  moleculerError .gracefulStopTimeoutError (.text "Unable to stop ServiceBroker gracefully.")
    (some (status 500)) (.text "GRACEFUL_STOP_TIMEOUT") none

theorem gracefulStopTimeoutError_none (unnamed : stoppedService data = none) :
    gracefulStopTimeoutError text data = some stopped := by
  rw [gracefulStopTimeoutError, unnamed]
  rfl

theorem stoppedService_named (name version : Value ν) :
    stoppedService (some (.object ([("name", name), ("version", version)].filterMap
      fun (key, value) => value.map fun value => (Text.ascii key, value)))) = none := by
  have first : Text.ascii "name" ≠ Text.ascii "service" := by decide
  have second : Text.ascii "version" ≠ Text.ascii "service" := by decide
  cases name <;> cases version <;>
    simp [stoppedService, Value.property, Value.truthy, Json.truthy, first, second]

theorem gracefulStopTimeoutError_spec (built : gracefulStopTimeoutError text data = some err) :
    err.name = ErrorClass.gracefulStopTimeoutError.name ∧ stoppedService err.data = none ∧
      (stopped.toContent = err.toContent ↔ stoppedService data = none) := by
  unfold gracefulStopTimeoutError at built
  cases service : stoppedService data with
  | none =>
    rw [service] at built
    cases built
    exact ⟨rfl, rfl, iff_of_true rfl rfl⟩
  | some value =>
    rw [service] at built
    obtain ⟨name, _, built⟩ := Option.bind_eq_some_iff.mp built
    obtain ⟨version, _, built⟩ := Option.bind_eq_some_iff.mp built
    obtain ⟨msg, _, built⟩ := Option.bind_eq_some_iff.mp built
    cases built
    refine ⟨rfl, stoppedService_named name version, iff_of_false (fun same => ?_) nofun⟩
    -- The error about a service has data.
    cases congrArg Content.data same

theorem stable_stopped : Stable text (stopped : ErrorObject ν).toContent := by
  refine stable_of_data .gracefulStopTimeoutError (fun _ => rfl) ?_ ⟨rfl, rfl⟩
  exact gracefulStopTimeoutError_none rfl

variable [CharZero ν]

theorem truthy_status {code : Nat} (positive : code ≠ 0) :
    (status code : Json ν).truthy = true := by
  simpa [status, Json.truthy] using positive

/-- The constructions whose errors survive a transfer. -/
def Construction.Keeps : Construction ν → Prop
  | .extendableError message | .timeoutError message =>
    ∃ written, message.getD (.string []) = .string written
  | .gracefulStopTimeoutError data => stoppedService data = none
  | .other _ message _ _ _ _ => ∃ written, message = .string written
  | _ => True

theorem stable_moleculerError (code type data : Value ν)
    (case : ∀ content, recreateAs text errorClass content =
      some (some (moleculerError errorClass (some content.message) content.code content.type
        content.data))) :
    Stable text (moleculerError errorClass message code type data).toContent := by
  refine stable_of_recreate ((recreateError_of_name errorClass rfl).trans (case _)) ?_
  have given := Value.truthy_orElse code (truthy_status (ν := ν) (by decide : 500 ≠ 0))
  exact congrArg (Content.mk errorClass.name _ · type data) (Value.orElse_of_truthy given _)

theorem stable_moleculerRetryableError (code type data : Value ν)
    (case : ∀ content, recreateAs text errorClass content =
      some (some (moleculerRetryableError errorClass (some content.message) content.code
        content.type content.data))) :
    Stable text (moleculerRetryableError errorClass message code type data).toContent := by
  refine stable_of_recreate ((recreateError_of_name errorClass rfl).trans (case _)) ?_
  have given := Value.truthy_orElse code (truthy_status (ν := ν) (by decide : 500 ≠ 0))
  exact congrArg (Content.mk errorClass.name _ · type data) (Value.orElse_of_truthy given _)

theorem stable_moleculerClientError (code type data : Value ν) :
    Stable text (moleculerClientError .moleculerClientError message code type data).toContent := by
  refine stable_of_recreate (recreateError_of_name .moleculerClientError rfl) ?_
  have given := Value.truthy_orElse (Value.orElse code (status 400))
    (truthy_status (ν := ν) (by decide : 500 ≠ 0))
  have client := Value.orElse_of_truthy given (status 400)
  exact congrArg (Content.mk "MoleculerClientError" _ · type data)
    ((congrArg (Value.orElse · (status 500)) client).trans (Value.orElse_of_truthy given _))

omit [CharZero ν] in
theorem stable_validationError (type data : Value ν) :
    Stable text (validationError message type data).toContent := by
  refine stable_of_recreate (recreateError_of_name .validationError rfl) ?_
  have given := Value.truthy_orElse type
    (rfl : (Json.string (Text.ascii "VALIDATION_ERROR") : Json ν).truthy = true)
  exact congrArg (Content.mk "ValidationError" _ _ · data) (Value.orElse_of_truthy given _)

/-- An error is stable exactly when its construction keeps it, and at the latest after the first
regeneration. -/
theorem Construction.stable_iff {construction : Construction ν}
    (built : construction.construct text = some err) :
    (Stable text err.toContent ↔ construction.Keeps) ∧
      ∀ again, regenerate text err.toContent = some again → Stable text again.toContent := by
  have kept (stable : Stable text err.toContent) (keeps : construction.Keeps) :
      (Stable text err.toContent ↔ construction.Keeps) ∧
        ∀ again, regenerate text err.toContent = some again → Stable text again.toContent := by
    refine ⟨iff_of_true stable keeps, fun again found => ?_⟩
    obtain ⟨first, regenerated, same⟩ := stable
    rw [Option.some.inj (found.symm.trans regenerated), same]
    exact ⟨first, regenerated, same⟩
  cases construction with
  | extendableError message =>
    cases built
    exact default_spec fun _ => recreateError_of_name .extendableError rfl
  | timeoutError message =>
    cases built
    exact default_spec fun _ => recreateError_of_name .timeoutError rfl
  | other name message code type data retryable =>
    cases built
    refine default_spec fun _ => ?_
    rw [recreateError, find?_eq_none name.2]
  | brokerDisconnectedError =>
    cases built
    -- There is no case for this class, but its message is a text.
    exact kept ((default_spec fun _ => recreateError_of_name .brokerDisconnectedError rfl).1.mpr
      ⟨_, rfl⟩) trivial
  | moleculerError message code type data =>
    cases built
    exact kept (stable_moleculerError _ _ _ _ _ fun _ => rfl) trivial
  | moleculerRetryableError message code type data =>
    cases built
    exact kept (stable_moleculerRetryableError _ _ _ _ _ fun _ => rfl) trivial
  | moleculerServerError message code type data =>
    cases built
    exact kept (stable_moleculerRetryableError _ _ _ _ _ fun _ => rfl) trivial
  | moleculerClientError message code type data =>
    cases built
    exact kept (stable_moleculerClientError _ _ _ _) trivial
  | validationError message type data =>
    cases built
    exact kept (stable_validationError _ _ _) trivial
  | serviceSchemaError message data =>
    cases built
    exact kept (stable_of_recreate (recreateError_of_name .serviceSchemaError rfl) rfl) trivial
  | brokerOptionsError message data =>
    cases built
    exact kept (stable_of_recreate (recreateError_of_name .brokerOptionsError rfl) rfl) trivial
  | protocolVersionMismatchError data =>
    cases built
    exact kept (stable_of_recreate (recreateError_of_name .protocolVersionMismatchError rfl) rfl)
      trivial
  | invalidPacketDataError data =>
    cases built
    exact kept (stable_of_recreate (recreateError_of_name .invalidPacketDataError rfl) rfl) trivial
  | serviceNotFoundError data =>
    -- With the default for missing data the constructor does the same.
    have again : Errors.serviceNotFoundError text (some (data.getD (.object []))) = some err :=
        built
    exact kept (stable_of_data .serviceNotFoundError (fun _ => rfl) again
      (message_spec built fun _ => ⟨rfl, rfl⟩)) trivial
  | serviceNotAvailableError data =>
    exact kept (stable_of_data .serviceNotAvailableError (fun _ => rfl) built
      (message_spec built fun _ => ⟨rfl, rfl⟩)) trivial
  | requestTimeoutError data =>
    exact kept (stable_of_data .requestTimeoutError (fun _ => rfl) built
      (message_spec built fun _ => ⟨rfl, rfl⟩)) trivial
  | requestSkippedError data =>
    exact kept (stable_of_data .requestSkippedError (fun _ => rfl) built
      (message_spec built fun _ => ⟨rfl, rfl⟩)) trivial
  | requestRejectedError data =>
    exact kept (stable_of_data .requestRejectedError (fun _ => rfl) built
      (message_spec built fun _ => ⟨rfl, rfl⟩)) trivial
  | queueIsFullError data =>
    exact kept (stable_of_data .queueIsFullError (fun _ => rfl) built
      (message_spec built fun _ => ⟨rfl, rfl⟩)) trivial
  | maxCallLevelError data =>
    exact kept (stable_of_data .maxCallLevelError (fun _ => rfl) built
      (message_spec built fun _ => ⟨rfl, rfl⟩)) trivial
  | gracefulStopTimeoutError data =>
    -- Whatever the data was, what is left of it names no service.
    obtain ⟨named, unnamed, keeps⟩ := gracefulStopTimeoutError_spec built
    have recreated : recreateError text err.toContent = some (some stopped) := by
      refine (recreateError_of_name .gracefulStopTimeoutError named).trans ?_
      show (Errors.gracefulStopTimeoutError text err.data).map some = _
      rw [gracefulStopTimeoutError_none unnamed]
      rfl
    have regenerated : regenerate text err.toContent = some stopped := by
      rw [regenerate, recreated]
      rfl
    refine ⟨⟨fun ⟨again, found, same⟩ => ?_, fun none => ?_⟩, fun again found => ?_⟩
    · cases found.symm.trans regenerated
      exact keeps.mp same
    · exact ⟨stopped, regenerated, keeps.mpr none⟩
    · cases found.symm.trans regenerated
      exact stable_stopped

/-- What has to be the same after a transfer. -/
structure SameError (err last : ErrorObject ν) : Prop where
  content : last.toContent = err.toContent
  retryable : last.retryable = err.retryable

/-- An error survives the way over any number of nodes exactly when its construction keeps it and it
does not name a node without an id. -/
theorem survives_iff (text : ν → Text) {construction : Construction ν}
    (built : construction.construct text = some err) (nodeID : Option String) (first : Hop)
    (rest : List Hop) :
    (∃ last, (first :: rest).foldlM (transfer text) { err with nodeID := nodeID } = some last ∧
        SameError err last ∧ last.nodeID = some (nodeID.getD first.brokerID)) ↔
      construction.Keeps ∧ nodeID ≠ some "" := by
  obtain ⟨keeps, settles⟩ := construction.stable_iff built
  have node : firstNode nodeID first = nodeID.getD first.brokerID ↔ nodeID ≠ some "" := by
    cases nodeID with
    | none => simp [firstNode]
    | some id =>
      by_cases empty : id = ""
      · simp [firstNode, Option.filter_some, empty, first.named]
      · simp [firstNode, Option.filter_some, empty]
  have named : firstNode nodeID first ≠ "" := firstNode_ne_empty nodeID first
  rw [List.foldlM_cons, transfer_eq, ← keeps]
  cases regenerated : regenerate text err.toContent with
  | none =>
    refine iff_of_false (fun ⟨_, found, _⟩ => ?_) fun ⟨⟨again, found, _⟩, _⟩ => ?_
    · cases found
    · cases regenerated.symm.trans found
  | some again =>
    -- From the first node on the error does not change any more.
    let arrived : ErrorObject ν :=
      { again with retryable := err.retryable, nodeID := some (firstNode nodeID first) }
    have settled : Stable text arrived.toContent := settles again regenerated
    have onward : rest.foldlM (transfer text) arrived = some arrived :=
      settled.transfers rfl named rest
    have all : (some arrived >>= fun state => rest.foldlM (transfer text) state) = some arrived :=
      onward
    refine ⟨fun ⟨last, found, same, there⟩ => ?_, fun ⟨⟨other, found, same⟩, nonempty⟩ => ?_⟩
    · cases all.symm.trans found
      exact ⟨⟨again, regenerated, same.content⟩, node.mp (Option.some.inj there)⟩
    · cases regenerated.symm.trans found
      exact ⟨arrived, all, ⟨same, rfl⟩, congrArg some (node.mpr nonempty)⟩

/-- An error without a node survives the way over two nodes. -/
theorem survives_iff_failure :
    (∃ last, [(⟨"node-1", by decide, "node-1"⟩ : Hop), ⟨"node-2", by decide, "node-2"⟩].foldlM
        (transfer fun _ => [])
        { (moleculerError .moleculerError (.text "Failed") none none none : ErrorObject Nat) with
          nodeID := none } = some last ∧
        SameError (moleculerError .moleculerError (.text "Failed") none none none) last ∧
        last.nodeID = some ((none : Option String).getD "node-1")) ↔
      (Construction.moleculerError (.text "Failed") none none none : Construction Nat).Keeps ∧
        (none : Option String) ≠ some "" :=
  survives_iff (fun _ => []) rfl none _ _

/-- The error about a service that could not be stopped arrives as one about the broker. -/
theorem stopped_service_forgotten :
    ∃ err last : ErrorObject Nat,
      (Construction.gracefulStopTimeoutError (some (.object [(.ascii "service",
        .object [(.ascii "name", .string (.ascii "posts"))])]))).construct (fun _ => []) =
          some err ∧
      err.message = .string (.ascii "Unable to stop 'posts' service gracefully.") ∧
      transfer (fun _ => []) err ⟨"node-1", by decide, "node-1"⟩ = some last ∧
      last.message = .string (.ascii "Unable to stop ServiceBroker gracefully.") ∧
      ¬ SameError err last := by
  refine ⟨_, _, rfl, rfl, rfl, rfl, fun same => ?_⟩
  cases congrArg Content.data same.content

end Constructions

end Moleculer.Errors
