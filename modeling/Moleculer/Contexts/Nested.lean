import Moleculer.Contexts.Context

/-! Calls made from inside of an action, and what a child context takes over from its parent. -/

namespace Moleculer.Contexts

open Base

/-- The options of the broker that a call reads. Times are in milliseconds. -/
structure BrokerOptions where
  nodeID : String
  maxCallLevel : Nat
  requestTimeout : ℚ

/-- A context whose handler is being executed, here or on another node. -/
structure Execution where
  ctx : Context ℚ
  startHrTime : Option ℚ

/-- `timeoutMiddleware`, up to the call of the handler. -/
def timeoutMiddleware (broker : BrokerOptions) (actionTimeout : Option ℚ) (ctx : Context ℚ)
    (now : ℚ) : Execution :=
  -- Load opts with default values.
  let timeout := ctx.timeout.getD (actionTimeout.getD broker.requestTimeout)
  -- For distributed timeout calculation need to be set.
  ⟨{ ctx with timeout := some timeout }, if 0 < timeout then some now else none⟩

/-- Why a call from inside of an action is rejected before there is a context. -/
inductive Rejection where
  | requestSkipped (action nodeID : String)
  | maxCallLevel (nodeID : String) (level : Nat)
deriving DecidableEq, Repr

/-- The options object of `ctx.call` or `ctx.mcall`. A property `parentCtx` replaces the default
even when it is null. -/
structure GivenOptions where
  options : CallingOptions ℚ
  hasParentCtx : Bool

/-- One call, with what the broker finds for it: a unique id, the endpoint, the timeout of the
action, and the time at which the Timeout middleware of the executing node sees the context. -/
structure CallItem where
  action : String
  params : Option (Json ℚ)
  options : Option (CallingOptions ℚ)
  uid : String
  endpoint : ActionEndpoint
  actionTimeout : Option ℚ
  startedAt : ℚ

/-- What a handler can do with its context. The items of an object definition come in the order of
its keys. -/
inductive NestedCall where
  | call (item : CallItem) (given : GivenOptions)
  | mcall (items : List CallItem) (given : GivenOptions)

/-- The options that were given. -/
def NestedCall.given : NestedCall → GivenOptions
  | .call _ given => given
  | .mcall _ given => given

/-- The single calls. `ctx.call` has no place for other options. -/
def NestedCall.items : NestedCall → List CallItem
  | .call item _ => [{ item with options := none }]
  | .mcall items _ => items

/-- The names of the actions, as an error shows them. -/
def NestedCall.actions (request : NestedCall) : String :=
  ", ".intercalate (request.items.map CallItem.action)

namespace Execution

/-- What is left of the timeout, if there is one and the clock is running. -/
def distTimeout (parent : Execution) (now : ℚ) : Option ℚ :=
  match parent.ctx.timeout, parent.startHrTime with
  | some timeout, some start => if 0 < timeout then some (timeout - (now - start)) else none
  | _, _ => none

/-- `if (!opts.timeout || distTimeout < opts.timeout) opts.timeout = distTimeout`. -/
def limit (dist : ℚ) (opts : CallingOptions ℚ) : CallingOptions ℚ :=
  if opts.timeout.all fun timeout => timeout = 0 ∨ dist < timeout then
    { opts with timeout := some dist }
  else opts

/-- The common part of `Context.call` and `Context.mcall`: the options that the broker is called
with. -/
def callOptions (broker : BrokerOptions) (parent : Execution) (now : ℚ) (request : NestedCall) :
    Except Rejection (CallingOptions ℚ) := do
  let given := request.given
  let opts := { given.options with
    parentCtx := if given.hasParentCtx then given.options.parentCtx else some parent.ctx }
  -- Distributed timeout handling. If the timeout below 0, skip the call.
  let opts ← match parent.distTimeout now with
    | some dist =>
      if dist ≤ 0 then throw (.requestSkipped request.actions broker.nodeID)
      else pure (limit dist opts)
    | none => pure opts
  -- Max calling level check to avoid calling loops.
  if 0 < broker.maxCallLevel ∧ broker.maxCallLevel ≤ parent.ctx.level then
    throw (.maxCallLevel broker.nodeID parent.ctx.level)
  else pure opts

end Execution

/-- `ServiceBroker.call` with options that name no context, where an endpoint is found. -/
def CallItem.execute (broker : BrokerOptions) (item : CallItem) (opts : CallingOptions ℚ) :
    Execution :=
  timeoutMiddleware broker item.actionTimeout
    ((Context.create broker.nodeID item.uid none item.params opts).setEndpoint item.endpoint)
    item.startedAt

/-- The children of a context: `ServiceBroker.mcall` gives every item its own options, if it has
some, instead of the common ones. -/
def Execution.children (broker : BrokerOptions) (parent : Execution) (now : ℚ)
    (request : NestedCall) : List (CallItem × Execution) :=
  match parent.callOptions broker now request with
  | .error _ => []
  | .ok opts => request.items.map fun item => (item, item.execute broker (item.options.getD opts))

/-- The contexts of a tree of calls that starts with a call of the broker. -/
inductive Executed (broker : BrokerOptions) (allowed : Execution → ℚ → NestedCall → Prop) :
    Execution → Prop where
  | root (item : CallItem) (opts : CallingOptions ℚ) (orphan : opts.parentCtx = none) :
      Executed broker allowed (item.execute broker opts)
  | child {parent : Execution} {now : ℚ} {request : NestedCall} {child : CallItem × Execution}
      (executed : Executed broker allowed parent) (may : allowed parent now request)
      (spawned : child ∈ parent.children broker now request) : Executed broker allowed child.2

/-- The child is one level below its parent and not too deep, it belongs to the same request unless
its options say otherwise, and its timeout lies within what is left of the timeout of the parent. -/
structure Within (broker : BrokerOptions) (parent : Execution) (now : ℚ)
    (opts : CallingOptions ℚ) (child : Execution) : Prop where
  level : child.ctx.level = parent.ctx.level + 1
  limited : child.ctx.level ≤ broker.maxCallLevel
  requestID : opts.requestID = none → opts.parentSpan = none →
    child.ctx.requestID = parent.ctx.requestID
  timeout : ∀ timeout, parent.ctx.timeout = some timeout → 0 < timeout →
    ∃ start own, parent.startHrTime = some start ∧ child.ctx.timeout = some own ∧
      0 < own ∧ own ≤ timeout - (now - start)

/-- The options name a parent context of the same level and, unless they name a request, of the
same request. -/
def Inherits (parent : Execution) (uid : String) (opts : CallingOptions ℚ) : Prop :=
  ∃ other, opts.parentCtx = some other ∧ other.level = parent.ctx.level ∧
    (opts.requestID = none → opts.parentSpan = none →
      some (other.requestID.getD uid) = parent.ctx.requestID)

/-- What one item has to meet. Common options may name no other parent and no negative timeout. An
item with options of its own has to name the parent and a timeout by itself. -/
def CallItem.Kept (broker : BrokerOptions) (parent : Execution) (now : ℚ) (given : GivenOptions)
    (item : CallItem) : Prop :=
  match item.options with
  | none =>
    (given.hasParentCtx = true → Inherits parent item.uid given.options) ∧
      ((parent.distTimeout now).isSome → ∀ own, given.options.timeout = some own → 0 ≤ own)
  | some own =>
    Inherits parent item.uid own ∧ ∀ dist, parent.distTimeout now = some dist →
      0 < own.timeout.getD (item.actionTimeout.getD broker.requestTimeout) ∧
        own.timeout.getD (item.actionTimeout.getD broker.requestTimeout) ≤ dist

/-- The call is rejected, or all its items are kept within the budget. -/
def Faithful (broker : BrokerOptions) (parent : Execution) (now : ℚ) (request : NestedCall) :
    Prop :=
  (∃ rejection, parent.callOptions broker now request = .error rejection) ∨
    ∀ item ∈ request.items, item.Kept broker parent now request.given

section

variable {broker : BrokerOptions} {parent : Execution} {now : ℚ} {request : NestedCall}

theorem level_create (brokerID uid : String) (endpoint : Option ActionEndpoint)
    (params : Option (Json ℚ)) (opts : CallingOptions ℚ) :
    (Context.create brokerID uid endpoint params opts).level =
      (opts.parentCtx.map (·.level + 1)).getD 1 := by
  unfold Context.create
  cases endpoint <;> cases opts.parentSpan <;> cases opts.parentCtx <;> rfl

theorem timeout_create (brokerID uid : String) (endpoint : Option ActionEndpoint)
    (params : Option (Json ℚ)) (opts : CallingOptions ℚ) :
    (Context.create brokerID uid endpoint params opts).timeout = opts.timeout := by
  unfold Context.create
  cases endpoint <;> cases opts.parentSpan <;> cases opts.parentCtx <;> rfl

namespace CallItem

variable (item : CallItem) (opts : CallingOptions ℚ)

theorem level_execute : (item.execute broker opts).ctx.level =
    (opts.parentCtx.map (·.level + 1)).getD 1 :=
  level_create broker.nodeID item.uid none item.params opts

theorem requestID_execute : (item.execute broker opts).ctx.requestID =
    (opts.parentSpan.map (·.traceID) <|> opts.requestID <|>
      (opts.parentCtx.bind (·.requestID)) <|> some item.uid) :=
  Context.requestID_create broker.nodeID item.uid none item.params opts

theorem requestID_inherited {other : Context ℚ} (inherited : opts.parentCtx = some other)
    (own : opts.requestID = none) (span : opts.parentSpan = none) :
    (item.execute broker opts).ctx.requestID = some (other.requestID.getD item.uid) := by
  rw [item.requestID_execute, own, span, inherited]
  show (other.requestID <|> some item.uid) = _
  cases other.requestID <;> rfl

theorem timeout_execute : (item.execute broker opts).ctx.timeout =
    some (opts.timeout.getD (item.actionTimeout.getD broker.requestTimeout)) := by
  show some ((Context.create broker.nodeID item.uid none item.params opts).timeout.getD _) = _
  rw [timeout_create]

theorem startHrTime_execute : (item.execute broker opts).startHrTime =
    if 0 < opts.timeout.getD (item.actionTimeout.getD broker.requestTimeout) then
      some item.startedAt else none := by
  show (if 0 < (Context.create broker.nodeID item.uid none item.params opts).timeout.getD _ then
    _ else _) = _
  rw [timeout_create]

end CallItem

/-- What is true of every context of a tree: it has a level, it belongs to a request, and its clock
runs if it has a timeout. -/
structure Execution.Started (execution : Execution) : Prop where
  deep : 0 < execution.ctx.level
  requested : execution.ctx.requestID.isSome
  running : ∀ timeout, execution.ctx.timeout = some timeout → 0 < timeout →
    ∃ start, execution.startHrTime = some start

theorem CallItem.started (item : CallItem) (opts : CallingOptions ℚ) :
    (item.execute broker opts).Started := by
  constructor
  case deep =>
    rw [item.level_execute]
    cases opts.parentCtx with
    | none => exact Nat.one_pos
    | some other => exact Nat.succ_pos _
  case requested =>
    rw [item.requestID_execute]
    cases opts.parentSpan <;> cases opts.requestID <;>
      cases opts.parentCtx.bind (·.requestID) <;> rfl
  case running =>
    intro timeout timed positive
    rw [item.timeout_execute, Option.some.injEq] at timed
    rw [item.startHrTime_execute, timed, if_pos positive]
    exact ⟨item.startedAt, rfl⟩

theorem Executed.started {allowed : Execution → ℚ → NestedCall → Prop}
    (executed : Executed broker allowed parent) : parent.Started := by
  cases executed with
  | root item opts _ => exact item.started opts
  | child _ _ spawned =>
    unfold Execution.children at spawned
    split at spawned
    · cases spawned
    · obtain ⟨item, -, eq⟩ := List.mem_map.mp spawned
      rw [← eq]
      exact item.started _

theorem distTimeout_iff (dist : ℚ) :
    parent.distTimeout now = some dist ↔ ∃ timeout start, parent.ctx.timeout = some timeout ∧
      0 < timeout ∧ parent.startHrTime = some start ∧ dist = timeout - (now - start) := by
  unfold Execution.distTimeout
  cases timed : parent.ctx.timeout with
  | none => simp
  | some timeout =>
    cases running : parent.startHrTime with
    | none => simp
    | some start =>
      by_cases positive : 0 < timeout
      · simp [positive, eq_comm]
      · simp [positive]

theorem limit_iff {dist : ℚ} (above : 0 < dist) (opts : CallingOptions ℚ) (fallback : ℚ) :
    (0 < (Execution.limit dist opts).timeout.getD fallback ∧
      (Execution.limit dist opts).timeout.getD fallback ≤ dist) ↔
      ∀ own, opts.timeout = some own → 0 ≤ own := by
  unfold Execution.limit
  cases given : opts.timeout with
  | none => simp [above]
  | some own =>
    simp only [Option.all_some, decide_eq_true_eq, Option.some.injEq, forall_eq']
    by_cases replaced : own = 0 ∨ dist < own
    · rw [if_pos replaced]
      refine iff_of_true ⟨above, le_refl _⟩ ?_
      obtain zero | more := replaced
      · exact zero.ge
      · exact (above.trans more).le
    · rw [if_neg replaced, given, Option.getD_some]
      rw [not_or, not_lt] at replaced
      exact ⟨fun bounds => bounds.1.le, fun sign => ⟨lt_of_le_of_ne sign (Ne.symm replaced.1),
        replaced.2⟩⟩

theorem callOptions_ok {opts : CallingOptions ℚ}
    (called : parent.callOptions broker now request = .ok opts) :
    opts = ((parent.distTimeout now).map Execution.limit).getD id { request.given.options with
        parentCtx := if request.given.hasParentCtx then request.given.options.parentCtx
          else some parent.ctx } ∧
      (∀ dist, parent.distTimeout now = some dist → 0 < dist) ∧
      (0 < broker.maxCallLevel → parent.ctx.level < broker.maxCallLevel) := by
  unfold Execution.callOptions at called
  cases left : parent.distTimeout now with
  | none =>
    simp only [left, pure_bind] at called
    split at called
    · cases called
    · rename_i shallow
      cases called
      exact ⟨rfl, nofun, fun limited => by omega⟩
  | some dist =>
    simp only [left] at called
    split at called
    · cases called
    · rename_i positive
      simp only [pure_bind] at called
      split at called
      · cases called
      · rename_i shallow
        cases called
        refine ⟨rfl, fun other same => ?_, fun limited => by omega⟩
        cases same
        exact lt_of_not_ge positive

theorem within_iff (started : parent.Started) (shallow : parent.ctx.level < broker.maxCallLevel)
    (item : CallItem) (opts : CallingOptions ℚ) :
    Within broker parent now opts (item.execute broker opts) ↔
      Inherits parent item.uid opts ∧ ∀ dist, parent.distTimeout now = some dist →
        0 < opts.timeout.getD (item.actionTimeout.getD broker.requestTimeout) ∧
          opts.timeout.getD (item.actionTimeout.getD broker.requestTimeout) ≤ dist := by
  constructor
  · intro within
    refine ⟨?_, fun dist left => ?_⟩
    · have level := within.level
      have request := within.requestID
      rw [item.level_execute] at level
      cases inherited : opts.parentCtx with
      | none =>
        -- Without a parent the level is one, as that of a call of the broker.
        rw [inherited, Option.map_none, Option.getD_none] at level
        have := started.deep
        omega
      | some other =>
        rw [inherited, Option.map_some, Option.getD_some] at level
        refine ⟨other, inherited, by omega, fun own span => ?_⟩
        rw [← request own span, item.requestID_inherited opts inherited own span]
    · obtain ⟨timeout, start, timed, positive, running, rfl⟩ := (distTimeout_iff dist).mp left
      obtain ⟨other, own, same, ownTimeout, bounds⟩ := within.timeout timeout timed positive
      rw [running, Option.some.injEq] at same
      rw [item.timeout_execute, Option.some.injEq] at ownTimeout
      rw [ownTimeout, same]
      exact bounds
  · intro ⟨⟨other, inherited, level, request⟩, timeout⟩
    have child : (item.execute broker opts).ctx.level = parent.ctx.level + 1 := by
      rw [item.level_execute, inherited, Option.map_some, Option.getD_some, level]
    constructor
    case level => exact child
    case limited =>
      rw [child]
      exact shallow
    case requestID =>
      intro own span
      rw [← request own span, item.requestID_inherited opts inherited own span]
    case timeout =>
      intro limit timed positive
      obtain ⟨start, running⟩ := started.running limit timed positive
      refine ⟨start, _, running, item.timeout_execute opts, ?_⟩
      exact timeout _ ((distTimeout_iff _).mpr ⟨limit, start, timed, positive, running, rfl⟩)

theorem common_within_iff (started : parent.Started) {opts : CallingOptions ℚ}
    (called : parent.callOptions broker now request = .ok opts) (limited : 0 < broker.maxCallLevel)
    {item : CallItem} (common : item.options = none) :
    Within broker parent now request.given.options (item.execute broker opts) ↔
      item.Kept broker parent now request.given := by
  obtain ⟨eq, positive, shallow⟩ := callOptions_ok called
  -- The common options differ from the given ones in the parent and in the timeout.
  have requestID : opts.requestID = request.given.options.requestID := by
    rw [eq]
    cases parent.distTimeout now with
    | none => rfl
    | some dist => exact apply_ite CallingOptions.requestID _ _ _ |>.trans (ite_self _)
  have parentSpan : opts.parentSpan = request.given.options.parentSpan := by
    rw [eq]
    cases parent.distTimeout now with
    | none => rfl
    | some dist => exact apply_ite CallingOptions.parentSpan _ _ _ |>.trans (ite_self _)
  have parentCtx : opts.parentCtx = if request.given.hasParentCtx then
      request.given.options.parentCtx else some parent.ctx := by
    rw [eq]
    cases parent.distTimeout now with
    | none => rfl
    | some dist => exact apply_ite CallingOptions.parentCtx _ _ _ |>.trans (ite_self _)
  have moved : Within broker parent now request.given.options (item.execute broker opts) ↔
      Within broker parent now opts (item.execute broker opts) := by
    constructor
    · intro within
      exact { within with requestID := by rw [requestID, parentSpan]; exact within.requestID }
    · intro within
      exact { within with requestID := by rw [← requestID, ← parentSpan]; exact within.requestID }
  rw [moved, within_iff started (shallow limited), CallItem.Kept, common]
  refine and_congr ?_ ?_
  · -- The parent is the context itself, unless the options name one.
    unfold Inherits
    rw [requestID, parentSpan, parentCtx]
    cases request.given.hasParentCtx with
    | true => simp
    | false =>
      refine iff_of_true ⟨parent.ctx, rfl, rfl, fun _ _ => ?_⟩ nofun
      obtain ⟨own, named⟩ := Option.isSome_iff_exists.mp started.requested
      rw [named, Option.getD_some]
  · cases left : parent.distTimeout now with
    | none => simp
    | some dist =>
      have above := positive dist left
      have timeout : opts.timeout = (Execution.limit dist request.given.options).timeout := by
        rw [eq, left]
        unfold Execution.limit
        simp only [Option.map_some, Option.getD_some]
        split <;> rfl
      rw [timeout]
      simp only [Option.some.injEq, forall_eq', Option.isSome_some, forall_const]
      exact limit_iff above request.given.options _

theorem children_within_iff (started : parent.Started) (limited : 0 < broker.maxCallLevel) :
    (∀ child ∈ parent.children broker now request,
      Within broker parent now (child.1.options.getD request.given.options) child.2) ↔
      Faithful broker parent now request := by
  unfold Execution.children Faithful
  cases called : parent.callOptions broker now request with
  | error rejection => simp
  | ok opts =>
    have shallow := (callOptions_ok called).2.2 limited
    simp only [List.mem_map, reduceCtorEq, exists_false, false_or]
    constructor
    · intro each item inside
      have within := each _ ⟨item, inside, rfl⟩
      cases own : item.options with
      | none =>
        rw [own] at within
        exact (common_within_iff started called limited own).mp within
      | some options =>
        rw [own] at within
        rw [CallItem.Kept, own]
        exact (within_iff started shallow item options).mp within
    · intro kept child ⟨item, inside, eq⟩
      subst eq
      have keeps := kept item inside
      cases own : item.options with
      | none => exact (common_within_iff started called limited own).mpr keeps
      | some options =>
        rw [CallItem.Kept, own] at keeps
        exact (within_iff started shallow item options).mpr keeps

theorem Executed.level_le (limited : 0 < broker.maxCallLevel)
    (executed : Executed broker (Faithful broker) parent) :
    parent.ctx.level ≤ broker.maxCallLevel := by
  induction executed with
  | root item opts orphan =>
    rw [item.level_execute, orphan]
    exact limited
  | child executed may spawned _ =>
    exact ((children_within_iff executed.started limited).mpr may _ spawned).limited

end

/-- In a tree of calls that keep to the budget, no context is deeper than allowed, and a further
call keeps all its children within the budget exactly if it is rejected, or all its items leave the
parent and the timeout to the context, or name fitting ones themselves. -/
theorem nested_calls_within_iff {broker : BrokerOptions} (limited : 0 < broker.maxCallLevel)
    {parent : Execution} (executed : Executed broker (Faithful broker) parent) (now : ℚ)
    (request : NestedCall) :
    parent.ctx.level ≤ broker.maxCallLevel ∧
      ((∀ child ∈ parent.children broker now request,
        Within broker parent now (child.1.options.getD request.given.options) child.2) ↔
        Faithful broker parent now request) :=
  ⟨executed.level_le limited, children_within_iff executed.started limited⟩

/-- Calling options that set nothing. -/
def CallingOptions.unset : CallingOptions ℚ := ⟨none, none, none, none, none, none, none, none⟩

/-- Nothing was passed to `ctx.call` or `ctx.mcall`. -/
def GivenOptions.unset : GivenOptions := ⟨.unset, false⟩

/-- At most ten levels, and no timeout by default. -/
def tenLevels : BrokerOptions := ⟨"node", 10, 0⟩

/-- A call of an action without a timeout of its own. -/
def plainItem (uid : String) (options : Option (CallingOptions ℚ)) (startedAt : ℚ) : CallItem :=
  ⟨"posts.find", none, options, uid, ⟨"node", "posts.find", "posts"⟩, none, startedAt⟩

/-- A call of the broker with a timeout of a hundred milliseconds. -/
def hurried : Execution :=
  (plainItem "first" none 0).execute tenLevels { CallingOptions.unset with timeout := some 100 }

theorem nested_calls_within_iff_mcall :
    (∀ child ∈ hurried.children tenLevels 60 (.mcall [plainItem "second" none 61] .unset),
      Within tenLevels hurried 60 (child.1.options.getD GivenOptions.unset.options) child.2) ∧
      (hurried.children tenLevels 60 (.mcall [plainItem "second" none 61] .unset)).map
        (fun child => (child.2.ctx.level, child.2.ctx.timeout)) = [(2, some 40)] := by
  have executed : Executed tenLevels (Faithful tenLevels) hurried := .root _ _ rfl
  refine ⟨(nested_calls_within_iff (by decide) executed 60 _).2.mpr (.inr fun item inside => ?_),
    by decide +kernel⟩
  rw [List.mem_singleton.mp inside]
  exact ⟨nofun, fun _ own none => nomatch none⟩

/-- An item with options of its own loses its parent: it starts a new request on the first level,
without a timeout. -/
theorem own_options_leave_the_tree :
    ¬ (∀ child ∈ hurried.children tenLevels 60
        (.mcall [plainItem "second" (some .unset) 61] .unset),
      Within tenLevels hurried 60 (child.1.options.getD GivenOptions.unset.options) child.2) ∧
      (hurried.children tenLevels 60 (.mcall [plainItem "second" (some .unset) 61] .unset)).map
        (fun child => (child.2.ctx.level, child.2.ctx.requestID, child.2.ctx.timeout)) =
        [(1, some "second", some 0)] := by
  have shown : (hurried.children tenLevels 60 (.mcall [plainItem "second" (some .unset) 61]
      .unset)).map (fun child => (child.2.ctx.level, child.2.ctx.requestID, child.2.ctx.timeout)) =
      [(1, some "second", some 0)] := by decide +kernel
  refine ⟨fun each => ?_, shown⟩
  obtain ⟨child, only, eq⟩ := List.map_eq_singleton_iff.mp shown
  have within := each child (by rw [only]; exact List.mem_singleton_self child)
  have first : child.2.ctx.level = 1 := congrArg Prod.fst eq
  have above : hurried.ctx.level = 1 := by decide +kernel
  have := within.level
  omega

end Moleculer.Contexts
