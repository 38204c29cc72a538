import Moleculer.Base.OrderedMap
import Moleculer.Contexts.Nested

/-! Several calls at once with `mcall`: the options object that they share, and the metadata that
they send back. -/

namespace Moleculer.Contexts

open Base

/-! The shared options. -/

/-- An item of an `mcall` without options of its own, and what the middlewares and the handler of
its action have made of the metadata and the headers of the context when the call returns its
promise. -/
structure CalledAction where
  item : CallItem
  touchMeta : Json ℚ → Json ℚ
  touchHeaders : Json ℚ → Json ℚ

/-- What an action is called with. -/
structure Called where
  execution : Execution
  options : CallingOptions ℚ

/-- The headers of the options when an action has been called: these are those of the context unless
they are falsy. -/
def CalledAction.leaves (action : CalledAction) (headers : Json ℚ) : Json ℚ :=
  if headers.truthy then action.touchHeaders headers else headers

namespace CallingOptions

variable (broker : BrokerOptions)

/-- `ServiceBroker.call`, with what it does to the options object: what the action is called with,
and the object afterwards. -/
def call (opts : CallingOptions ℚ) (action : CalledAction) : Called × CallingOptions ℚ :=
  let execution := action.item.execute broker opts
  -- The Timeout middleware writes into `ctx.options`, which is the object itself.
  let opts := { opts with timeout := execution.ctx.timeout }
  (⟨execution, opts⟩, { opts with
    -- Without a parent, `ctx.meta` is the `meta` of the options.
    metadata := if opts.parentCtx.isNone then opts.metadata.map action.touchMeta else opts.metadata
    headers := opts.headers.map action.leaves })

/-- `ServiceBroker.mcall`. An item whose action has no endpoint is rejected before the object is
touched. -/
def mcall : CallingOptions ℚ → List (Option CalledAction) → List (Option Called)
  | _, [] => []
  | opts, none :: items => none :: mcall opts items
  | opts, some action :: items =>
    let (called, after) := opts.call broker action
    some called :: mcall after items

/-- The same items, each called with a fresh copy of the options. -/
def separately (opts : CallingOptions ℚ) (items : List (Option CalledAction)) :
    List (Option Called) :=
  items.map (Option.map fun action => (opts.call broker action).1)

/-- The timeout that the Timeout middleware loads. -/
def effectiveTimeout (opts : CallingOptions ℚ) (action : CalledAction) : ℚ :=
  opts.timeout.getD (action.item.actionTimeout.getD broker.requestTimeout)

/-- The calls do not influence each other: the options have a timeout, or all actions that are found
have the same one; the metadata is not shared, or nobody but the last one changes it; and nobody but
the last one changes the headers. -/
structure Independent (opts : CallingOptions ℚ) (actions : List CalledAction) : Prop where
  timeout : opts.timeout = none → ∀ first rest, actions = first :: rest → ∀ action ∈ rest,
    action.item.actionTimeout.getD broker.requestTimeout =
      first.item.actionTimeout.getD broker.requestTimeout
  metadata : opts.parentCtx = none → ∀ shared, opts.metadata = some shared →
    ∀ front action back, actions = front ++ action :: back →
      front.foldl (fun metadata action => action.touchMeta metadata) shared = shared
  headers : ∀ shared, opts.headers = some shared →
    ∀ front action back, actions = front ++ action :: back →
      front.foldl (fun headers action => action.leaves headers) shared = shared

variable (opts : CallingOptions ℚ)

/-- The object after some calls. -/
def afterCalls (actions : List CalledAction) : CallingOptions ℚ :=
  actions.foldl (fun opts action => (opts.call broker action).2) opts

theorem afterCalls_eq (actions : List CalledAction) :
    opts.afterCalls broker actions = { opts with
      timeout := opts.timeout.or (actions.head?.map fun first =>
        first.item.actionTimeout.getD broker.requestTimeout)
      metadata := if opts.parentCtx.isNone then opts.metadata.map fun shared =>
        actions.foldl (fun metadata action => action.touchMeta metadata) shared else opts.metadata
      headers := opts.headers.map fun shared =>
        actions.foldl (fun headers action => action.leaves headers) shared } := by
  induction actions generalizing opts with
  | nil => simp [afterCalls]
  | cons action rest ih =>
    have first : opts.afterCalls broker (action :: rest) =
        (opts.call broker action).2.afterCalls broker rest := rfl
    rw [first, ih]
    simp only [call, action.item.timeout_execute, List.head?_cons, Option.map_some,
      List.foldl_cons, Option.map_map, Function.comp_def]
    cases opts.timeout <;> cases opts.parentCtx <;> simp [Function.comp_def]

/-- The timeout has no part in the rest of a new context. -/
theorem execute_timeout (item : CallItem) (timeout : Option ℚ)
    (same : timeout.getD (item.actionTimeout.getD broker.requestTimeout) =
      opts.timeout.getD (item.actionTimeout.getD broker.requestTimeout)) :
    item.execute broker { opts with timeout := timeout } = item.execute broker opts := by
  have created : Context.create broker.nodeID item.uid none item.params
      { opts with timeout := timeout } =
        { Context.create broker.nodeID item.uid none item.params opts with
          timeout := timeout } := by
    unfold Context.create
    cases opts.parentSpan <;> cases opts.parentCtx <;> rfl
  simp only [CallItem.execute, timeoutMiddleware, created, Context.setEndpoint, timeout_create,
    same]

theorem call_eq_iff (action : CalledAction) (timeout : Option ℚ)
    (metadata headers : Option (Json ℚ)) :
    (call broker { opts with timeout := timeout, metadata := metadata, headers := headers }
        action).1 =
        (opts.call broker action).1 ↔
      timeout.getD (action.item.actionTimeout.getD broker.requestTimeout) =
          opts.effectiveTimeout broker action ∧
        metadata = opts.metadata ∧ headers = opts.headers := by
  constructor
  · intro same
    have timeouts := congrArg (fun called => called.options.timeout) same
    simp only [call, action.item.timeout_execute, Option.some.injEq] at timeouts
    exact ⟨timeouts, congrArg (fun called => called.options.metadata) same,
      congrArg (fun called => called.options.headers) same⟩
  · rintro ⟨same, rfl, rfl⟩
    simp only [call, execute_timeout broker opts action.item timeout same]

theorem mcall_eq_iff_forall (items : List (Option CalledAction)) (start : CallingOptions ℚ) :
    mcall broker start items = separately broker opts items ↔
      ∀ front action back, items.filterMap id = front ++ action :: back →
        ((start.afterCalls broker front).call broker action).1 = (opts.call broker action).1 := by
  induction items generalizing start with
  | nil =>
    refine iff_of_true rfl fun front action back split => ?_
    exact absurd split (by simp)
  | cons item rest ih =>
    cases item with
    | none =>
      -- Without an endpoint the object is not touched.
      show none :: mcall broker start rest = none :: separately broker opts rest ↔ _
      rw [List.cons_inj_right, ih]
      rfl
    | some first =>
      show some (start.call broker first).1 :: mcall broker (start.call broker first).2 rest =
        some (opts.call broker first).1 :: separately broker opts rest ↔ _
      rw [List.cons.injEq, Option.some.injEq, ih]
      constructor
      · intro ⟨here, later⟩ front action back split
        cases front with
        | nil =>
          -- The first action that is found sees the object as it is at the start.
          obtain ⟨rfl, -⟩ := List.cons.inj split
          exact here
        | cons other front =>
          obtain ⟨rfl, tail⟩ := List.cons.inj split
          exact later front action back tail
      · intro all
        exact ⟨all [] first _ rfl, fun front action back split =>
          all (first :: front) action back (congrArg (first :: ·) split)⟩

end CallingOptions

/-- A call of an action with a timeout that leaves the metadata and the headers alone. -/
def timedCall (timeout : Option ℚ) : CalledAction :=
  ⟨{ plainItem "uid" none 0 with actionTimeout := timeout }, id, id⟩

variable {ν : Type}

/-- The metadata of a context. -/
abbrev Metadata (ν : Type) := OrderedMap String ν

/-- `Object.assign(target, source)`. -/
def Metadata.assign (target source : Metadata ν) : Metadata ν :=
  source.entries.foldl (fun target entry => target.set entry.1 entry.2) target

/-- A promise object, with the property `ctx` that the broker may have written on it, and whether
the promise is rejected in the end. -/
structure PromiseObject (κ : Type) where
  ctx : Option κ
  fails : Bool

/-- `promise.then(...)` makes a new promise. -/
def PromiseObject.andThen {κ κ' : Type} (promise : PromiseObject κ) : PromiseObject κ' :=
  ⟨none, promise.fails⟩

/-- `utils.promiseAllControl`, which makes a new promise as well. -/
def promiseAllControl {κ κ' : Type} (promises : List (PromiseObject κ)) (settled : Bool) :
    PromiseObject κ' :=
  ⟨none, !settled && promises.any PromiseObject.fails⟩

/-- A call that was made for an item: the metadata its context holds in the end, if there was an
endpoint and so a context, and whether it fails. -/
structure SubCall (ν : Type) where
  ctx : Option (Metadata ν)
  fails : Bool

/-- The promise of `ServiceBroker.call`. -/
def SubCall.promise (sub : SubCall ν) : PromiseObject (Metadata ν) := ⟨sub.ctx, sub.fails⟩

/-- The definition of an `mcall`, by the calls that are made for it. -/
inductive Definition (ν : Type) where
  | array (subs : List (SubCall ν))
  | object (subs : List (String × SubCall ν))

/-- The calls. -/
def Definition.subs : Definition ν → List (SubCall ν)
  | .array subs => subs
  | .object subs => subs.map Prod.snd

/-- The promise of `ServiceBroker.mcall`. The property `ctx` would hold a list of contexts. -/
def Definition.promise (settled : Bool) :
    Definition ν → PromiseObject (List (Option (Metadata ν)))
  | .array subs => promiseAllControl (subs.map SubCall.promise) settled
  | .object subs =>
    let promises : List (PromiseObject (Metadata ν)) :=
      subs.map fun sub => sub.2.promise.andThen
    let p : PromiseObject (List (Option (Metadata ν))) := promiseAllControl promises settled
    -- Pointer to Context.
    let p := { p with ctx := some (promises.map PromiseObject.ctx) }
    p.andThen

/-- `p.ctx.forEach(ctx => mergeMeta(this, ctx.meta))`, which throws at a missing context. -/
def mergeAll (own : Metadata ν) : List (Option (Metadata ν)) → Except (Metadata ν) (Metadata ν)
  | [] => .ok own
  | none :: _ => .error own
  | some other :: rest => mergeAll (own.assign other) rest

/-- The metadata of the parent when the promise of `Context.mcall` is settled. The callbacks for
both ways do the same. -/
def Definition.metaAfter (definition : Definition ν) (settled : Bool) (own : Metadata ν) :
    Metadata ν :=
  match (definition.promise settled).ctx with
  | none => own
  | some contexts =>
    match mergeAll own contexts with
    | .ok merged => merged
    | .error partly => partly

/-- Every key of the metadata of a sub-call is there, with the value of one of them. -/
def HoldsAll (own : Metadata ν) (subs : List (SubCall ν)) : Prop :=
  ∀ sub ∈ subs, ∀ metadata, sub.ctx = some metadata → ∀ key value, metadata.get key = some value →
    ∃ other ∈ subs, ∃ others, other.ctx = some others ∧ (others.get key).isSome ∧
      own.get key = others.get key

/-- No promise that `ServiceBroker.mcall` returns carries the contexts. -/
theorem ctx_promise (definition : Definition ν) (settled : Bool) :
    (definition.promise settled).ctx = none := by
  cases definition with
  | array subs => rfl
  | object subs => rfl

/-- The metadata of the parent holds that of the sub-calls afterwards exactly if it did before. -/
theorem mcall_merges_iff (definition : Definition ν) (settled : Bool) (own : Metadata ν) :
    HoldsAll (definition.metaAfter settled own) definition.subs ↔
      HoldsAll own definition.subs := by
  unfold Definition.metaAfter
  rw [ctx_promise]

/-- One sub-call that succeeds and sets one key. -/
def setsKey : SubCall Nat := ⟨some ⟨[("a", 1)], by decide⟩, false⟩

/-- Neither an array nor an object of calls brings the key to the parent. -/
theorem mcall_loses_metadata :
    (¬ HoldsAll ((Definition.array [setsKey]).metaAfter false .empty) [setsKey] ∧
      ((Definition.array [setsKey]).promise false).fails = false) ∧
    ¬ HoldsAll ((Definition.object [("first", setsKey)]).metaAfter true .empty) [setsKey] ∧
      ((Definition.object [("first", setsKey)]).promise true).fails = false := by
  have missing : ¬ HoldsAll (.empty : Metadata Nat) [setsKey] := by
    intro holds
    obtain ⟨other, inside, others, context, present, same⟩ :=
      holds setsKey List.mem_cons_self _ rfl "a" 1 (by decide)
    rw [← same] at present
    exact absurd present (by decide)
  exact ⟨⟨missing, rfl⟩, missing, rfl⟩

end Moleculer.Contexts
