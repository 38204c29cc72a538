import Moleculer.Base.OrderedMap
import Moleculer.Utils.Match

/-! Hooks around actions (`middlewares/action-hook.js`). -/

namespace Moleculer.Services

open Base

variable {φ σ ν ε : Type}

/-- An asynchronous call: it works on a state and ends with a value or an error. `then` is the bind
of this monad and `catch` its `tryCatch`. -/
abbrev Async (σ ε α : Type) := ExceptT ε (StateM σ) α

/-- A hook as it is listed: a function or the name of a method. -/
inductive HookRef (φ : Type) where
  | fn (function : φ)
  | named (name : String)

/-- What is listed under a key: a hook or an array of hooks. -/
inductive HookDef (φ : Type) where
  | one (hook : HookRef φ)
  | many (hooks : List (HookRef φ))

/-- What is left to call: a function or an array of functions. -/
inductive Hook (φ : Type) where
  | one (function : φ)
  | many (functions : List φ)

/-- The hooks of one kind: those of the service by keys, and those of the action. -/
structure Hooks (φ : Type) where
  service : OrderedMap String (HookDef φ)
  action : Option (HookDef φ)

/-- An action with the hooks around it. -/
structure HookedAction (φ : Type) where
  name : String
  rawName : Option String
  method : String → Option φ
  before : Hooks φ
  after : Hooks φ
  error : Hooks φ

/-- What the functions do. A value that is `undefined` is `none`. -/
structure Behaviour (φ σ ν ε : Type) where
  onValue : φ → Option ν → Async σ ε (Option ν)
  onError : φ → ε → Async σ ε (Option ν)

section Source

/-- The function that a listed hook stands for. -/
def HookRef.resolve (method : String → Option φ) : HookRef φ → Option φ
  | .fn function => some function
  | .named name => method name

/-- Convert names to methods. In an array, names without a method are dropped; a single one gives
`null`. -/
def sanitizeHooks (method : String → Option φ) : HookDef φ → Option (Hook φ)
  | .one hook => (hook.resolve method).map .one
  | .many hooks => some (.many (hooks.filterMap (HookRef.resolve method)))

/-- Call a hook with a result; without a hook the call gives `undefined`. -/
def callHook (behaviour : Behaviour φ σ ν ε) (hook : Option (Hook φ)) (res : Option ν) :
    Async σ ε (Option ν) :=
  match hook with
  | some (.one function) => behaviour.onValue function res
  | some (.many functions) =>
    functions.foldl (fun p function => p >>= behaviour.onValue function) (pure res)
  | none => pure none

/-- Call a hook with an error; without a hook the call gives `undefined`. -/
def callErrorHook (behaviour : Behaviour φ σ ν ε) (hook : Option (Hook φ)) (err : ε) :
    Async σ ε (Option ν) :=
  match hook with
  | some (.one function) => behaviour.onError function err
  | some (.many functions) =>
    functions.foldl (fun p function => tryCatch p (behaviour.onError function)) (throw err)
  | none => pure none

/-- Whether the key of a hook is meant for an action: one of its alternatives matches. -/
def matchHook (test : String → String → Bool) (name hookName : String) : Bool :=
  if hookName = "*" then false
  else (hookName.toList.splitOn '|').any fun pattern =>
    Utils.patternMatch test name (String.ofList pattern)

variable (test : String → String → Bool) (action : HookedAction φ)

/-- The name that the keys are matched with: the one without the name of the service, if it is
there (`action.rawName || action.name`). -/
def HookedAction.hookedName : String :=
  (action.rawName.filter fun name => name ≠ "").getD action.name

/-- The hook for all actions of the service. -/
def HookedAction.allHook (hooks : Hooks φ) : Option (Hook φ) :=
  (hooks.service.get "*").bind (sanitizeHooks action.method)

/-- The hooks under the keys that match. -/
def HookedAction.keyHooks (hooks : Hooks φ) : List (Option (Hook φ)) :=
  (hooks.service.entries.filter fun entry =>
    matchHook test action.hookedName entry.1).map fun entry =>
    sanitizeHooks action.method entry.2

/-- The hook in the definition of the action. -/
def HookedAction.actionHook (hooks : Hooks φ) : Option (Hook φ) :=
  hooks.action.bind (sanitizeHooks action.method)

/-- Whether there is anything to call for a kind. -/
def HookedAction.hasHook (hooks : Hooks φ) : Bool :=
  (action.allHook hooks).isSome || !(action.keyHooks test hooks).isEmpty ||
    (action.actionHook hooks).isSome

variable (behaviour : Behaviour φ σ ν ε) (handler : Async σ ε (Option ν))

/-- A call of the action with its hooks. -/
def actionHookMiddleware : Async σ ε (Option ν) :=
  let p := pure none
  -- Before hooks: for all, by keys, of the action.
  let p := (action.allHook action.before).elim p fun hook =>
    p >>= fun _ => callHook behaviour (some hook) none
  let p := (action.keyHooks test action.before).foldl
    (fun p hook => p >>= fun _ => callHook behaviour hook none) p
  let p := (action.actionHook action.before).elim p fun hook =>
    p >>= fun _ => callHook behaviour (some hook) none
  let p := p >>= fun _ => handler
  -- After hooks: of the action, by keys, for all.
  let p := (action.actionHook action.after).elim p fun hook =>
    p >>= callHook behaviour (some hook)
  let p := (action.keyHooks test action.after).foldl
    (fun p hook => p >>= callHook behaviour hook) p
  let p := (action.allHook action.after).elim p fun hook =>
    p >>= callHook behaviour (some hook)
  -- Error hooks: of the action, by keys, for all.
  let p := (action.actionHook action.error).elim p fun hook =>
    tryCatch p (callErrorHook behaviour (some hook))
  let p := (action.keyHooks test action.error).foldl
    (fun p hook => tryCatch p (callErrorHook behaviour hook)) p
  (action.allHook action.error).elim p fun hook =>
    tryCatch p (callErrorHook behaviour (some hook))

/-- The handler with its hooks: without any, the handler itself. -/
def wrapActionHookMiddleware : Async σ ε (Option ν) :=
  if action.hasHook test action.before || action.hasHook test action.after ||
      action.hasHook test action.error then
    actionHookMiddleware test action behaviour handler
  else handler

end Source

section Reference

/-- The functions that are listed: a name without a method is as if it were not there. -/
def HookDef.functions (method : String → Option φ) : HookDef φ → List φ
  | .one hook => (hook.resolve method).toList
  | .many hooks => hooks.filterMap (HookRef.resolve method)

variable (test : String → String → Bool) (action : HookedAction φ)

/-- The lists of hooks around an action from the outside in: for all, by matching keys, of the
action. -/
def HookedAction.levels (hooks : Hooks φ) : List (List φ) :=
  ((hooks.service.get "*").toList ++
      (hooks.service.entries.filter fun entry => matchHook test action.hookedName entry.1).map
          Prod.snd ++
      hooks.action.toList).map (HookDef.functions action.method)

/-- The hooks that run after the handler: of the action, by matching keys in their order, for
all. -/
def HookedAction.behind (hooks : Hooks φ) : List φ :=
  (hooks.action.toList ++
      (hooks.service.entries.filter fun entry => matchHook test action.hookedName entry.1).map
          Prod.snd ++
      (hooks.service.get "*").toList).flatMap (HookDef.functions action.method)

variable (behaviour : Behaviour φ σ ν ε) (handler : Async σ ε (Option ν))

/-- Run the hooks of one level, then the rest. Each hook of an array gets what the one before it
returned. -/
def runLevel (functions : List φ) (rest : Async σ ε (Option ν)) : Async σ ε (Option ν) := do
  let _ ← functions.foldlM (fun res function => behaviour.onValue function res) none
  rest

/-- What hooks are documented to do: all before hooks, the handler, then each after hook with the
result before it, and on an error each error hook with the error before it until one returns. -/
def documented : Async σ ε (Option ν) :=
  let answered := (action.levels test action.before).foldr (runLevel behaviour) handler
  let finished := (action.behind test action.after).foldl
    (fun p function => p >>= behaviour.onValue function) answered
  (action.behind test action.error).foldl
    (fun p function => tryCatch p (behaviour.onError function)) finished

end Reference

section Calls

variable (behaviour : Behaviour φ σ ν ε)

/-- The functions that a hook calls. -/
def Hook.functions : Hook φ → List φ
  | .one function => [function]
  | .many functions => functions

theorem functions_sanitizeHooks (method : String → Option φ) (hook : HookDef φ) :
    (sanitizeHooks method hook).elim [] Hook.functions = hook.functions method := by
  cases hook with
  | one listed =>
    rw [sanitizeHooks, HookDef.functions]
    cases listed.resolve method <;> rfl
  | many listed => rfl

theorem foldl_bind (functions : List φ) (p : Async σ ε (Option ν)) :
    functions.foldl (fun p function => p >>= behaviour.onValue function) p =
      p >>= fun res =>
        functions.foldlM (fun res function => behaviour.onValue function res) res := by
  induction functions generalizing p with
  | nil => simp
  | cons function rest ih => simp [ih]

variable (hook : Hook φ) (p : Async σ ε (Option ν))

theorem callHook_some (res : Option ν) :
    callHook behaviour (some hook) res =
      hook.functions.foldlM (fun res function => behaviour.onValue function res) res := by
  cases hook with
  | one function => simp [callHook, Hook.functions]
  | many functions =>
    rw [callHook, foldl_bind, pure_bind]
    rfl

theorem bind_callHook :
    p >>= callHook behaviour (some hook) =
      hook.functions.foldl (fun p function => p >>= behaviour.onValue function) p := by
  rw [foldl_bind, show callHook behaviour (some hook) = fun res =>
    hook.functions.foldlM (fun res function => behaviour.onValue function res) res from
      funext (callHook_some behaviour hook)]

theorem run_catch (rescue : ε → Async σ ε (Option ν)) (s : σ) :
    (tryCatch p rescue).run.run s =
      match p.run.run s with
      | (.ok value, after) => (.ok value, after)
      | (.error err, after) => (rescue err).run.run after := by
  simp only [tryCatch, tryCatchThe, MonadExceptOf.tryCatch, ExceptT.tryCatch]
  rw [ExceptT.run_mk, StateT.run_bind, show StateT.run p s = p.run.run s from rfl]
  cases p.run.run s with
  | mk result after => cases result <;> rfl

theorem foldl_catch_congr (functions : List φ) {p q : Async σ ε (Option ν)} {s t : σ}
    (same : p.run.run s = q.run.run t) :
    (functions.foldl (fun p function => tryCatch p (behaviour.onError function)) p).run.run s =
      (functions.foldl (fun p function =>
        tryCatch p (behaviour.onError function)) q).run.run t := by
  induction functions generalizing p q with
  | nil => exact same
  | cons function rest ih =>
    apply ih
    rw [run_catch, run_catch, same]

theorem foldl_catch_pure (functions : List φ) (res : Option ν) :
    functions.foldl (fun p function => tryCatch p (behaviour.onError function)) (pure res) =
      (pure res : Async σ ε (Option ν)) := by
  induction functions with
  | nil => rfl
  | cons function rest ih => exact ih

theorem catch_callErrorHook :
    tryCatch p (callErrorHook behaviour (some hook)) =
      hook.functions.foldl (fun p function => tryCatch p (behaviour.onError function)) p := by
  cases hook with
  | one function => rfl
  | many functions =>
    apply funext
    intro s
    show (tryCatch p (callErrorHook behaviour (some (.many functions)))).run.run s =
      (functions.foldl (fun p function => tryCatch p (behaviour.onError function)) p).run.run s
    rw [run_catch]
    -- The array starts from how the call before it ended.
    cases ended : p.run.run s with
    | mk result after =>
      cases result with
      | ok value =>
        rw [foldl_catch_congr behaviour functions (show p.run.run s =
          (pure value : Async σ ε (Option ν)).run.run after from ended), foldl_catch_pure]
        rfl
      | error err =>
        exact (foldl_catch_congr behaviour functions (show p.run.run s =
          (throw err : Async σ ε (Option ν)).run.run after from ended)).symm

end Calls

section Composition

variable (test : String → String → Bool) (action : HookedAction φ)
  (behaviour : Behaviour φ σ ν ε) (handler : Async σ ε (Option ν))

theorem foldl_before (hooks : List (Option (Hook φ))) (p next : Async σ ε (Option ν)) :
    (hooks.foldl (fun p hook => p >>= fun _ => callHook behaviour hook none) p >>= fun _ => next) =
      p >>= fun _ => (hooks.map fun hook => hook.elim [] Hook.functions).foldr
        (runLevel behaviour) next := by
  induction hooks generalizing p with
  | nil => rfl
  | cons hook rest ih =>
    rw [List.foldl_cons, ih, bind_assoc]
    congr 1
    funext _
    cases hook with
    | none => rfl
    | some hook => rw [callHook_some]; rfl

theorem foldl_after {hooks : List (Option (Hook φ))} (there : none ∉ hooks)
    (p : Async σ ε (Option ν)) :
    hooks.foldl (fun p hook => p >>= callHook behaviour hook) p =
      (hooks.flatMap fun hook => hook.elim [] Hook.functions).foldl
        (fun p function => p >>= behaviour.onValue function) p := by
  rw [List.foldl_flatMap]
  refine List.foldl_ext _ _ _ fun q hook member => ?_
  cases hook with
  | none => exact absurd member there
  | some hook => exact bind_callHook behaviour hook q

theorem foldl_error {hooks : List (Option (Hook φ))} (there : none ∉ hooks)
    (p : Async σ ε (Option ν)) :
    hooks.foldl (fun p hook => tryCatch p (callErrorHook behaviour hook)) p =
      (hooks.flatMap fun hook => hook.elim [] Hook.functions).foldl
        (fun p function => tryCatch p (behaviour.onError function)) p := by
  rw [List.foldl_flatMap]
  refine List.foldl_ext _ _ _ fun q hook member => ?_
  cases hook with
  | none => exact absurd member there
  | some hook => exact catch_callErrorHook behaviour hook q

/-- All hooks that are called in front of the handler, from the outside in. -/
def HookedAction.outside (hooks : Hooks φ) : List (Option (Hook φ)) :=
  (action.allHook hooks).toList.map some ++ action.keyHooks test hooks ++
    (action.actionHook hooks).toList.map some

/-- All hooks that are called behind the handler, from the inside out. -/
def HookedAction.inside (hooks : Hooks φ) : List (Option (Hook φ)) :=
  (action.actionHook hooks).toList.map some ++ action.keyHooks test hooks ++
    (action.allHook hooks).toList.map some

theorem actionHookMiddleware_eq :
    actionHookMiddleware test action behaviour handler =
      (action.inside test action.error).foldl
        (fun p hook => tryCatch p (callErrorHook behaviour hook))
        ((action.inside test action.after).foldl (fun p hook => p >>= callHook behaviour hook)
          ((action.outside test action.before).foldl
            (fun p hook => p >>= fun _ => callHook behaviour hook none) (pure none) >>=
              fun _ => handler)) := by
  -- A hook that may be missing is a loop over at most one.
  have optional {β : Type} (step : β → Option (Hook φ) → β) (hook : Option (Hook φ)) (p : β) :
      (hook.toList.map some).foldl step p = hook.elim p fun hook => step p (some hook) := by
    cases hook <;> rfl
  simp only [HookedAction.inside, HookedAction.outside, List.foldl_append, optional]
  rfl

variable (hooks : Hooks φ)

theorem functions_keyHooks :
    (action.keyHooks test hooks).map (fun hook => hook.elim [] Hook.functions) =
      ((hooks.service.entries.filter fun entry =>
        matchHook test action.hookedName entry.1).map Prod.snd).map
          (HookDef.functions action.method) := by
  rw [HookedAction.keyHooks, List.map_map, List.map_map]
  exact List.map_congr_left fun entry _ => functions_sanitizeHooks action.method entry.2

theorem functions_inside :
    ((action.inside test hooks).flatMap fun hook => hook.elim [] Hook.functions) =
      action.behind test hooks := by
  have optional (listed : Option (HookDef φ)) :
      (((listed.bind (sanitizeHooks action.method)).toList.map some).flatMap fun hook =>
        hook.elim [] Hook.functions) = listed.toList.flatMap (HookDef.functions action.method) := by
    cases listed with
    | none => rfl
    | some hook =>
      rw [Option.bind_some, Option.toList_some, List.flatMap_singleton,
        ← functions_sanitizeHooks action.method hook]
      cases sanitizeHooks action.method hook <;> simp
  rw [HookedAction.inside, HookedAction.behind, List.flatMap_append, List.flatMap_append,
    List.flatMap_append, List.flatMap_append, HookedAction.actionHook, HookedAction.allHook,
    optional, optional]
  congr 2
  rw [List.flatMap_def, functions_keyHooks, ← List.flatMap_def]

theorem functions_outside (next : Async σ ε (Option ν)) :
    ((action.outside test hooks).map fun hook => hook.elim [] Hook.functions).foldr
        (runLevel behaviour) next =
      (action.levels test hooks).foldr (runLevel behaviour) next := by
  -- A level without functions does nothing.
  have optional (listed : Option (HookDef φ)) (next : Async σ ε (Option ν)) :
      (((listed.bind (sanitizeHooks action.method)).toList.map some).map fun hook =>
        hook.elim [] Hook.functions).foldr (runLevel behaviour) next =
      (listed.toList.map (HookDef.functions action.method)).foldr (runLevel behaviour) next := by
    cases listed with
    | none => rfl
    | some hook =>
      rw [Option.bind_some, Option.toList_some, List.map_singleton,
        ← functions_sanitizeHooks action.method hook]
      cases sanitizeHooks action.method hook <;> rfl
  rw [HookedAction.outside, HookedAction.levels]
  simp only [List.map_append, List.foldr_append, functions_keyHooks]
  rw [HookedAction.actionHook, HookedAction.allHook, optional, optional]

/-- A hook under a matching key is the name of no method. -/
def HookedAction.Dangling (hooks : Hooks φ) : Prop :=
  ∃ entry ∈ hooks.service.entries, matchHook test action.hookedName entry.1 = true ∧
    ∃ name, entry.2 = .one (.named name) ∧ action.method name = none

/-- Such a hook is called all the same, as `null`. -/
theorem none_mem_inside_iff :
    none ∈ action.inside test hooks ↔ action.Dangling test hooks := by
  have single (hook : HookDef φ) : sanitizeHooks action.method hook = none ↔
      ∃ name, hook = .one (.named name) ∧ action.method name = none := by
    match hook with
    | .one (.fn function) => simp [sanitizeHooks, HookRef.resolve]
    | .one (.named name) => simp [sanitizeHooks, HookRef.resolve]
    | .many hooks => simp [sanitizeHooks]
  simp only [HookedAction.inside, HookedAction.keyHooks, HookedAction.Dangling, List.mem_append,
    List.mem_map, List.mem_filter, single, reduceCtorEq, and_false, exists_false, false_or,
    or_false, and_assoc]

theorem wrap_eq_called : wrapActionHookMiddleware test action behaviour handler =
    actionHookMiddleware test action behaviour handler := by
  rw [wrapActionHookMiddleware]
  split
  · rfl
  · rename_i nothing
    rw [actionHookMiddleware_eq]
    simp only [Bool.or_eq_true, not_or, Bool.not_eq_true, HookedAction.hasHook,
      Option.isSome_eq_false_iff, Option.isNone_iff_eq_none, Bool.not_eq_false',
      List.isEmpty_iff] at nothing
    simp [HookedAction.inside, HookedAction.outside, nothing]

theorem wrap_eq_documented (after : ¬ action.Dangling test action.after)
    (error : ¬ action.Dangling test action.error) :
    wrapActionHookMiddleware test action behaviour handler =
      documented test action behaviour handler := by
  rw [← none_mem_inside_iff] at after error
  rw [wrap_eq_called, actionHookMiddleware_eq, foldl_before, foldl_after behaviour after,
    foldl_error behaviour error, functions_inside, functions_inside, pure_bind, functions_outside]
  rfl

end Composition

section PassOn

/-- Functions that pass on what they get. -/
def passOn : Behaviour φ σ ν ε where
  onValue _ res := pure res
  onError _ err := throw err

theorem foldlM_passOn (functions : List φ) (res : Option ν) :
    functions.foldlM (fun res function => passOn.onValue function res) res =
      (pure res : Async σ ε (Option ν)) := by
  induction functions with
  | nil => rfl
  | cons function rest ih =>
    rw [List.foldlM_cons]
    exact (pure_bind _ _).trans ih

theorem catch_passOn (functions : List φ) (p : Async σ ε (Option ν)) :
    functions.foldl (fun p function => tryCatch p (passOn.onError function)) p = p := by
  induction functions with
  | nil => rfl
  | cons function rest ih =>
    have same : tryCatch p (passOn.onError function) = p := by
      apply funext
      intro s
      show (tryCatch p (passOn.onError function)).run.run s = p.run.run s
      rw [run_catch]
      cases p.run.run s with
      | mk result after => cases result <;> rfl
    rw [List.foldl_cons, same]
    exact ih

theorem after_passOn {hooks : List (Option (Hook φ))} {res : Option ν}
    (missing : none ∈ hooks ∨ res = none) :
    hooks.foldl (fun p hook => p >>= callHook passOn hook) (pure res) =
      (pure none : Async σ ε (Option ν)) := by
  induction hooks generalizing res with
  | nil =>
    obtain inside | rfl := missing
    · cases inside
    · rfl
  | cons hook rest ih =>
    rw [List.foldl_cons, pure_bind]
    cases hook with
    | none => exact ih (.inr rfl)
    | some hook =>
      rw [callHook_some, foldlM_passOn]
      exact ih (missing.imp_left fun inside => by simpa using inside)

theorem error_of_pure (hooks : List (Option (Hook φ))) (behaviour : Behaviour φ σ ν ε)
    (res : Option ν) :
    hooks.foldl (fun p hook => tryCatch p (callErrorHook behaviour hook)) (pure res) =
      (pure res : Async σ ε (Option ν)) := by
  induction hooks with
  | nil => rfl
  | cons hook rest ih => exact ih

theorem error_passOn {hooks : List (Option (Hook φ))} (missing : none ∈ hooks) (err : ε) :
    hooks.foldl (fun p hook => tryCatch p (callErrorHook passOn hook)) (throw err) =
      (pure none : Async σ ε (Option ν)) := by
  induction hooks with
  | nil => cases missing
  | cons hook rest ih =>
    rw [List.foldl_cons]
    cases hook with
    | none => exact error_of_pure rest passOn none
    | some hook =>
      rw [catch_callErrorHook, catch_passOn]
      exact ih (by simpa using missing)

theorem after_of_throw (hooks : List (Option (Hook φ))) (behaviour : Behaviour φ σ ν ε) (err : ε) :
    hooks.foldl (fun p hook => p >>= callHook behaviour hook) (throw err) =
      (throw err : Async σ ε (Option ν)) := by
  induction hooks with
  | nil => rfl
  | cons hook rest ih => exact ih

theorem levels_passOn (levels : List (List φ)) (rest : Async σ ε (Option ν)) :
    levels.foldr (runLevel passOn) rest = rest := by
  induction levels with
  | nil => rfl
  | cons functions levels ih =>
    rw [List.foldr_cons, runLevel, foldlM_passOn, pure_bind]
    exact ih

variable (test : String → String → Bool) (action : HookedAction φ)

theorem wrap_passOn (handler : Async σ ε (Option ν)) :
    wrapActionHookMiddleware test action passOn handler =
      (action.inside test action.error).foldl
        (fun p hook => tryCatch p (callErrorHook passOn hook))
        ((action.inside test action.after).foldl (fun p hook => p >>= callHook passOn hook)
          handler) := by
  rw [wrap_eq_called, actionHookMiddleware_eq, foldl_before, pure_bind, levels_passOn]

theorem documented_passOn (handler : Async σ ε (Option ν)) :
    documented test action passOn handler = handler := by
  rw [documented]
  simp only [catch_passOn, foldl_bind, foldlM_passOn, bind_pure, levels_passOn]

/-- The hooks do what they are documented to do, whatever the functions and the handler do, exactly
if no after or error hook under a matching key is the name of no method. -/
theorem hooks_documented_iff [Inhabited σ] [Inhabited ν] [Inhabited ε] :
    (∀ (behaviour : Behaviour φ σ ν ε) (handler : Async σ ε (Option ν)),
        wrapActionHookMiddleware test action behaviour handler =
          documented test action behaviour handler) ↔
      ¬ action.Dangling test action.after ∧ ¬ action.Dangling test action.error := by
  refine ⟨fun equal => ⟨fun dangling => ?_, fun dangling => ?_⟩, fun both behaviour handler =>
    wrap_eq_documented test action behaviour handler both.1 both.2⟩
  · -- A handler that answers loses its answer.
    have missing := (none_mem_inside_iff test action _).mpr dangling
    have lost := equal passOn (pure (some default))
    rw [documented_passOn, wrap_passOn, after_passOn (.inl missing), error_of_pure] at lost
    have answers := congrArg (fun p : Async σ ε (Option ν) => (p.run.run default).1) lost
    cases answers
  · -- A handler that fails seems to succeed.
    have missing := (none_mem_inside_iff test action _).mpr dangling
    have lost := equal passOn (throw default)
    rw [documented_passOn, wrap_passOn, after_of_throw, error_passOn missing] at lost
    have answers := congrArg (fun p : Async σ ε (Option ν) => (p.run.run default).1) lost
    cases answers

end PassOn

/-- An action with a service hook that is the name of no method. -/
def missingMethod : HookedAction Nat where
  name := "users.list"
  rawName := some "list"
  method _ := none
  before := ⟨.empty, none⟩
  after := ⟨⟨[("list|get", .one (.named "audit"))], List.nodup_singleton _⟩, none⟩
  error := ⟨⟨[("list|get", .one (.named "audit"))], List.nodup_singleton _⟩, none⟩

/-- The result of the handler is lost and its error is swallowed. -/
theorem missing_method_swallows :
    ((wrapActionHookMiddleware (fun _ _ => false) missingMethod passOn
        (pure (some 5) : Async Unit String (Option Nat))).run.run ()).1 = .ok none ∧
      ((wrapActionHookMiddleware (fun _ _ => false) missingMethod passOn
        (throw "failed" : Async Unit String (Option Nat))).run.run ()).1 = .ok none ∧
      ((documented (fun _ _ => false) missingMethod passOn
        (throw "failed" : Async Unit String (Option Nat))).run.run ()).1 = .error "failed" := by
  have key : matchHook (fun _ _ => false) missingMethod.hookedName "list|get" = true := by
    decide +kernel
  have after : none ∈ missingMethod.inside (fun _ _ => false) missingMethod.after :=
    (none_mem_inside_iff _ _ _).mpr ⟨_, List.mem_singleton_self _, key, "audit", rfl, rfl⟩
  have error : none ∈ missingMethod.inside (fun _ _ => false) missingMethod.error :=
    (none_mem_inside_iff _ _ _).mpr ⟨_, List.mem_singleton_self _, key, "audit", rfl, rfl⟩
  refine ⟨?_, ?_, ?_⟩
  · rw [wrap_passOn, after_passOn (.inl after), error_of_pure]
    rfl
  · rw [wrap_passOn, after_of_throw, error_passOn error]
    rfl
  · rw [documented_passOn]
    rfl

end Moleculer.Services
