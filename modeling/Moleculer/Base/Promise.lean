import Mathlib

/-! Promise chains as computations that act on a shared state and settle, or stay pending. -/

namespace Base

/-- What has become of a promise once nothing more happens to it. -/
inductive Settlement (ε α : Type) where
  | fulfilled (value : α)
  | rejected (error : ε)
  | pending
  deriving DecidableEq, Repr

/-- Running a promise chain changes the state and may settle the promise. -/
def Promise (σ ε α : Type) : Type := σ → Settlement ε α × σ

namespace Promise

variable {σ ε α β : Type}

/-- A promise that is already fulfilled. -/
def resolve (value : α) : Promise σ ε α := fun state => (.fulfilled value, state)

/-- A promise that is already rejected, and equally an exception inside of a callback. -/
def reject (error : ε) : Promise σ ε α := fun state => (.rejected error, state)

/-- A promise that is never settled. -/
def never : Promise σ ε α := fun state => (.pending, state)

/-- Continue after fulfilment: `promise.then(next)`. -/
def andThen (promise : Promise σ ε α) (next : α → Promise σ ε β) : Promise σ ε β := fun state =>
  match promise state with
  | (.fulfilled value, after) => next value after
  | (.rejected error, after) => (.rejected error, after)
  | (.pending, after) => (.pending, after)

/-- Continue after rejection: `promise.catch(handler)`. -/
def recover (promise : Promise σ ε α) (handler : ε → Promise σ ε α) : Promise σ ε α := fun state =>
  match promise state with
  | (.fulfilled value, after) => (.fulfilled value, after)
  | (.rejected error, after) => handler error after
  | (.pending, after) => (.pending, after)

/-- A promise nobody waits for: it runs, and how it settles is dropped. -/
def detach (promise : Promise σ ε α) : Promise σ ε Unit :=
  fun state => (.fulfilled (), (promise state).2)

/-- An immediate change of the shared state. -/
def act (change : σ → σ) : Promise σ ε Unit := fun state => (.fulfilled (), change state)

instance : Monad (Promise σ ε) where
  pure := resolve
  bind := andThen

variable (promise : Promise σ ε α) (value : α) (next : α → Promise σ ε β) (error : ε) (state : σ)

@[simp] theorem pure_eq : (pure value : Promise σ ε α) = resolve value := rfl

@[simp] theorem bind_eq :
    (promise >>= next) = promise.andThen next := rfl

@[simp] theorem andThen_resolve :
    (resolve value).andThen next = next value := rfl

@[simp] theorem andThen_reject (next : α → Promise σ ε β) :
    (reject error).andThen next = reject error := rfl

@[simp] theorem recover_resolve (handler : ε → Promise σ ε α) :
    (resolve value).recover handler = resolve value := rfl

@[simp] theorem recover_reject (handler : ε → Promise σ ε α) :
    (reject error).recover handler = handler error := rfl

@[simp] theorem resolve_apply :
    (resolve value : Promise σ ε α) state = (.fulfilled value, state) := rfl

@[simp] theorem reject_apply :
    (reject error : Promise σ ε α) state = (.rejected error, state) := rfl

@[simp] theorem act_apply (change : σ → σ) (state : σ) :
    (act change : Promise σ ε Unit) state = (.fulfilled (), change state) := rfl

@[simp] theorem act_andThen_apply (change : σ → σ) (next : Unit → Promise σ ε β) (state : σ) :
    (act change).andThen next state = next () (change state) := rfl

@[simp] theorem detach_apply :
    promise.detach state = (.fulfilled (), (promise state).2) := rfl

@[simp] theorem detach_andThen_apply (next : Unit → Promise σ ε β) (state : σ) :
    promise.detach.andThen next state = next () (promise state).2 := rfl

end Promise

/-- How the call of an asynchronous function ends. -/
inductive Call (ε α : Type) where
  | resolves (value : α)
  | rejects (error : ε)
  /-- The function throws before it returns a promise. -/
  | throws (error : ε)
  deriving DecidableEq, Repr

namespace Call

variable {σ ε α : Type}

/-- Make the call: an exception leaves at once, otherwise there is a promise to continue from. -/
def start : Call ε α → Promise σ ε (Promise σ ε α)
  | .resolves value => .resolve (.resolve value)
  | .rejects error => .resolve (.reject error)
  | .throws error => .reject error

/-- Make the call and wait for it, where an exception and a rejection are the same. -/
def await (call : Call ε α) : Promise σ ε α := call.start.andThen id

@[simp] theorem start_resolves (value : α) :
    ((resolves value : Call ε α).start : Promise σ ε (Promise σ ε α)) = .resolve (.resolve value) :=
  rfl

variable (error : ε)

@[simp] theorem start_rejects :
    ((rejects error : Call ε α).start : Promise σ ε (Promise σ ε α)) = .resolve (.reject error) :=
  rfl

@[simp] theorem start_throws :
    ((throws error : Call ε α).start : Promise σ ε (Promise σ ε α)) = .reject error := rfl

@[simp] theorem await_resolves (value : α) :
    ((resolves value : Call ε α).await : Promise σ ε α) = .resolve value := rfl

@[simp] theorem await_rejects :
    ((rejects error : Call ε α).await : Promise σ ε α) = .reject error := rfl

@[simp] theorem await_throws :
    ((throws error : Call ε α).await : Promise σ ε α) = .reject error := rfl

end Call

end Base
