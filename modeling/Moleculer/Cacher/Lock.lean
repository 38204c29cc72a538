import Moleculer.Base.OrderedMap
import Moleculer.Base.Run

/-! The in-memory lock of the memory cachers, and clients that take and give back its keys. -/

namespace Moleculer.Cacher

open Base

variable {κ ω : Type} [DecidableEq κ]

/-- A present key is locked, and its list holds the clients that wait for it. -/
structure Lock (κ ω : Type) where
  locked : OrderedMap κ (List ω)

namespace Lock

/-- Nothing is locked at the start. -/
def empty : Lock κ ω := ⟨.empty⟩

/-- Take the key, or join the end of its queue: the flag tells whether the promise is resolved. -/
def acquire (lock : Lock κ ω) (key : κ) (client : ω) : Lock κ ω × Bool :=
  match lock.locked.get key with
  | none => (⟨lock.locked.set key []⟩, true)
  | some waiting => (⟨lock.locked.set key (waiting ++ [client])⟩, false)

/-- Whether somebody holds the key. -/
def isLocked (lock : Lock κ ω) (key : κ) : Bool := (lock.locked.get key).isSome

/-- Hand the key to the first client in the queue, or forget the key when nobody waits. -/
def release (lock : Lock κ ω) (key : κ) : Lock κ ω × Option ω :=
  match lock.locked.get key with
  | none => (lock, none)
  | some [] => (⟨lock.locked.delete key⟩, none)
  | some (next :: waiting) => (⟨lock.locked.set key waiting⟩, some next)

/-- The clients that wait for a key, in queueing order. -/
def waiters (lock : Lock κ ω) (key : κ) : List ω := (lock.locked.get key).getD []

end Lock

/-- A lock together with the clients whose acquisition has been granted. -/
structure LockWorld (κ ω : Type) where
  lock : Lock κ ω
  holding : List (κ × ω)

/-- What the clients of a lock do. -/
inductive LockInput (κ ω : Type) where
  /-- A client calls `lock`. -/
  | acquire (key : κ) (client : ω)
  /-- A client calls `tryLock`, which gives up on a locked key. -/
  | tryLock (key : κ) (client : ω)
  /-- A holder ends its critical section. -/
  | finish (key : κ) (client : ω)

/-- The client that asks for a key in this step. -/
def LockInput.enters {κ ω : Type} : LockInput κ ω → Option ω
  | .acquire _ client => some client
  | .tryLock _ client => some client
  | .finish _ _ => none

namespace LockWorld

variable [DecidableEq ω]

/-- Nobody holds or waits for anything. -/
def empty : LockWorld κ ω := ⟨.empty, []⟩

/-- A call of `acquire` turns the client into a holder or into a waiter. -/
def acquire (world : LockWorld κ ω) (key : κ) (client : ω) : LockWorld κ ω :=
  let (lock, granted) := world.lock.acquire key client
  ⟨lock, if granted then world.holding ++ [(key, client)] else world.holding⟩

/-- Calling the unlock function a number of times, each time resuming the next waiter. -/
def release (world : LockWorld κ ω) (key : κ) : Nat → LockWorld κ ω
  | 0 => world
  | times + 1 =>
    let (lock, resumed) := world.lock.release key
    release ⟨lock, match resumed with
      | some client => world.holding ++ [(key, client)]
      | none => world.holding⟩ key times

/-- One step, where `unlocks` says how often a client calls its unlock function. -/
def step (unlocks : ω → Nat) (world : LockWorld κ ω) : LockInput κ ω → LockWorld κ ω
  | .acquire key client => world.acquire key client
  | .tryLock key client => if world.lock.isLocked key then world else world.acquire key client
  | .finish key client =>
    if (key, client) ∈ world.holding then
      release { world with holding := world.holding.erase (key, client) } key (unlocks client)
    else world

/-- The clients that join the line of a key in a step. -/
def joins (world : LockWorld κ ω) (key : κ) : LockInput κ ω → List ω
  | .acquire other client => if other = key then [client] else []
  | .tryLock other client =>
    if other = key ∧ world.lock.isLocked other = false then [client] else []
  | .finish _ _ => []

/-- The clients that give a key back in a step. -/
def leaves (world : LockWorld κ ω) (key : κ) : LockInput κ ω → List ω
  | .acquire _ _ => []
  | .tryLock _ _ => []
  | .finish other client => if other = key ∧ (other, client) ∈ world.holding then [client] else []

/-- The clients a key has been granted to. -/
def holders (world : LockWorld κ ω) (key : κ) : List (κ × ω) :=
  world.holding.filter fun grant => grant.1 = key

end LockWorld

end Moleculer.Cacher
