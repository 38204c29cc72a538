import Moleculer.Cacher.LockLaws

/-! The lock as a fair mutex: each key has a line of clients, with the holder at its head. -/

namespace Moleculer.Cacher

open Base

variable {κ ω : Type} [DecidableEq κ]

/-- The key an input is about. -/
def LockInput.key : LockInput κ ω → κ
  | .acquire key _ => key
  | .tryLock key _ => key
  | .finish key _ => key

namespace LockWorld

/-- The clients of a key: its holder, then those that wait for it. -/
def line (world : LockWorld κ ω) (key : κ) : List ω :=
  (world.holders key).map Prod.snd ++ world.lock.waiters key

/-- A client that calls `acquire` joins the end of the line of its key. -/
theorem line_acquire (world : LockWorld κ ω) (key other : κ) (client : ω) :
    (world.acquire key client).line other =
      world.line other ++ if key = other then [client] else [] := by
  -- It is granted a free key at once, and it queues behind the others for a locked one.
  by_cases same : key = other
  · subst same
    cases found : world.lock.locked.get key with
    | none =>
      simp [line, acquire, Lock.acquire, Lock.waiters, found, OrderedMap.get_set, holders_grant,
        holders_lock]
    | some queue =>
      simp [line, acquire, Lock.acquire, Lock.waiters, found, OrderedMap.get_set, holders_lock]
  · have elsewhere : other ≠ key := fun equal => same equal.symm
    cases found : world.lock.locked.get key <;>
      simp [line, acquire, Lock.acquire, Lock.waiters, found, OrderedMap.get_set, same, elsewhere,
        holders_grant, holders_lock]

variable {world : LockWorld κ ω}

theorem line_eq {unlocks : ω → Nat} (exclusive : Exclusive unlocks world) (key : κ) :
    match world.lock.locked.get key with
    | none => world.holders key = [] ∧ world.line key = []
    | some queue => ∃ client, world.holders key = [(key, client)] ∧
        world.line key = client :: queue := by
  have before := exclusive key
  cases found : world.lock.locked.get key with
  | none =>
    simp only [found, KeyExclusive] at before
    simp [line, Lock.waiters, found, before]
  | some queue =>
    simp only [found, KeyExclusive] at before
    obtain ⟨client, held, -⟩ := before
    exact ⟨client, held, by simp [line, Lock.waiters, found, held]⟩

/-- A call of `acquire` leaves the other keys as they are. -/
theorem acquire_other (world : LockWorld κ ω) {key other : κ} (client : ω) (ne : other ≠ key) :
    (world.acquire other client).lock.locked.get key = world.lock.locked.get key ∧
      (world.acquire other client).holders key = world.holders key := by
  have elsewhere : key ≠ other := fun equal => ne equal.symm
  cases found : world.lock.locked.get other <;>
    simp [acquire, Lock.acquire, found, OrderedMap.get_set, holders_grant, holders_lock, ne,
      elsewhere]

theorem exclusive_empty : Exclusive (fun _ => 1) (empty : LockWorld κ ω) := by
  intro key
  exact rfl

variable [DecidableEq ω]

/-- The step of clients that call their unlock function once. -/
abbrev stepOnce : LockWorld κ ω → LockInput κ ω → LockWorld κ ω := step fun _ => 1

/-- The clients that have asked for a key along a run, in the order of their calls. -/
def asked (key : κ) : LockWorld κ ω → List (LockInput κ ω) → List ω
  | _, [] => []
  | world, input :: rest => world.joins key input ++ asked key (world.stepOnce input) rest

/-- The clients that have given a key back along a run, in the order in which they did. -/
def released (key : κ) : LockWorld κ ω → List (LockInput κ ω) → List ω
  | _, [] => []
  | world, input :: rest => world.leaves key input ++ released key (world.stepOnce input) rest

theorem line_finish (exclusive : Exclusive (fun _ => 1) world) {key : κ} {client : ω}
    (held : (key, client) ∈ world.holding) (other : κ) :
    world.line other =
      (if key = other then [client] else []) ++
        (world.stepOnce (.finish key client)).line other := by
  have holder : (key, client) ∈ world.holders key := by simpa [holders] using held
  have before := line_eq exclusive key
  cases found : world.lock.locked.get key with
  | none =>
    rw [found] at before
    rw [before.1] at holder
    cases holder
  | some queue =>
    rw [found] at before
    obtain ⟨only, alone, line⟩ := before
    obtain rfl : client = only := by simpa [alone] using holder
    by_cases same : key = other
    · subst same
      -- The key passes to the first waiter, or it is forgotten.
      rw [line, if_pos rfl, List.singleton_append, List.cons_inj_right]
      simp only [stepOnce, step, held, if_true, release, Lock.release, found]
      cases queue with
      | nil =>
        simp [LockWorld.line, holders_erase, holders_lock, alone, Lock.waiters,
          OrderedMap.get_delete]
      | cons next rest =>
        simp [LockWorld.line, holders_grant, holders_erase, holders_lock, alone, Lock.waiters,
          OrderedMap.get_set]
    · have elsewhere : other ≠ key := fun equal => same equal.symm
      have others : (world.holders other).erase (key, client) = world.holders other :=
        List.erase_of_not_mem (by simp [holders, same])
      simp only [stepOnce, step, held, if_true, release, Lock.release, found, if_neg same,
        List.nil_append]
      cases queue <;>
        simp [LockWorld.line, holders_grant, holders_erase, holders_lock, others, Lock.waiters,
          OrderedMap.get_set, OrderedMap.get_delete, same, elsewhere]

theorem line_step (exclusive : Exclusive (fun _ => 1) world) (key : κ) (input : LockInput κ ω) :
    world.line key ++ world.joins key input =
      world.leaves key input ++ (world.stepOnce input).line key := by
  cases input with
  | acquire other client => simp [joins, leaves, stepOnce, step, line_acquire]
  | tryLock other client =>
    by_cases locked : world.lock.isLocked other = true
    · simp [joins, leaves, stepOnce, step, locked]
    · simp [joins, leaves, stepOnce, step, locked, line_acquire]
  | finish other client =>
    by_cases held : (other, client) ∈ world.holding
    · rw [line_finish exclusive held key]
      simp [joins, leaves, held]
    · simp [joins, leaves, stepOnce, step, held]

theorem line_run (exclusive : Exclusive (fun _ => 1) world) (key : κ)
    (inputs : List (LockInput κ ω)) :
    world.line key ++ asked key world inputs =
      released key world inputs ++ (run stepOnce world inputs).line key := by
  -- The invariant moves along with the world, so each step is an instance of the step lemma.
  induction inputs generalizing world with
  | nil => simp [asked, released, run]
  | cons input rest ih =>
    have kept : Exclusive (fun _ => 1) (world.stepOnce input) := exclusive.step fun _ _ => rfl
    calc world.line key ++ asked key world (input :: rest)
        = (world.line key ++ world.joins key input) ++ asked key (world.stepOnce input) rest := by
          simp [asked]
      _ = world.leaves key input ++
            ((world.stepOnce input).line key ++ asked key (world.stepOnce input) rest) := by
          rw [line_step exclusive, List.append_assoc]
      _ = released key world (input :: rest) ++
            (run stepOnce world (input :: rest)).line key := by
          rw [ih kept]
          simp [released, run]

theorem step_other (world : LockWorld κ ω) {input : LockInput κ ω} {key : κ}
    (other : input.key ≠ key) :
    (world.stepOnce input).lock.locked.get key = world.lock.locked.get key ∧
      (world.stepOnce input).holders key = world.holders key := by
  cases input with
  | acquire named client => exact acquire_other world client other
  | tryLock named client =>
    simp only [stepOnce, step]
    split
    · exact ⟨rfl, rfl⟩
    · exact acquire_other world client other
  | finish named client =>
    have ne : named ≠ key := other
    have elsewhere : key ≠ named := fun equal => ne equal.symm
    have others : (world.holders key).erase (named, client) = world.holders key :=
      List.erase_of_not_mem (by simp [holders, ne])
    simp only [stepOnce, step]
    split
    · -- The released key is set or deleted, and its next holder is recorded under it.
      simp only [release, Lock.release]
      split <;> simp [holders_grant, holders_erase, holders_lock, others, OrderedMap.get_set,
        OrderedMap.get_delete, ne, elsewhere]
    · exact ⟨rfl, rfl⟩

/-- The lock is a fair mutex for every key, whatever the clients do with it and in which order:
one client holds the key at a time, the clients get it in the order in which they asked for it, a
key that is waited for is held, no trace is left when all have given it back, and the keys do not
affect each other. -/
theorem lock_fair_mutex (inputs : List (LockInput κ ω)) (key : κ) :
    ((run stepOnce empty inputs).holders key).length ≤ 1 ∧
    ((run stepOnce empty inputs).lock.waiters key ≠ [] →
      ((run stepOnce empty inputs).holders key).length = 1) ∧
    asked key empty inputs = released key empty inputs ++
      (((run stepOnce empty inputs).holders key).map Prod.snd ++
        (run stepOnce empty inputs).lock.waiters key) ∧
    (released key empty inputs = asked key empty inputs →
      (run stepOnce empty inputs).lock.locked.get key = none) ∧
    ∀ input : LockInput κ ω, input.key ≠ key →
      ((run stepOnce empty inputs).stepOnce input).lock.locked.get key =
        (run stepOnce empty inputs).lock.locked.get key ∧
      ((run stepOnce empty inputs).stepOnce input).holders key =
        (run stepOnce empty inputs).holders key := by
  have exclusive : Exclusive (fun _ => 1) (run stepOnce (empty : LockWorld κ ω) inputs) :=
    run_invariant (fun _ _ kept _ => kept.step fun _ _ => rfl) exclusive_empty
      (meets_of_forall (fun _ _ => trivial) _ _ : Meets stepOnce (fun _ _ => True) empty inputs)
  have ordered : asked key empty inputs =
      released key empty inputs ++ (run stepOnce (empty : LockWorld κ ω) inputs).line key :=
    line_run exclusive_empty key inputs
  have headed := line_eq exclusive key
  have apart (input : LockInput κ ω) (other : input.key ≠ key) :=
    step_other (run stepOnce (empty : LockWorld κ ω) inputs) other
  cases found : (run stepOnce (empty : LockWorld κ ω) inputs).lock.locked.get key with
  | none =>
    rw [found] at headed apart
    obtain ⟨nobody, -⟩ := headed
    exact ⟨by simp [nobody], by simp [Lock.waiters, found], ordered, fun _ => rfl, apart⟩
  | some queue =>
    rw [found] at headed apart
    obtain ⟨client, alone, line⟩ := headed
    refine ⟨by simp [alone], fun _ => by simp [alone], ordered, fun all => ?_, apart⟩
    -- The holder has asked for the key and has not given it back.
    rw [line, all] at ordered
    simp at ordered

end LockWorld

end Moleculer.Cacher
