import Moleculer.Base.Run
import Moleculer.Registry.Balancer
import Moleculer.Strategies.Sampling
import Mathlib

/-! How evenly an endpoint list with the round robin strategy picks its endpoints. -/

namespace Moleculer.Cluster

open Base Strategies

variable {δ : Type}

/-- The calls that one list serves. -/
inductive Turn where
  | next
  | nextLocal
  deriving DecidableEq, Repr

namespace EndpointList

/-- One call with the round robin strategy and no preference for local endpoints. The endpoints that
`next` has picked are noted. -/
def turn (list : EndpointList δ) (state : RoundRobin × List (Endpoint δ)) :
    Turn → RoundRobin × List (Endpoint δ)
  | .next =>
    let (strategy, result) := list.nextWith RoundRobin.select state.1 false
    match result with
    | .ok (some ep) => (strategy, state.2 ++ [ep])
    | _ => (strategy, state.2)
  | .nextLocal => ((list.nextLocalWith RoundRobin.select state.1).1, state.2)

/-- The endpoints that `next` picks in a sequence of calls. -/
def picked (list : EndpointList δ) (counter : Nat) (turns : List Turn) : List (Endpoint δ) :=
  (run list.turn (⟨counter⟩, []) turns).2

/-- No endpoint was picked more than once more than another. -/
def Fair (list : EndpointList δ) (picked : List (Endpoint δ)) : Prop :=
  ∀ ep ∈ list.endpoints, ∀ other ∈ list.endpoints,
    picked.countP (·.ref = ep.ref) ≤ picked.countP (·.ref = other.ref) + 1

instance (list : EndpointList δ) (picked : List (Endpoint δ)) : Decidable (list.Fair picked) :=
  inferInstanceAs (Decidable (∀ ep ∈ list.endpoints, ∀ other ∈ list.endpoints,
    picked.countP (·.ref = ep.ref) ≤ picked.countP (·.ref = other.ref) + 1))

/-- The place that the counter points to. -/
def place (list : EndpointList δ) (counter : Nat) : Nat :=
  if counter ≥ list.endpoints.length then 0 else counter

/-- What is assumed of a list: several endpoints, which are different objects and stay available,
and no internal ones. -/
structure Several (list : EndpointList δ) : Prop where
  many : 2 ≤ list.endpoints.length
  distinct : (list.endpoints.map (·.ref)).Nodup
  external : list.internal = false
  available : list.AllAvailable

section Turns

variable {list : EndpointList δ}

theorem exists_cons_cons {α : Type} {items : List α} (several : 2 ≤ items.length) :
    ∃ first second rest, items = first :: second :: rest := by
  cases items with
  | nil => simp at several
  | cons first rest =>
    cases rest with
    | nil => simp at several
    | cons second rest => exact ⟨first, second, rest, rfl⟩

theorem Several.ref_get_iff (several : list.Several) (i j : Fin list.endpoints.length) :
    (list.endpoints.get i).ref = (list.endpoints.get j).ref ↔ i = j := by
  refine ⟨fun same => ?_, fun same => same ▸ rfl⟩
  have equal := List.inj_on_of_nodup_map several.distinct (List.get_mem _ i) (List.get_mem _ j) same
  exact List.nodup_iff_injective_get.mp (List.Nodup.of_map _ several.distinct) equal

theorem Several.place_lt (several : list.Several) (counter : Nat) :
    list.place counter < list.endpoints.length := by
  have many := several.many
  unfold place
  split <;> omega

theorem Several.place_succ (several : list.Several) (counter : Nat) :
    list.place (list.place counter + 1) = (list.place counter + 1) % list.endpoints.length := by
  have inside := several.place_lt counter
  generalize list.place counter = here at *
  unfold place
  split
  · rw [show here + 1 = list.endpoints.length by omega, Nat.mod_self]
  · rw [Nat.mod_eq_of_lt (by omega)]

/-- `next` picks the endpoint that the counter points to. -/
theorem Several.turn_next (several : list.Several) (counter : Nat) (picked : List (Endpoint δ)) :
    list.turn (⟨counter⟩, picked) .next = (⟨list.place counter + 1⟩,
      picked ++ [list.endpoints.get ⟨list.place counter, several.place_lt counter⟩]) := by
  have all : list.endpoints.filter (·.state) = list.endpoints :=
    List.filter_eq_self.mpr several.available
  have inside := several.place_lt counter
  have chosen : RoundRobin.select ⟨counter⟩ list.endpoints = (⟨list.place counter + 1⟩,
      some (list.endpoints.get ⟨list.place counter, inside⟩)) :=
    Prod.ext rfl (List.getElem?_eq_getElem inside)
  have some_ : ¬ list.endpoints.length = 0 := by
    have := several.many
    omega
  have result : list.nextWith RoundRobin.select ⟨counter⟩ false = (⟨list.place counter + 1⟩,
      .ok (some (list.endpoints.get ⟨list.place counter, inside⟩))) := by
    have selected : availableWith RoundRobin.select ⟨counter⟩ list.endpoints =
        (⟨list.place counter + 1⟩,
          .ok (some (list.endpoints.get ⟨list.place counter, inside⟩))) := by
      unfold availableWith selectWith
      dsimp only
      rw [all, if_neg some_, chosen]
    rw [← selected]
    unfold nextWith
    rw [if_neg some_, several.external]
    obtain ⟨item, other, rest, shape⟩ := exists_cons_cons several.many
    rw [shape]
    rfl
  unfold turn
  dsimp only
  rw [result]

/-- With at most one local endpoint, `nextLocal` leaves the counter. -/
theorem turn_nextLocal_few (few : list.locals.length ≤ 1)
    (state : RoundRobin × List (Endpoint δ)) : list.turn state .nextLocal = state := by
  unfold turn nextLocalWith
  cases shape : list.locals with
  | nil => rfl
  | cons item rest =>
    cases rest with
    | nil => rfl
    | cons other rest =>
      rw [shape] at few
      simp at few

/-- With several local endpoints, `nextLocal` counts among them. -/
theorem Several.turn_nextLocal (several : list.Several) (more : 2 ≤ list.locals.length)
    (counter : Nat) (picked : List (Endpoint δ)) :
    list.turn (⟨counter⟩, picked) .nextLocal =
      (⟨(if counter ≥ list.locals.length then 0 else counter) + 1⟩, picked) := by
  have all : list.locals.filter (·.state) = list.locals := by
    refine List.filter_eq_self.mpr fun ep member => ?_
    exact several.available ep (List.mem_filter.mp member).1
  have some_ : ¬ list.locals.length = 0 := by omega
  have result : list.nextLocalWith RoundRobin.select ⟨counter⟩ =
      availableWith RoundRobin.select ⟨counter⟩ list.locals := by
    unfold nextLocalWith
    obtain ⟨item, other, rest, shape⟩ := exists_cons_cons more
    rw [shape]
  unfold turn
  dsimp only
  rw [result]
  unfold availableWith selectWith
  rw [all, if_neg some_]
  rfl

/-- The turns leave the counter to `next`. -/
def Undisturbed (list : EndpointList δ) (turns : List Turn) : Prop :=
  ∀ turn ∈ turns, turn = .nextLocal → list.locals.length ≤ 1

/-- If the counter is left to `next`, the endpoints are picked in turn. -/
theorem Several.picked_eq (several : list.Several) (counter : Nat) (done : List (Endpoint δ))
    {turns : List Turn} (undisturbed : list.Undisturbed turns) :
    (run list.turn (⟨counter⟩, done) turns).2 = done ++
      (List.range (turns.count .next)).map fun k =>
        list.endpoints.get ⟨(list.place counter + k) % list.endpoints.length,
          Nat.mod_lt _ (Nat.zero_lt_of_lt several.many)⟩ := by
  -- Each call of `next` takes the first place and moves all others by one.
  induction turns generalizing counter done with
  | nil => simp [run]
  | cons turn rest ih =>
    have later : list.Undisturbed rest := fun other inside =>
      undisturbed other (List.mem_cons_of_mem _ inside)
    cases turn with
    | nextLocal =>
      have few := undisturbed .nextLocal List.mem_cons_self rfl
      rw [run, turn_nextLocal_few few, ih counter done later]
      rfl
    | next =>
      rw [run, several.turn_next, ih _ _ later, List.count_cons_self, List.range_succ_eq_map,
        List.map_cons, List.append_assoc]
      congr 1
      rw [List.singleton_append, List.map_map]
      have inside := several.place_lt counter
      congr 1
      · congr 2
        exact (Nat.mod_eq_of_lt inside).symm
      · apply List.map_congr_left
        intro k _
        rw [Function.comp_apply]
        congr 2
        rw [several.place_succ, Nat.mod_add_mod]
        congr 1
        omega

theorem countP_mod_le {size : Nat} (positive : 0 < size) (start : Nat) {first second : Nat}
    (inside : first < size) (other : second < size) (count : Nat) :
    (List.range count).countP (fun k => (start + k) % size = first) ≤
      (List.range count).countP (fun k => (start + k) % size = second) + 1 := by
  have counted (rest : Nat) (below : rest < size) :
      (List.range count).countP (fun k => (start + k) % size = rest) =
        count / size + if (rest + (size - start % size)) % size < count % size then 1 else 0 := by
    -- Both sides moved by the start.
    have moved (number : Nat) : start + number ≡ start + (rest + (size - start % size)) [MOD size] ↔
        (start + number) % size = rest := by
      have whole : start + (rest + (size - start % size)) = rest + size * (start / size + 1) := by
        have parts := Nat.div_add_mod start size
        have less := Nat.mod_lt start positive
        rw [Nat.mul_succ]
        omega
      rw [whole, Nat.ModEq, Nat.add_mul_mod_self_left, Nat.mod_eq_of_lt below]
    rw [← Nat.count_modEq_card _ positive]
    have recursive (number : Nat) :
        (List.range number).countP (fun k => (start + k) % size = rest) =
          number.count (· ≡ rest + (size - start % size) [MOD size]) := by
      induction number with
      | zero => rfl
      | succ number ih =>
        have same : (start + number) % size = rest ↔
            number ≡ rest + (size - start % size) [MOD size] := by
          rw [← moved number]
          exact ⟨Nat.ModEq.add_left_cancel' start, Nat.ModEq.add_left start⟩
        rw [List.range_succ, List.countP_append, ih, Nat.count_succ]
        simp [same]
    exact recursive count
  rw [counted first inside, counted second other]
  split <;> split <;> omega

/-- If the counter is left to `next`, the endpoints are picked evenly. -/
theorem Several.fair (several : list.Several) (counter : Nat) {turns : List Turn}
    (undisturbed : list.Undisturbed turns) : list.Fair (list.picked counter turns) := by
  have positive : 0 < list.endpoints.length := Nat.zero_lt_of_lt several.many
  -- An endpoint is picked whenever the counter points to its place.
  have counted (i : Nat) (inside : i < list.endpoints.length) :
      (list.picked counter turns).countP (·.ref = (list.endpoints.get ⟨i, inside⟩).ref) =
        (List.range (turns.count .next)).countP fun k =>
          (list.place counter + k) % list.endpoints.length = i := by
    rw [picked, several.picked_eq counter [] undisturbed, List.nil_append, List.countP_map]
    apply List.countP_congr
    intro k _
    have below := Nat.mod_lt (list.place counter + k) positive
    have same := several.ref_get_iff ⟨_, below⟩ ⟨i, inside⟩
    simpa using same
  intro ep member other there
  obtain ⟨⟨i, inside⟩, rfl⟩ := List.get_of_mem member
  obtain ⟨⟨j, within⟩, rfl⟩ := List.get_of_mem there
  rw [counted i inside, counted j within]
  exact countP_mod_le positive _ inside within _

/-- With several local endpoints, calls of `nextLocal` bring the counter to one. -/
theorem Several.exists_nextLocal (several : list.Several) (more : 2 ≤ list.locals.length)
    (counter : Nat) (picked : List (Endpoint δ)) :
    ∃ turns, run list.turn (⟨counter⟩, picked) turns = (⟨1⟩, picked) := by
  -- The counter rises to the number of local endpoints and starts again.
  by_cases high : counter ≥ list.locals.length
  · refine ⟨[.nextLocal], ?_⟩
    rw [run, several.turn_nextLocal more, if_pos high]
    rfl
  · induction gap : list.locals.length - counter generalizing counter with
    | zero => omega
    | succ gap ih =>
      have up : list.turn (⟨counter⟩, picked) .nextLocal = (⟨counter + 1⟩, picked) := by
        rw [several.turn_nextLocal more, if_neg high]
      by_cases top : counter + 1 ≥ list.locals.length
      · refine ⟨[.nextLocal, .nextLocal], ?_⟩
        rw [run, up, run, several.turn_nextLocal more, if_pos top]
        rfl
      · obtain ⟨turns, reached⟩ := ih (counter + 1) top (by omega)
        refine ⟨.nextLocal :: turns, ?_⟩
        rw [run, up]
        exact reached

/-- Then `next` can be made to pick the same endpoint twice. -/
theorem Several.exists_unfair (several : list.Several) (more : 2 ≤ list.locals.length)
    (counter : Nat) : ∃ turns, ¬ list.Fair (list.picked counter turns) := by
  obtain ⟨first, one⟩ := several.exists_nextLocal more counter []
  have place : list.place 1 = 1 := if_neg (by have := several.many; omega)
  have taken (picked : List (Endpoint δ)) := several.turn_next 1 picked
  let second := list.endpoints.get ⟨list.place 1, several.place_lt 1⟩
  obtain ⟨again, back⟩ := several.exists_nextLocal more (list.place 1 + 1) [second]
  refine ⟨first ++ [.next] ++ again ++ [.next], fun fair => ?_⟩
  have result : list.picked counter (first ++ [.next] ++ again ++ [.next]) = [second, second] := by
    have once : run list.turn (⟨1⟩, []) [.next] = (⟨list.place 1 + 1⟩, [second]) := taken []
    have twice : run list.turn (⟨1⟩, [second]) [.next] = (⟨list.place 1 + 1⟩, [second, second]) :=
      taken [second]
    rw [picked, run_append, run_append, run_append, one, once, back, twice]
  have zero : 0 < list.endpoints.length := Nat.zero_lt_of_lt several.many
  have bound := fair second (List.get_mem _ _) (list.endpoints.get ⟨0, zero⟩) (List.get_mem _ _)
  have differs : second.ref ≠ (list.endpoints.get ⟨0, zero⟩).ref := by
    intro same
    have equal : list.place 1 = 0 := congrArg Fin.val ((several.ref_get_iff _ _).mp same)
    omega
  rw [result, List.countP_eq_length.mpr (by simp), List.countP_eq_zero.mpr (by simpa using differs)]
    at bound
  exact absurd bound (Nat.not_le.mpr (Nat.lt_succ_self 1))

end Turns

/-- With the round robin, from any value of the counter, all interleavings of `next` and `nextLocal`
pick the endpoints evenly exactly if the list has at most one local endpoint; and in any list they
are picked evenly as long as `nextLocal` is not called with several local endpoints. -/
theorem round_robin_fair_iff {list : EndpointList δ} (several : list.Several) (counter : Nat) :
    ((∀ turns, list.Fair (list.picked counter turns)) ↔ list.locals.length ≤ 1) ∧
      ∀ turns, list.Undisturbed turns → list.Fair (list.picked counter turns) := by
  refine ⟨⟨fun all => ?_, fun few turns => ?_⟩, fun turns => several.fair counter⟩
  · by_contra more
    obtain ⟨turns, unfair⟩ := several.exists_unfair (by omega) counter
    exact unfair (all turns)
  · exact several.fair counter fun _ _ _ => few

/-- A list with a remote endpoint and some local ones. -/
def withLocals (locals : List Nat) : EndpointList Unit where
  name := "users.list"
  group := none
  internal := false
  endpoints := locals.map (fun ref =>
      ⟨ref, ⟨0, some "node-1"⟩, true, true, ⟨ref, ⟨0, some "node-1"⟩, "users", "users"⟩, ()⟩) ++
    [⟨0, ⟨1, some "node-2"⟩, false, true, ⟨0, ⟨1, some "node-2"⟩, "users", "users"⟩, ()⟩]
  localEndpoints := locals

/-- With one local endpoint, calls of `nextLocal` do not matter. -/
theorem round_robin_fair_iff_one_local :
    (withLocals [1]).Fair ((withLocals [1]).picked 0 [.next, .nextLocal, .next, .nextLocal]) :=
  (round_robin_fair_iff ⟨by decide, by decide, rfl, by unfold AllAvailable; decide⟩ 0).1.mpr
    (by decide) _

/-- With two local endpoints, one of them can be left out. -/
theorem nextLocal_skips_endpoint :
    ¬ (withLocals [1, 2]).Fair
      ((withLocals [1, 2]).picked 0 [.next, .nextLocal, .next, .next, .nextLocal, .next]) := by
  decide

end EndpointList

end Moleculer.Cluster
