import Mathlib

/-! Lists that take in at most one entry of each name, and lose all entries when one is dropped. -/

namespace Base

variable {α ν ι : Type} [DecidableEq ν]

/-- Take in an entry, unless there is one of the same name. -/
def enlist (name : α → ν) (old : List α) (new : α) : List α :=
  if old.any fun entry => name entry = name new then old else old ++ [new]

theorem enlist_enlist (name : α → ν) (old : List α) (new : α) :
    enlist name (enlist name old new) new = enlist name old new := by
  unfold enlist
  by_cases taken : old.any fun entry => name entry = name new <;> simp [taken]

theorem view_foldl_enlist {σ : Type} {name : α → ν} (view : σ → List α) {step : σ → ι → σ}
    {test : ι → Bool} {new : α}
    (each : ∀ state input, view (step state input) =
      if test input then enlist name (view state) new else view state)
    (state : σ) (inputs : List ι) :
    view (inputs.foldl step state) =
      if inputs.any test then enlist name (view state) new else view state := by
  induction inputs generalizing state with
  | nil => rfl
  | cons input rest ih =>
    rw [List.foldl_cons, ih, each, List.any_cons]
    by_cases here : test input = true
    · -- A second entry of the same name changes nothing.
      rw [if_pos here, enlist_enlist, ite_self, here, Bool.true_or, if_pos rfl]
    · rw [if_neg here, Bool.eq_false_of_not_eq_true here, Bool.false_or]

theorem view_foldl_clear {σ : Type} (view : σ → List α) {step : σ → ν → σ} {key : ν}
    (each : ∀ state name, view (step state name) = if key = name then [] else view state)
    (state : σ) (names : List ν) :
    view (names.foldl step state) = if key ∈ names then [] else view state := by
  induction names generalizing state with
  | nil => rfl
  | cons first rest ih =>
    rw [List.foldl_cons, ih, each]
    by_cases here : key = first <;> simp [here]

theorem mem_enlist_self_iff {name : α → ν} {old : List α}
    (apart : old.Pairwise fun one other => name one ≠ name other) (new : α) :
    new ∈ enlist name old new ↔ ∀ entry ∈ old, name entry = name new → entry = new := by
  unfold enlist
  by_cases taken : ∃ entry ∈ old, name entry = name new
  · have any : old.any (fun entry => name entry = name new) = true := by simpa using taken
    rw [if_pos any]
    refine ⟨fun inside entry member same => ?_, fun only => ?_⟩
    · -- Two entries of one name are the same entry.
      exact List.inj_on_of_nodup_map (List.pairwise_map.mpr apart) member inside same
    · obtain ⟨entry, member, same⟩ := taken
      exact only entry member same ▸ member
  · have none : old.any (fun entry => name entry = name new) = false := by simpa using taken
    rw [if_neg (by rw [none]; decide)]
    refine iff_of_true (by simp) fun entry member same => ?_
    exact absurd ⟨entry, member, same⟩ taken

theorem nodup_foldl_enlist {name : α → ν} (old new : List α) (apart : (old.map name).Nodup) :
    ((new.foldl (enlist name) old).map name).Nodup := by
  refine List.foldlRecOn new (enlist name) (motive := fun kept => (kept.map name).Nodup) apart
    fun kept distinct entry _ => ?_
  unfold enlist
  by_cases taken : kept.any fun other => name other = name entry
  · rw [if_pos taken]
    exact distinct
  · rw [if_neg taken, List.map_append, List.nodup_append]
    refine ⟨distinct, List.nodup_singleton _, ?_⟩
    rintro _ inside _ last rfl
    obtain ⟨other, member, same⟩ := List.mem_map.mp inside
    rw [List.map_singleton, List.mem_singleton] at last
    exact taken (List.any_eq_true.mpr ⟨other, member, by simp [same, last]⟩)

theorem mem_foldl_enlist (name : α → ν) (old new : List α) (entry : α) :
    entry ∈ new.foldl (enlist name) old ↔ entry ∈ old ∨
      (∀ other ∈ old, name other ≠ name entry) ∧
        new.find? (fun other => name other = name entry) = some entry := by
  induction new generalizing old with
  | nil => simp
  | cons first rest ih =>
    rw [List.foldl_cons, ih, enlist]
    by_cases taken : ∃ other ∈ old, name other = name first
    · have any : old.any (fun other => name other = name first) = true := by simpa using taken
      obtain ⟨other, inside, same⟩ := taken
      rw [if_pos any]
      by_cases named : name first = name entry
      · -- The name of the entry is taken already.
        have blocked : ¬ ∀ other ∈ old, name other ≠ name entry :=
          fun free => free other inside (same.trans named)
        simp [blocked]
      · simp [named]
    · have none : old.any (fun other => name other = name first) = false := by simpa using taken
      rw [if_neg (by rw [none]; decide)]
      by_cases named : name first = name entry
      · have free : ∀ other ∈ old, name other ≠ name entry :=
          fun other inside same => taken ⟨other, inside, same.trans named.symm⟩
        -- The first one takes the name, so that no later one gets in.
        rw [List.find?_cons_of_pos (by simpa using named), Option.some.injEq, List.mem_append,
          List.mem_singleton]
        constructor
        · rintro ((inside | same) | ⟨all, _⟩)
          · exact .inl inside
          · exact .inr ⟨free, same.symm⟩
          · exact absurd named (all first (by simp))
        · rintro (inside | ⟨_, same⟩)
          · exact .inl (.inl inside)
          · exact .inl (.inr same.symm)
      · have apart : entry ≠ first := fun same => named (same ▸ rfl)
        have others : (∀ other ∈ old ++ [first], name other ≠ name entry) ↔
            ∀ other ∈ old, name other ≠ name entry := by
          simp only [List.forall_mem_append, List.forall_mem_singleton]
          exact and_iff_left named
        rw [others, List.find?_cons_of_neg (by simpa using named), List.mem_append,
          List.mem_singleton, or_iff_left apart]

/-- What one input does to the entries: drop them all, take in its own, or neither. -/
def refresh (name : α → ν) (entry : ι → α) (provides drops : ι → Bool) (old : List α)
    (input : ι) : List α :=
  if drops input then []
  else if provides input then enlist name old (entry input) else old

section Refresh

variable (name : α → ν) (entry : ι → α) (provides drops : ι → Bool)

theorem foldl_refresh_of_kept (old : List α) {inputs : List ι}
    (kept : ∀ input ∈ inputs, drops input = false) :
    inputs.foldl (refresh name entry provides drops) old =
      ((inputs.filter provides).map entry).foldl (enlist name) old := by
  induction inputs generalizing old with
  | nil => rfl
  | cons first rest ih =>
    obtain ⟨head, tail⟩ := List.forall_mem_cons.mp kept
    rw [List.foldl_cons, ih _ tail, refresh, head]
    by_cases offers : provides first <;> simp [offers]

theorem foldl_refresh_drop (old : List α) (front : List ι) {input : ι} (rest : List ι)
    (dropped : drops input = true) :
    (front ++ input :: rest).foldl (refresh name entry provides drops) old =
      rest.foldl (refresh name entry provides drops) [] := by
  rw [List.foldl_append, List.foldl_cons, refresh, if_pos dropped]

theorem mem_or_mem_of_mem_foldl_refresh {old : List α} {inputs : List ι} {found : α}
    (member : found ∈ inputs.foldl (refresh name entry provides drops) old) :
    found ∈ old ∨ found ∈ inputs.map entry := by
  induction inputs generalizing old with
  | nil => exact .inl member
  | cons first rest ih =>
    rw [List.map_cons, List.mem_cons]
    rcases ih member with early | late
    · unfold refresh enlist at early
      split at early
      · cases early
      · split at early
        · split at early
          · exact .inl early
          · rcases List.mem_append.mp early with kept | taken
            · exact .inl kept
            · exact .inr (.inl (List.mem_singleton.mp taken))
        · exact .inl early
    · exact .inr (.inr late)

end Refresh

theorem exists_last (test : ι → Bool) (inputs : List ι)
    (some_ : ∃ input ∈ inputs, test input = true) :
    ∃ front input rest, inputs = front ++ input :: rest ∧ test input = true ∧
      ∀ other ∈ rest, test other = false := by
  induction inputs with
  | nil => simp at some_
  | cons first rest ih =>
    by_cases later : ∃ input ∈ rest, test input = true
    · obtain ⟨front, input, back, rfl, passed, none⟩ := ih later
      exact ⟨first :: front, input, back, rfl, passed, none⟩
    · obtain ⟨input, inside, passed⟩ := some_
      rcases List.mem_cons.mp inside with rfl | inRest
      · refine ⟨[], input, rest, rfl, passed, fun other member => ?_⟩
        by_contra fails
        exact later ⟨other, member, by simpa using fails⟩
      · exact absurd ⟨input, inRest, passed⟩ later

/-- The old entries and the drops leave no trace among the entries that are listed. -/
structure Traceless (name : α → ν) (entry : ι → α) (provides drops : ι → Bool) (old : List α)
    (inputs : List ι) : Prop where
  /-- No provider comes before a drop. -/
  ahead : inputs.Pairwise fun earlier later => provides earlier = true → drops later = false
  /-- No provider is a drop itself. -/
  itself : ∀ input ∈ inputs, provides input = true → drops input = false
  /-- An old entry that is listed is the first provider of its name. -/
  listed : (∀ input ∈ inputs, drops input = false) → ∀ kept ∈ old, kept ∈ inputs.map entry →
    ((inputs.filter provides).map entry).find? (fun other => name other = name kept) = some kept
  /-- An old entry that is not listed has no provider of its name. -/
  unlisted : (∀ input ∈ inputs, drops input = false) → ∀ gone ∈ old, gone ∉ inputs.map entry →
    ∀ input ∈ inputs, provides input = true → name (entry input) ≠ name gone

section Traceless

variable {name : α → ν} {entry : ι → α} {provides drops : ι → Bool} {old : List α}
  {inputs : List ι}

theorem mem_fresh (inputs : List ι) (found : α) :
    found ∈ inputs.foldl (refresh name entry provides fun _ => false) [] ↔
      ((inputs.filter provides).map entry).find? (fun other => name other = name found) =
        some found := by
  rw [foldl_refresh_of_kept name entry provides _ [] (fun _ _ => rfl), mem_foldl_enlist]
  simp

theorem mem_of_mem_fresh {found : α}
    (member : found ∈ inputs.foldl (refresh name entry provides fun _ => false) []) :
    found ∈ inputs.map entry := by
  have located := List.mem_of_find?_eq_some ((mem_fresh inputs found).mp member)
  obtain ⟨input, inside, rfl⟩ := List.mem_map.mp located
  exact List.mem_map.mpr ⟨input, (List.mem_filter.mp inside).1, rfl⟩

theorem exists_mem_fresh (name : α → ν) (entry : ι → α) {input : ι} (inside : input ∈ inputs)
    (offers : provides input = true) :
    ∃ found ∈ inputs.foldl (refresh name entry provides fun _ => false) [],
      name found = name (entry input) := by
  have listed : entry input ∈ (inputs.filter provides).map entry :=
    List.mem_map.mpr ⟨input, List.mem_filter.mpr ⟨inside, offers⟩, rfl⟩
  cases located : ((inputs.filter provides).map entry).find?
      (fun other => name other = name (entry input)) with
  | none => simpa using List.find?_eq_none.mp located _ listed
  | some found =>
    have named := List.find?_some located
    simp only [decide_eq_true_eq] at named
    refine ⟨found, (mem_fresh inputs found).mpr ?_, named⟩
    rw [named]
    exact located

theorem mem_foldl_of_last (front : List ι) {input : ι} (rest : List ι)
    (dropped : drops input = true) (last : ∀ other ∈ rest, drops other = false) (found : α) :
    found ∈ (front ++ input :: rest).foldl (refresh name entry provides drops) old ↔
      found ∈ rest.foldl (refresh name entry provides fun _ => false) [] := by
  rw [foldl_refresh_drop name entry provides drops old front rest dropped,
    foldl_refresh_of_kept name entry provides drops [] last,
    foldl_refresh_of_kept name entry provides _ [] (fun _ _ => rfl)]

theorem traceless_of_last (distinct : (inputs.map entry).Nodup) {front : List ι} {input : ι}
    {rest : List ι} (split : inputs = front ++ input :: rest) (dropped : drops input = true)
    (last : ∀ other ∈ rest, drops other = false) :
    (∀ found, found ∈ inputs.map entry →
      (found ∈ inputs.foldl (refresh name entry provides drops) old ↔
        found ∈ inputs.foldl (refresh name entry provides fun _ => false) [])) ↔
      ∀ other ∈ front ++ [input], provides other = false := by
  have gathered : inputs = (front ++ [input]) ++ rest := by rw [split]; simp
  constructor
  · intro same other ahead
    by_contra offers
    simp only [Bool.not_eq_false] at offers
    -- The first provider of that name is lost, and its entry does not come back.
    obtain ⟨found, early, _⟩ := exists_mem_fresh name entry ahead offers
    have before := mem_of_mem_fresh early
    have fresh : found ∈ inputs.foldl (refresh name entry provides fun _ => false) [] := by
      rw [mem_fresh, gathered, List.filter_append, List.map_append, List.find?_append,
        (mem_fresh _ found).mp early]
      rfl
    have member := (same found (mem_of_mem_fresh fresh)).mpr fresh
    rw [split, mem_foldl_of_last front rest dropped last] at member
    have after := mem_of_mem_fresh member
    rw [gathered, List.map_append] at distinct
    exact (List.nodup_append.mp distinct).2.2 found before found after rfl
  · intro none found _
    rw [split, mem_foldl_of_last front rest dropped last, ← split, mem_fresh, mem_fresh, gathered,
      List.filter_append]
    have nothing : (front ++ [input]).filter provides = [] :=
      List.filter_eq_nil_iff.mpr fun other inside => by simp [none other inside]
    rw [nothing, List.nil_append]

theorem traceless_of_kept (apart : old.Pairwise fun one other => name one ≠ name other)
    (kept : ∀ input ∈ inputs, drops input = false) :
    (∀ found, found ∈ inputs.map entry →
      (found ∈ inputs.foldl (refresh name entry provides drops) old ↔
        found ∈ inputs.foldl (refresh name entry provides fun _ => false) [])) ↔
      (∀ stays ∈ old, stays ∈ inputs.map entry →
        ((inputs.filter provides).map entry).find? (fun other => name other = name stays) =
          some stays) ∧
      ∀ gone ∈ old, gone ∉ inputs.map entry →
        ∀ input ∈ inputs, provides input = true → name (entry input) ≠ name gone := by
  have members (found : α) : found ∈ inputs.foldl (refresh name entry provides drops) old ↔
      found ∈ old ∨ (∀ other ∈ old, name other ≠ name found) ∧
        ((inputs.filter provides).map entry).find? (fun other => name other = name found) =
          some found := by
    rw [foldl_refresh_of_kept name entry provides drops old kept, mem_foldl_enlist]
  constructor
  · intro same
    refine ⟨fun stays inside listed => ?_, fun gone inside unlisted input member offers named => ?_⟩
    · exact (mem_fresh inputs stays).mp
        ((same stays listed).mp ((members stays).mpr (.inl inside)))
    · -- The first provider of the name would have to be the old entry.
      obtain ⟨found, fresh, sameName⟩ := exists_mem_fresh name entry member offers
      have listed := mem_of_mem_fresh fresh
      rcases (members found).mp ((same found listed).mpr fresh) with known | ⟨free, _⟩
      · have symmetric : Std.Symm fun one other : α => name one ≠ name other :=
          ⟨fun _ _ differs equal => differs equal.symm⟩
        have differs : found ≠ gone := fun equal => unlisted (equal ▸ listed)
        exact apart.forall known inside differs (sameName.trans named)
      · exact free gone inside (named.symm.trans sameName.symm)
  · rintro ⟨listed, unlisted⟩ found member
    rw [members, mem_fresh]
    constructor
    · rintro (inside | ⟨_, first⟩)
      · exact listed found inside member
      · exact first
    · intro first
      by_cases free : ∀ other ∈ old, name other ≠ name found
      · exact .inr ⟨free, first⟩
      · -- The old entry of that name is listed, or else there would be no provider.
        push Not at free
        obtain ⟨other, inside, named⟩ := free
        by_cases stays : other ∈ inputs.map entry
        · have same := listed other inside stays
          rw [named, first] at same
          exact .inl (Option.some.inj same ▸ inside)
        · have located := List.mem_of_find?_eq_some first
          obtain ⟨input, provider, rfl⟩ := List.mem_map.mp located
          obtain ⟨within, offers⟩ := List.mem_filter.mp provider
          exact absurd named.symm (unlisted other inside stays input within offers)

theorem traceless_iff (distinct : (inputs.map entry).Nodup)
    (apart : old.Pairwise fun one other => name one ≠ name other) :
    (∀ found, found ∈ inputs.map entry →
      (found ∈ inputs.foldl (refresh name entry provides drops) old ↔
        found ∈ inputs.foldl (refresh name entry provides fun _ => false) [])) ↔
      Traceless name entry provides drops old inputs := by
  by_cases dropping : ∃ input ∈ inputs, drops input = true
  · obtain ⟨front, input, rest, split, dropped, last⟩ := exists_last drops inputs dropping
    have some_ : ¬ ∀ input ∈ inputs, drops input = false := by
      intro none
      rw [none input (by rw [split]; simp)] at dropped
      cases dropped
    rw [traceless_of_last distinct split dropped last]
    constructor
    · intro none
      obtain ⟨early, here⟩ := List.forall_mem_append.mp none
      rw [List.forall_mem_singleton] at here
      refine ⟨?_, ?_, fun kept => absurd kept some_, fun kept => absurd kept some_⟩
      · rw [split, List.pairwise_append, List.pairwise_cons]
        refine ⟨?_, ⟨fun _ _ => by simp [here], ?_⟩,
          fun one inside _ _ => by simp [early one inside]⟩
        · exact List.pairwise_of_forall_mem_list fun one inside _ _ => by simp [early one inside]
        · exact List.pairwise_of_forall_mem_list fun _ _ other inside _ => last other inside
      · rw [split]
        intro other member offers
        rcases List.mem_append.mp member with inside | behind
        · rw [early other inside] at offers
          cases offers
        · rcases List.mem_cons.mp behind with rfl | inRest
          · rw [here] at offers
            cases offers
          · exact last other inRest
    · intro traceless other member
      have ahead := traceless.ahead
      rw [split, List.pairwise_append] at ahead
      by_contra offers
      simp only [Bool.not_eq_false] at offers
      rcases List.mem_append.mp member with inside | behind
      · rw [ahead.2.2 other inside input List.mem_cons_self offers] at dropped
        cases dropped
      · rw [List.mem_singleton.mp behind] at offers
        rw [traceless.itself input (by rw [split]; simp) offers] at dropped
        cases dropped
  · have kept : ∀ input ∈ inputs, drops input = false := by
      intro input member
      by_contra fails
      exact dropping ⟨input, member, by simpa using fails⟩
    rw [traceless_of_kept apart kept]
    constructor
    · rintro ⟨listed, unlisted⟩
      refine ⟨?_, fun input member _ => kept input member, fun _ => listed, fun _ => unlisted⟩
      exact List.pairwise_of_forall_mem_list fun _ _ later member _ => kept later member
    · intro traceless
      exact ⟨traceless.listed kept, traceless.unlisted kept⟩

end Traceless

end Base
