import Moleculer.Services.Schema

/-! Which settings of a service are published: the secured ones of all mixins should not be. -/

namespace Moleculer.Services

open Base

variable {η α ε : Type}

section Uniq

theorem uniq_sublist (names : List String) : (uniq names).Sublist names := by
  induction size : names.length using Nat.strong_induction_on generalizing names with
  | _ count ih =>
    cases names with
    | nil => exact List.Sublist.refl _
    | cons name rest =>
      rw [uniq, List.eraseDups_cons]
      have shorter : (rest.filter fun other => !other == name).length < count := by
        subst size
        exact Nat.lt_succ_of_le (List.length_filter_le _ _)
      exact .cons_cons name ((ih _ shorter _ rfl).trans List.filter_sublist)

theorem nodup_uniq (names : List String) : (uniq names).Nodup := by
  induction size : names.length using Nat.strong_induction_on generalizing names with
  | _ count ih =>
    cases names with
    | nil => exact List.nodup_nil
    | cons name rest =>
      rw [uniq, List.eraseDups_cons, List.nodup_cons]
      have shorter : (rest.filter fun other => !other == name).length < count := by
        subst size
        exact Nat.lt_succ_of_le (List.length_filter_le _ _)
      refine ⟨?_, ih _ shorter _ rfl⟩
      rw [List.mem_eraseDups]
      simp

theorem uniq_of_nodup {names : List String} (distinct : names.Nodup) : uniq names = names := by
  induction names with
  | nil => rfl
  | cons name rest ih =>
    rw [List.nodup_cons] at distinct
    have all : rest.filter (fun other => !other == name) = rest := by
      apply List.filter_eq_self.mpr
      intro other member
      have different : other ≠ name := fun same => distinct.1 (same ▸ member)
      simpa using different
    rw [uniq, List.eraseDups_cons, all]
    exact congrArg _ (ih distinct.2)

end Uniq

section Names

/-- The names that a list of secured names holds after it was merged over another one: as many of
the new names as it has repeated ones are lost, the first ones. -/
def mergeNames (lower upper : List String) : List String :=
  upper ++ (uniq (lower.removeAll upper)).drop (upper.length - (uniq upper).length)

/-- The names that the settings of a schema secure; none where it has no settings. -/
def Layer.listed (layer : Layer η α ε) : Option (List String) :=
  layer.settings.map fun settings => settings.secureSettings.getD []

/-- The names that a schema secures. -/
def Layer.secured (layer : Layer η α ε) : List String := layer.listed.getD []

theorem names_mergeSchemaSettings (merger : Merger η α) (src : Settings α)
    (target : Option (Settings α)) :
    (mergeSchemaSettings merger src target).secureSettings.getD [] =
      mergeNames ((target.map fun settings => settings.secureSettings.getD []).getD [])
        (src.secureSettings.getD []) := by
  -- The united list starts with the names of the later one, each once.
  have united (lower upper : List String) :
      upper ++ (uniq (upper ++ lower)).drop upper.length = mergeNames lower upper := by
    have short := (uniq_sublist upper).length_le
    rw [mergeNames, show uniq (upper ++ lower) = uniq upper ++ uniq (lower.removeAll upper) from
      List.eraseDups_append, List.drop_append, List.drop_eq_nil_of_le short, List.nil_append]
  have below : (target.getD .empty).secureSettings.getD [] =
      (target.map fun settings => settings.secureSettings.getD []).getD [] := by
    cases target <;> rfl
  rw [mergeSchemaSettings, ← below]
  generalize target.getD .empty = filled
  cases upper : src.secureSettings with
  | some names =>
    simp only [Option.isSome_some, Bool.or_true, if_true, defaultsDeep, upper, Option.getD_some]
    exact united _ _
  | none =>
    cases lower : filled.secureSettings with
    | some names =>
      simp only [Option.isSome_some, Bool.true_or, if_true, defaultsDeep, upper, Option.getD_some,
        Option.getD_none]
      exact united names []
    | none =>
      simp only [Option.isSome_none, Bool.or_self, Bool.false_eq_true, if_false, defaultsDeep,
        upper, lower, Option.getD_none]
      rfl

/-- The names of a merged schema. -/
def mergeListed (lower upper : Option (List String)) : Option (List String) :=
  mergeKey (fun names below => mergeNames (below.getD []) names) upper lower

theorem listed_mergeSchemas (merger : Merger η α) (res mods : Layer η α (EventSchema η α)) :
    (mergeSchemas merger res mods).listed = mergeListed res.listed mods.listed := by
  show (mergeKey (mergeSchemaSettings merger) mods.settings res.settings).map _ = _
  rw [Layer.listed, Layer.listed]
  cases mods.settings with
  | none => rfl
  | some settings => exact congrArg some (names_mergeSchemaSettings merger settings res.settings)

/-- The names that the merged schema secures, computed from the lists of the layers. -/
def keptNames (schema : Schema η α) : List String :=
  ((schema.map Layer.listed).combine mergeListed).getD []

theorem secured_applyMixins (merger : Merger η α) (schema : Schema η α) :
    (applyMixins merger schema).secured = keptNames schema := by
  rw [Layer.secured, applyMixins, Layered.combine_map (listed_mergeSchemas merger),
    Layered.map_map, keptNames]
  rfl

theorem mergeNames_of_nodup {lower upper : List String} (distinct : upper.Nodup) :
    (mergeNames lower upper).Nodup ∧
      ∀ name, name ∈ mergeNames lower upper ↔ name ∈ upper ∨ name ∈ lower := by
  have whole : mergeNames lower upper = upper ++ uniq (lower.removeAll upper) := by
    rw [mergeNames, uniq_of_nodup distinct, Nat.sub_self, List.drop_zero]
  have added (name : String) :
      name ∈ uniq (lower.removeAll upper) ↔ name ∈ lower ∧ name ∉ upper := by
    rw [uniq, List.mem_eraseDups, List.removeAll]
    simp
  rw [whole]
  refine ⟨?_, fun name => ?_⟩
  · rw [List.nodup_append]
    refine ⟨distinct, nodup_uniq _, fun name above other below same => ?_⟩
    exact ((added other).mp below).2 (same ▸ above)
  · rw [List.mem_append, added]
    by_cases above : name ∈ upper <;> simp [above]

theorem mem_keptNames_of_nodup {schema : Schema η α}
    (distinct : ∀ layer ∈ schema.layers, layer.secured.Nodup) {name : String}
    (secured : ∃ layer ∈ schema.layers, name ∈ layer.secured) : name ∈ keptNames schema := by
  -- Over the tree: the merged list has no duplicates and holds the names of all layers.
  have general := @Layered.combine_induction _ mergeListed
    (fun (layers : List (Option (List String))) whole =>
      (∀ listed ∈ layers, (listed.getD []).Nodup) →
        (whole.getD []).Nodup ∧ ∀ listed ∈ layers, ∀ name ∈ listed.getD [], name ∈ whole.getD [])
    ?_ ?_ (schema.map Layer.listed)
  · rw [Layered.layers_map, List.forall_mem_map, List.forall_mem_map] at general
    obtain ⟨layer, member, inside⟩ := secured
    exact (general distinct).2 layer member name inside
  · intro listed single
    refine ⟨single listed List.mem_cons_self, fun other member name inside => ?_⟩
    rw [List.mem_singleton.mp member] at inside
    exact inside
  · intro lower upper low high below above both
    obtain ⟨lowDistinct, fromLow⟩ :=
      below fun listed member => both listed (List.mem_append_left _ member)
    obtain ⟨highDistinct, fromHigh⟩ :=
      above fun listed member => both listed (List.mem_append_right _ member)
    cases high with
    | none =>
      -- Nothing is listed above, so the names below stay.
      refine ⟨lowDistinct, fun listed member name inside => ?_⟩
      obtain first | second := List.mem_append.mp member
      · exact fromLow listed first name inside
      · cases fromHigh listed second name inside
    | some names =>
      obtain ⟨stays, members⟩ := @mergeNames_of_nodup (low.getD []) names highDistinct
      refine ⟨stays, fun listed member name inside => (members name).mpr ?_⟩
      obtain first | second := List.mem_append.mp member
      · exact .inr (fromLow listed first name inside)
      · exact .inl (fromHigh listed second name inside)

end Names

section Published

/-- Some layer secures the name. -/
def Secured (schema : Schema η α) (name : String) : Prop :=
  ∃ layer ∈ schema.layers, name ∈ layer.secured

variable (merger : Merger η α)

/-- The path that a name stands for when the settings of a schema are published. -/
def publishedPath (schema : Schema η α) (name : String) : List String :=
  merger.lodash.castPath (mergedSettings merger schema).properties name

/-- No member at the path of a secured name is published, nor the list of the names. -/
def Hidden (schema : Schema η α) : Prop :=
  (publicSettings merger schema).secureSettings = none ∧
    ∀ name, Secured schema name →
      merger.lodash.has (publicSettings merger schema).properties
        (publishedPath merger schema name) = false

/-- A listed name whose path leads to the member at a path or to what it is in. -/
def Covered (schema : Schema η α) (path : List String) : Prop :=
  ∃ name ∈ keptNames schema, publishedPath merger schema name <+: path

theorem getPublicSettings_spec (settings : Settings α) :
    (getPublicSettings merger settings).secureSettings = none ∧
      ∀ path, merger.lodash.has (getPublicSettings merger settings).properties path =
        (merger.lodash.has settings.properties path &&
          !(settings.secureSettings.getD []).any fun name =>
            (merger.lodash.castPath settings.properties name).isPrefixOf path) := by
  unfold getPublicSettings
  split
  · rename_i names listed
    rw [listed]
    exact ⟨rfl, merger.lodash.has_omitPaths _ _⟩
  · rename_i unlisted
    rw [unlisted]
    exact ⟨rfl, fun path => by simp⟩

theorem has_publicSettings_iff (schema : Schema η α) (path : List String) :
    merger.lodash.has (publicSettings merger schema).properties path = true ↔
      merger.lodash.has (mergedSettings merger schema).properties path = true ∧
        ¬ Covered merger schema path := by
  have listed : (mergedSettings merger schema).secureSettings.getD [] = keptNames schema := by
    rw [← secured_applyMixins merger, mergedSettings, Layer.secured, Layer.listed]
    cases (applyMixins merger schema).settings <;> rfl
  rw [publicSettings, (getPublicSettings_spec merger _).2, listed]
  simp [Covered, publishedPath]

variable {free : List String → Prop}

/-- Two settings that differ at most in what is at or below some paths. -/
structure Alike (free : List String → Prop) (left right : Settings α) : Prop where
  listed : left.secureSettings = right.secureSettings
  properties : merger.lodash.Alike free left.properties right.properties

/-- Two schemas whose settings differ at most in what is at or below some paths. -/
def AlikeLayers (free : List String → Prop) (left right : Layer η α ε) : Prop :=
  Option.Rel (Alike merger free) left.settings right.settings

variable {merger}

theorem Alike.refl (settings : Settings α) : Alike merger free settings settings :=
  ⟨rfl, merger.lodash.alike_refl free _⟩

theorem Alike.getD {left right : Option (Settings α)}
    (alike : Option.Rel (Alike merger free) left right) :
    Alike merger free (left.getD .empty) (right.getD .empty) := by
  cases alike with
  | some both => exact both
  | none => exact .refl _

theorem Alike.defaultsDeep {source target source' target' : Settings α}
    (sources : Alike merger free source source') (targets : Alike merger free target target') :
    Alike merger free (defaultsDeep merger source target)
      (defaultsDeep merger source' target') where
  listed := by
    unfold Services.defaultsDeep
    dsimp only
    rw [sources.listed, targets.listed]
  properties := merger.lodash.alike_defaultsDeep _ _ _ _ _ sources.properties targets.properties

theorem Alike.mergeSchemaSettings {src src' : Settings α} {target target' : Option (Settings α)}
    (sources : Alike merger free src src')
    (targets : Option.Rel (Alike merger free) target target') :
    Alike merger free (mergeSchemaSettings merger src target)
      (mergeSchemaSettings merger src' target') := by
  have below := Alike.getD targets
  unfold Services.mergeSchemaSettings
  dsimp only
  rw [sources.listed, below.listed]
  split
  · exact sources.defaultsDeep ⟨rfl, below.properties⟩
  · exact sources.defaultsDeep below

theorem mergeSchemas_alike {low high low' high' : Layer η α (EventSchema η α)}
    (lower : AlikeLayers merger free low low') (upper : AlikeLayers merger free high high') :
    AlikeLayers merger free (mergeSchemas merger low high) (mergeSchemas merger low' high') := by
  have kept {mods mods' : Option (Settings α)} (above : Option.Rel (Alike merger free) mods mods') :
      Option.Rel (Alike merger free) (mergeKey (mergeSchemaSettings merger) mods low.settings)
        (mergeKey (mergeSchemaSettings merger) mods' low'.settings) := by
    cases above with
    | some alike => exact .some (alike.mergeSchemaSettings lower)
    | none => exact lower
  exact kept upper

theorem mergedSettings_alike {schema other : Schema η α}
    (similar : schema.Similar (AlikeLayers merger free) other) :
    Alike merger free (mergedSettings merger schema) (mergedSettings merger other) := by
  have wrapped : (schema.map Layer.wrap).Similar (AlikeLayers merger free) (other.map Layer.wrap) :=
    similar.map fun left right (same : AlikeLayers merger free left right) =>
      (show AlikeLayers merger free left.wrap right.wrap from same)
  exact Alike.getD (Layered.Similar.combine (fun _ _ _ _ => mergeSchemas_alike) wrapped)

theorem getPublicSettings_alike {left right : Settings α} (alike : Alike merger free left right)
    (hidden : ∀ path, free path →
      merger.lodash.has (getPublicSettings merger left).properties path = false) :
    getPublicSettings merger left = getPublicSettings merger right := by
  -- Without a list nothing is omitted.
  have shape (settings : Settings α) : getPublicSettings merger settings =
      ⟨none, merger.lodash.omitPaths settings.properties (settings.secureSettings.getD [])⟩ := by
    unfold getPublicSettings
    split
    · rename_i names listed
      rw [listed]
      rfl
    · rename_i unlisted
      rw [unlisted, Option.getD_none, merger.lodash.omitPaths_nil]
      exact Settings.ext unlisted rfl
  rw [shape] at hidden
  rw [shape, shape, ← alike.listed]
  exact congrArg _ (merger.lodash.alike_omitPaths _ _ _ _ alike.properties hidden)

end Published

/-- A schema that has settings only. -/
def Settings.layer (settings : Settings α) : Layer η α ε :=
  { (Layer.empty : Layer η α ε) with settings := some settings }

/-- A mixin that secures one of its settings, and a service whose own list names another one
twice. -/
def repeatedName : Schema Nat Nat :=
  ⟨Settings.layer ⟨some ["token", "token"], .empty⟩,
    [⟨Settings.layer ⟨some ["password"],
      ⟨[("password", .atom 1234)], List.nodup_singleton _⟩⟩, []⟩]⟩

end Moleculer.Services
