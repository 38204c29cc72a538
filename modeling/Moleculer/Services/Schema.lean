import Moleculer.Base.Layers
import Moleculer.Base.Defaults

/-! Service schemas and how the schemas of mixins are merged into one (`service.js`). -/

namespace Moleculer.Services

open Base

variable {η α ε : Type}

/-- A handler or an array of handlers. -/
inductive Handlers (η : Type) where
  | one (handler : η)
  | many (handlers : List η)

/-- The handlers as an array; an absent entry is dropped, as `_.compact` does. -/
def wrapToArray : Option (Handlers η) → List η
  | none => []
  | some (.one handler) => [handler]
  | some (.many handlers) => handlers

/-- The definition of an event: a function, an array of functions, an object, or nothing (`null` and
`false`). -/
inductive EventDef (η α : Type) where
  | nothing
  | handler (handler : η)
  | array (first : η) (rest : List η)
  | object (handler : Option (Handlers η)) (options : Nested α)

/-- The definition of an event while schemas are merged. An array is an object as well: it can hold
a `handler` beside its items. -/
structure EventSchema (η α : Type) where
  items : Option (List η)
  handler : Option (Handlers η)
  options : Nested α

/-- Wrap a function to an object with a `handler`. An array stays as it is, and nothing is merged
as `{}` is. -/
def wrapToHandler : EventDef η α → EventSchema η α
  | .nothing => ⟨none, none, .object []⟩
  | .handler handler => ⟨none, some (.one handler), .object []⟩
  | .array first rest => ⟨some (first :: rest), none, .object []⟩
  | .object handler options => ⟨none, handler, options⟩

/-- The functions that `_createEvent` calls for an event: the items of an array, else the
`handler`. -/
def EventSchema.handlers (event : EventSchema η α) : List η :=
  match event.items with
  | some items => items
  | none => wrapToArray event.handler

/-- The properties of settings, without the list of secured names. -/
abbrev Properties (α : Type) := OrderedMap String (Nested α)

/-- What merging and publishing of settings takes from lodash, for plain data. A path is the list of
the keys that lead to a member of an object or array; no member has the path `[]`. -/
structure Lodash (α : Type) where
  /-- `_.defaultsDeep` on values: the first one, with what it lacks filled in from the second. -/
  fill : Nested α → Nested α → Nested α
  /-- `_.defaultsDeep` on settings. -/
  defaultsDeep : Properties α → Properties α → Properties α
  /-- The path that `_.omit` takes a name for: the name alone if the object has such a property or
  there is neither a dot nor a bracket in it, else what `_.toPath` makes of it. -/
  castPath : Properties α → String → List String
  /-- `_.omit`: a copy without the members at the paths of the names. -/
  omitPaths : Properties α → List String → Properties α
  /-- There is a member at a path. -/
  has : Properties α → List String → Bool
  /-- The same but for what is at or below the members at some paths. -/
  Alike : (List String → Prop) → Properties α → Properties α → Prop
  omitPaths_nil (settings : Properties α) : omitPaths settings [] = settings
  has_omitPaths (settings : Properties α) (names : List String) (path : List String) :
    has (omitPaths settings names) path =
      (has settings path && !names.any fun name => (castPath settings name).isPrefixOf path)
  alike_refl (free : List String → Prop) (settings : Properties α) : Alike free settings settings
  alike_defaultsDeep (free : List String → Prop) (source target source' target' : Properties α) :
    Alike free source source' → Alike free target target' →
      Alike free (defaultsDeep source target) (defaultsDeep source' target')
  /-- What differs is omitted on both sides. -/
  alike_omitPaths (free : List String → Prop) (settings settings' : Properties α)
    (names : List String) :
    Alike free settings settings' →
      (∀ path, free path → has (omitPaths settings names) path = false) →
        omitPaths settings names = omitPaths settings' names

/-- What lodash does if no name holds a dot or bracket, so that none is taken for a path. -/
def Lodash.flat : Lodash α where
  fill := Nested.fill
  defaultsDeep source target := source.mergeWith
    (fun _ value default =>
      match value with
      | some value => value.fill default
      | none => default) target
  castPath _ name := [name]
  omitPaths settings names := names.foldl OrderedMap.delete settings
  has settings path :=
    match path with
    | [name] => (settings.get name).isSome
    | _ => false
  Alike free left right :=
    left.keys = right.keys ∧ ∀ name, ¬ free [name] → left.get name = right.get name
  omitPaths_nil _ := rfl
  has_omitPaths settings names path := by
    match path with
    | [] => rfl
    | [name] =>
      have named : (names.any fun other => [other].isPrefixOf [name]) = decide (name ∈ names) := by
        rw [Bool.eq_iff_iff]
        simp
      show ((names.foldl OrderedMap.delete settings).get name).isSome =
        ((settings.get name).isSome && !_)
      rw [named, OrderedMap.get_foldl_delete]
      by_cases listed : name ∈ names <;> simp [listed]
    | _ :: _ :: _ => rfl
  alike_refl _ _ := ⟨rfl, fun _ _ => rfl⟩
  alike_defaultsDeep := by
    intro free source target source' target' sources targets
    refine ⟨?_, fun name fixed => ?_⟩
    · rw [OrderedMap.keys_mergeWith, OrderedMap.keys_mergeWith, sources.1, targets.1]
    · rw [OrderedMap.get_mergeWith, OrderedMap.get_mergeWith, sources.2 name fixed,
        targets.2 name fixed]
  alike_omitPaths := by
    intro free left right names alike hidden
    have keys : (names.foldl OrderedMap.delete left).keys =
        (names.foldl OrderedMap.delete right).keys := by
      rw [OrderedMap.keys_foldl_delete, OrderedMap.keys_foldl_delete, alike.1]
    refine OrderedMap.ext_get keys fun name => ?_
    by_cases varies : free [name]
    · -- A property that may differ is on neither side: the names that are left are the same.
      have leftAbsent : (names.foldl OrderedMap.delete left).get name = none := by
        simpa using hidden [name] varies
      have rightAbsent : name ∉ (names.foldl OrderedMap.delete right).keys :=
        keys ▸ OrderedMap.not_mem_keys_of_get leftAbsent
      rw [OrderedMap.mem_keys_iff, not_exists] at rightAbsent
      rw [leftAbsent, Option.eq_none_iff_forall_ne_some.mpr rightAbsent]
    · rw [OrderedMap.get_foldl_delete, OrderedMap.get_foldl_delete, alike.2 name varies]

/-- The settings of a service: the list of secured names (`$secureSettings`) and all other
properties. -/
@[ext] structure Settings (α : Type) where
  secureSettings : Option (List String)
  properties : Properties α

/-- The settings `{}`. -/
def Settings.empty : Settings α := ⟨none, .empty⟩

/-- The kinds of hooks. Other keys of `hooks` are not read. -/
inductive HookKind where
  | before
  | after
  | error
  deriving DecidableEq

/-- A schema without its mixins. The merge functions of a service go by these keys; `others` are
the keys that none of them is named for, none of them empty: `mergeSchemas` throws at the key `""`,
which has no first letter. -/
structure Layer (η α ε : Type) where
  name : Option String
  version : Option (Nested α)
  settings : Option (Settings α)
  metadata : Option (Nested α)
  hooks : Option (OrderedMap HookKind (OrderedMap String (Handlers η)))
  methods : Option (OrderedMap String η)
  events : Option (OrderedMap String ε)
  merged : Option (Handlers η)
  created : Option (Handlers η)
  started : Option (Handlers η)
  stopped : Option (Handlers η)
  others : OrderedMap String (Nested α)
  named : others.get "" = none

/-- The schema `{}`. -/
def Layer.empty : Layer η α ε :=
  ⟨none, none, none, none, none, none, none, none, none, none, none, .empty, rfl⟩

/-- A schema with its mixins. -/
abbrev Schema (η α : Type) := Layered (Layer η α (EventDef η α))

/-- A schema whose events are wrapped. -/
def Layer.wrap (layer : Layer η α (EventDef η α)) : Layer η α (EventSchema η α) :=
  { layer with events := layer.events.map (·.mapValues wrapToHandler) }

/-- Duplicate-free, in the order of the first occurrences (`[...new Set(arr)]`). -/
def uniq (names : List String) : List String := names.eraseDups

/-- The merge functions that a service has under the names `mergeSchema…` for keys that are not
listed in `mergeSchemas`. -/
abbrev CustomMerge (α : Type) := String → Option (Nested α → Option (Nested α) → Nested α)

/-- What a service merges schemas with. -/
structure Merger (η α : Type) where
  lodash : Lodash α
  custom : CustomMerge α
  /-- The function that every object inherits under a name of `Object.prototype`. Only `__proto__`
  is none, and no event or hook has this name. -/
  builtin : String → η

variable (merger : Merger η α)

/-- A service without merge functions of its own, over numbers. -/
def plainMerger : Merger Nat Nat := ⟨.flat, fun _ => none, fun _ => 0⟩

/-- What an object finds under a name, be it inherited. -/
def Merger.lookup {β : Type} (wrap : η → β) (name : String) (own : Option β) : Option β :=
  own.or (if OrderedMap.inherited.contains name then some (wrap (merger.builtin name)) else none)

/-- Fill in what settings lack. The list of names is an array, so only what lies beyond its end is
filled in. -/
def defaultsDeep (source target : Settings α) : Settings α where
  secureSettings :=
    match source.secureSettings, target.secureSettings with
    | some names, some defaults => some (names ++ defaults.drop names.length)
    | some names, none => some names
    | none, defaults => defaults
  properties := merger.lodash.defaultsDeep source.properties target.properties

/-- Merge `settings`: the lists of secured names are united, then missing properties are filled
in. -/
def mergeSchemaSettings (src : Settings α) (target : Option (Settings α)) : Settings α :=
  let filled := target.getD .empty
  if filled.secureSettings.isSome || src.secureSettings.isSome then
    let srcSS := src.secureSettings.getD []
    let targetSS := filled.secureSettings.getD []
    defaultsDeep merger src { filled with secureSettings := some (uniq (srcSS ++ targetSS)) }
  else
    defaultsDeep merger src filled

/-- Merge `metadata`. -/
def mergeSchemaMetadata (src : Nested α) (target : Option (Nested α)) : Nested α :=
  match target with
  | some target => merger.lodash.fill src target
  | none => src

/-- Merge `hooks`: before hooks go behind those of the mixin, all others in front of them. -/
def mergeSchemaHooks (src : OrderedMap HookKind (OrderedMap String (Handlers η)))
    (target : Option (OrderedMap HookKind (OrderedMap String (Handlers η)))) :
    OrderedMap HookKind (OrderedMap String (Handlers η)) :=
  (target.getD .empty).mergeWith (fun kind group hooks =>
    (group.getD .empty).mergeWith (fun name own modHook =>
      let resHook := merger.lookup .one name own
      .many (if kind = .before then wrapToArray resHook ++ wrapToArray (some modHook)
        else wrapToArray (some modHook) ++ wrapToArray resHook)) hooks) src

/-- Merge `methods`: the later one overwrites. -/
def mergeSchemaMethods (src : OrderedMap String η) (target : Option (OrderedMap String η)) :
    OrderedMap String η :=
  (target.getD .empty).mergeWith (fun _ _ method => method) src

/-- Merge one event. The `handler` of the two definitions are joined; the items of an array are not
looked at, they are only filled in index by index. -/
def mergeEvent (resEvent : Option (EventSchema η α)) (modEvent : EventSchema η α) :
    EventSchema η α where
  items := modEvent.items.map fun items =>
    items ++ ((resEvent.bind EventSchema.items).getD []).drop items.length
  handler :=
    -- A single handler is unwrapped.
    match wrapToArray (resEvent.bind EventSchema.handler) ++ wrapToArray modEvent.handler with
    | [handler] => some (.one handler)
    | handlers => some (.many handlers)
  options :=
    match resEvent with
    | some event => merger.lodash.fill modEvent.options event.options
    | none => modEvent.options

/-- Merge `events`. -/
def mergeSchemaEvents (src : OrderedMap String (EventSchema η α))
    (target : Option (OrderedMap String (EventSchema η α))) :
    OrderedMap String (EventSchema η α) :=
  (target.getD .empty).mergeWith (fun event own =>
    mergeEvent merger
      (merger.lookup (fun handler => wrapToHandler (.handler handler)) event own)) src

/-- Merge `merged`, `created`, `started` or `stopped`. -/
def mergeSchemaLifecycleHandlers (src : Handlers η) (target : Option (Handlers η)) : Handlers η :=
  .many (wrapToArray target ++ wrapToArray (some src))

/-- Merge a key that the service has no merge function for: the later one overwrites. -/
def mergeSchemaUnknown (src : Nested α) (_target : Option (Nested α)) : Nested α := src

/-- A key of the merged schema: it is only touched if the later schema has it. -/
def mergeKey {β : Type} (merge : β → Option β → β) (mods res : Option β) : Option β :=
  match mods with
  | none => res
  | some value => some (merge value res)

/-- Merge the schema of a service over that of a mixin. -/
def mergeSchemas (res mods : Layer η α (EventSchema η α)) : Layer η α (EventSchema η α) where
  name := mods.name.or res.name
  version := mods.version.or res.version
  settings := mergeKey (mergeSchemaSettings merger) mods.settings res.settings
  metadata := mergeKey (mergeSchemaMetadata merger) mods.metadata res.metadata
  hooks := mergeKey (mergeSchemaHooks merger) mods.hooks res.hooks
  methods := mergeKey mergeSchemaMethods mods.methods res.methods
  events := mergeKey (mergeSchemaEvents merger) mods.events res.events
  merged := mergeKey mergeSchemaLifecycleHandlers mods.merged res.merged
  created := mergeKey mergeSchemaLifecycleHandlers mods.created res.created
  started := mergeKey mergeSchemaLifecycleHandlers mods.started res.started
  stopped := mergeKey mergeSchemaLifecycleHandlers mods.stopped res.stopped
  others := res.others.mergeWith (fun key target src =>
    match merger.custom key with
    | some merge => merge src target
    | none => mergeSchemaUnknown src target) mods.others
  named := by
    rw [OrderedMap.get_mergeWith, mods.named]
    exact res.named

/-- Merge a schema with its mixins: the last mixin is the start, those before it are merged over it
one after the other, each with its own mixins applied, and the schema comes last. -/
def applyMixins (schema : Schema η α) : Layer η α (EventSchema η α) :=
  (schema.map Layer.wrap).combine (mergeSchemas merger)

/-- The settings of a service with its mixins. -/
def mergedSettings (schema : Schema η α) : Settings α :=
  (applyMixins merger schema).settings.getD .empty

/-- The settings without the secured properties and the list of them (`_getPublicSettings`). -/
def getPublicSettings (settings : Settings α) : Settings α :=
  match settings.secureSettings with
  | some names => ⟨none, merger.lodash.omitPaths settings.properties names⟩
  | none => settings

/-- The settings that the specification of a service holds. -/
def publicSettings (schema : Schema η α) : Settings α :=
  getPublicSettings merger (mergedSettings merger schema)

/-- The `stopped` handlers in the order in which `_stop` runs them. -/
def stopOrder : Option (Handlers η) → List η
  | none => []
  | some (.one handler) => [handler]
  | some (.many handlers) => handlers.reverse

end Moleculer.Services
