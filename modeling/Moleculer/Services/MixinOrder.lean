import Moleculer.Services.Schema

/-! In which order the parts of mixins stand in the merged schema. -/

namespace Moleculer.Services

open Base

variable {η α ε : Type}

section Parts

/-- The hooks of a kind that a schema lists under a name. -/
def Layer.hooksOf (layer : Layer η α ε) (kind : HookKind) (name : String) : List η :=
  wrapToArray ((layer.hooks.bind (·.get kind)).bind (·.get name))

/-- The method of a name. -/
def Layer.methodOf (layer : Layer η α ε) (name : String) : Option η :=
  layer.methods.bind (·.get name)

/-- The definition of an event. -/
def Layer.eventOf (layer : Layer η α ε) (event : String) : Option ε :=
  layer.events.bind (·.get event)

/-- The handlers that the definition of an event names. -/
def EventDef.handlers (event : EventDef η α) : List η := (wrapToHandler event).handlers

/-- Whether an event is defined by an array of functions. -/
def EventDef.isArray : EventDef η α → Bool
  | .array _ _ => true
  | _ => false

/-- The handlers that a schema has for an event. -/
def Layer.eventHandlers (layer : Layer η α (EventDef η α)) (event : String) : List η :=
  ((layer.eventOf event).map EventDef.handlers).getD []

end Parts

section Keys

theorem get_mergeKey {κ β : Type} [DecidableEq κ] (combine : κ → Option β → β → β)
    (mods res : Option (OrderedMap κ β)) (key : κ) :
    (mergeKey (fun src target => (target.getD .empty).mergeWith combine src) mods res).bind
        (·.get key) =
      (mods.bind (·.get key)).elim (res.bind (·.get key)) fun value =>
        some (combine key (res.bind (·.get key)) value) := by
  cases mods with
  | none => rfl
  | some src =>
    show ((res.getD .empty).mergeWith combine src).get key = _
    rw [OrderedMap.get_mergeWith, Option.bind_some]
    cases src.get key <;> cases res <;> rfl

theorem wrapToArray_lifecycle (mods res : Option (Handlers η)) :
    wrapToArray (mergeKey mergeSchemaLifecycleHandlers mods res) =
      wrapToArray res ++ wrapToArray mods := by
  cases mods with
  | none => exact (List.append_nil _).symm
  | some handlers => rfl

variable (merger : Merger η α) (res mods : Layer η α (EventSchema η α))

theorem lookup_of_own {β : Type} {wrap : η → β} {name : String}
    (own : name ∉ OrderedMap.inherited) (found : Option β) :
    merger.lookup wrap name found = found := by
  rw [Merger.lookup, if_neg (by simpa using own), Option.or_none]

theorem eventOf_mergeSchemas {event : String} (own : event ∉ OrderedMap.inherited) :
    (mergeSchemas merger res mods).eventOf event =
      (mods.eventOf event).elim (res.eventOf event) fun found =>
        some (mergeEvent merger (res.eventOf event) found) := by
  have seen := get_mergeKey (fun event own => mergeEvent merger (merger.lookup
    (fun handler => wrapToHandler (.handler handler)) event own)) mods.events res.events event
  rw [lookup_of_own merger own] at seen
  exact seen

theorem methodOf_mergeSchemas (name : String) :
    (mergeSchemas merger res mods).methodOf name = (mods.methodOf name).or (res.methodOf name) := by
  have seen : (mergeSchemas merger res mods).methodOf name =
      (mods.methodOf name).elim (res.methodOf name) some :=
    get_mergeKey (fun _ _ method => method) mods.methods res.methods name
  rw [seen]
  cases mods.methodOf name <;> rfl

theorem hooksOf_mergeSchemas (kind : HookKind) {name : String}
    (own : name ∉ OrderedMap.inherited) :
    (mergeSchemas merger res mods).hooksOf kind name =
      if kind = .before then res.hooksOf kind name ++ mods.hooksOf kind name
      else mods.hooksOf kind name ++ res.hooksOf kind name := by
  have seen := get_mergeKey (fun kind (group : Option (OrderedMap String (Handlers η))) hooks =>
    (group.getD .empty).mergeWith (fun name own modHook =>
      let resHook := merger.lookup .one name own
      Handlers.many (if kind = .before then wrapToArray resHook ++ wrapToArray (some modHook)
        else wrapToArray (some modHook) ++ wrapToArray resHook)) hooks) mods.hooks res.hooks kind
  have same : (mergeSchemas merger res mods).hooks.bind (·.get kind) = _ := seen
  rw [Layer.hooksOf, Layer.hooksOf, Layer.hooksOf, same]
  cases mods.hooks.bind (·.get kind) with
  | none => simp [wrapToArray]
  | some hooks =>
    -- The group of the kind is merged by names in the same way.
    show wrapToArray (((((res.hooks.bind (·.get kind)).getD .empty).mergeWith _
      hooks).get name)) = _
    rw [OrderedMap.get_mergeWith]
    have group : ((res.hooks.bind (·.get kind)).getD .empty).get name =
        (res.hooks.bind (·.get kind)).bind (·.get name) := by
      cases res.hooks.bind (·.get kind) <;> rfl
    rw [group, Option.bind_some]
    cases hooks.get name with
    | none => simp [wrapToArray]
    | some modHook =>
      dsimp only
      rw [lookup_of_own merger own]
      rfl

theorem others_mergeSchemas {key : String} (unknown : merger.custom key = none) :
    (mergeSchemas merger res mods).others.get key =
      (mods.others.get key).or (res.others.get key) := by
  show (res.others.mergeWith _ mods.others).get key = _
  rw [OrderedMap.get_mergeWith]
  cases mods.others.get key with
  | none => rfl
  | some value =>
    simp only [unknown]
    rfl

end Keys

section Order

variable (merger : Merger η α) (schema : Schema η α)

theorem layers_wrap : (schema.map Layer.wrap).layers = schema.layers.map Layer.wrap :=
  Layered.layers_map Layer.wrap schema

theorem applyMixins_appends {β : Type} (part : Layer η α (EventSchema η α) → List β)
    (appends : ∀ low high, part (mergeSchemas merger low high) = part low ++ part high) :
    part (applyMixins merger schema) = schema.layers.flatMap fun layer => part layer.wrap := by
  rw [applyMixins, Layered.combine_flatMap appends, layers_wrap, List.flatMap_map]

theorem applyMixins_prepends {β : Type} (part : Layer η α (EventSchema η α) → List β)
    (prepends : ∀ low high, part (mergeSchemas merger low high) = part high ++ part low) :
    part (applyMixins merger schema) =
      schema.layers.reverse.flatMap fun layer => part layer.wrap := by
  rw [applyMixins, Layered.combine_reverse_flatMap prepends, layers_wrap, ← List.map_reverse,
    List.flatMap_map]

theorem applyMixins_overwrites {β : Type} (part : Layer η α (EventSchema η α) → Option β)
    (overwrites : ∀ low high, part (mergeSchemas merger low high) = (part high).or (part low)) :
    part (applyMixins merger schema) =
      schema.layers.reverse.findSome? fun layer => part layer.wrap := by
  rw [applyMixins, Layered.combine_findSome overwrites, layers_wrap, ← List.map_reverse,
    List.findSome?_map]
  rfl

end Order

section Events

/-- A definition as a schema gives it: an array is not empty and has no `handler` beside its
items. -/
def EventSchema.Plain (event : EventSchema η α) : Prop :=
  event.items = none ∨ event.handler = none ∧ ∃ first rest, event.items = some (first :: rest)

theorem plain_wrapToHandler (event : EventDef η α) : (wrapToHandler event).Plain := by
  cases event with
  | array first rest => exact .inr ⟨rfl, first, rest, rfl⟩
  | _ => exact .inl rfl

/-- The items of an array, none for the other definitions. -/
def EventSchema.listed (event : EventSchema η α) : List η := event.items.getD []

/-- The `handler` of a definition as a list. -/
def EventSchema.named (event : EventSchema η α) : List η := wrapToArray event.handler

/-- One for an array. -/
def EventSchema.arrays (event : EventSchema η α) : Nat := if event.items.isSome then 1 else 0

/-- The handlers of a plain definition are either its items or its `handler`. -/
theorem EventSchema.Plain.length {event : EventSchema η α} (plain : event.Plain) :
    event.handlers.length = event.listed.length + event.named.length ∧
      event.arrays ≤ event.listed.length := by
  obtain absent | ⟨unnamed, first, rest, present⟩ := plain
  · simp [handlers, listed, named, arrays, absent]
  · simp [handlers, listed, named, arrays, unnamed, present, wrapToArray]

theorem length_of_plain {events : List (EventSchema η α)} (plain : ∀ event ∈ events, event.Plain) :
    (events.flatMap EventSchema.handlers).length =
        (events.flatMap EventSchema.listed).length + (events.flatMap EventSchema.named).length ∧
      (events.map EventSchema.arrays).sum ≤ (events.flatMap EventSchema.listed).length := by
  induction events with
  | nil => exact ⟨rfl, Nat.le_refl _⟩
  | cons event rest ih =>
    have both := ih fun other member => plain other (List.mem_cons_of_mem _ member)
    have here := (plain event List.mem_cons_self).length
    simp only [List.flatMap_cons, List.length_append, List.map_cons, List.sum_cons]
    omega

/-- What merging makes of the definitions of an event: their `handler` are joined, and if the last
one is an array its items come first, with too few items for all arrays. -/
structure Joined (events : List (EventSchema η α)) (whole : EventSchema η α) : Prop where
  named : whole.named = events.flatMap EventSchema.named
  last : ∃ front last, events = front ++ [last] ∧ whole.items.isSome = last.items.isSome ∧
    last.listed <+: whole.listed
  few : whole.items.isSome →
    whole.listed.length + (events.map EventSchema.arrays).sum ≤
      (events.flatMap EventSchema.listed).length + 1

theorem Joined.single (event : EventSchema η α) : Joined [event] event where
  named := (List.append_nil _).symm
  last := ⟨[], event, rfl, rfl, List.prefix_refl _⟩
  few := by
    intro array
    simp [EventSchema.arrays, array]

/-- The `handler` after merging one definition over another. -/
theorem named_mergeEvent (merger : Merger η α) (res mod : EventSchema η α) :
    (mergeEvent merger (some res) mod).named = res.named ++ mod.named := by
  unfold EventSchema.named mergeEvent
  dsimp only
  split
  · rename_i single
    exact single.symm
  · rfl

/-- The `handler` of a definition that nothing is below of. -/
theorem named_mergeEvent_none (merger : Merger η α) (mod : EventSchema η α) :
    (mergeEvent merger none mod).named = mod.named := by
  unfold EventSchema.named mergeEvent
  dsimp only
  split
  · rename_i single
    exact single.symm
  · rfl

theorem listed_mergeEvent (merger : Merger η α) (res : Option (EventSchema η α))
    (mod : EventSchema η α) :
    (mergeEvent merger res mod).items.isSome = mod.items.isSome ∧
      mod.listed <+: (mergeEvent merger res mod).listed ∧
      (mergeEvent merger res mod).listed.length ≤
        max mod.listed.length (res.elim 0 fun event => event.listed.length) := by
  have shape : (mergeEvent merger res mod).items = mod.items.map fun items =>
      items ++ ((res.bind EventSchema.items).getD []).drop items.length := rfl
  rw [EventSchema.listed, EventSchema.listed, shape]
  cases mod.items with
  | none => exact ⟨rfl, List.prefix_refl _, Nat.zero_le _⟩
  | some items =>
    refine ⟨rfl, List.prefix_append _ _, ?_⟩
    cases res with
    | none => simp
    | some event =>
      show (items ++ event.listed.drop items.length).length ≤ max items.length event.listed.length
      rw [List.length_append, List.length_drop]
      omega

theorem Joined.merge (merger : Merger η α) {below above : List (EventSchema η α)}
    {res mod : EventSchema η α}
    (plainBelow : ∀ event ∈ below, event.Plain) (plainAbove : ∀ event ∈ above, event.Plain)
    (low : Joined below res) (high : Joined above mod) :
    Joined (below ++ above) (mergeEvent merger (some res) mod) := by
  obtain ⟨same, first, length⟩ := listed_mergeEvent merger (some res) mod
  refine ⟨?_, ?_, ?_⟩
  · rw [named_mergeEvent, low.named, high.named, List.flatMap_append]
  · obtain ⟨front, last, split, kind, start⟩ := high.last
    refine ⟨below ++ front, last, ?_, same.trans kind, start.trans first⟩
    rw [split, List.append_assoc]
  · intro array
    rw [same] at array
    have bound := high.few array
    have enough := (length_of_plain plainBelow).2
    -- The items below are as few as their arrays allow, and hidden if the last one is no array.
    have lower : res.listed.length + (below.map EventSchema.arrays).sum ≤
        (below.flatMap EventSchema.listed).length + 1 := by
      cases kind : res.items with
      | none =>
        have : res.listed.length = 0 := by rw [EventSchema.listed, kind]; rfl
        omega
      | some items => exact low.few (by rw [kind]; rfl)
    have room := (length_of_plain plainAbove).2
    simp only [List.map_append, List.sum_append, List.flatMap_append, List.length_append]
    simp only [Option.elim_some] at length
    omega

theorem Joined.alone (merger : Merger η α) {events : List (EventSchema η α)} {mod : EventSchema η α}
    (high : Joined events mod) : Joined events (mergeEvent merger none mod) := by
  obtain ⟨same, first, length⟩ := listed_mergeEvent merger none mod
  refine ⟨(named_mergeEvent_none merger mod).trans high.named, ?_, ?_⟩
  · obtain ⟨front, last, split, kind, start⟩ := high.last
    exact ⟨front, last, split, same.trans kind, start.trans first⟩
  · intro array
    have bound := high.few (same ▸ array)
    simp only [Option.elim_none, Nat.max_zero] at length
    omega

theorem joined_applyMixins (merger : Merger η α) (schema : Schema η α) {event : String}
    (own : event ∉ OrderedMap.inherited) :
    ((applyMixins merger schema).eventOf event).elim
      (schema.layers.filterMap (·.eventOf event) = [])
      (Joined ((schema.layers.filterMap (·.eventOf event)).map wrapToHandler)) := by
  have general := @Layered.combine_induction _ (mergeSchemas merger)
    (fun (layers : List (Layer η α (EventSchema η α))) whole =>
      (∀ found ∈ layers.filterMap (·.eventOf event), found.Plain) →
        (whole.eventOf event).elim (layers.filterMap (·.eventOf event) = [])
          (Joined (layers.filterMap (·.eventOf event))))
    ?_ ?_ (schema.map Layer.wrap)
  · have found (layer : Layer η α (EventDef η α)) :
        layer.wrap.eventOf event = (layer.eventOf event).map wrapToHandler := by
      rw [Layer.eventOf, Layer.eventOf, Layer.wrap]
      cases layer.events with
      | none => rfl
      | some events => exact OrderedMap.get_mapValues wrapToHandler events event
    have same : (schema.map Layer.wrap).layers.filterMap (·.eventOf event) =
        (schema.layers.filterMap (·.eventOf event)).map wrapToHandler := by
      rw [layers_wrap, List.filterMap_map, List.map_filterMap]
      exact List.filterMap_congr fun layer _ => found layer
    rw [same] at general
    have result := general (by
      intro event member
      obtain ⟨raw, _, rfl⟩ := List.mem_map.mp member
      exact plain_wrapToHandler raw)
    rw [List.map_eq_nil_iff] at result
    exact result
  · intro layer _
    cases found : layer.eventOf event with
    | none => simp [found]
    | some single => simpa [found] using Joined.single single
  · intro lower upper low high below above plain
    rw [List.filterMap_append] at plain ⊢
    rw [eventOf_mergeSchemas merger low high own]
    have lowPlain := fun found member => plain found (List.mem_append_left _ member)
    have highPlain := fun found member => plain found (List.mem_append_right _ member)
    have first := below lowPlain
    have second := above highPlain
    revert first second
    -- Only where both define the event there is something to merge.
    cases low.eventOf event <;> cases high.eventOf event <;> intro first second
    · show _ = []
      rw [show lower.filterMap _ = [] from first, show upper.filterMap _ = [] from second]
      rfl
    · show Joined _ _
      rw [show lower.filterMap _ = [] from first, List.nil_append]
      exact Joined.alone merger second
    · show Joined _ _
      rw [show upper.filterMap _ = [] from second, List.append_nil]
      exact first
    · exact Joined.merge merger lowPlain highPlain first second

/-- When the handlers of an event are all kept: no layer defines it by an array, or only the last
one that defines it does and the others name no handler. -/
def Composable (events : List (EventDef η α)) : Prop :=
  (∀ event ∈ events, event.isArray = false) ∨
    ∃ front last, events = front ++ [last] ∧ last.isArray = true ∧
      ∀ event ∈ front, event.handlers = []

theorem items_wrapToHandler (event : EventDef η α) :
    (wrapToHandler event).items.isSome = event.isArray := by
  cases event <;> rfl

theorem arrays_eq_zero_iff (events : List (EventDef η α)) :
    ((events.map wrapToHandler).map EventSchema.arrays).sum = 0 ↔
      ∀ event ∈ events, event.isArray = false := by
  rw [List.sum_eq_zero_iff, List.map_map, List.forall_mem_map]
  refine forall₂_congr fun event _ => ?_
  show (if (wrapToHandler event).items.isSome then 1 else 0) = 0 ↔ _
  rw [items_wrapToHandler]
  cases event.isArray <;> simp

/-- Without arrays the handlers are those named by `handler`. -/
theorem handlers_eq_named {events : List (EventDef η α)}
    (objects : ∀ event ∈ events, event.isArray = false) :
    events.flatMap EventDef.handlers =
      (events.map wrapToHandler).flatMap EventSchema.named := by
  rw [List.flatMap_map]
  apply List.flatMap_congr
  intro event member
  cases event with
  | array first rest => exact absurd (objects _ member) (by simp [EventDef.isArray])
  | _ => rfl

/-- Every handler is an item of an array or in a `handler`, and no array is empty. -/
theorem length_handlers (events : List (EventDef η α)) :
    (events.flatMap EventDef.handlers).length =
        ((events.map wrapToHandler).flatMap EventSchema.listed).length +
          ((events.map wrapToHandler).flatMap EventSchema.named).length ∧
      ((events.map wrapToHandler).map EventSchema.arrays).sum ≤
        ((events.map wrapToHandler).flatMap EventSchema.listed).length := by
  have plain : ∀ event ∈ events.map wrapToHandler, event.Plain := by
    intro event member
    obtain ⟨raw, _, rfl⟩ := List.mem_map.mp member
    exact plain_wrapToHandler raw
  rw [show events.flatMap EventDef.handlers =
    (events.map wrapToHandler).flatMap EventSchema.handlers from
      (List.flatMap_map wrapToHandler EventSchema.handlers events).symm]
  exact length_of_plain plain

/-- The handlers of what joins the definitions are all handlers just if they can be composed. -/
theorem handlers_joined_iff {events : List (EventDef η α)} {whole : EventSchema η α}
    (joined : Joined (events.map wrapToHandler) whole) :
    whole.handlers = events.flatMap EventDef.handlers ↔ Composable events := by
  obtain ⟨front', last', split', kind, start⟩ := joined.last
  obtain ⟨front, back, rfl, rfl, single⟩ := List.map_eq_append_iff.mp split'
  obtain ⟨last, rfl, rfl⟩ := List.map_eq_singleton_iff.mp single
  rw [items_wrapToHandler] at kind
  cases array : last.isArray with
  | false =>
    -- The last definition is no array: what is left are the joined `handler`.
    have shown : whole.handlers = whole.named := by
      rw [array, Option.isSome_eq_false_iff, Option.isNone_iff_eq_none] at kind
      rw [EventSchema.handlers, kind]
      rfl
    rw [shown, joined.named]
    refine ⟨fun equal => .inl ?_, fun composable => ?_⟩
    · have := length_handlers (front ++ [last])
      rw [← equal] at this
      exact (arrays_eq_zero_iff _).mp (by omega)
    · obtain objects | ⟨others, final, same, wrong, _⟩ := composable
      · exact (handlers_eq_named objects).symm
      · obtain ⟨_, same⟩ := List.append_inj' same rfl
        rw [← List.singleton_inj.mp same, array] at wrong
        cases wrong
  | true =>
    -- The last definition is an array: its items are shown, with those below filled in.
    obtain ⟨first, rest, rfl⟩ : ∃ first rest, last = .array first rest := by
      cases last with
      | array first rest => exact ⟨first, rest, rfl⟩
      | _ => cases array
    obtain ⟨items, present⟩ := Option.isSome_iff_exists.mp (kind.trans array)
    have shown : whole.handlers = whole.listed := by
      rw [EventSchema.handlers, EventSchema.listed, present]
      rfl
    have few := joined.few (kind.trans array)
    have inFront := length_handlers front
    have all := length_handlers (front ++ [.array first rest])
    have own : (wrapToHandler (.array first rest : EventDef η α)).listed = first :: rest := rfl
    have one : (wrapToHandler (.array first rest : EventDef η α)).arrays = 1 := rfl
    simp only [List.map_append, List.flatMap_append, List.length_append, List.map_cons,
      List.map_nil, List.flatMap_cons, List.flatMap_nil, List.append_nil, List.sum_append,
      List.sum_cons, List.sum_nil, own, one] at few all
    rw [shown, List.flatMap_append, List.flatMap_singleton]
    refine ⟨fun equal => .inr ⟨front, _, rfl, rfl, ?_⟩, fun composable => ?_⟩
    · have lengths := congrArg List.length equal
      rw [List.length_append] at lengths
      -- There is no second array, so all in front is in `handler`, and that is hidden.
      have objects := (arrays_eq_zero_iff front).mp (by omega)
      have nothing : front.flatMap EventDef.handlers = [] := by
        have named := congrArg List.length (handlers_eq_named objects)
        apply List.eq_nil_of_length_eq_zero
        omega
      exact List.flatMap_eq_nil_iff.mp nothing
    · obtain objects | ⟨others, final, same, _, silent⟩ := composable
      · have wrong := objects (.array first rest) (by simp)
        cases wrong
      · obtain ⟨sameFront, _⟩ := List.append_inj' same rfl
        rw [← sameFront] at silent
        have nothing : front.flatMap EventDef.handlers = [] := List.flatMap_eq_nil_iff.mpr silent
        rw [nothing] at inFront ⊢
        simp only [List.length_nil] at inFront
        refine (start.eq_of_length_le ?_).symm
        rw [own]
        omega

end Events

/-- The parts of mixins stand in the merged schema as their layers do, those under the names of
`Object.prototype` apart. -/
structure Composed (merger : Merger η α) (schema : Schema η α) : Prop where
  merged : wrapToArray (applyMixins merger schema).merged =
    schema.layers.flatMap fun layer => wrapToArray layer.merged
  created : wrapToArray (applyMixins merger schema).created =
    schema.layers.flatMap fun layer => wrapToArray layer.created
  started : wrapToArray (applyMixins merger schema).started =
    schema.layers.flatMap fun layer => wrapToArray layer.started
  stopped : stopOrder (applyMixins merger schema).stopped =
    schema.layers.reverse.flatMap fun layer => stopOrder layer.stopped
  events (event : String) (own : event ∉ OrderedMap.inherited) :
    (((applyMixins merger schema).eventOf event).map EventSchema.handlers).getD [] =
      schema.layers.flatMap fun layer => layer.eventHandlers event
  before (name : String) (own : name ∉ OrderedMap.inherited) :
    (applyMixins merger schema).hooksOf .before name =
      schema.layers.flatMap fun layer => layer.hooksOf .before name
  after (name : String) (own : name ∉ OrderedMap.inherited) :
    (applyMixins merger schema).hooksOf .after name =
      schema.layers.reverse.flatMap fun layer => layer.hooksOf .after name
  error (name : String) (own : name ∉ OrderedMap.inherited) :
    (applyMixins merger schema).hooksOf .error name =
      schema.layers.reverse.flatMap fun layer => layer.hooksOf .error name
  methods (name : String) : (applyMixins merger schema).methodOf name =
    schema.layers.reverse.findSome? fun layer => layer.methodOf name
  name : (applyMixins merger schema).name = schema.layers.reverse.findSome? Layer.name
  version : (applyMixins merger schema).version = schema.layers.reverse.findSome? Layer.version
  unknown (key : String) (free : merger.custom key = none) :
    (applyMixins merger schema).others.get key =
      schema.layers.reverse.findSome? fun layer => layer.others.get key

section Composed

variable (merger : Merger η α) (schema : Schema η α)

theorem flatMap_eventHandlers (event : String) :
    (schema.layers.flatMap fun layer => layer.eventHandlers event) =
      (schema.layers.filterMap (·.eventOf event)).flatMap EventDef.handlers := by
  induction schema.layers with
  | nil => rfl
  | cons layer rest ih =>
    rw [List.flatMap_cons, ih, Layer.eventHandlers]
    cases found : layer.eventOf event with
    | none => simp [found]
    | some definition => simp [found]

theorem events_composed_iff {event : String} (own : event ∉ OrderedMap.inherited) :
    (((applyMixins merger schema).eventOf event).map EventSchema.handlers).getD [] =
        (schema.layers.flatMap fun layer => layer.eventHandlers event) ↔
      Composable (schema.layers.filterMap (·.eventOf event)) := by
  have joined := joined_applyMixins merger schema own
  rw [flatMap_eventHandlers]
  cases found : (applyMixins merger schema).eventOf event with
  | none =>
    rw [found] at joined
    rw [show schema.layers.filterMap (·.eventOf event) = [] from joined]
    exact ⟨fun _ => .inl (by simp), fun _ => rfl⟩
  | some whole =>
    rw [found] at joined
    exact handlers_joined_iff joined

theorem stopOrder_eq (handlers : Option (Handlers η)) :
    stopOrder handlers = (wrapToArray handlers).reverse := by
  match handlers with
  | none => rfl
  | some (.one _) => rfl
  | some (.many _) => rfl

end Composed

/-- A schema that only defines one event. -/
def onlyEvent (definition : EventDef Nat Nat) : Layer Nat Nat (EventDef Nat Nat) :=
  { (Layer.empty : Layer Nat Nat (EventDef Nat Nat)) with
    events := some ⟨[("user.created", definition)], List.nodup_singleton _⟩ }

/-- A mixin that handles an event, and a service that handles the same event by an array. -/
def arrayOverMixin : Schema Nat Nat := ⟨onlyEvent (.array 2 []), [⟨onlyEvent (.handler 1), []⟩]⟩

end Moleculer.Services
