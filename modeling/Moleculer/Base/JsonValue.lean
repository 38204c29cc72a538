import Moleculer.Base.JsonObject

/-! JSON values that may be missing: defaults, properties and template literals. -/

namespace Base

variable {ν : Type}

namespace Json

mutual

/-- The text of a value in a template literal, where numbers are written by the given function. A
property named `toString` hides the one of all objects, which is a `TypeError`. -/
def display (text : ν → Text) : Json ν → Option Text
  | .null => some (.ascii "null")
  | .bool true => some (.ascii "true")
  | .bool false => some (.ascii "false")
  | .number value => some (text value)
  | .string value => some value
  | .array items => (displayItems text items).map (List.intercalate (Text.ascii ","))
  | .object members =>
    if members.any (·.1 = Text.ascii "toString") then none else some (.ascii "[object Object]")

/-- The texts of the items of an array, where null is empty. -/
def displayItems (text : ν → Text) : List (Json ν) → Option (List Text)
  | [] => some []
  | item :: rest => do
    let first ← match item with
      | .null => some []
      | item => display text item
    let others ← displayItems text rest
    pure (first :: others)

end

end Json

/-- A value that `none` makes undefined. -/
abbrev Value (ν : Type) := Option (Json ν)

namespace Value

/-- A text. -/
def text (source : String) : Value ν := some (.string (.ascii source))

/-- Read a property whose name no prototype has, which is a `TypeError` for null and undefined. -/
def property (value : Value ν) (key : String) : Option (Value ν) :=
  match value with
  | none | some .null => none
  | some (.object members) => some ((members.find? (·.1 = Text.ascii key)).map (·.2))
  | some _ => some none

/-- The text of a value in a template literal. -/
def display (text : ν → Text) (value : Value ν) : Option Text :=
  match value with
  | none => some (.ascii "undefined")
  | some value => value.display text

/-- A template literal of texts and values. -/
def template (text : ν → Text) (parts : List (String ⊕ Value ν)) : Option (Value ν) := do
  let texts ← parts.mapM fun part =>
    match part with
    | .inl source => some (Text.ascii source)
    | .inr value => display text value
  pure (some (.string texts.flatten))

variable [Zero ν] [DecidableEq ν]

/-- Whether a condition on the value holds. -/
def truthy (value : Value ν) : Bool := value.any Json.truthy

/-- The value of `value || default`. -/
def orElse (value : Value ν) (default : Json ν) : Value ν :=
  if truthy value then value else some default

theorem truthy_orElse (value : Value ν) {default : Json ν} (holds : default.truthy = true) :
    truthy (orElse value default) = true := by
  unfold orElse
  by_cases given : truthy value = true
  · rw [if_pos given]
    exact given
  · rw [if_neg given]
    exact holds

theorem orElse_of_truthy {value : Value ν} (given : truthy value = true) (default : Json ν) :
    orElse value default = value := if_pos given

end Value

end Base
