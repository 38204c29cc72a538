import Mathlib

/-! JSON trees over texts of UTF-16 code units, and the order in which objects list their keys. -/

namespace Base

/-- A text in UTF-16 code units. -/
abbrev Text := List UInt16

/-- The code units of a text of ASCII characters. -/
def Text.ascii (source : String) : Text := source.toList.map fun char => UInt16.ofNat char.toNat

/-- A number in decimal digits. -/
def Text.decimal (number : Nat) : Text :=
  (Nat.toDigits 10 number).map fun digit => UInt16.ofNat digit.toNat

theorem Text.toNat_digit {number : Nat} {digit : Char} (inside : digit ∈ Nat.toDigits 10 number) :
    48 ≤ digit.toNat ∧ digit.toNat ≤ 57 ∧ (UInt16.ofNat digit.toNat).toNat = digit.toNat := by
  obtain ⟨lower, upper⟩ :=
    Char.isDigit_iff_toNat.mp (Nat.isDigit_of_mem_toDigits (by decide) (by decide) inside)
  exact ⟨lower, upper, Nat.mod_eq_of_lt (lt_of_le_of_lt upper (by decide))⟩

theorem Text.digit_of_mem_decimal {number : Nat} {unit : UInt16}
    (inside : unit ∈ Text.decimal number) : 48 ≤ unit ∧ unit ≤ 57 := by
  obtain ⟨digit, among, rfl⟩ := List.mem_map.mp inside
  obtain ⟨lower, upper, same⟩ := toNat_digit among
  rw [UInt16.le_iff_toNat_le, UInt16.le_iff_toNat_le, same]
  exact ⟨lower, upper⟩

theorem Text.decimal_injective : Function.Injective Text.decimal := by
  -- The digits are read back.
  refine Function.LeftInverse.injective (g := fun text : Text =>
    Nat.ofDigitChars 10 (text.map fun unit => Char.ofNat unit.toNat) 0) fun number => ?_
  have same : (Text.decimal number).map (fun unit => Char.ofNat unit.toNat) =
      Nat.toDigits 10 number := by
    rw [Text.decimal, List.map_map]
    refine (List.map_congr_left fun digit among => ?_).trans (List.map_id _)
    rw [Function.comp_apply, (toNat_digit among).2.2, Char.ofNat_toNat, id]
  dsimp only
  rw [same]
  exact Nat.ofDigitChars_toDigits (by decide) (by decide)

/-- A JSON tree, whose objects list their members in order. -/
inductive Json (ν : Type) where
  | null
  | bool (value : Bool)
  | number (value : ν)
  | string (value : Text)
  | array (items : List (Json ν))
  | object (members : List (Text × Json ν))

/-- The number that a key stands for if it is the decimal numeral of an array index. -/
def Text.arrayIndex (key : Text) : Option Nat :=
  if key ≠ [] ∧ (∀ digit ∈ key, 48 ≤ digit ∧ digit ≤ 57) ∧ (key.head? = some 48 → key = [48]) then
    let number := key.foldl (fun number digit => 10 * number + (digit.toNat - 48)) 0
    if number < 4294967295 then some number else none
  else none

variable {α β ν : Type}

/-- Entries with array indices are compared by them. -/
def indexLe (one other : Text × α) : Bool :=
  one.1.arrayIndex.getD 0 ≤ other.1.arrayIndex.getD 0

/-- Objects list array indices first, in ascending order, and then the other keys as they came. -/
def propertyOrder (entries : List (Text × α)) : List (Text × α) :=
  (entries.filter fun entry => entry.1.arrayIndex.isSome).mergeSort indexLe ++
    entries.filter fun entry => entry.1.arrayIndex.isNone

namespace Json

/-- The trees directly inside a tree. -/
def parts : Json ν → List (Json ν)
  | .array items => items
  | .object members => members.map Prod.snd
  | _ => []

/-- A tree stands in another at some depth. -/
inductive Within (inner : Json ν) : Json ν → Prop
  | here : Within inner inner
  | inside {part json : Json ν} : part ∈ json.parts → Within inner part → Within inner json

theorem sizeOf_part {part json : Json ν} (among : part ∈ json.parts) :
    sizeOf part < sizeOf json := by
  cases json with
  | array items =>
    have smaller : sizeOf part < sizeOf items := List.sizeOf_lt_of_mem among
    simp only [array.sizeOf_spec]
    omega
  | object members =>
    obtain ⟨⟨key, value⟩, member, rfl⟩ := List.mem_map.mp among
    have smaller := List.sizeOf_lt_of_mem member
    simp only [Prod.mk.sizeOf_spec, object.sizeOf_spec] at smaller ⊢
    show sizeOf value < 1 + sizeOf members
    omega
  | _ => cases among

theorem parts_induction {motive : Json ν → Prop}
    (whole : ∀ json, (∀ part ∈ json.parts, motive part) → motive json)
    (json : Json ν) : motive json :=
  whole json fun part among =>
    have := sizeOf_part among
    parts_induction whole part
termination_by sizeOf json

theorem within_iff {inner json : Json ν} :
    inner.Within json ↔ inner = json ∨ ∃ part ∈ json.parts, inner.Within part := by
  constructor
  · intro within
    cases within with
    | here => exact .inl rfl
    | inside among within => exact .inr ⟨_, among, within⟩
  · rintro (rfl | ⟨part, among, within⟩)
    · exact .here
    · exact .inside among within

@[simp] theorem within_string {inner : Json ν} {value : Text} :
    inner.Within (.string value) ↔ inner = .string value := by
  rw [within_iff]
  simp [parts]

@[simp] theorem within_object {inner : Json ν} {members : List (Text × Json ν)} :
    inner.Within (.object members) ↔
      inner = .object members ∨ ∃ member ∈ members, inner.Within member.2 := by
  rw [within_iff]
  simp only [parts, List.mem_map]
  grind

theorem Within.sizeOf_le {inner json : Json ν} (within : inner.Within json) :
    sizeOf inner ≤ sizeOf json := by
  induction within with
  | here => exact le_rfl
  | inside among _ ih => exact ih.trans (sizeOf_part among).le

/-- Structural equality, where the members of objects may stand in another order. -/
inductive Same : Json ν → Json ν → Prop
  | refl (json : Json ν) : Same json json
  | array {items others : List (Json ν)} :
      List.Forall₂ Same items others → Same (.array items) (.array others)
  | object {members listed others : List (Text × Json ν)} :
      members.map Prod.fst = listed.map Prod.fst →
      List.Forall₂ Same (members.map Prod.snd) (listed.map Prod.snd) →
      listed.Perm others → Same (.object members) (.object others)

end Json

end Base
