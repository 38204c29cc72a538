import Moleculer.Cacher.Keygen

/-! Which cache keys can be told from each other. -/

namespace Moleculer.Cacher

open Base

variable {ν : Type}

/-- The characters of decimal numerals. -/
def numeralUnits : Text := .ascii "0123456789.+-e"

/-- What is assumed of numbers: different ones are printed differently, in digits. -/
structure KeyOptions.Documented (opts : KeyOptions ν) : Prop where
  injective : Function.Injective opts.printNumber
  nonempty : ∀ value, opts.printNumber value ≠ []
  numeral : ∀ value, (opts.printNumber value).all numeralUnits.contains = true

/-- Values without objects and without quotes in strings. -/
structure Plain (value : Json ν) : Prop where
  strings : ∀ text, (Json.string text).Within value → 34 ∉ text
  objects : ∀ members, ¬ (Json.object members).Within value

theorem Plain.part {value part : Json ν} (plain : Plain value) (among : part ∈ value.parts) :
    Plain part :=
  ⟨fun text within => plain.strings text (.inside among within),
    fun members within => plain.objects members (.inside among within)⟩

/-- Values that are written as a single word. -/
def Scalar : Option (Json ν) → Prop
  | none | some .null | some (.bool _) | some (.number _) => True
  | _ => False

/-- What can follow a value. -/
def Follows (rest : Text) : Prop := ∀ unit ∈ rest.head?, unit = 124 ∨ unit = 93

namespace KeyOptions

variable {opts : KeyOptions ν}

theorem generateKeyFromObject_string (text : Text) :
    opts.generateKeyFromObject (.string text) = 34 :: (text ++ [34]) := by
  rw [generateKeyFromObject]
  rfl

theorem generateItems_eq (items : List (Json ν)) :
    opts.generateItems items = items.map opts.generateKeyFromObject := by
  induction items with
  | nil => rfl
  | cons item rest ih => rw [generateItems, ih, List.map_cons]

theorem generateKeyFromObject_array (items : List (Json ν)) :
    opts.generateKeyFromObject (.array items) =
      91 :: (joined 124 opts.generateKeyFromObject items ++ [93]) := by
  rw [generateKeyFromObject, generateItems_eq]
  rfl

/-- The text of a member. -/
def memberKey (opts : KeyOptions ν) (member : Text × Json ν) : Text :=
  member.1 ++ 124 :: opts.generateKeyFromObject member.2

theorem generateMembers_eq (members : List (Text × Json ν)) :
    opts.generateMembers members = members.map opts.memberKey := by
  induction members with
  | nil => rfl
  | cons member rest ih =>
    obtain ⟨key, value⟩ := member
    rw [generateMembers, ih, List.map_cons, memberKey, List.append_assoc]
    rfl

theorem generateKeyFromObject_object (members : List (Text × Json ν)) :
    opts.generateKeyFromObject (.object members) = joined 124 opts.memberKey members := by
  rw [generateKeyFromObject, generateMembers_eq]
  rfl

/-- Values other than numbers are written as one of four words. -/
def words : List Text := ["undefined", "null", "true", "false"].map Text.ascii

/-- A character that is no quote, bracket or bar. -/
def quietUnit (unit : UInt16) : Bool := unit ≠ 34 && unit ≠ 91 && unit ≠ 93 && unit ≠ 124

/-- A text that is written as it is in front of what follows. -/
def Quiet (text : Text) : Prop := text ≠ [] ∧ text.all quietUnit = true

theorem Quiet.unit {text : Text} (quiet : Quiet text) {unit : UInt16} (inside : unit ∈ text) :
    unit ≠ 34 ∧ unit ≠ 91 ∧ unit ≠ 93 ∧ unit ≠ 124 := by
  have := List.all_eq_true.mp quiet.2 unit inside
  simp only [quietUnit, Bool.and_eq_true, decide_eq_true_eq] at this
  grind

theorem number_quiet (documented : opts.Documented) (value : ν) :
    Quiet (opts.printNumber value) := by
  refine ⟨documented.nonempty value, ?_⟩
  have digits : numeralUnits.all quietUnit = true := by decide
  rw [List.all_eq_true] at digits ⊢
  intro unit inside
  have digit := List.all_eq_true.mp (documented.numeral value) unit inside
  exact digits unit (List.contains_iff_mem.mp digit)

theorem number_not_word (documented : opts.Documented) (value : ν) :
    opts.printNumber value ∉ words := by
  have letters : words.all (fun word => !word.all numeralUnits.contains) = true := by decide
  intro among
  have letter := List.all_eq_true.mp letters _ among
  rw [documented.numeral value] at letter
  cases letter

variable {value : Option (Json ν)} {rest after : Text}

theorem scalar_quiet (documented : opts.Documented) (scalar : Scalar value) :
    Quiet (opts.generateKey value) := by
  match value with
  | none | some .null | some (.bool false) | some (.bool true) => exact ⟨nofun, rfl⟩
  | some (.number value) => exact number_quiet documented value

theorem scalar_unique (documented : opts.Documented) {other : Option (Json ν)}
    (scalar : Scalar value) (other_scalar : Scalar other)
    (same : opts.generateKey value = opts.generateKey other) : value = other := by
  -- Numbers are not written as words, and the words are different.
  match value, other with
  | none, none | some .null, some .null | some (.bool false), some (.bool false)
  | some (.bool true), some (.bool true) => rfl
  | some (.number one), some (.number two) => rw [documented.injective same]
  | some (.number number), none | some (.number number), some .null
  | some (.number number), some (.bool false) | some (.number number), some (.bool true) =>
    refine absurd ?_ (number_not_word documented number)
    rw [show opts.printNumber number = _ from same]
    simp [generateKey, generateKeyFromObject, words]
  | none, some (.number number) | some .null, some (.number number)
  | some (.bool false), some (.number number) | some (.bool true), some (.number number) =>
    refine absurd ?_ (number_not_word documented number)
    rw [show opts.printNumber number = _ from same.symm]
    simp [generateKey, generateKeyFromObject, words]
  | none, some .null | none, some (.bool false) | none, some (.bool true)
  | some .null, none | some .null, some (.bool false) | some .null, some (.bool true)
  | some (.bool false), none | some (.bool false), some .null
  | some (.bool false), some (.bool true) | some (.bool true), none | some (.bool true), some .null
  | some (.bool true), some (.bool false) =>
    simp only [generateKey, generateKeyFromObject] at same
    exact absurd same (by decide)

theorem quiet_append {one other : Text} (first : Quiet one) (second : Quiet other)
    (rest_follows : Follows rest) (after_follows : Follows after)
    (same : one ++ rest = other ++ after) : one = other ∧ rest = after := by
  -- A word reaches up to the first bar or bracket.
  have word {text tail : Text} (quiet : Quiet text) (follows : Follows tail) :
      (text ++ tail).takeWhile (fun unit => unit ≠ 124 ∧ unit ≠ 93) = text := by
    rw [List.takeWhile_append_of_pos (by
      intro unit inside
      have := quiet.unit inside
      simp [this])]
    cases tail with
    | nil => simp
    | cons unit tail =>
      have := follows unit rfl
      rw [List.takeWhile_cons_of_neg (by grind), List.append_nil]
  obtain rfl : one = other := by rw [← word first rest_follows, same, word second after_follows]
  exact ⟨rfl, List.append_cancel_left same⟩

theorem bar_follows (text : Text) : Follows (124 :: text) := by simp [Follows]

theorem bracket_follows {text : Text} : Follows (93 :: text) := by simp [Follows]

theorem nil_follows : Follows [] := by simp [Follows]

theorem plain_cases {value : Json ν} (plain : Plain value) :
    Scalar (some value) ∨ (∃ text, value = .string text ∧ 34 ∉ text) ∨
      ∃ items, value = .array items := by
  cases value with
  | string text => exact .inr (.inl ⟨text, rfl, plain.strings text .here⟩)
  | array items => exact .inr (.inr ⟨items, rfl⟩)
  | object members => exact absurd .here (plain.objects members)
  | _ => exact .inl trivial

theorem plain_starts (documented : opts.Documented) {value : Json ν} (plain : Plain value) :
    ∃ unit tail, opts.generateKeyFromObject value = unit :: tail ∧ unit ≠ 93 ∧ unit ≠ 124 := by
  rcases plain_cases plain with scalar | ⟨text, rfl, _⟩ | ⟨items, rfl⟩
  · have quiet := scalar_quiet documented scalar
    obtain ⟨unit, tail, text⟩ := List.exists_cons_of_ne_nil quiet.1
    have first := quiet.unit (text ▸ List.mem_cons_self)
    exact ⟨unit, tail, text, first.2.2⟩
  · exact ⟨34, _, generateKeyFromObject_string text, by decide, by decide⟩
  · exact ⟨91, _, generateKeyFromObject_array items, by decide, by decide⟩

theorem quiet_ne_cons {text tail : Text} {mark : UInt16} (quiet : Quiet text)
    (marked : mark = 34 ∨ mark = 91) : text ++ rest ≠ mark :: tail := by
  intro same
  obtain ⟨unit, others, rfl⟩ := List.exists_cons_of_ne_nil quiet.1
  have first := quiet.unit List.mem_cons_self
  obtain ⟨rfl, _⟩ := List.cons.inj same
  rcases marked with rfl | rfl
  · exact first.1 rfl
  · exact first.2.1 rfl

theorem plain_told (documented : opts.Documented) {value other : Json ν} (plain : Plain value)
    (other_plain : Plain other) (rest_follows : Follows rest) (after_follows : Follows after)
    (same : opts.generateKeyFromObject value ++ rest = opts.generateKeyFromObject other ++ after) :
    value = other ∧ rest = after := by
  -- By induction on the first value, whose first character decides which kind the other one is.
  induction value using Json.parts_induction generalizing other rest after with
  | whole value ih =>
    rcases plain_cases plain with scalar | ⟨text, rfl, free⟩ | ⟨items, rfl⟩ <;>
      rcases plain_cases other_plain with other_scalar | ⟨other_text, rfl, other_free⟩ |
        ⟨others, rfl⟩
    · obtain ⟨words, rests⟩ := quiet_append (scalar_quiet documented scalar)
        (scalar_quiet documented other_scalar) rest_follows after_follows same
      exact ⟨Option.some.inj (scalar_unique documented scalar other_scalar words), rests⟩
    · rw [generateKeyFromObject_string] at same
      exact absurd same (quiet_ne_cons (scalar_quiet documented scalar) (.inl rfl))
    · rw [generateKeyFromObject_array] at same
      exact absurd same (quiet_ne_cons (scalar_quiet documented scalar) (.inr rfl))
    · rw [generateKeyFromObject_string] at same
      exact absurd same.symm (quiet_ne_cons (scalar_quiet documented other_scalar) (.inl rfl))
    · simp only [generateKeyFromObject_string, List.cons_append, List.cons.injEq, true_and,
        List.append_assoc, List.nil_append] at same
      obtain ⟨rfl, rests⟩ := split_at_mark free other_free same
      exact ⟨rfl, rests⟩
    · rw [generateKeyFromObject_string, generateKeyFromObject_array] at same
      cases same
    · rw [generateKeyFromObject_array] at same
      exact absurd same.symm (quiet_ne_cons (scalar_quiet documented other_scalar) (.inr rfl))
    · rw [generateKeyFromObject_string, generateKeyFromObject_array] at same
      cases same
    · simp only [generateKeyFromObject_array, List.cons_append, List.cons.injEq, true_and,
        List.append_assoc] at same
      have ends {tail : Text} : (∀ text, 93 :: tail ≠ 124 :: text) ∧
          ∀ item : Json ν, Plain item → ∀ text,
            93 :: tail ≠ opts.generateKeyFromObject item ++ text := by
        refine ⟨nofun, fun item plain text same => ?_⟩
        obtain ⟨unit, units, starts, other_end, _⟩ := plain_starts documented plain
        rw [starts] at same
        exact other_end (List.cons.inj same).1.symm
      obtain ⟨rfl, rests⟩ := joined_unique
        (fun item among other inside rest after => ih item among (plain.part among)
          (other_plain.part inside))
        bar_follows bracket_follows bracket_follows ends.1 ends.1
        (fun other inside => ends.2 other (other_plain.part inside))
        (fun item among => ends.2 item (plain.part among)) same
      exact ⟨rfl, (List.cons.inj rests).2⟩

theorem plain_neutral (documented : opts.Documented) {value : Json ν} (plain : Plain value) :
    Neutral 34 91 93 (opts.generateKeyFromObject value) := by
  induction value using Json.parts_induction with
  | whole value ih =>
    rcases plain_cases plain with scalar | ⟨text, rfl, free⟩ | ⟨items, rfl⟩
    · refine neutral_of_quiet fun unit inside => ?_
      have quiet := (scalar_quiet documented scalar).unit inside
      exact ⟨quiet.1, quiet.2.1, quiet.2.2.1⟩
    · rw [generateKeyFromObject_string]
      exact neutral_quoted free
    · rw [generateKeyFromObject_array]
      exact neutral_bracketed (by decide) (by decide) (by decide)
        (neutral_joined (by decide) fun item among => ih item among (plain.part among))

/-- The values that are not objects, of which undefined is one. -/
def PlainOrUndefined (value : Option (Json ν)) : Prop := ∀ json ∈ value, Plain json

theorem plain_unsplit (documented : opts.Documented) (plain : PlainOrUndefined value)
    {last : Json ν} (last_plain : Plain last) (front : Text) :
    opts.generateKey value ≠ front ++ 124 :: opts.generateKeyFromObject last := by
  intro same
  have neutral := plain_neutral documented last_plain
  obtain ⟨unit, tail, starts, _⟩ := plain_starts documented last_plain
  have some_tail : opts.generateKeyFromObject last ≠ [] := by simp [starts]
  have some_front : front ++ [124] ≠ [] := by simp
  have words_whole (scalar : Scalar value) : False := by
    have bar : (124 : UInt16) ∈ opts.generateKey value := by simp [same]
    exact ((scalar_quiet documented scalar).unit bar).2.2.2 rfl
  rw [List.append_cons] at same
  cases value with
  | none => exact words_whole trivial
  | some json =>
    rcases plain_cases (plain json rfl) with scalar | ⟨text, rfl, free⟩ | ⟨items, rfl⟩
    · exact words_whole scalar
    · rw [generateKey, generateKeyFromObject_string] at same
      exact quoted_unsplit free neutral some_front some_tail same
    · rw [generateKey, generateKeyFromObject_array] at same
      refine bracketed_unsplit (by decide) (by decide) (by decide) ?_ neutral some_front some_tail
        same
      exact neutral_joined (by decide) fun item among =>
        plain_neutral documented ((plain _ rfl).part among)

theorem selected_told (documented : opts.Documented) {other : Option (Json ν)}
    (plain : PlainOrUndefined value) (other_plain : PlainOrUndefined other)
    (rest_follows : Follows rest) (after_follows : Follows after)
    (same : opts.generateKey value ++ rest = opts.generateKey other ++ after) :
    value = other ∧ rest = after := by
  have undefined : Scalar (none : Option (Json ν)) := trivial
  -- Undefined is a word, and the other kinds start with a mark.
  have undefined_told {json : Json ν} (plain : Plain json) {rest after : Text}
      (rest_follows : Follows rest) (after_follows : Follows after)
      (same : opts.generateKey none ++ rest = opts.generateKey (some json) ++ after) : False := by
    rcases plain_cases plain with scalar | ⟨text, rfl, _⟩ | ⟨items, rfl⟩
    · have words := (quiet_append (scalar_quiet documented undefined)
        (scalar_quiet documented scalar) rest_follows after_follows same).1
      cases scalar_unique documented undefined scalar words
    · simp only [generateKey, generateKeyFromObject_string] at same
      exact quiet_ne_cons (scalar_quiet documented undefined) (.inl rfl) same
    · simp only [generateKey, generateKeyFromObject_array] at same
      exact quiet_ne_cons (scalar_quiet documented undefined) (.inr rfl) same
  cases value with
  | none =>
    cases other with
    | none => exact ⟨rfl, List.append_cancel_left same⟩
    | some other =>
      exact (undefined_told (other_plain other rfl) rest_follows after_follows same).elim
  | some value =>
    cases other with
    | none => exact (undefined_told (plain value rfl) after_follows rest_follows same.symm).elim
    | some other =>
      obtain ⟨rfl, rests⟩ := plain_told documented (plain value rfl) (other_plain other rfl)
        rest_follows after_follows same
      exact ⟨rfl, rests⟩

theorem selected_nonempty (documented : opts.Documented) (plain : PlainOrUndefined value) :
    opts.generateKey value ≠ [] := by
  cases value with
  | none => nofun
  | some json =>
    obtain ⟨unit, tail, starts, _⟩ := plain_starts documented (plain json rfl)
    simp [generateKey, starts]

theorem selection_unique (documented : opts.Documented) {values others : List (Option (Json ν))}
    (plain : ∀ value ∈ values, PlainOrUndefined value)
    (others_plain : ∀ value ∈ others, PlainOrUndefined value)
    (same : joined 124 opts.generateKey values = joined 124 opts.generateKey others) :
    values = others := by
  have fresh {value : Option (Json ν)} (plain : PlainOrUndefined value) (text : Text) :
      [] ≠ opts.generateKey value ++ text := by
    simp [selected_nonempty documented plain]
  refine (joined_unique
    (fun value among other inside rest after => selected_told documented (plain value among)
      (others_plain other inside))
    bar_follows nil_follows nil_follows nofun nofun
    (fun other inside => fresh (others_plain other inside))
    (fun value among => fresh (plain value among)) ?_).1
  rw [same]

/-- Objects of plain values whose keys have no bars. -/
def Flat (members : List (Text × Json ν)) : Prop :=
  ∀ member ∈ members, 124 ∉ member.1 ∧ Plain member.2

theorem member_told (documented : opts.Documented) {member other : Text × Json ν}
    (free : 124 ∉ member.1) (plain : Plain member.2) (other_free : 124 ∉ other.1)
    (other_plain : Plain other.2) (rest_follows : Follows rest) (after_follows : Follows after)
    (same : opts.memberKey member ++ rest = opts.memberKey other ++ after) :
    member = other ∧ rest = after := by
  obtain ⟨key, value⟩ := member
  obtain ⟨name, found⟩ := other
  simp only [memberKey, List.append_assoc, List.cons_append] at same
  -- The key reaches up to the first bar.
  obtain ⟨rfl, values⟩ := split_at_mark free other_free same
  obtain ⟨rfl, rests⟩ := plain_told documented plain other_plain rest_follows after_follows values
  exact ⟨rfl, rests⟩

theorem object_unique (documented : opts.Documented) {members others : List (Text × Json ν)}
    (flat : Flat members) (others_flat : Flat others)
    (same : joined 124 opts.memberKey members = joined 124 opts.memberKey others) :
    members = others := by
  have fresh (member : Text × Json ν) (text : Text) : [] ≠ opts.memberKey member ++ text := by
    simp [memberKey]
  refine (joined_unique
    (fun member among other inside rest after => member_told documented (flat member among).1
      (flat member among).2 (others_flat other inside).1 (others_flat other inside).2)
    bar_follows nil_follows nil_follows nofun nofun (fun other _ => fresh other)
    (fun member _ => fresh member) ?_).1
  rw [same]

theorem object_not_plain (documented : opts.Documented) {members : List (Text × Json ν)}
    (flat : Flat members) (plain : PlainOrUndefined value) :
    opts.generateKey value ≠ joined 124 opts.memberKey members := by
  intro same
  by_cases none_left : members = []
  · rw [none_left, joined_nil] at same
    exact selected_nonempty documented plain same
  · obtain ⟨front, last, inside, text⟩ := joined_last 124 opts.memberKey none_left
    rw [text, memberKey, ← List.append_assoc] at same
    exact plain_unsplit documented plain (flat last inside).2 _ same

end KeyOptions

/-- What values may have in them: quotes in strings, bars in keys, and objects in other values. -/
structure Allowed where
  quotes : Bool
  bars : Bool
  nesting : Bool

/-- A value has nothing in it that is not allowed, where an object may always stand alone. -/
structure Allowed.Meets (allowed : Allowed) (alone : Bool) (value : Json ν) : Prop where
  strings : allowed.quotes = false → ∀ text, (Json.string text).Within value → 34 ∉ text
  keys : allowed.bars = false → ∀ members, (Json.object members).Within value →
    ∀ member ∈ members, 124 ∉ member.1
  objects : allowed.nesting = false → ∀ members, (Json.object members).Within value →
    alone = true ∧ value = .object members

/-- Whether the key is made for a single value. -/
def alone (keys : Option (List Text)) : Bool := keys.all fun keys => keys.length = 1

/-- The values that a key is made for have nothing in them that is not allowed. -/
def Allowed.Admits (allowed : Allowed) (opts : KeyOptions ν) (keys : Option (List Text))
    (ctx : KeyContext ν) : Prop :=
  ∀ value ∈ opts.relevant keys ctx, ∀ json ∈ value, allowed.Meets (alone keys) json

/-- Contexts are created with an object of meta data. -/
def KeyContext.Created (ctx : KeyContext ν) : Prop :=
  ∃ members, ctx.metaData = some (.object members)

/-- The values are structurally equal, one by one. -/
def SameValues (values others : List (Option (Json ν))) : Prop :=
  List.Forall₂ (Option.Rel Json.Same) values others

/-- Nothing is allowed. -/
def Allowed.nothing : Allowed := ⟨false, false, false⟩

theorem Allowed.Meets.plain {value : Json ν} (meets : Allowed.nothing.Meets false value) :
    Plain value :=
  ⟨meets.strings rfl, fun members within => Bool.false_ne_true (meets.objects rfl members within).1⟩

theorem Allowed.Meets.cases {value : Json ν} (meets : Allowed.nothing.Meets true value) :
    Plain value ∨ ∃ members, value = .object members ∧ KeyOptions.Flat members := by
  by_cases object : ∃ members, value = .object members
  · obtain ⟨members, rfl⟩ := object
    refine .inr ⟨members, rfl, fun member among => ⟨meets.keys rfl members .here member among, ?_⟩⟩
    have part : member.2 ∈ (Json.object members).parts := List.mem_map_of_mem among
    refine ⟨fun text within => meets.strings rfl text (.inside part within), ?_⟩
    -- An object in there would be the whole object, which is larger.
    intro others within
    have whole := (meets.objects rfl others (.inside part within)).2
    have smaller := Json.sizeOf_part part
    have larger := within.sizeOf_le
    rw [whole] at smaller
    omega
  · refine .inl ⟨meets.strings rfl, fun members within => ?_⟩
    exact object ⟨members, (meets.objects rfl members within).2⟩

namespace KeyOptions

variable {opts : KeyOptions ν}

theorem alone_unique (documented : opts.Documented) {value other : Option (Json ν)}
    (meets : ∀ json ∈ value, Allowed.nothing.Meets true json)
    (other_meets : ∀ json ∈ other, Allowed.nothing.Meets true json)
    (same : opts.generateKey value = opts.generateKey other) : value = other := by
  have kinds {value : Option (Json ν)} (meets : ∀ json ∈ value, Allowed.nothing.Meets true json) :
      PlainOrUndefined value ∨ ∃ members, value = some (.object members) ∧ Flat members := by
    cases value with
    | none => exact .inl nofun
    | some json =>
      rcases (meets json rfl).cases with plain | ⟨members, rfl, flat⟩
      · refine .inl fun found some_found => ?_
        obtain rfl := Option.some.inj some_found
        exact plain
      · exact .inr ⟨members, rfl, flat⟩
  rcases kinds meets with plain | ⟨members, rfl, flat⟩ <;>
    rcases kinds other_meets with other_plain | ⟨others, rfl, others_flat⟩
  · exact (selected_told documented plain other_plain nil_follows nil_follows (by rw [same])).1
  · rw [generateKey.eq_1 opts (.object others), generateKeyFromObject_object] at same
    exact absurd same (object_not_plain documented others_flat plain)
  · rw [generateKey.eq_1 opts (.object members), generateKeyFromObject_object] at same
    exact absurd same.symm (object_not_plain documented flat other_plain)
  · simp only [generateKey, generateKeyFromObject_object] at same
    rw [object_unique documented flat others_flat same]

theorem hashedKey_unlimited (unlimited : opts.maxParamsLength = none) (key : Text) :
    opts.hashedKey key = key := by
  simp only [hashedKey, unlimited]

theorem valueKey_unlimited (unlimited : opts.maxParamsLength = none) (value : Option (Json ν)) :
    opts.valueKey value = opts.generateKey value := by
  unfold valueKey
  split <;> simp only [hashedKey_unlimited unlimited]

theorem foldl_joined (render : Text → Text) (keys : List Text) (start : Nat) (text : Text) :
    (keys.zipIdx (start + 1)).foldl (fun text (key, i) =>
      text ++ (if i ≠ 0 then Text.ascii "|" else []) ++ render key) text =
      text ++ keys.flatMap fun key => 124 :: render key := by
  induction keys generalizing start text with
  | nil => simp
  | cons key keys ih =>
    have bar : Text.ascii "|" = [124] := by decide
    rw [List.zipIdx_cons, List.foldl_cons, ih]
    simp [bar]

theorem foldl_zipIdx_joined (render : Text → Text) (keys : List Text) :
    keys.zipIdx.foldl (fun text (key, i) =>
      text ++ (if i ≠ 0 then Text.ascii "|" else []) ++ render key) [] =
      joined 124 render keys := by
  have behind (key : Text) (keys : List Text) : joined 124 render (key :: keys) =
      render key ++ keys.flatMap fun key => 124 :: render key := by
    induction keys generalizing key with
    | nil => simp
    | cons next keys ih => simp [ih]
  cases keys with
  | nil => rfl
  | cons key keys =>
    rw [behind, List.zipIdx_cons, List.foldl_cons, foldl_joined]
    rfl

theorem defaultKeygen_created (unlimited : opts.maxParamsLength = none) {ctx : KeyContext ν}
    (created : ctx.Created) (action : Text) (keys : Option (List Text))
    (some_keys : keys ≠ some []) :
    opts.defaultKeygen action keys ctx =
      action ++ .ascii ":" ++ joined 124 opts.generateKey (opts.relevant keys ctx) := by
  obtain ⟨members, object⟩ := created
  have truth : (opts.truthy ctx.params || opts.truthy ctx.metaData || opts.truthy ctx.headers) =
      true := by simp [object, truthy]
  rw [defaultKeygen, if_pos truth]
  match keys with
  | none => simp [relevant, hashedKey_unlimited unlimited]
  | some [] => exact absurd rfl some_keys
  | some [key] => simp [relevant, hashedKey_unlimited unlimited]
  | some (key :: next :: keys) =>
    simp only [hashedKey_unlimited unlimited, valueKey_unlimited unlimited, relevant]
    rw [foldl_zipIdx_joined fun key => opts.generateKey (opts.getParamMetaValue key ctx)]
    simp only [joined, List.map_map]
    rfl

theorem relevant_unique (documented : opts.Documented) (unlimited : opts.maxParamsLength = none)
    {action : Text} {keys : Option (List Text)} {one other : KeyContext ν} (created : one.Created)
    (other_created : other.Created) (admits : Allowed.nothing.Admits opts keys one)
    (other_admits : Allowed.nothing.Admits opts keys other)
    (same : opts.defaultKeygen action keys one = opts.defaultKeygen action keys other) :
    opts.relevant keys one = opts.relevant keys other := by
  by_cases some_keys : keys = some []
  · rw [some_keys]
    rfl
  rw [defaultKeygen_created unlimited created _ _ some_keys,
    defaultKeygen_created unlimited other_created _ _ some_keys, List.append_cancel_left_eq] at same
  -- A single value may be an object, and several values are all plain.
  cases single : alone keys with
  | true =>
    have one_value (ctx : KeyContext ν) : ∃ value, opts.relevant keys ctx = [value] := by
      match keys with
      | none => exact ⟨_, rfl⟩
      | some [key] => exact ⟨_, rfl⟩
      | some (_ :: _ :: _) => simp [alone] at single
    obtain ⟨value, values⟩ := one_value one
    obtain ⟨found, founds⟩ := one_value other
    simp only [Allowed.Admits, values, founds, List.mem_singleton, forall_eq,
      single] at admits other_admits
    rw [values, founds, joined_singleton, joined_singleton] at same
    rw [values, founds, alone_unique documented admits other_admits same]
  | false =>
    simp only [Allowed.Admits, single] at admits other_admits
    exact selection_unique documented
      (fun value among json found => (admits value among json found).plain)
      (fun value among json found => (other_admits value among json found).plain) same

end KeyOptions

/-- A context with these params. -/
def withParams (params : List (Text × Json ν)) : KeyContext ν :=
  ⟨some (.object params), some (.object []), none⟩

theorem withParams_created (params : List (Text × Json ν)) : (withParams params).Created :=
  ⟨[], rfl⟩

/-- A member with a string. -/
def text (key value : String) : Text × Json ν := (.ascii key, .string (.ascii value))

/-- Two members of strings. -/
def twoTexts : List (Text × Json ν) := [text "a" "x", text "b" "y"]

/-- The string has a quote, a bar, and the name of another member in it. -/
def oneText : List (Text × Json ν) := [text "a" "x\"|b|\"y"]

/-- The key has the first of two members in it. -/
def longKey : List (Text × Json ν) := [text "a|\"x\"|b" "y"]

/-- An object behind which there is another member. -/
def inFront : List (Text × Json ν) := [(.ascii "a", .object [text "b" "x"]), text "c" "y"]

/-- The other member is in the object. -/
def inObject : List (Text × Json ν) := [(.ascii "a", .object [text "b" "x", text "c" "y"])]

namespace KeyOptions

variable {opts : KeyOptions ν}

theorem collisions (unlimited : opts.maxParamsLength = none) (action : Text) :
    opts.defaultKeygen action none (withParams twoTexts) =
        opts.defaultKeygen action none (withParams oneText) ∧
      opts.defaultKeygen action none (withParams twoTexts) =
        opts.defaultKeygen action none (withParams longKey) ∧
      opts.defaultKeygen action none (withParams inFront) =
        opts.defaultKeygen action none (withParams inObject) := by
  have key (params : List (Text × Json ν)) : opts.defaultKeygen action none (withParams params) =
      action ++ .ascii ":" ++ opts.generateKeyFromObject (.object params) := by
    rw [defaultKeygen_created unlimited (withParams_created params) action none nofun]
    exact congrArg _ (joined_singleton _ _ _)
  simp only [key, List.append_cancel_left_eq]
  exact ⟨rfl, rfl, rfl⟩

theorem different_params {one other : List (Text × Json ν)} (lengths : one.length ≠ other.length) :
    ¬ SameValues (opts.relevant none (withParams one)) (opts.relevant none (withParams other)) := by
  intro same
  cases same with
  | cons first _ =>
    cases first with
    | some objects =>
      cases objects with
      | refl => exact lengths rfl
      | object keys _ perm =>
        have length := congrArg List.length keys
        simp only [List.length_map] at length
        exact lengths (length.trans perm.length_eq)

variable {allowed : Allowed}

theorem admits_params {params : List (Text × Json ν)}
    (meets : allowed.Meets true (.object params)) :
    allowed.Admits opts none (withParams params) := by
  intro value among json found
  obtain rfl := List.mem_singleton.mp among
  obtain rfl := Option.some.inj found
  exact meets

theorem not_distinct {action : Text} {one other : List (Text × Json ν)}
    (meets : allowed.Meets true (.object one)) (other_meets : allowed.Meets true (.object other))
    (lengths : one.length ≠ other.length) (same : opts.defaultKeygen action none (withParams one) =
      opts.defaultKeygen action none (withParams other)) :
    ¬ ∀ keys one other, KeyContext.Created one → KeyContext.Created other →
      allowed.Admits opts keys one → allowed.Admits opts keys other →
      ¬ SameValues (opts.relevant keys one) (opts.relevant keys other) →
      opts.defaultKeygen action keys one ≠ opts.defaultKeygen action keys other :=
  fun distinct => distinct none (withParams one) (withParams other) (withParams_created one)
    (withParams_created other) (admits_params meets) (admits_params other_meets)
    (different_params lengths) same

theorem twoTexts_meets (allowed : Allowed) :
    allowed.Meets true (.object (twoTexts : List (Text × Json ν))) where
  strings := by simp [twoTexts, Cacher.text, Text.ascii]
  keys := by
    simp [twoTexts, Cacher.text, Text.ascii]
    grind
  objects := by simp [twoTexts, Cacher.text]

theorem oneText_meets (quotes : allowed.quotes = true) :
    allowed.Meets true (.object (oneText : List (Text × Json ν))) where
  strings := by simp [quotes]
  keys := by simp [oneText, Cacher.text, Text.ascii]
  objects := by simp [oneText, Cacher.text]

theorem longKey_meets (bars : allowed.bars = true) :
    allowed.Meets true (.object (longKey : List (Text × Json ν))) where
  strings := by simp [longKey, Cacher.text, Text.ascii]
  keys := by simp [bars]
  objects := by simp [longKey, Cacher.text]

theorem inFront_meets (nesting : allowed.nesting = true) :
    allowed.Meets true (.object (inFront : List (Text × Json ν))) where
  strings := by simp [inFront, Cacher.text, Text.ascii]
  keys := by
    simp [inFront, Cacher.text, Text.ascii]
    grind
  objects := by simp [nesting]

theorem inObject_meets (nesting : allowed.nesting = true) :
    allowed.Meets true (.object (inObject : List (Text × Json ν))) where
  strings := by simp [inObject, Cacher.text, Text.ascii]
  keys := by
    simp [inObject, Cacher.text, Text.ascii]
    grind
  objects := by simp [nesting]

/-- Different values have different keys in all contexts exactly if neither quotes in strings nor
bars in keys nor objects in other values are allowed. -/
theorem defaultKeygen_distinct_iff (documented : opts.Documented)
    (unlimited : opts.maxParamsLength = none) (action : Text) (allowed : Allowed) :
    (∀ keys one other, KeyContext.Created one → KeyContext.Created other →
      allowed.Admits opts keys one → allowed.Admits opts keys other →
      ¬ SameValues (opts.relevant keys one) (opts.relevant keys other) →
      opts.defaultKeygen action keys one ≠ opts.defaultKeygen action keys other) ↔
      allowed.quotes = false ∧ allowed.bars = false ∧ allowed.nesting = false := by
  obtain ⟨quoted, barred, nested⟩ := collisions unlimited action
  constructor
  · intro distinct
    -- Whatever is allowed, there are params that have only this in them and share a key.
    refine ⟨?_, ?_, ?_⟩
    · by_contra quotes
      exact not_distinct (twoTexts_meets allowed)
        (oneText_meets (Bool.eq_true_of_not_eq_false quotes))
        (by simp [twoTexts, oneText]) quoted distinct
    · by_contra bars
      exact not_distinct (twoTexts_meets allowed)
        (longKey_meets (Bool.eq_true_of_not_eq_false bars))
        (by simp [twoTexts, longKey]) barred distinct
    · by_contra nesting
      exact not_distinct (inFront_meets (Bool.eq_true_of_not_eq_false nesting))
        (inObject_meets (Bool.eq_true_of_not_eq_false nesting)) (by simp [inFront, inObject])
        nested distinct
  · intro ⟨quotes, bars, nesting⟩ keys one other created other_created admits other_admits different
      same
    obtain rfl : allowed = .nothing := by
      cases allowed
      simp_all [Allowed.nothing]
    have equal :=
      relevant_unique documented unlimited created other_created admits other_admits same
    refine different (equal ▸ List.forall₂_same.mpr fun value _ => ?_)
    cases value with
    | none => exact .none
    | some json => exact .some (.refl json)

end KeyOptions

/-- Numbers as tallies, and no path but a single name. -/
def tallyOptions : KeyOptions Nat where
  maxParamsLength := none
  printNumber value := List.replicate (value + 1) 49
  falsy value := value = 0
  digest key := key
  get
    | .object members, path => members.lookup path
    | _, _ => none

theorem tallyOptions_documented : tallyOptions.Documented where
  injective := by
    intro one other same
    have lengths := congrArg List.length same
    simpa [tallyOptions] using lengths
  nonempty value := by simp [tallyOptions]
  numeral value := by
    rw [List.all_eq_true]
    intro unit inside
    rw [List.eq_of_mem_replicate inside]
    decide

theorem defaultKeygen_distinct_tally :
    tallyOptions.defaultKeygen (.ascii "posts.find") none (withParams twoTexts) ≠
      tallyOptions.defaultKeygen (.ascii "posts.find") none (withParams []) :=
  (KeyOptions.defaultKeygen_distinct_iff tallyOptions_documented rfl (.ascii "posts.find")
    Allowed.nothing).mpr ⟨rfl, rfl, rfl⟩ none _ _ (withParams_created _) (withParams_created _)
    (KeyOptions.admits_params (KeyOptions.twoTexts_meets _))
    (KeyOptions.admits_params ⟨by simp, by simp, by simp⟩) (KeyOptions.different_params (by decide))

/-- The params with a string for each name and those with a single string share a key. -/
theorem keys_collide :
    tallyOptions.Documented ∧ tallyOptions.maxParamsLength = none ∧
      (withParams twoTexts : KeyContext Nat).Created ∧
      (withParams oneText : KeyContext Nat).Created ∧
      ¬ SameValues (tallyOptions.relevant none (withParams twoTexts))
        (tallyOptions.relevant none (withParams oneText)) ∧
      tallyOptions.defaultKeygen (.ascii "posts.find") none (withParams twoTexts) =
        tallyOptions.defaultKeygen (.ascii "posts.find") none (withParams oneText) :=
  ⟨tallyOptions_documented, rfl, withParams_created _, withParams_created _,
    KeyOptions.different_params (by decide), (KeyOptions.collisions rfl _).1⟩

end Moleculer.Cacher
