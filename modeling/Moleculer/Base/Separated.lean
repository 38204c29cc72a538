import Mathlib

/-! Lists of items that are written with separators between them, and texts with quotes and
brackets. -/

namespace Base

variable {α β : Type}

theorem split_at_mark [DecidableEq α] {mark : α} {one other rest after : List α}
    (free : mark ∉ one) (other_free : mark ∉ other)
    (same : one ++ mark :: rest = other ++ mark :: after) : one = other ∧ rest = after := by
  have cut {text tail : List α} (free : mark ∉ text) :
      (text ++ mark :: tail).takeWhile (fun unit => unit ≠ mark) = text := by
    rw [List.takeWhile_append_of_pos (by
      intro unit inside
      simpa using fun same : unit = mark => free (same ▸ inside))]
    simp
  obtain rfl : one = other := by rw [← cut free, same, cut other_free]
  exact ⟨rfl, by simpa using same⟩

section Joined

variable (separator : α) (render : β → List α)

/-- The items with separators between them. -/
def joined (items : List β) : List α := [separator].intercalate (items.map render)

@[simp] theorem joined_nil : joined separator render [] = [] := rfl

@[simp] theorem joined_singleton (item : β) : joined separator render [item] = render item := by
  simp [joined]

@[simp] theorem joined_cons_cons (item next : β) (items : List β) :
    joined separator render (item :: next :: items) =
      render item ++ separator :: joined separator render (next :: items) := by
  simp [joined, List.intercalate]

theorem joined_last {items : List β} (nonempty : items ≠ []) :
    ∃ front, ∃ item ∈ items, joined separator render items = front ++ render item := by
  induction items with
  | nil => exact absurd rfl nonempty
  | cons item items ih =>
    cases items with
    | nil => exact ⟨[], item, List.mem_cons_self, by simp⟩
    | cons next items =>
      obtain ⟨front, last, inside, text⟩ := ih (by simp)
      refine ⟨render item ++ separator :: front, last, List.mem_cons_of_mem _ inside, ?_⟩
      rw [joined_cons_cons, text]
      simp

variable {separator render}

theorem joined_cons (item : β) (items : List β) (rest : List α) :
    ∃ tail, joined separator render (item :: items) ++ rest = render item ++ tail ∧
      (items = [] ∧ tail = rest ∨
        items ≠ [] ∧ tail = separator :: (joined separator render items ++ rest)) := by
  cases items with
  | nil => exact ⟨rest, by simp, .inl ⟨rfl, rfl⟩⟩
  | cons next items => exact ⟨_, by simp, .inr ⟨by simp, rfl⟩⟩

theorem joined_unique {Follows : List α → Prop} {items others : List β} {rest after : List α}
    (told : ∀ item ∈ items, ∀ other ∈ others, ∀ rest after, Follows rest → Follows after →
      render item ++ rest = render other ++ after → item = other ∧ rest = after)
    (separated : ∀ text, Follows (separator :: text)) (rest_follows : Follows rest)
    (after_follows : Follows after) (rest_ends : ∀ text, rest ≠ separator :: text)
    (after_ends : ∀ text, after ≠ separator :: text)
    (rest_fresh : ∀ other ∈ others, ∀ text, rest ≠ render other ++ text)
    (after_fresh : ∀ item ∈ items, ∀ text, after ≠ render item ++ text)
    (same : joined separator render items ++ rest = joined separator render others ++ after) :
    items = others ∧ rest = after := by
  -- The first items are told apart, and then the same argument goes on behind the separator.
  induction items generalizing others with
  | nil =>
    cases others with
    | nil => exact ⟨rfl, same⟩
    | cons other others =>
      obtain ⟨tail, text, _⟩ := joined_cons other others after
      exact absurd (same.trans text) (rest_fresh other List.mem_cons_self tail)
  | cons item items ih =>
    cases others with
    | nil =>
      obtain ⟨tail, text, _⟩ := joined_cons item items rest
      exact absurd (same.symm.trans text) (after_fresh item List.mem_cons_self tail)
    | cons other others =>
      obtain ⟨tail, text, behind⟩ := joined_cons item items rest
      obtain ⟨end_tail, end_text, end_behind⟩ := joined_cons other others after
      have follows : Follows tail := by
        rcases behind with ⟨_, rfl⟩ | ⟨_, rfl⟩
        · exact rest_follows
        · exact separated _
      have end_follows : Follows end_tail := by
        rcases end_behind with ⟨_, rfl⟩ | ⟨_, rfl⟩
        · exact after_follows
        · exact separated _
      obtain ⟨rfl, tails⟩ := told item List.mem_cons_self other List.mem_cons_self tail end_tail
        follows end_follows (text.symm.trans (same.trans end_text))
      rcases behind with ⟨rfl, rfl⟩ | ⟨_, rfl⟩ <;> rcases end_behind with ⟨rfl, rfl⟩ | ⟨_, rfl⟩
      · exact ⟨rfl, tails⟩
      · exact absurd tails (rest_ends _)
      · exact absurd tails.symm (after_ends _)
      · obtain ⟨rfl, ends⟩ := ih
          (fun item among other inside =>
            told item (List.mem_cons_of_mem _ among) other (List.mem_cons_of_mem _ inside))
          (fun other inside => rest_fresh other (List.mem_cons_of_mem _ inside))
          (fun item among => after_fresh item (List.mem_cons_of_mem _ among))
          (List.cons.inj tails).2
        exact ⟨rfl, ends⟩

end Joined

theorem front_between {first last : α} {text front tail : List α}
    (whole : first :: (text ++ [last]) = front ++ tail) (some_front : front ≠ [])
    (some_tail : tail ≠ []) : ∃ inner, front = first :: inner ∧ inner <+: text := by
  obtain ⟨unit, inner, rfl⟩ := List.exists_cons_of_ne_nil some_front
  rw [List.cons_append, List.cons.injEq] at whole
  obtain ⟨rfl, whole⟩ := whole
  refine ⟨inner, rfl, ?_⟩
  rcases List.append_eq_append_iff.mp whole with ⟨more, rfl, last_left⟩ | ⟨more, rfl, _⟩
  · rcases List.append_eq_singleton_iff.mp last_left.symm with ⟨rfl, _⟩ | ⟨_, none_left⟩
    · simp
    · exact absurd none_left some_tail
  · exact ⟨more, rfl⟩

section Nesting

variable [DecidableEq α] (quote opening closing : α)

/-- Whether a text has come inside quotes, and how many brackets are open outside of them. -/
def scan (state : Bool × Int) (unit : α) : Bool × Int :=
  if unit = quote then (!state.1, state.2)
  else if state.1 then state
  else if unit = opening then (false, state.2 + 1)
  else if unit = closing then (false, state.2 - 1)
  else state

/-- A text closes the quotes and brackets that it opens, and no others. -/
def Neutral (text : List α) : Prop :=
  ∀ depth : Int, text.foldl (scan quote opening closing) (false, depth) = (false, depth) ∧
    ∀ front, front <+: text → depth ≤ (front.foldl (scan quote opening closing) (false, depth)).2

variable {quote opening closing}

theorem scan_parity (text : List α) (one other : Bool × Int) :
    ((text.foldl (scan quote opening closing) one).1 ^^
      (text.foldl (scan quote opening closing) other).1) = (one.1 ^^ other.1) := by
  induction text generalizing one other with
  | nil => rfl
  | cons unit text ih =>
    rw [List.foldl_cons, List.foldl_cons, ih]
    unfold scan
    by_cases quoted : unit = quote
    · simp [quoted]
    · grind

variable {text front tail : List α}

theorem Neutral.inside (neutral : Neutral quote opening closing text) (depth : Int) :
    (text.foldl (scan quote opening closing) (true, depth)).1 = true := by
  have parity : ((text.foldl (scan quote opening closing) (true, depth)).1 ^^
      (text.foldl (scan quote opening closing) (false, depth)).1) = (true ^^ false) :=
    scan_parity text (true, depth) (false, depth)
  rw [(neutral depth).1] at parity
  simpa using parity

theorem Neutral.append {one other : List α} (first : Neutral quote opening closing one)
    (second : Neutral quote opening closing other) :
    Neutral quote opening closing (one ++ other) := by
  intro depth
  refine ⟨by rw [List.foldl_append, (first depth).1, (second depth).1], ?_⟩
  intro front ⟨tail, whole⟩
  rcases List.append_eq_append_iff.mp whole with ⟨more, rfl, rfl⟩ | ⟨more, rfl, rfl⟩
  · exact (first depth).2 front ⟨more, rfl⟩
  · rw [List.foldl_append, (first depth).1]
    exact (second depth).2 more ⟨tail, rfl⟩

theorem neutral_of_quiet (quiet : ∀ unit ∈ text, unit ≠ quote ∧ unit ≠ opening ∧ unit ≠ closing) :
    Neutral quote opening closing text := by
  have unmoved (depth : Int) (front : List α)
      (quiet : ∀ unit ∈ front, unit ≠ quote ∧ unit ≠ opening ∧ unit ≠ closing) :
      front.foldl (scan quote opening closing) (false, depth) = (false, depth) := by
    induction front with
    | nil => rfl
    | cons unit front ih =>
      obtain ⟨first, rest⟩ := List.forall_mem_cons.mp quiet
      rw [List.foldl_cons, scan, if_neg first.1, if_neg Bool.false_ne_true, if_neg first.2.1,
        if_neg first.2.2]
      exact ih rest
  intro depth
  refine ⟨unmoved depth text quiet, fun front starts => ?_⟩
  rw [unmoved depth front fun unit inside => quiet unit (starts.subset inside)]

theorem scan_quoted (free : quote ∉ text) (depth : Int) :
    text.foldl (scan quote opening closing) (true, depth) = (true, depth) := by
  induction text with
  | nil => rfl
  | cons unit text ih =>
    obtain ⟨first, rest⟩ := not_or.mp (mt List.mem_cons.mpr free)
    rw [List.foldl_cons, scan, if_neg (Ne.symm first), if_pos rfl]
    exact ih rest

theorem scan_front_quoted (free : quote ∉ text) (whole : quote :: (text ++ [quote]) = front ++ tail)
    (some_front : front ≠ []) (some_tail : tail ≠ []) (depth : Int) :
    front.foldl (scan quote opening closing) (false, depth) = (true, depth) := by
  obtain ⟨inner, rfl, starts⟩ := front_between whole some_front some_tail
  rw [List.foldl_cons, scan, if_pos rfl]
  exact scan_quoted (fun inside => free (starts.subset inside)) depth

theorem scan_front_bracketed (different : opening ≠ quote)
    (neutral : Neutral quote opening closing text)
    (whole : opening :: (text ++ [closing]) = front ++ tail) (some_front : front ≠ [])
    (some_tail : tail ≠ []) (depth : Int) :
    depth + 1 ≤ (front.foldl (scan quote opening closing) (false, depth)).2 := by
  obtain ⟨inner, rfl, starts⟩ := front_between whole some_front some_tail
  rw [List.foldl_cons, scan, if_neg different, if_neg Bool.false_ne_true, if_pos rfl]
  exact (neutral (depth + 1)).2 inner starts

theorem neutral_of_proper (closes : ∀ depth : Int,
      text.foldl (scan quote opening closing) (false, depth) = (false, depth))
    (proper : ∀ front tail, text = front ++ tail → front ≠ [] → tail ≠ [] →
      ∀ depth : Int, depth ≤ (front.foldl (scan quote opening closing) (false, depth)).2) :
    Neutral quote opening closing text := by
  intro depth
  refine ⟨closes depth, fun front ⟨tail, whole⟩ => ?_⟩
  by_cases some_front : front = []
  · rw [some_front]
    exact le_rfl
  by_cases some_tail : tail = []
  · rw [some_tail, List.append_nil] at whole
    rw [whole, closes]
  · exact proper front tail whole.symm some_front some_tail depth

theorem neutral_quoted (free : quote ∉ text) :
    Neutral quote opening closing (quote :: (text ++ [quote])) := by
  refine neutral_of_proper (fun depth => ?_) fun front tail whole some_front some_tail depth => ?_
  · rw [List.foldl_cons, List.foldl_append, scan, if_pos rfl, Bool.not_false,
      scan_quoted free depth, List.foldl_cons, scan, if_pos rfl]
    rfl
  · rw [scan_front_quoted free whole some_front some_tail depth]

theorem neutral_bracketed (opening_quote : opening ≠ quote) (closing_quote : closing ≠ quote)
    (closing_opening : closing ≠ opening) (neutral : Neutral quote opening closing text) :
    Neutral quote opening closing (opening :: (text ++ [closing])) := by
  refine neutral_of_proper (fun depth => ?_) fun front tail whole some_front some_tail depth => ?_
  · rw [List.foldl_cons, List.foldl_append, scan, if_neg opening_quote,
      if_neg Bool.false_ne_true, if_pos rfl, (neutral (depth + 1)).1, List.foldl_cons, scan,
      if_neg closing_quote, if_neg Bool.false_ne_true, if_neg closing_opening, if_pos rfl,
      List.foldl_nil, add_sub_cancel_right]
  · have opened := scan_front_bracketed opening_quote neutral whole some_front some_tail depth
    omega

theorem neutral_joined {separator : α} {render : β → List α} {items : List β}
    (quiet : separator ≠ quote ∧ separator ≠ opening ∧ separator ≠ closing)
    (neutral : ∀ item ∈ items, Neutral quote opening closing (render item)) :
    Neutral quote opening closing (joined separator render items) := by
  induction items with
  | nil => exact neutral_of_quiet (by simp)
  | cons item items ih =>
    obtain ⟨first, rest⟩ := List.forall_mem_cons.mp neutral
    cases items with
    | nil => simpa using first
    | cons next items =>
      have mark : Neutral quote opening closing [separator] :=
        neutral_of_quiet (by simpa using quiet)
      simpa using first.append (mark.append (ih rest))

theorem quoted_unsplit (free : quote ∉ text) (neutral : Neutral quote opening closing tail)
    (some_front : front ≠ []) (some_tail : tail ≠ [])
    (whole : quote :: (text ++ [quote]) = front ++ tail) : False := by
  -- The other text would start inside the quotes, and end there as well.
  have closes : (quote :: (text ++ [quote])).foldl (scan quote opening closing) (false, 0) =
      (false, 0) := (neutral_quoted free 0).1
  rw [whole, List.foldl_append, scan_front_quoted free whole some_front some_tail 0] at closes
  have inside := neutral.inside 0
  rw [closes] at inside
  cases inside

theorem bracketed_unsplit (opening_quote : opening ≠ quote) (closing_quote : closing ≠ quote)
    (closing_opening : closing ≠ opening) (balanced : Neutral quote opening closing text)
    (neutral : Neutral quote opening closing tail) (some_front : front ≠ []) (some_tail : tail ≠ [])
    (whole : opening :: (text ++ [closing]) = front ++ tail) : False := by
  have closes := ((neutral_bracketed opening_quote closing_quote closing_opening balanced) 0).1
  have opened := scan_front_bracketed opening_quote balanced whole some_front some_tail 0
  rw [whole, List.foldl_append] at closes
  -- The other text starts inside quotes, which it does not leave, or in front of a closing bracket.
  cases state : front.foldl (scan quote opening closing) (false, 0) with
  | mk quoted depth =>
    rw [state] at closes opened
    cases quoted with
    | true =>
      have inside := neutral.inside depth
      rw [closes] at inside
      cases inside
    | false =>
      rw [(neutral depth).1] at closes
      obtain rfl : depth = 0 := congrArg Prod.snd closes
      omega

end Nesting

end Base
