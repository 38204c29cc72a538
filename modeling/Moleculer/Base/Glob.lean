import Mathlib

/-! Glob patterns over an alphabet with a separator, and the languages they stand for. -/

namespace Base.Glob

variable {α : Type}

/-- The parts of a pattern: a letter, any letter, any word inside a segment, and any word. -/
inductive Token (α : Type) where
  | exact (letter : α)
  | one
  | segment
  | any
  deriving DecidableEq, Repr

/-- The words a part of a pattern stands for. -/
def Token.language (separator : α) : Token α → Language α
  | .exact letter => {word | word = [letter]}
  | .one => {word | word.length = 1}
  | .segment => {word | separator ∉ word}
  | .any => Set.univ

/-- The words a pattern stands for: one word for each part, written one after the other. -/
def language (separator : α) (tokens : List (Token α)) : Language α :=
  (tokens.map (Token.language separator)).prod

/-- Read a pattern from left to right, taking two stars together. -/
def parse [DecidableEq α] (question star : α) : List α → List (Token α)
  | [] => []
  | letter :: rest =>
    if letter = question then .one :: parse question star rest
    else if letter = star then
      match rest with
      | [] => [.segment]
      | next :: others =>
        if next = star then .any :: parse question star others
        else .segment :: parse question star (next :: others)
    else .exact letter :: parse question star rest

variable {word : List α} {tokens : List (Token α)} {separator letter : α} (rest : List α)

theorem mem_language_nil :
    word ∈ language separator [] ↔ word = [] := by
  simp [language, Language.mem_one]

theorem mem_language_cons {token : Token α} :
    word ∈ language separator (token :: tokens) ↔
      ∃ front ∈ token.language separator, ∃ back ∈ language separator tokens,
        front ++ back = word := by
  simp only [language, List.map_cons, List.prod_cons, Language.mem_mul]

theorem mem_language_exact :
    word ∈ language separator (.exact letter :: tokens) ↔
      ∃ back ∈ language separator tokens, word = letter :: back := by
  rw [mem_language_cons]
  constructor
  · rintro ⟨front, rfl, back, member, rfl⟩
    exact ⟨back, member, rfl⟩
  · rintro ⟨back, member, rfl⟩
    exact ⟨[letter], rfl, back, member, rfl⟩

theorem mem_language_letters {letters : List α} :
    word ∈ language separator (letters.map Token.exact ++ tokens) ↔
      ∃ back ∈ language separator tokens, word = letters ++ back := by
  -- The letters are cut off one by one.
  induction letters generalizing word with
  | nil => simp
  | cons letter rest ih =>
    rw [List.map_cons, List.cons_append, mem_language_exact]
    constructor
    · rintro ⟨back, member, rfl⟩
      obtain ⟨tail, inside, rfl⟩ := ih.mp member
      exact ⟨tail, inside, rfl⟩
    · rintro ⟨back, member, rfl⟩
      exact ⟨rest ++ back, ih.mpr ⟨back, member, rfl⟩, rfl⟩

theorem mem_language_segment :
    word ∈ language separator [.segment] ↔ separator ∉ word := by
  rw [mem_language_cons]
  constructor
  · rintro ⟨front, inside, back, rest, rfl⟩
    rw [mem_language_nil] at rest
    rw [rest, List.append_nil]
    exact inside
  · intro inside
    exact ⟨word, inside, [], mem_language_nil.mpr rfl, List.append_nil word⟩

theorem mem_language_any : word ∈ language separator [.any] := by
  rw [mem_language_cons]
  exact ⟨word, trivial, [], mem_language_nil.mpr rfl, List.append_nil word⟩

variable [DecidableEq α] {question star : α}

theorem parse_letter (noQuestion : letter ≠ question) (noStar : letter ≠ star) :
    parse question star (letter :: rest) = .exact letter :: parse question star rest := by
  rw [parse.eq_def]
  simp only [if_neg noQuestion, if_neg noStar]

theorem parse_letters (letters rest : List α) (noQuestion : question ∉ letters)
    (noStar : star ∉ letters) :
    parse question star (letters ++ rest) =
      letters.map Token.exact ++ parse question star rest := by
  induction letters with
  | nil => rfl
  | cons letter others ih =>
    rw [List.mem_cons, not_or] at noQuestion noStar
    rw [List.cons_append, parse_letter _ (Ne.symm noQuestion.1) (Ne.symm noStar.1),
      ih noQuestion.2 noStar.2]
    rfl

end Base.Glob
