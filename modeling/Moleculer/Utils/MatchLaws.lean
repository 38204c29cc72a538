import Moleculer.Base.Glob
import Moleculer.Utils.Match

/-! Which texts the fast paths of the matcher accept. -/

namespace Moleculer.Utils

open Base

/-- The texts that a pattern stands for. -/
def globLanguage (pattern : String) : Language Char :=
  Glob.language '.' (Glob.parse '?' '*' pattern.toList)

/-- The patterns that are matched without a regular expression. -/
inductive FastPath : List Char → Prop where
  | text {letters : List Char} (noQuestion : '?' ∉ letters) (noStar : '*' ∉ letters) :
      FastPath letters
  | segment {letters : List Char} (noQuestion : '?' ∉ letters) (noStar : '*' ∉ letters) :
      FastPath (letters ++ ['*'])
  | any {letters : List Char} (noQuestion : '?' ∉ letters) (noStar : '*' ∉ letters) :
      FastPath (letters ++ ['*', '*'])

/-- The pattern is a nonempty text with one star behind it, and the text of the pattern is
continued by a dot and then by no other dot. -/
def DotAtStar (text pattern : String) : Prop :=
  ∃ letters rest, letters ≠ [] ∧ '*' ∉ letters ∧ '.' ∉ rest ∧
    pattern.toList = letters ++ ['*'] ∧ text.toList = letters ++ '.' :: rest

variable {letters : List Char} {pattern text : String}

theorem idxOf?_star (noStar : '*' ∉ letters) (rest : List Char) :
    (letters ++ '*' :: rest).idxOf? '*' = some letters.length := by
  rw [List.idxOf?_eq_some_iff]
  refine ⟨by simp, by simp, ?_⟩
  intro position before
  rw [List.getElem_append_left before]
  intro same
  exact noStar (same ▸ List.getElem_mem before)

variable (test : String → String → Bool)

theorem patternMatch_text (shape : pattern.toList = letters) (noQuestion : '?' ∉ letters)
    (noStar : '*' ∉ letters) :
    patternMatch test text pattern = true ↔ text.toList = letters := by
  have found : letters.idxOf? '*' = none := List.idxOf?_eq_none_iff.mpr noStar
  rw [patternMatch]
  simp only [shape, if_neg noQuestion, found, decide_eq_true_eq]
  rw [← shape, String.toList_inj]
  exact eq_comm

theorem patternMatch_any (shape : pattern.toList = letters ++ ['*', '*'])
    (noQuestion : '?' ∉ letters) (noStar : '*' ∉ letters) :
    patternMatch test text pattern = true ↔ letters <+: text.toList := by
  have noQuestions : '?' ∉ letters ++ ['*', '*'] := by simp [noQuestion]
  have length : (letters ++ ['*', '*']).length = letters.length + 2 := by simp
  rw [patternMatch]
  simp only [shape, if_neg noQuestions, idxOf?_star noStar, length]
  by_cases empty : letters = []
  · -- The path for exactly two stars.
    subst empty
    simp
  · have positive : 0 < letters.length := List.length_pos_of_ne_nil empty
    rw [if_pos ⟨by omega, by simp, by omega⟩]
    simp

theorem patternMatch_segment (shape : pattern.toList = letters ++ ['*'])
    (noQuestion : '?' ∉ letters) (noStar : '*' ∉ letters) :
    patternMatch test text pattern = true ↔ letters <+: text.toList ∧
      '.' ∉ text.toList.drop (if letters = [] then 0 else letters.length + 1) := by
  have noQuestions : '?' ∉ letters ++ ['*'] := by simp [noQuestion]
  have length : (letters ++ ['*']).length = letters.length + 1 := by simp
  rw [patternMatch]
  simp only [shape, if_neg noQuestions, idxOf?_star noStar, length]
  by_cases empty : letters = []
  · -- The path for exactly one star.
    subst empty
    simp
  · have positive : 0 < letters.length := List.length_pos_of_ne_nil empty
    have ends : ¬ (letters ++ ['*']).drop (letters.length + 1 - 2) = ['*', '*'] := by
      intro same
      have last := congrArg List.head? same
      rw [List.head?_drop, List.getElem?_append_left (by omega)] at last
      exact noStar (List.mem_of_getElem? last)
    rw [if_neg (fun both => ends both.2.1), if_pos ⟨by omega, by simp, by omega⟩]
    simp [empty]

theorem mem_globLanguage_text (shape : pattern.toList = letters) (noQuestion : '?' ∉ letters)
    (noStar : '*' ∉ letters) : text.toList ∈ globLanguage pattern ↔ text.toList = letters := by
  have tokens := Glob.parse_letters letters [] noQuestion noStar
  rw [List.append_nil] at tokens
  rw [globLanguage, shape, tokens, Glob.mem_language_letters]
  simp [Glob.parse, Glob.mem_language_nil]

theorem mem_globLanguage_any (shape : pattern.toList = letters ++ ['*', '*'])
    (noQuestion : '?' ∉ letters) (noStar : '*' ∉ letters) :
    text.toList ∈ globLanguage pattern ↔ letters <+: text.toList := by
  rw [globLanguage, shape, Glob.parse_letters letters _ noQuestion noStar,
    Glob.mem_language_letters]
  constructor
  · rintro ⟨back, -, same⟩
    exact ⟨back, same.symm⟩
  · rintro ⟨back, same⟩
    exact ⟨back, Glob.mem_language_any, same.symm⟩

theorem mem_globLanguage_segment (shape : pattern.toList = letters ++ ['*'])
    (noQuestion : '?' ∉ letters) (noStar : '*' ∉ letters) :
    text.toList ∈ globLanguage pattern ↔ ∃ back, text.toList = letters ++ back ∧ '.' ∉ back := by
  rw [globLanguage, shape, Glob.parse_letters letters _ noQuestion noStar,
    Glob.mem_language_letters]
  constructor
  · rintro ⟨back, inside, same⟩
    exact ⟨back, same, Glob.mem_language_segment.mp inside⟩
  · rintro ⟨back, same, inside⟩
    exact ⟨back, Glob.mem_language_segment.mpr inside, same⟩

theorem not_dotAtStar (other : ∀ letters, '*' ∉ letters → pattern.toList ≠ letters ++ ['*']) :
    ¬ DotAtStar text pattern := by
  rintro ⟨letters, rest, -, noStar, -, shape, -⟩
  exact other letters noStar shape

theorem dotAtStar_iff (shape : pattern.toList = letters ++ ['*']) (noStar : '*' ∉ letters) :
    DotAtStar text pattern ↔
      letters ≠ [] ∧ ∃ rest, '.' ∉ rest ∧ text.toList = letters ++ '.' :: rest := by
  constructor
  · rintro ⟨others, rest, nonempty, -, noDot, other, continued⟩
    rw [shape, List.append_left_inj] at other
    exact ⟨other ▸ nonempty, rest, noDot, other ▸ continued⟩
  · rintro ⟨nonempty, rest, noDot, continued⟩
    exact ⟨letters, rest, nonempty, noStar, noDot, shape, continued⟩

theorem skip_iff (back : List Char) :
    ('.' ∉ back.drop 1 ↔ '.' ∉ back) ↔ ¬ ∃ rest, '.' ∉ rest ∧ back = '.' :: rest := by
  cases back with
  | nil => simp
  | cons first rest =>
    simp only [List.drop_succ_cons, List.drop_zero, List.mem_cons, not_or, List.cons.injEq]
    by_cases dot : '.' = first
    · -- The first dot is overlooked when no other one follows.
      subst dot
      simp
    · have other : first ≠ '.' := fun same => dot same.symm
      simp [dot, other]

/-- A fast path accepts exactly the words of its pattern, unless the pattern is a text with one
star behind it and the given text has a dot in the place of the star and no other dot behind. -/
theorem patternMatch_fast_iff (test : String → String → Bool) (text : String) {pattern : String}
    (fast : FastPath pattern.toList) :
    (patternMatch test text pattern = true ↔ text.toList ∈ globLanguage pattern) ↔
      ¬ DotAtStar text pattern := by
  generalize shape : pattern.toList = chars at fast
  cases fast with
  | text noQuestion noStar =>
    rw [patternMatch_text test shape noQuestion noStar,
      mem_globLanguage_text shape noQuestion noStar]
    refine iff_of_true Iff.rfl (not_dotAtStar fun letters _ other => ?_)
    rw [shape] at other
    simp [other] at noStar
  | any noQuestion noStar =>
    rw [patternMatch_any test shape noQuestion noStar,
      mem_globLanguage_any shape noQuestion noStar]
    refine iff_of_true Iff.rfl (not_dotAtStar fun others noStars other => ?_)
    -- A text before a single star would itself end in a star.
    rw [shape, List.append_cons, List.append_left_inj] at other
    simp [← other] at noStars
  | @segment letters noQuestion noStar =>
    rw [patternMatch_segment test shape noQuestion noStar,
      mem_globLanguage_segment shape noQuestion noStar, dotAtStar_iff shape noStar]
    by_cases starts : letters <+: text.toList
    · obtain ⟨back, same⟩ := starts
      simp only [← same, List.prefix_append, true_and, List.append_cancel_left_eq,
        exists_eq_left', ne_eq]
      by_cases empty : letters = []
      · simp [empty]
      · rw [if_neg empty, List.drop_length_add_append]
        simpa [empty] using skip_iff back
    · have no (back : List Char) : ¬ text.toList = letters ++ back := fun same =>
        starts ⟨back, same.symm⟩
      simp [starts, no]

/-- The fast path of a text with two stars behind it. -/
theorem patternMatch_fast_iff_services :
    (patternMatch (fun _ _ => false) "posts.list" "posts.**" = true ↔
      "posts.list".toList ∈ globLanguage "posts.**") ↔ ¬ DotAtStar "posts.list" "posts.**" :=
  patternMatch_fast_iff _ _
    (.any (by decide) (by decide) : FastPath ("posts.".toList ++ ['*', '*']))

/-- A dot in the place of the star is accepted. -/
theorem dot_at_star_accepted :
    ¬ (patternMatch (fun _ _ => false) "posts." "posts*" = true ↔
      "posts.".toList ∈ globLanguage "posts*") := by
  intro agrees
  have shape : "posts*".toList = "posts".toList ++ ['*'] := rfl
  have member := agrees.mp (by decide)
  obtain ⟨back, same, noDot⟩ :=
    (mem_globLanguage_segment shape (by decide) (by decide)).mp member
  have split : "posts".toList ++ ['.'] = "posts".toList ++ back := same
  rw [← List.append_cancel_left split] at noDot
  simp at noDot

end Moleculer.Utils
