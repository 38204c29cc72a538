import Mathlib

/-! The string matcher for dot-separated event and action names. -/

namespace Moleculer.Utils

/-- `replace` of all occurrences of a text, from left to right and without overlaps. After a
replacement, the first argument counts the characters of the occurrence that are still to skip. -/
def replaceFrom (find replacement : List Char) : Nat → List Char → List Char
  | _, [] => []
  | skip + 1, _ :: rest => replaceFrom find replacement skip rest
  | 0, char :: rest =>
    if find.isPrefixOf (char :: rest) then
      replacement ++ replaceFrom find replacement (find.length - 1) rest
    else char :: replaceFrom find replacement 0 rest

/-- `String.replace` with a global regular expression for a fixed text. -/
def replaceAll (find replacement text : List Char) : List Char :=
  replaceFrom find replacement 0 text

/-- The source of the regular expression that stands for a pattern. -/
def regexSource (pattern : List Char) : List Char :=
  let pattern := if pattern.head? = some '$' then '\\' :: pattern else pattern
  let pattern := replaceAll ['?'] ['.'] pattern
  let pattern := replaceAll ['*', '*'] ['§', '§', '§'] pattern
  let pattern := replaceAll ['*'] ['[', '^', '\\', '.', ']', '*'] pattern
  let pattern := replaceAll ['§', '§', '§'] ['.', '*'] pattern
  '^' :: pattern ++ ['$']

/-- `utils.match`, where `test` runs a regular expression on a text. -/
def patternMatch (test : String → String → Bool) (text pattern : String) : Bool :=
  let chars := pattern.toList
  let len := chars.length
  if '?' ∈ chars then test (String.ofList (regexSource chars)) text
  else match chars.idxOf? '*' with
    -- Exact match (eg. "prefix.event").
    | none => pattern = text
    | some first =>
      -- Eg. "prefix**".
      if len > 2 ∧ chars.drop (len - 2) = ['*', '*'] ∧ first > len - 3 then
        (chars.take (len - 2)).isPrefixOf text.toList
      -- Eg. "prefix*".
      else if len > 1 ∧ chars.drop (len - 1) = ['*'] ∧ first > len - 2 then
        (chars.take (len - 1)).isPrefixOf text.toList && !('.' ∈ text.toList.drop len)
      -- Accept simple text, without point character (*).
      else if len = 1 ∧ first = 0 then !('.' ∈ text.toList)
      -- Accept all inputs (**).
      else if len = 2 ∧ first = 0 ∧ chars.drop 1 = ['*'] then true
      else test (String.ofList (regexSource chars)) text

end Moleculer.Utils
