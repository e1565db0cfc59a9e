/-
  Names compared without regard to case.

  1. **Case** — `foldCase` lower-cases the ASCII letters and leaves every other character alone.
  2. **Bare names** — `bareName` deletes `_` and `-` and lower-cases what is left, letters of every
     script, so that `not_in`, `Not-In` and `NOTIN` are one name.
-/
import FilterPlan.Text.LowerCase

namespace FilterPlan.Text

/-- The text with its ASCII letters in lower case. -/
def foldCase (s : String) : String := String.ofList (s.toList.map Char.toLower)

/-- Holds of the characters that only set words of a name apart. -/
def isJoiner (c : Char) : Bool := c == '_' || c == '-'

/-- The characters of a name that count, in lower case: all but the joiners. -/
def bareName (s : String) : List Char := (s.toList.filter fun c => !isJoiner c).flatMap lowerCase

example : bareName "Not_In" = "notin".toList := by decide
example : bareName "-1" = ['1'] := by decide

end FilterPlan.Text
