/-
  Patterns of SQL's LIKE.

  In a pattern `%` stands for any text, `_` for any one character, and the escape character `\`
  makes the character after it stand for itself.  `likeLiteral` writes the pattern that stands
  for one given text: each of the three is escaped, all else is as it is.
-/

namespace FilterPlan.Text

/-- Holds of the characters that mean something else than themselves in a pattern. -/
def isLikeSpecial (c : Char) : Bool := c == '\\' || c == '%' || c == '_'

/-- The pattern for one character. -/
def likeChar (c : Char) : List Char := if isLikeSpecial c then ['\\', c] else [c]

/-- The pattern that stands for exactly this text. -/
def likeLiteral (s : String) : String := String.ofList (s.toList.flatMap likeChar)

@[simp] theorem toList_likeLiteral (s : String) :
    (likeLiteral s).toList = s.toList.flatMap likeChar := by
  simp [likeLiteral]

example : likeLiteral "50%_\\" = "50\\%\\_\\\\" := by decide

end FilterPlan.Text
