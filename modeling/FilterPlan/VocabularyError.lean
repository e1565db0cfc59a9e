/-
  What can be wrong with the words of a query.

  A query names operators and directions and is read under two separator characters.  Each
  constructor is one cause of refusal, with what is needed to say it; the wording is in `message`
  alone.
-/

namespace FilterPlan

/-- Which of the two separators is meant. -/
inductive SeparatorRole
  | field
  | value
deriving DecidableEq

/-- The word for a separator's role. -/
def SeparatorRole.word : SeparatorRole → String
  | .field => "field"
  | .value => "value"

/-- Why a query's vocabulary is refused. -/
inductive VocabularyError
  /-- No operator has this code or name; a code is given by its decimal digits. -/
  | unknownOperator (label : String)
  /-- No sort direction has this code or name. -/
  | unknownDirection (label : String)
  /-- Fields and values would be split at the same character. -/
  | equalSeparators (both : Char)
  /-- The separator may occur inside identifiers, or is white space. -/
  | reservedSeparator (role : SeparatorRole) (separator : Char)
deriving DecidableEq

/-- The error in words. -/
def VocabularyError.message : VocabularyError → String
  | .unknownOperator label => "Unsupported filter operator: " ++ label
  | .unknownDirection label => "Unsupported sort direction: " ++ label
  | .equalSeparators c =>
    "Invalid condition syntax: field and value separators must differ, both are '"
      ++ c.toString ++ "'"
  | .reservedSeparator role c =>
    "Invalid condition syntax: " ++ role.word ++ " separator '" ++ c.toString
      ++ "' collides with identifier or value characters"

end FilterPlan
