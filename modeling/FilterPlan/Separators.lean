/-
  The two characters that pack several things into one text.

  1. **Packing** — `a,b` names two fields and `1|2` packs two values, under the standard
     separators.  Any two characters may take their place.
  2. **Splitting** — fields lose the white space around them and empty ones are dropped; values
     are taken as they are, and only empty ones are dropped.
  3. **Targets** — a field text may begin with a group marker, `or` or `and` before the first
     value separator; what follows is one field, or a list of them.
  4. **Validation** — separators that differ from one another and from every character of an
     identifier keep packing unambiguous; `validate` refuses the others.
-/
import FilterPlan.Text.Blank
import FilterPlan.Text.Alphanumeric
import FilterPlan.Text.Name
import FilterPlan.Text.Split
import FilterPlan.VocabularyError
import FilterPlan.Formula

namespace FilterPlan

/-- The characters at which field lists and packed values are split. -/
structure Separators where
  field : Char := ','
  value : Char := '|'
deriving DecidableEq

/-- The word that marks a group of fields joined this way. -/
def Connective.word : Connective → String
  | .or => "or"
  | .and => "and"

/-- The connective that a group marker asks for, case and surrounding white space aside. -/
def Connective.ofMarker? (marker : String) : Option Connective :=
  [Connective.or, .and].find? fun c => Text.foldCase (Text.trim marker) == c.word

/-- The fields that a condition applies to. -/
structure Targets where
  /-- How the tests of several fields are joined. -/
  join : Connective
  fields : List String
  /-- Holds when the fields were given as a list, even one that leaves a single field. -/
  listed : Bool
deriving DecidableEq

namespace Separators

/-! ## Splitting -/

/-- The packed values, empty ones dropped. -/
def valuesIn (s : Separators) (value : String) : List String :=
  (Text.pieces s.value value).filter (· ≠ "")

/-- The listed fields, each trimmed, empty ones dropped. -/
def fieldsIn (s : Separators) (fields : String) : List String :=
  ((Text.pieces s.field fields).map Text.trim).filter (· ≠ "")

/-- Holds of texts with a field separator in them. -/
def listsFields (s : Separators) (fields : String) : Bool := fields.toList.contains s.field

/-! ## Targets -/

/-- The connective a field text asks for and what is left without the marker.  Only the text
    before the first value separator can be a marker; without one the connective is OR. -/
def readMarker (s : Separators) (field : String) : Connective × String :=
  match Text.cut? s.value field with
  | none => (.or, field)
  | some (marker, rest) =>
    match Connective.ofMarker? marker with
    | some join => (join, rest)
    | none => (.or, field)

/-- The fields that a field text names. -/
def targets (s : Separators) (field : String) : Targets :=
  let (join, rest) := s.readMarker field
  if s.listsFields rest then ⟨join, s.fieldsIn rest, true⟩
  else ⟨join, [Text.trim rest].filter (· ≠ ""), false⟩

/-! ## Validation -/

/-- Holds of the characters that a separator must not be. -/
def isReserved (c : Char) : Bool :=
  Text.isBlank c || Text.isAlphanumeric c || c == '_' || c == '.'

/-- Refuses separators that would make packed texts ambiguous: equal ones first, then a reserved
    field separator, then a reserved value separator. -/
def validate (s : Separators) : Except VocabularyError Unit :=
  if s.field = s.value then .error (.equalSeparators s.field)
  else if isReserved s.field then .error (.reservedSeparator .field s.field)
  else if isReserved s.value then .error (.reservedSeparator .value s.value)
  else .ok ()

example : ({} : Separators).targets "AND| a ,b," = ⟨.and, ["a", "b"], true⟩ := by decide
example : ({} : Separators).targets "nor|a" = ⟨.or, ["nor|a"], false⟩ := by decide
example : ({} : Separators).valuesIn "a|| |b" = ["a", " ", "b"] := by decide
example : isReserved '|' = false := by decide +kernel
example : isReserved 'é' = true := by decide

end Separators

end FilterPlan
