/-
  Settings as JSON.

  Separators and settings may leave out anything, which then is as in the standard settings.
  Settings that come as a text are also validated: `ofText` refuses separators that would make
  packed texts ambiguous.
-/
import FilterPlan.Wire.Vocabulary
import FilterPlan.Json.Reader
import FilterPlan.Settings
import FilterPlan.PlanError

namespace FilterPlan

/-- Separators as a record. -/
def Separators.toJson (s : Separators) : Json :=
  .record [("fieldSeparator", .text s.field.toString), ("valueSeparator", .text s.value.toString)]

/-- Separators from a record, without validation. -/
def Separators.ofJson? (j : Json) : Option Separators := do
  let row ← j.row? [["fieldSeparator"], ["valueSeparator"]]
  let standard : Separators := { }
  let field ← row.optional 0 Json.char? standard.field
  let value ← row.optional 1 Json.char? standard.value
  return ⟨field, value⟩

namespace Settings

/-- Settings as a record. -/
def toJson (s : Settings) : Json :=
  .record [("syntax", s.separators.toJson), ("dialect", s.dialect.toJson)]

/-- Settings from a record, without validation. -/
def ofJson? (j : Json) : Option Settings := do
  let row ← j.row? [["syntax"], ["dialect"]]
  let separators ← row.optional 0 Separators.ofJson? { }
  let dialect ← row.optional 1 Dialect.ofJson? .dynamicLinq
  return ⟨separators, dialect⟩

/-- Settings from a text, their separators validated. -/
def ofText (text : String) : Except PlanError Settings :=
  match (Json.read? text).bind ofJson? with
  | none => .error .malformedSettings
  | some s => (s.separators.validate.map fun _ => s).mapError .vocabulary

end Settings

end FilterPlan
