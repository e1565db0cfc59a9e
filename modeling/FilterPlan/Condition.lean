/-
  Filter conditions as clients state them.
-/
import FilterPlan.Operator
import FilterPlan.Separators

namespace FilterPlan

/-- A test of one field, or the same test of several. -/
structure Condition where
  /-- One field, or a list of fields with an optional group marker. -/
  field : String
  /-- The value to test against; it may pack several. -/
  value : String := ""
  operator : Operator
  /-- Holds when a blank value means no test at all, rather than a test for null. -/
  skipIfBlank : Bool := true
deriving DecidableEq

namespace Condition

/-- Holds when no field is named at all. -/
def fieldIsBlank (c : Condition) : Bool := Text.allBlank c.field

/-- Holds when there is no value to test against. -/
def valueIsBlank (c : Condition) : Bool := Text.allBlank c.value

/-- The same test of another field. -/
def retarget (c : Condition) (field : String) : Condition := { c with field }

/-- The fields the condition applies to. -/
def targets (s : Separators) (c : Condition) : Targets := s.targets c.field

/-- The condition in words, for reports. -/
def display (c : Condition) : String :=
  c.field ++ " " ++ c.operator.name ++ " '" ++ c.value ++ "'"

end Condition

end FilterPlan
