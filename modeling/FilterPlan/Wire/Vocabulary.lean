/-
  The vocabulary of queries as JSON.

  1. **Operators and directions** are written as their codes, and read from a code or a name.  A
     code is any number of 64 bits as far as its shape goes: whether an operator has it is asked
     by `ofLabel` alone.
  2. **Connectives and dialects** are choices by name.
-/
import FilterPlan.Json.Record
import FilterPlan.Operator
import FilterPlan.Direction
import FilterPlan.Dialect
import FilterPlan.Separators

namespace FilterPlan

/-- A label: a code or a name. -/
def Label.ofJson? : Json → Option Label
  | .text s => some (.name s)
  | j => (j.natBelow? UInt64.size).map .code

/-- An operator as its code. -/
def Operator.toJson (op : Operator) : Json := .nat op.code

/-- An operator from a label that some operator has. -/
def Operator.ofJson? (j : Json) : Option Operator :=
  (Label.ofJson? j).bind fun label => (Operator.ofLabel label).toOption

/-- A direction as its code. -/
def Direction.toJson (d : Direction) : Json := .nat d.code

/-- A direction from a label that some direction has. -/
def Direction.ofJson? (j : Json) : Option Direction :=
  (Label.ofJson? j).bind fun label => (Direction.ofLabel label).toOption

/-- A connective as its word. -/
def Connective.toJson (c : Connective) : Json := .text c.word

/-- A connective from its word. -/
def Connective.ofJson? (j : Json) : Option Connective :=
  j.choice?.bind fun s => [Connective.or, .and].find? fun c => c.word == s

/-- The word that chooses a dialect. -/
def Dialect.word : Dialect → String
  | .dynamicLinq => "dynamicLinq"
  | .postgres => "postgres"

/-- A dialect as its word. -/
def Dialect.toJson (d : Dialect) : Json := .text d.word

/-- A dialect from its word. -/
def Dialect.ofJson? (j : Json) : Option Dialect :=
  j.choice?.bind fun s => [Dialect.dynamicLinq, .postgres].find? fun d => d.word == s

end FilterPlan
