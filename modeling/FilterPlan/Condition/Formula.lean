/-
  From conditions to formulas.

  1. **One field** — `Condition.testOf?` is what a condition says about one of its fields.  A
     blank value says nothing, or compares with null; otherwise the operator's shape decides.
  2. **One condition** — `Condition.formula?` tests every target.  A field list gives a group
     under the list's connective; a single field gives its test as it is.
  3. **The crux** — the only failure is a range whose value does not pack two bounds, and it is
     met only where a test is really made: after the blank value and the missing field were
     turned away.
-/
import FilterPlan.Condition

namespace FilterPlan

/-- A range whose value does not pack exactly two bounds. -/
structure MalformedRange where
  /-- The field that was to be tested. -/
  field : String
  /-- The value as it was given. -/
  value : String
  /-- How many bounds it packs. -/
  bounds : Nat
deriving DecidableEq

/-- The error in words. -/
def MalformedRange.message (e : MalformedRange) : String :=
  "Incorrect number of filter values after splitting: " ++ e.value

/-! ## One field -/

/-- The field compared with each packed value; no formula when nothing is packed. -/
def membership? (s : Separators) (op : Comparison) (join : Connective) (field value : String) :
    Option Formula :=
  Formula.bare? join ((s.valuesIn value).map fun v => .atom (.compare field op v))

/-- The field between the two packed bounds. -/
def rangeTest (s : Separators) (lower upper : Comparison) (field value : String) :
    Except MalformedRange (Option Formula) :=
  match s.valuesIn value with
  | [start, stop] =>
    .ok (Formula.bare? .and
      [.atom (.compare field lower start), .atom (.compare field upper stop)])
  | bounds => .error ⟨field, value, bounds.length⟩

/-- What an operator of this shape says about a field and a value that is not blank. -/
def Operator.Shape.test? (s : Separators) (field value : String) :
    Operator.Shape → Except MalformedRange (Option Formula)
  | .comparison op => .ok (some (.atom (.compare field op value)))
  | .text test => .ok (some (.atom (.text field test value)))
  | .membership op join => .ok (membership? s op join field value)
  | .range lower upper => rangeTest s lower upper field value

namespace Condition

/-- What the condition says about one field; no formula when it says nothing. -/
def testOf? (s : Separators) (c : Condition) (field : String) :
    Except MalformedRange (Option Formula) :=
  if !c.valueIsBlank then c.operator.shape.test? s field c.value
  else if c.skipIfBlank then .ok none
  else .ok (c.operator.nullTest?.map fun op => .atom (.null field op))

/-! ## One condition -/

/-- What the condition says about all of its targets; no formula when it says nothing. -/
def formula? (s : Separators) (c : Condition) : Except MalformedRange (Option Formula) :=
  let targets := c.targets s
  if targets.listed then
    (targets.fields.mapM (c.testOf? s)).map fun tests =>
      Formula.grouped? targets.join (tests.filterMap id)
  else
    match targets.fields with
    | [] => .ok none
    | field :: _ => c.testOf? s field

example : ({ field := "and|x, y", operator := .less, value := "7" } : Condition).formula? { } =
    .ok (some (.junction .and true
      [.atom (.compare "x" .lt "7"), .atom (.compare "y" .lt "7")])) := rfl
example : ({ field := "x", operator := .between, value := "7|" } : Condition).formula? { } =
    .error ⟨"x", "7|", 1⟩ := rfl

end Condition

end FilterPlan
