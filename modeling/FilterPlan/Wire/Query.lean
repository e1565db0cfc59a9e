/-
  The parts of a query as JSON: conditions, sort rules, pages and windows, predicates and plans.

  Every part is written as a record with all of its fields, except that a plan writes null for a
  part it does not have.  Conditions and sort rules are read with the defaults of their fields and
  with operators and directions that exist.
-/
import FilterPlan.Wire.Vocabulary
import FilterPlan.Condition
import FilterPlan.Ordering
import FilterPlan.Plan

namespace FilterPlan

/-! ## Conditions and sort rules -/

/-- A condition as a record. -/
def Condition.toJson (c : Condition) : Json :=
  .record [("field", .text c.field), ("value", .text c.value), ("operator", c.operator.toJson),
    ("skipIfValueEmpty", .bool c.skipIfBlank)]

/-- A condition from a record; value and flag may be left out. -/
def Condition.ofJson? (j : Json) : Option Condition := do
  let row ← j.row? [["field"], ["value"], ["operator"], ["skipIfValueEmpty"]]
  let field ← row.required 0 Json.text?
  let value ← row.optional 1 Json.text? ""
  let operator ← row.required 2 Operator.ofJson?
  let skipIfBlank ← row.optional 3 Json.bool? true
  return { field, value, operator, skipIfBlank }

/-- An integer of 32 bits. -/
def int32? (j : Json) : Option Int32 :=
  (j.intWithin? (-2147483648) 2147483648).map Int32.ofInt

/-- A sort rule as a record. -/
def SortRule.toJson (r : SortRule) : Json :=
  .record [("field", .text r.field), ("order", .int r.order.toInt),
    ("direction", r.direction.toJson)]

/-- A sort rule from a record; the direction may also be called its type. -/
def SortRule.ofJson? (j : Json) : Option SortRule := do
  let row ← j.row? [["field"], ["order"], ["direction", "type"]]
  let field ← row.required 0 Json.text?
  let order ← row.optional 1 int32? 0
  let direction ← row.optional 2 Direction.ofJson? .unsorted
  return { field, order, direction }

/-! ## Pages and windows -/

/-- A page as a record. -/
def Page.toJson (p : Page) : Json :=
  .record [("pageNumber", .nat p.number.toNat), ("pageSize", .nat p.size.toNat)]

/-- A page from a record. -/
def Page.ofJson? (j : Json) : Option Page := do
  let row ← j.row? [["pageNumber"], ["pageSize"]]
  let number ← row.required 0 (Json.natBelow? UInt32.size)
  let size ← row.required 1 (Json.natBelow? UInt32.size)
  return ⟨.ofNat number, .ofNat size⟩

/-- A window as a record. -/
def Window.toJson (w : Window) : Json :=
  .record [("offset", .nat w.offset.toNat), ("limit", .nat w.limit.toNat)]

/-- A window from a record. -/
def Window.ofJson? (j : Json) : Option Window := do
  let row ← j.row? [["offset"], ["limit"]]
  let offset ← row.required 0 (Json.natBelow? UInt64.size)
  let limit ← row.required 1 (Json.natBelow? UInt64.size)
  return ⟨.ofNat offset, .ofNat limit⟩

/-! ## Predicates and plans -/

/-- A predicate as a record. -/
def Predicate.toJson (p : Predicate) : Json :=
  .record [("expression", .text p.expression), ("arguments", .array (p.arguments.map .text))]

/-- A predicate from a record. -/
def Predicate.ofJson? (j : Json) : Option Predicate := do
  let row ← j.row? [["expression"], ["arguments"]]
  let expression ← row.required 0 Json.text?
  let arguments ← row.required 1 (Json.list? Json.text?)
  return ⟨expression, arguments⟩

/-- A plan as a record. -/
def Plan.toJson (p : Plan) : Json :=
  .record [("filter", .optional Predicate.toJson p.filter),
    ("ordering", .optional .text p.ordering), ("page", .optional Window.toJson p.page)]

end FilterPlan
