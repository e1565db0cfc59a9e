/-
  Requests as JSON.

  1. **Entries** — a request is read in two passes.  The first settles its shape and takes labels
     for operators and directions as they are; whatever is wrong with the shape, anywhere in the
     text, is found here.
  2. **Resolution** — the second looks the labels up, all conditions before all sort rules, and
     ends at the first one that nothing answers to.  A direction that is null is one that was left
     out.
-/
import FilterPlan.Wire.Query
import FilterPlan.Request
import FilterPlan.PlanError
import FilterPlan.Json.Reader

namespace FilterPlan

/-! ## Entries -/

/-- A condition of a request, its operator not yet looked up. -/
structure ConditionEntry where
  field : String
  value : String
  operator : Label
  skipIfBlank : Bool

/-- A sort rule of a request, its direction not yet looked up. -/
structure SortEntry where
  field : String
  order : Int32
  direction : Option Label

/-- A request whose labels are not yet looked up. -/
structure RequestEntry where
  conditions : List ConditionEntry
  sorts : List SortEntry
  page : Option Page

/-- The entry for a condition, from a record. -/
def ConditionEntry.ofJson? (j : Json) : Option ConditionEntry := do
  let row ← j.row? [["field"], ["value"], ["operator"], ["skipIfValueEmpty"]]
  let field ← row.required 0 Json.text?
  let value ← row.optional 1 Json.text? ""
  let operator ← row.required 2 Label.ofJson?
  let skipIfBlank ← row.optional 3 Json.bool? true
  return { field, value, operator, skipIfBlank }

/-- The entry for a sort rule, from a record. -/
def SortEntry.ofJson? (j : Json) : Option SortEntry := do
  let row ← j.row? [["field"], ["order"], ["direction", "type"]]
  let field ← row.required 0 Json.text?
  let order ← row.optional 1 int32? 0
  let direction ← row.optional 2 (Json.nullable? Label.ofJson?) none
  return { field, order, direction }

/-- The entry for a request, from a record. -/
def RequestEntry.ofJson? (j : Json) : Option RequestEntry := do
  let row ← j.row? [["conditions"], ["sorts"], ["page"]]
  let conditions ← row.optional 0 (Json.list? ConditionEntry.ofJson?) []
  let sorts ← row.optional 1 (Json.list? SortEntry.ofJson?) []
  let page ← row.optional 2 (Json.nullable? Page.ofJson?) none
  return { conditions, sorts, page }

/-! ## Resolution -/

/-- The condition of an entry. -/
def ConditionEntry.resolve (e : ConditionEntry) : Except VocabularyError Condition :=
  (Operator.ofLabel e.operator).map fun operator =>
    { field := e.field, value := e.value, operator, skipIfBlank := e.skipIfBlank }

/-- The sort rule of an entry. -/
def SortEntry.resolve (e : SortEntry) : Except VocabularyError SortRule :=
  match e.direction with
  | none => .ok { field := e.field, order := e.order }
  | some label =>
    (Direction.ofLabel label).map fun direction =>
      { field := e.field, order := e.order, direction }

/-- The request of an entry. -/
def RequestEntry.resolve (e : RequestEntry) : Except VocabularyError Request := do
  let conditions ← e.conditions.mapM ConditionEntry.resolve
  let sorts ← e.sorts.mapM SortEntry.resolve
  return { conditions, sorts, page := e.page }

namespace Request

/-- A request from a text. -/
def ofText (text : String) : Except PlanError Request :=
  match (Json.read? text).bind RequestEntry.ofJson? with
  | none => .error .malformedRequest
  | some entry => entry.resolve.mapError .vocabulary

/-- A request as a record. -/
def toJson (r : Request) : Json :=
  .record [("conditions", .array (r.conditions.map Condition.toJson)),
    ("sorts", .array (r.sorts.map SortRule.toJson)), ("page", .optional Page.toJson r.page)]

end Request

end FilterPlan
