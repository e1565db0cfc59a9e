/-
  Writing on a draft.

  1. **Writings** — what a draft takes in one go: plain text, an identifier, the placeholder of a
     value, a formula or an ordering.
  2. **Runs** — writings on one draft, one after the other.
-/
import FilterPlan.Formula.Template
import FilterPlan.Ordering

namespace FilterPlan

/-! ## Writings -/

/-- What can be written in one go. -/
inductive Writing
  /-- Text as it is. -/
  | verbatim (text : String)
  /-- A field as an identifier. -/
  | identifier (field : String)
  /-- A placeholder that stands for the value. -/
  | argument (value : String)
  | formula (f : Formula)
  | ordering (keys : List OrderingKey)

/-- The template of a writing. -/
def Writing.template (d : Dialect) : Writing → Template
  | .verbatim text => [.verbatim text]
  | .identifier field => [.verbatim (d.identifier field)]
  | .argument value => [.argument value]
  | .formula f => f.template d
  | .ordering keys => OrderingKey.clauseTemplate d keys

/-! ## Runs -/

namespace Draft

/-- The draft with one writing more. -/
def write (d : Dialect) (draft : Draft) (w : Writing) : Draft := draft.push d (w.template d)

/-- The draft at the end of a run. -/
def writeAll (d : Dialect) (draft : Draft) (ws : List Writing) : Draft := ws.foldl (write d) draft

example : ({ } : Draft).writeAll .postgres [.argument "x", .verbatim " <> ", .identifier "a",
    .formula (.junction .or true []), .verbatim " AND ", .formula (.atom (.compare "b" .eq "y"))]
      = ⟨"$1 <> \"a\" AND \"b\" = $2", ["x", "y"]⟩ := by decide

end Draft

end FilterPlan
