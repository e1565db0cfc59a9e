/-
  Ordering clauses.

  1. **Rules** — a client's sort rule names a field, a priority (lower numbers sort first) and a
     direction; a rule whose direction asks for no sorting is inactive.
  2. **Keys** — the active rules by ascending priority, those of equal priority as they came: the
     sort is stable.
  3. **Clauses** — the keys with their senses, in a dialect.  No keys give no text.
-/
import FilterPlan.Template

namespace FilterPlan

/-! ## Rules -/

/-- A client's wish to sort by a field. -/
structure SortRule where
  field : String
  /-- The priority; rules of lower priority number come first. -/
  order : Int32 := 0
  direction : Direction := .unsorted
deriving DecidableEq

/-- A field to order by, and in which sense. -/
structure OrderingKey where
  field : String
  sense : Sense
deriving DecidableEq

namespace SortRule

/-- Holds of the rules that take part in an ordering. -/
def takesPart (r : SortRule) : Bool := r.direction ≠ .unsorted

/-- The key that an active rule asks for. -/
def key? (r : SortRule) : Option OrderingKey :=
  r.direction.sense?.map fun sense => ⟨r.field, sense⟩

/-! ## Keys -/

/-- Holds unless the second rule has to come before the first. -/
def inOrder (r s : SortRule) : Bool := r.order ≤ s.order

/-- The keys that a list of rules asks for, the most significant first. -/
def keys (rules : List SortRule) : List OrderingKey :=
  ((rules.filter takesPart).mergeSort inOrder).filterMap key?

end SortRule

/-! ## Clauses -/

namespace OrderingKey

/-- The text of a key. -/
def template (d : Dialect) (k : OrderingKey) : Template :=
  [.verbatim (d.identifier k.field), .verbatim " ", .verbatim (d.sense k.sense)]

/-- The text of keys in order. -/
def clauseTemplate (d : Dialect) (keys : List OrderingKey) : Template :=
  [Piece.verbatim d.keySeparator].intercalate (keys.map (template d))

/-- The ordering clause of keys in order. -/
def clause (d : Dialect) (keys : List OrderingKey) : String :=
  (({ } : Draft).push d (clauseTemplate d keys)).text

example : clause .dynamicLinq [⟨"Age", .desc⟩, ⟨"Name", .asc⟩] = "Age desc ,Name asc" := by decide

end OrderingKey

end FilterPlan
