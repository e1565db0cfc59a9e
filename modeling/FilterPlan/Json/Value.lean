/-
  JSON values.

  1. **Scalars** — of a number only integers keep their value: one that is written with a fraction
     or an exponent, and a negative zero, is `real` and no more.  A string that has an unpaired
     surrogate escape is no text, and is `text none`.
  2. **Values** — arrays and objects keep what they hold in the order in which it is written, and
     an object keeps members that repeat a key.  What to make of these is left to whoever decodes
     the value.
-/

namespace FilterPlan

/-- A JSON value without parts. -/
inductive Scalar
  | null
  | bool (b : Bool)
  /-- A number written as an integer. -/
  | int (n : Int)
  /-- Any other number. -/
  | real
  /-- A string, if it is a text. -/
  | text (s : Option String)
deriving DecidableEq

/-- A JSON value. -/
inductive Json
  | scalar (s : Scalar)
  | array (items : List Json)
  | object (members : List (Option String × Json))

namespace Json

/-- The value null. -/
@[match_pattern] abbrev null : Json := .scalar .null

/-- A truth value. -/
@[match_pattern] abbrev bool (b : Bool) : Json := .scalar (.bool b)

/-- An integer. -/
@[match_pattern] abbrev int (n : Int) : Json := .scalar (.int n)

/-- A text. -/
@[match_pattern] abbrev text (s : String) : Json := .scalar (.text (some s))

/-- A natural number. -/
def nat (n : Nat) : Json := .int n

/-- An object with these members, in this order. -/
def record (members : List (String × Json)) : Json :=
  .object (members.map fun (key, value) => (some key, value))

/-- The value, or null if there is none. -/
def optional {α : Type} (encode : α → Json) : Option α → Json
  | none => .null
  | some a => encode a

end Json

end FilterPlan
