/-
  Decoding JSON values into data of a known shape.

  1. **Scalars and lists** — each decoder takes the values of one kind and refuses all others;
     integers are taken within bounds.
  2. **Records** — a record is given either as an object, by name, or as an array, by position.
     `row?` finds what was given for each field.  In an object every key must be a text, keys that
     name no field are ignored, and a field given twice is refused, also under two names; an array
     must not be longer than the record, and may leave out fields at its end.
  3. **Fields** — what a field that is not given means is the field's own matter: `required`
     refuses, `optional` has a default.
-/
import FilterPlan.Json.Value

namespace FilterPlan.Json

/-! ## Scalars and lists -/

/-- A text. -/
def text? : Json → Option String
  | .text s => some s
  | _ => none

/-- A truth value. -/
def bool? : Json → Option Bool
  | .bool b => some b
  | _ => none

/-- An integer between two bounds, the upper one excluded. -/
def intWithin? (lower upper : Int) : Json → Option Int
  | .int n => if lower ≤ n ∧ n < upper then some n else none
  | _ => none

/-- A natural number below a bound. -/
def natBelow? (bound : Nat) (j : Json) : Option Nat := (j.intWithin? 0 bound).map Int.toNat

/-- A text of exactly one character. -/
def char? (j : Json) : Option Char :=
  match j.text?.map String.toList with
  | some [c] => some c
  | _ => none

/-- An array whose items can all be decoded. -/
def list? {α : Type} (decode : Json → Option α) : Json → Option (List α)
  | .array items => items.mapM decode
  | _ => none

/-- The value unless it is null, which decodes to nothing. -/
def nullable? {α : Type} (decode : Json → Option α) : Json → Option (Option α)
  | .null => some none
  | j => (decode j).map some

/-- The name of a choice: a text, or an object whose only member has it as key and null as
    value. -/
def choice? : Json → Option String
  | .text s => some s
  | .object [(some s, .null)] => some s
  | _ => none

/-! ## Records -/

/-- What was given for each field of a record, in the order of the fields. -/
abbrev Row := List (Option Json)

/-- What the members give for a field with these names; refused if they give it twice. -/
def given? (names : List String) (members : List (Option String × Json)) : Option (Option Json) :=
  match members.filter fun m => m.1.any names.contains with
  | [] => some none
  | [m] => some (some m.2)
  | _ => none

/-- What is given for each field of a record whose fields have these names. -/
def row? (fields : List (List String)) : Json → Option Row
  | .object members =>
    if members.all fun m => m.1.isSome then fields.mapM fun names => given? names members
    else none
  | .array items => if items.length ≤ fields.length then some (items.map some) else none
  | _ => none

/-! ## Fields -/

namespace Row

/-- What was given for the field at this place. -/
def given (row : Row) (i : Nat) : Option Json := row[i]?.join

/-- A field that has to be given. -/
def required {α : Type} (row : Row) (i : Nat) (decode : Json → Option α) : Option α :=
  (row.given i).bind decode

/-- A field that has a default. -/
def optional {α : Type} (row : Row) (i : Nat) (decode : Json → Option α) (default : α) :
    Option α :=
  match row.given i with
  | none => some default
  | some j => decode j

end Row

example : (row? [["a"], ["b", "c"]] (record [("c", .null), ("x", .null)])).isSome := by decide
example : (row? [["b", "c"]] (record [("c", .null), ("b", .null)])).isNone := by decide

end FilterPlan.Json
