/-
  Formulas as templates.

  1. **Atoms** — a comparison binds its value, a comparison with null binds nothing, and a text
     test binds one argument: the value itself in Dynamic LINQ, in PostgreSQL a LIKE pattern for
     the texts that begin with, end with or contain the value.
  2. **Junctions** — the connective stands between the terms.  A term stands in parentheses when
     the junction is grouped, or when it is itself a junction of the other connective; so no term
     can be torn apart by precedence.
-/
import FilterPlan.Template
import FilterPlan.Text.Like

namespace FilterPlan

/-! ## Atoms -/

/-- The method that a text test calls in Dynamic LINQ. -/
def TextTest.method : TextTest → String
  | .startsWith => "StartsWith"
  | .endsWith => "EndsWith"
  | .contains => "Contains"

/-- The LIKE pattern of the texts that pass the test for this value. -/
def TextTest.likePattern (value : String) : TextTest → String
  | .startsWith => Text.likeLiteral value ++ "%"
  | .endsWith => "%" ++ Text.likeLiteral value
  | .contains => "%" ++ Text.likeLiteral value ++ "%"

/-- The test of a field's text for a value. -/
def TextTest.template (field : String) (test : TextTest) (value : String) : Dialect → Template
  | .dynamicLinq =>
    [.verbatim (Dialect.dynamicLinq.identifier field), .verbatim ("." ++ test.method ++ "("),
      .argument value, .verbatim ")"]
  | .postgres =>
    [.verbatim (Dialect.postgres.identifier field), .verbatim " LIKE ",
      .argument (test.likePattern value), .verbatim " ESCAPE '\\'"]

/-- The text of an atom. -/
def Atom.template (d : Dialect) : Atom → Template
  | .compare field op value =>
    [.verbatim (d.identifier field), .verbatim (" " ++ d.comparison op ++ " "), .argument value]
  | .null field op => [.verbatim (d.nullTest (d.identifier field) op)]
  | .text field test value => test.template field value d

/-! ## Junctions -/

namespace Formula

/-- Holds of terms that need parentheses of their own under this connective. -/
def clashes (op : Connective) : Formula → Bool
  | .atom _ => false
  | .junction inner _ _ => inner ≠ op

/-- The template, in parentheses if these are asked for. -/
def enclose (parens : Bool) (t : Template) : Template :=
  if parens then .verbatim "(" :: t ++ [.verbatim ")"] else t

mutual

/-- The text of a formula. -/
def template (d : Dialect) : Formula → Template
  | .atom a => a.template d
  | .junction op grouped terms => joined d op grouped terms

/-- The text of joined terms; no terms give no text. -/
def joined (d : Dialect) (op : Connective) (grouped : Bool) : List Formula → Template
  | [] => []
  | term :: rest =>
    let first := enclose (grouped || term.clashes op) (term.template d)
    match rest with
    | [] => first
    | _ :: _ => first ++ .verbatim (" " ++ d.connective op ++ " ") :: joined d op grouped rest

end

example : (({ } : Draft).push .dynamicLinq (template .dynamicLinq
    (.junction .and true [.atom (.compare "Age" .ge "18"), .atom (.null "Name" .eq)])))
      = ⟨"(Age >= @0) and (Name == null)", ["18"]⟩ := by decide

end Formula

end FilterPlan
