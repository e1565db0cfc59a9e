/-
  Identifiers in double quotes.

  1. **One name** — `quoted` puts a name between double quotes and writes every double quote
     inside it twice, so the name ends at the first lone quote whatever it holds.
  2. **A path** — `quotedPath` quotes each segment of a dotted path and keeps the dots outside.
-/
import FilterPlan.Text.Split

namespace FilterPlan.Text

/-- The characters of a name with each double quote doubled. -/
def doubleQuotes (cs : List Char) : List Char :=
  cs.flatMap fun c => if c = '"' then ['"', '"'] else [c]

/-- The name between double quotes. -/
def quoted (s : String) : String := String.ofList ('"' :: doubleQuotes s.toList ++ ['"'])

/-- The dotted path with each segment between double quotes. -/
def quotedPath (path : String) : String := join '.' ((pieces '.' path).map quoted)

example : quotedPath "Owner.Na\"me" = "\"Owner\".\"Na\"\"me\"" := by decide
example : quotedPath "" = "\"\"" := by decide

end FilterPlan.Text
