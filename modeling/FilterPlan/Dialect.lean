/-
  The two languages that a query can be written in.

  1. **Spelling** — identifiers, placeholders, comparisons, connectives and sort senses each have
     one spelling per dialect.  Dynamic LINQ takes a member path as it is and numbers placeholders
     from zero; PostgreSQL quotes every segment of a path and numbers them from one.
  2. **Names** — `name` is what a dialect is called in reports, `ofName` the reading of what a
     user calls it.
-/
import FilterPlan.Formula
import FilterPlan.Direction
import FilterPlan.Text.Quoted

namespace FilterPlan

/-- A language for filters and orderings. -/
inductive Dialect
  | dynamicLinq
  | postgres
deriving DecidableEq

/-- No dialect goes by this name. -/
structure UnknownDialect where
  /-- The name, trimmed and in lower case. -/
  name : String
deriving DecidableEq

/-- The error in words. -/
def UnknownDialect.message (e : UnknownDialect) : String := "unknown dialect: " ++ e.name

namespace Dialect

/-! ## Spelling -/

/-- A field as an identifier. -/
def identifier (field : String) : Dialect → String
  | .dynamicLinq => field
  | .postgres => Text.quotedPath field

/-- The placeholder for the argument at this index, counted from zero. -/
def placeholder (index : Nat) : Dialect → String
  | .dynamicLinq => "@" ++ Text.decimal index
  | .postgres => "$" ++ Text.decimal (index + 1)

/-- The sign between two compared values. -/
def comparison : Dialect → Comparison → String
  | .dynamicLinq, .eq => "=="
  | .dynamicLinq, .ne => "!="
  | .postgres, .eq => "="
  | .postgres, .ne => "<>"
  | _, .gt => ">"
  | _, .ge => ">="
  | _, .lt => "<"
  | _, .le => "<="

/-- The comparison of an identifier with null. -/
def nullTest (d : Dialect) (ident : String) (op : Comparison) : String :=
  match d, op with
  | .dynamicLinq, op => ident ++ " " ++ comparison .dynamicLinq op ++ " null"
  | .postgres, .eq => ident ++ " IS NULL"
  | .postgres, .ne => ident ++ " IS NOT NULL"
  | .postgres, op => ident ++ " " ++ comparison .postgres op ++ " NULL"

/-- The word between joined terms. -/
def connective : Dialect → Connective → String
  | .dynamicLinq, .and => "and"
  | .dynamicLinq, .or => "or"
  | .postgres, .and => "AND"
  | .postgres, .or => "OR"

/-- The word after an ordering key. -/
def sense : Dialect → Sense → String
  | .dynamicLinq, .asc => "asc"
  | .dynamicLinq, .desc => "desc"
  | .postgres, .asc => "ASC"
  | .postgres, .desc => "DESC"

/-- What stands between two ordering keys. -/
def keySeparator : Dialect → String
  | .dynamicLinq => " ,"
  | .postgres => ", "

/-! ## Names -/

/-- The dialect's name in reports. -/
def name : Dialect → String
  | .dynamicLinq => "DynamicLinq"
  | .postgres => "PostgreSQL"

/-- The names a user may call the dialect by. -/
def spellings : Dialect → List String
  | .dynamicLinq => ["dynamiclinq", "dynamic-linq", "linq"]
  | .postgres => ["postgres", "postgresql", "pg"]

/-- The dialect a user's name stands for, ASCII case and surrounding white space aside. -/
def ofName (s : String) : Except UnknownDialect Dialect :=
  let wanted := Text.foldCase (Text.trim s)
  match [Dialect.dynamicLinq, .postgres].find? fun d => d.spellings.contains wanted with
  | some d => .ok d
  | none => .error ⟨wanted⟩

example : ofName " LINQ " = .ok .dynamicLinq := rfl
example : ofName "Oracle" = .error ⟨"oracle"⟩ := rfl

end Dialect

end FilterPlan
