/-
  The filter operators.

  1. **Vocabulary** — fifteen operators, each with a wire code (its place in `all`) and a name.
  2. **Shape** — what an operator does with a value: compare with it as a whole, match text,
     compare with each of the packed values, or take them as two bounds.  The shape is all that
     the rest of the library asks about an operator.
  3. **Lookup** — by code; by name, where a text that is a numeral up to 255 counts as a code and
     any other is compared as a bare name.
-/
import FilterPlan.Formula
import FilterPlan.Text.Blank
import FilterPlan.Text.Name
import FilterPlan.Text.Numeral
import FilterPlan.VocabularyError
import FilterPlan.Label

namespace FilterPlan

/-! ## Vocabulary -/

/-- The test a condition applies to its field. -/
inductive Operator
  | equal
  | notEqual
  | greater
  | greaterEqual
  | less
  | lessEqual
  | startsWith
  | endsWith
  | oneOf
  | noneOf
  | contains
  | between
  | betweenEqualStart
  | betweenEqualEnd
  | betweenEqualStartAndEnd
deriving DecidableEq

namespace Operator

/-- All operators in the order of their codes. -/
def all : List Operator :=
  [.equal, .notEqual, .greater, .greaterEqual, .less, .lessEqual, .startsWith, .endsWith, .oneOf,
    .noneOf, .contains, .between, .betweenEqualStart, .betweenEqualEnd, .betweenEqualStartAndEnd]

/-- The number that stands for the operator on the wire. -/
def code : Operator → Nat
  | .equal => 0
  | .notEqual => 1
  | .greater => 2
  | .greaterEqual => 3
  | .less => 4
  | .lessEqual => 5
  | .startsWith => 6
  | .endsWith => 7
  | .oneOf => 8
  | .noneOf => 9
  | .contains => 10
  | .between => 11
  | .betweenEqualStart => 12
  | .betweenEqualEnd => 13
  | .betweenEqualStartAndEnd => 14

/-- The operator's name as it is displayed. -/
def name : Operator → String
  | .equal => "Equal"
  | .notEqual => "NotEqual"
  | .greater => "Greater"
  | .greaterEqual => "GreaterEqual"
  | .less => "Less"
  | .lessEqual => "LessEqual"
  | .startsWith => "StartsWith"
  | .endsWith => "EndsWith"
  | .oneOf => "In"
  | .noneOf => "NotIn"
  | .contains => "Contains"
  | .between => "Between"
  | .betweenEqualStart => "BetweenEqualStart"
  | .betweenEqualEnd => "BetweenEqualEnd"
  | .betweenEqualStartAndEnd => "BetweenEqualStartAndEnd"

/-! ## Shape -/

/-- What an operator does with the value of a condition. -/
inductive Shape
  /-- The field is compared with the whole value. -/
  | comparison (op : Comparison)
  /-- The field's text is matched against the whole value. -/
  | text (test : TextTest)
  /-- The field is compared with each packed value, the outcomes joined. -/
  | membership (op : Comparison) (join : Connective)
  /-- The value packs two bounds. -/
  | range (lower upper : Comparison)
deriving DecidableEq

/-- The shape of each operator; the range operators differ in which ends they include. -/
def shape : Operator → Shape
  | .equal => .comparison .eq
  | .notEqual => .comparison .ne
  | .greater => .comparison .gt
  | .greaterEqual => .comparison .ge
  | .less => .comparison .lt
  | .lessEqual => .comparison .le
  | .startsWith => .text .startsWith
  | .endsWith => .text .endsWith
  | .oneOf => .membership .eq .or
  | .noneOf => .membership .ne .and
  | .contains => .text .contains
  | .between => .range .gt .lt
  | .betweenEqualStart => .range .ge .lt
  | .betweenEqualEnd => .range .gt .le
  | .betweenEqualStartAndEnd => .range .ge .le

/-- Holds of the operators whose value packs two bounds. -/
def packsBounds (op : Operator) : Bool :=
  match op.shape with
  | .range _ _ => true
  | _ => false

/-- The comparison with null that an operator turns into when there is no value: only equality
    and its negation have one. -/
def nullTest? : Operator → Option Comparison
  | .equal => some .eq
  | .notEqual => some .ne
  | _ => none

/-! ## Lookup -/

/-- The operator with this code. -/
def ofCode (n : Nat) : Except VocabularyError Operator :=
  match all[n]? with
  | some op => .ok op
  | none => .error (.unknownOperator (Text.decimal n))

/-- The operator with this bare name. -/
def named? (s : String) : Option Operator :=
  all.find? fun op => Text.bareName op.name == Text.bareName s

/-- The value of a numeral that fits in eight bits. -/
def codeNumeral? (s : String) : Option Nat :=
  (Text.numeral? s.toList).filter (· < 256)

/-- The operator a text refers to, white space around it aside.  An unknown name is reported as
    it was given, an unknown code by its decimal digits. -/
def ofName (s : String) : Except VocabularyError Operator :=
  match codeNumeral? (Text.trim s) with
  | some n => ofCode n
  | none =>
    match named? (Text.trim s) with
    | some op => .ok op
    | none => .error (.unknownOperator s)

/-- The operator a label refers to. -/
def ofLabel : Label → Except VocabularyError Operator
  | .code n => ofCode n
  | .name s => ofName s

theorem getElem?_all_code (op : Operator) : all[op.code]? = some op := by cases op <;> rfl

theorem ofCode_code (op : Operator) : ofCode op.code = .ok op := by
  simp [ofCode, getElem?_all_code]

example : ofName " not_in " = .ok .noneOf := rfl
example : ofName "+07" = .ok .endsWith := rfl
example : ofName "015" = .error (.unknownOperator "15") := rfl
example : ofName " 256" = .error (.unknownOperator " 256") := rfl

end Operator

end FilterPlan
