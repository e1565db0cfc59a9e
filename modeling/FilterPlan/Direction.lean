/-
  The directions of a sort rule.

  1. **Vocabulary** — a rule may ask for no sorting at all; such a rule is inactive.  `sense?` is
     the sense of an active one.
  2. **Lookup** — by code, or by any of the direction's spellings.  A spelling is compared as a
     bare name, so digits and words obey the same rule and `-1` is a spelling of `1`.
-/
import FilterPlan.Text.Blank
import FilterPlan.Text.Name
import FilterPlan.Text.Numeral
import FilterPlan.VocabularyError
import FilterPlan.Label

namespace FilterPlan

/-- The two ways to order by a key. -/
inductive Sense
  | asc
  | desc
deriving DecidableEq

/-- What a sort rule asks for. -/
inductive Direction
  | unsorted
  | ascending
  | descending
deriving DecidableEq

namespace Direction

/-! ## Vocabulary -/

/-- All directions in the order of their codes. -/
def all : List Direction := [.unsorted, .ascending, .descending]

/-- The number that stands for the direction on the wire. -/
def code : Direction → Nat
  | .unsorted => 0
  | .ascending => 1
  | .descending => 2

/-- The direction's name as it is displayed. -/
def name : Direction → String
  | .unsorted => "NoSort"
  | .ascending => "Ascending"
  | .descending => "Descending"

/-- The sense to order in, unless the direction asks for no sorting. -/
def sense? : Direction → Option Sense
  | .unsorted => none
  | .ascending => some .asc
  | .descending => some .desc

/-! ## Lookup -/

/-- The bare names a direction goes by. -/
def spellings : Direction → List String
  | .unsorted => ["0", "nosort", "none"]
  | .ascending => ["1", "ascending", "asc"]
  | .descending => ["2", "descending", "desc"]

/-- The direction with this code. -/
def ofCode (n : Nat) : Except VocabularyError Direction :=
  match all[n]? with
  | some d => .ok d
  | none => .error (.unknownDirection (Text.decimal n))

/-- The direction with this spelling. -/
def named? (s : String) : Option Direction :=
  all.find? fun d => d.spellings.any fun spelling => spelling.toList == Text.bareName s

/-- The direction a text refers to, white space around it aside.  An unknown one is reported as
    it was given. -/
def ofName (s : String) : Except VocabularyError Direction :=
  match named? (Text.trim s) with
  | some d => .ok d
  | none => .error (.unknownDirection s)

/-- The direction a label refers to. -/
def ofLabel : Label → Except VocabularyError Direction
  | .code n => ofCode n
  | .name s => ofName s

theorem ofCode_code (d : Direction) : ofCode d.code = .ok d := by cases d <;> rfl

example : ofName "DESC" = .ok .descending := rfl
example : ofName "no-sort " = .ok .unsorted := rfl
example : ofName "01" = .error (.unknownDirection "01") := rfl

end Direction

end FilterPlan
