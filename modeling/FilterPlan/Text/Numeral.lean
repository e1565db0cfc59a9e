/-
  Decimal numerals.

  1. **Reading** — `digits?` takes a non-empty run of ASCII digits, leading zeros allowed, to its
     value; `numeral?` also takes one `+` in front.  Neither knows a bound: whoever calls compares.
  2. **Writing** — `decimal` is the numeral without `+` and without leading zeros.

  `digits?_decimal` ties the two: what is written reads back.
-/

namespace FilterPlan.Text

/-! ## Reading -/

/-- Holds of a non-empty run of ASCII digits. -/
def isDigits (cs : List Char) : Bool := !cs.isEmpty && cs.all Char.isDigit

/-- The value of a non-empty run of ASCII digits. -/
def digits? (cs : List Char) : Option Nat :=
  if isDigits cs then some (Nat.ofDigitChars 10 cs 0) else none

/-- The value of a run of digits with an optional `+` in front. -/
def numeral? : List Char → Option Nat
  | '+' :: cs => digits? cs
  | cs => digits? cs

/-! ## Writing -/

/-- The digits of a number, most significant first. -/
def decimal (n : Nat) : String := n.repr

/-- **Written, then read.**  The digits of a number are read as that number. -/
theorem digits?_decimal (n : Nat) : digits? (decimal n).toList = some n := by
  have digit : ∀ c ∈ Nat.toDigits 10 n, c.isDigit = true := fun c hc =>
    Nat.isDigit_of_mem_toDigits (by decide) (by decide) hc
  have nonempty : Nat.toDigits 10 n ≠ [] := Nat.toDigits_ne_nil
  simp only [digits?, decimal, Nat.toList_repr]
  rw [if_pos (by simpa [isDigits, nonempty] using digit),
    Nat.ofDigitChars_toDigits (by decide) (by decide)]

example : numeral? "+007".toList = some 7 := by decide
example : numeral? "-1".toList = none := by decide
example : decimal 120 = "120" := by decide

end FilterPlan.Text
