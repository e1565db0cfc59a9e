/-
  White space, and what is left of a text once its ends are stripped of it.

  1. **The class** — `isBlank` is Unicode's `White_Space` property: 25 characters in all.  U+200B,
     U+180E and U+FEFF look empty and are outside it.
  2. **Stripping** — `strip` drops the blank characters at both ends of a list of characters and
     nothing in between; `trim` is the same on a text.
  3. **Blank texts** — `allBlank` asks for blank characters only, and `strip_eq_nil_iff` says that
     these are exactly the texts of which stripping leaves nothing.
-/

namespace FilterPlan.Text

/-! ## The class -/

/-- Holds of the characters with Unicode's `White_Space` property. -/
def isBlank (c : Char) : Bool :=
  let n := c.toNat
  (0x09 ≤ n && n ≤ 0x0D) || n == 0x20 || n == 0x85 || n == 0xA0 || n == 0x1680 ||
    (0x2000 ≤ n && n ≤ 0x200A) || n == 0x2028 || n == 0x2029 || n == 0x202F || n == 0x205F ||
    n == 0x3000

/-! ## Stripping

  The end of a list is its reverse's head, so one `dropWhile` serves both ends. -/

/-- The characters without the blank ones at either end. -/
def strip (cs : List Char) : List Char :=
  ((cs.dropWhile isBlank).reverse.dropWhile isBlank).reverse

/-- The text without the white space at either end. -/
def trim (s : String) : String := String.ofList (strip s.toList)

/-- Holds of texts with no character other than white space, the empty text included. -/
def allBlank (s : String) : Bool := s.toList.all isBlank

@[simp] theorem toList_trim (s : String) : (trim s).toList = strip s.toList := by
  simp [trim]

theorem dropWhile_eq_nil_iff (p : Char → Bool) (cs : List Char) :
    cs.dropWhile p = [] ↔ cs.all p = true := by
  induction cs with
  | nil => simp
  | cons c cs ih => by_cases h : p c = true <;> simp_all

/-- A list whose first and last characters are not blank is stripped of nothing. -/
theorem strip_eq_self {cs : List Char} (head : ∀ c ∈ cs.head?, isBlank c = false)
    (last : ∀ c ∈ cs.getLast?, isBlank c = false) : strip cs = cs := by
  have front : ∀ l : List Char, (∀ c ∈ l.head?, isBlank c = false) → l.dropWhile isBlank = l := by
    intro l h
    cases l with
    | nil => rfl
    | cons c r => simp [h c (by simp)]
  rw [strip, front cs head, front cs.reverse (by simpa using last), List.reverse_reverse]

/-- **Blank texts.**  Stripping leaves nothing of exactly the texts that are white space
    throughout. -/
theorem strip_eq_nil_iff (cs : List Char) : strip cs = [] ↔ cs.all isBlank = true := by
  rw [strip, List.reverse_eq_nil_iff, dropWhile_eq_nil_iff]
  constructor
  · intro h
    rw [← dropWhile_eq_nil_iff]
    cases e : cs.dropWhile isBlank with
    | nil => rfl
    | cons c r =>
      have hc : isBlank c = true := by
        rw [List.all_eq_true] at h
        exact h c (by simp [e])
      have := List.head?_dropWhile_not isBlank cs
      simp [e, hc] at this
  · intro h
    simp [(dropWhile_eq_nil_iff isBlank cs).2 h]

example : trim " \u00a0a b\t" = "a b" := by decide
example : trim "\u200b" = "\u200b" := by decide

end FilterPlan.Text
