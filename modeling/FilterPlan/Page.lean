/-
  Pages and the rows they stand for.

  Pages are counted from one, and page zero is read as page one.  The window of a page is worked
  out in 64 bits, so that no page and no size can overflow it.
-/

namespace FilterPlan

/-- A page of rows, by its number and the size of all pages. -/
structure Page where
  number : UInt32
  size : UInt32
deriving DecidableEq

/-- How many rows to skip, and how many to take at most. -/
structure Window where
  offset : UInt64
  limit : UInt64
deriving DecidableEq

/-- The rows that a page stands for. -/
def Page.window (p : Page) : Window where
  offset := (max p.number 1 - 1).toUInt64 * p.size.toUInt64
  limit := p.size.toUInt64

example : (Page.mk 3 20).window = ⟨40, 20⟩ := by decide
example : (Page.mk 4294967295 4294967295).window = ⟨18446744060824649730, 4294967295⟩ := by decide

end FilterPlan
