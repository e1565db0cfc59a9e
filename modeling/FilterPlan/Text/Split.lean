/-
  Cutting a text at a separator character.

  1. **All of them** — `pieces` cuts at every separator, so there is always one piece more than
     there are separators and an empty text is one empty piece.
  2. **The first one** — `cut?` gives what stands before and after the first separator, and
     nothing where there is no separator.

  `pieces_join` is the law that packing relies on: texts free of the separator come back from
  their join as they were.
-/

namespace FilterPlan.Text

/-! ## Every separator -/

/-- The stretches of a text between its separators, empty stretches included. -/
def pieces (separator : Char) (s : String) : List String :=
  (s.toList.splitOn separator).map String.ofList

/-- Texts joined with one separator between neighbours. -/
def join (separator : Char) (parts : List String) : String :=
  String.ofList ([separator].intercalate (parts.map String.toList))

/-- **Joined, then cut.**  A non-empty list of texts without the separator is what `pieces`
    finds in their join. -/
theorem pieces_join {separator : Char} {parts : List String} (nonempty : parts ≠ [])
    (free : ∀ p ∈ parts, separator ∉ p.toList) :
    pieces separator (join separator parts) = parts := by
  have h : ([separator].intercalate (parts.map String.toList)).splitOn separator
      = parts.map String.toList :=
    List.splitOn_intercalate separator (by simpa using free) (by simpa using nonempty)
  simp [pieces, join, h, Function.comp_def]

/-! ## The first separator -/

/-- The characters before and after the first separator. -/
def cutChars? (separator : Char) : List Char → Option (List Char × List Char)
  | [] => none
  | c :: r =>
    if c = separator then some ([], r)
    else (cutChars? separator r).map fun (head, rest) => (c :: head, rest)

/-- The texts before and after the first separator. -/
def cut? (separator : Char) (s : String) : Option (String × String) :=
  (cutChars? separator s.toList).map fun (head, rest) => (String.ofList head, String.ofList rest)

theorem cutChars?_append {separator : Char} {head : List Char} (free : separator ∉ head)
    (rest : List Char) : cutChars? separator (head ++ separator :: rest) = some (head, rest) := by
  induction head with
  | nil => simp [cutChars?]
  | cons c r ih =>
    have hc : c ≠ separator := fun h => free (h ▸ List.mem_cons_self)
    have hr : separator ∉ r := fun h => free (List.mem_cons_of_mem c h)
    simp [cutChars?, hc, ih hr]

example : pieces '|' "a||b| " = ["a", "", "b", " "] := by decide
example : cut? '|' "or|a|b" = some ("or", "a|b") := by decide

end FilterPlan.Text
