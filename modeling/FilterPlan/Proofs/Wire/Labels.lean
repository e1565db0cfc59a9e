/-
  What labels mean.

  1. **Numerals** — the text of an operator counts as a code when it is a numeral of eight bits,
     and only then; what it is otherwise is a name.
  2. **Operators and directions** — no two of them share a code or a name, so the first one that
     answers to a label is the only one (`find?_eq_some_iff_of_unique`).
  3. **Lookup** — `ofLabel` finds what the label means, and reports the label if that is nothing
     (`eq_error_iff_of_reported`).
-/
import FilterPlan.Operator
import FilterPlan.Direction

namespace FilterPlan

/-- What is found in a list is the one thing that is looked for, if the list holds it. -/
theorem find?_eq_some_iff_of_unique {α : Type} {p : α → Bool} {l : List α} {a : α} (ha : a ∈ l)
    (hunique : ∀ b, p b = true → p a = true → b = a) : l.find? p = some a ↔ p a = true := by
  constructor
  · exact List.find?_some
  · intro hp
    have hfound : (l.find? p).isSome = true := List.find?_isSome.2 ⟨a, ha, hp⟩
    obtain ⟨b, hb⟩ := Option.isSome_iff_exists.1 hfound
    rw [hb, hunique b (List.find?_some hb) hp]

/-- Codes are places. -/
theorem getElem?_eq_some_iff_of_place {α : Type} {l : List α} {place : α → Nat} (hnodup : l.Nodup)
    (hplace : ∀ a, l[place a]? = some a) {n : Nat} {a : α} : l[n]? = some a ↔ place a = n := by
  constructor
  · intro h
    have hlt : place a < l.length := (List.getElem?_eq_some_iff.1 (hplace a)).1
    exact (List.getElem?_inj hlt hnodup).1 ((hplace a).trans h.symm)
  · rintro rfl
    exact hplace a

/-- What is not found is reported, and in one way only. -/
theorem eq_error_iff_of_reported {ε α : Type} {r : Except ε α} {Reported : String → Prop}
    {unknown : String → ε}
    (hreported : ∀ {e}, r = .error e → ∃ word, Reported word ∧ e = unknown word)
    (hunique : ∀ {word word'}, Reported word → Reported word' → word = word') {e : ε} :
    r = .error e ↔ ∃ word, ((∀ a, ¬ r = .ok a) ∧ Reported word) ∧ e = unknown word := by
  constructor
  · intro h
    obtain ⟨word, hword, he⟩ := hreported h
    refine ⟨word, ⟨fun a ha => ?_, hword⟩, he⟩
    rw [h] at ha
    cases ha
  · rintro ⟨word, ⟨hnone, hword⟩, rfl⟩
    cases h : r with
    | ok a => exact absurd h (hnone a)
    | error e' =>
      obtain ⟨word', hword', rfl⟩ := hreported h
      rw [hunique hword hword']

/-! ## Numerals -/

namespace Text

/-- The text is a numeral of eight bits: digits with this value, perhaps with a plus in front. -/
def IsByte (s : String) (n : Nat) : Prop :=
  ∃ ds, (s.toList = ds ∨ s.toList = '+' :: ds) ∧ isDigits ds = true
    ∧ Nat.ofDigitChars 10 ds 0 = n ∧ n < 256

theorem digits?_eq_some_iff {cs : List Char} {n : Nat} :
    digits? cs = some n ↔ isDigits cs = true ∧ Nat.ofDigitChars 10 cs 0 = n := by
  rw [digits?, Option.ite_none_right_eq_some, Option.some.injEq]

theorem numeral?_eq_some_iff {cs : List Char} {n : Nat} :
    numeral? cs = some n
      ↔ ∃ ds, (cs = ds ∨ cs = '+' :: ds) ∧ isDigits ds = true ∧ Nat.ofDigitChars 10 ds 0 = n := by
  fun_cases numeral? cs with
  | case1 ds =>
    rw [digits?_eq_some_iff]
    constructor
    · exact fun h => ⟨ds, .inr rfl, h⟩
    · rintro ⟨ds', rfl | h, hds⟩
      · exact absurd hds.1 (by simp [isDigits])
      · cases h
        exact hds
  | case2 cs hplus =>
    rw [digits?_eq_some_iff]
    constructor
    · exact fun h => ⟨cs, .inl rfl, h⟩
    · rintro ⟨ds, rfl | rfl, hds⟩
      · exact hds
      · exact (hplus ds rfl).elim

end Text

theorem Operator.codeNumeral?_eq_some_iff {s : String} {n : Nat} :
    codeNumeral? s = some n ↔ Text.IsByte s n := by
  rw [codeNumeral?, Option.filter_eq_some_iff, Text.numeral?_eq_some_iff]
  constructor
  · rintro ⟨⟨ds, hs, hdigits, hn⟩, hlt⟩
    exact ⟨ds, hs, hdigits, hn, of_decide_eq_true hlt⟩
  · rintro ⟨ds, hs, hdigits, hn, hlt⟩
    exact ⟨⟨ds, hs, hdigits, hn⟩, decide_eq_true hlt⟩

/-! ## Operators -/

namespace Operator

/-- The operator is what the label means. -/
inductive Answers : Label → Operator → Prop
  | code (op : Operator) : Answers (.code op.code) op
  | numeral {s op} (h : Text.IsByte (Text.trim s) op.code) : Answers (.name s) op
  | name {s op} (hs : ∀ n, ¬ Text.IsByte (Text.trim s) n)
    (h : Text.bareName op.name = Text.bareName (Text.trim s)) : Answers (.name s) op

/-- How a label is reported: a code in decimal, a name as it is given, unless it is a numeral. -/
inductive Reported : Label → String → Prop
  | code (n : Nat) : Reported (.code n) (Text.decimal n)
  | numeral {s n} (h : Text.IsByte (Text.trim s) n) : Reported (.name s) (Text.decimal n)
  | name {s} (h : ∀ n, ¬ Text.IsByte (Text.trim s) n) : Reported (.name s) s

theorem mem_all (op : Operator) : op ∈ all := by cases op <;> decide

theorem bareName_inj : ∀ op ∈ all, ∀ op' ∈ all,
    Text.bareName op.name = Text.bareName op'.name → op = op' := by decide

theorem getElem?_all_iff {n : Nat} {op : Operator} : all[n]? = some op ↔ op.code = n :=
  getElem?_eq_some_iff_of_place (by decide) getElem?_all_code

theorem named?_eq_some_iff {s : String} {op : Operator} :
    named? s = some op ↔ Text.bareName op.name = Text.bareName s := by
  rw [named?, find?_eq_some_iff_of_unique (mem_all op), beq_iff_eq]
  intro op' h' h
  exact bareName_inj op' (mem_all op') op (mem_all op) ((beq_iff_eq.1 h').trans (beq_iff_eq.1 h).symm)

theorem Reported.unique {label : Label} {word word' : String} (h : Reported label word)
    (h' : Reported label word') : word = word' := by
  cases h with
  | code n =>
    cases h'
    rfl
  | numeral h =>
    cases h' with
    | numeral h' =>
      rw [← codeNumeral?_eq_some_iff] at h h'
      rw [Option.some.inj (h.symm.trans h')]
    | name h' => exact absurd h (h' _)
  | name h =>
    cases h' with
    | numeral h' => exact absurd h' (h _)
    | name h' => rfl

/-- Nothing but a numeral is taken for a code. -/
theorem codeNumeral?_eq_none_iff {s : String} : codeNumeral? s = none ↔ ∀ n, ¬ Text.IsByte s n := by
  simp only [Option.eq_none_iff_forall_ne_some, ne_eq, codeNumeral?_eq_some_iff]

/-- **Lookup of operators.**  A label is taken to the operator that it means. -/
theorem ofLabel_eq_ok_iff {label : Label} {op : Operator} :
    ofLabel label = .ok op ↔ Answers label op := by
  have hcode : ∀ n, ofCode n = .ok op ↔ op.code = n := by
    intro n
    rw [ofCode, ← getElem?_all_iff]
    cases all[n]? <;> simp
  cases label with
  | code n =>
    show ofCode n = _ ↔ _
    rw [hcode]
    constructor
    · rintro rfl
      exact .code op
    · intro h
      cases h
      rfl
  | name s =>
    show ofName s = _ ↔ _
    rw [ofName]
    cases hs : codeNumeral? (Text.trim s) with
    | some n =>
      have hbyte := codeNumeral?_eq_some_iff.1 hs
      show ofCode n = _ ↔ _
      rw [hcode]
      constructor
      · rintro rfl
        exact .numeral hbyte
      · intro h
        cases h with
        | numeral h => exact Option.some.inj ((codeNumeral?_eq_some_iff.2 h).symm.trans hs)
        | name hname => exact absurd hbyte (hname n)
    | none =>
      have hname := codeNumeral?_eq_none_iff.1 hs
      have hfound : Answers (.name s) op ↔ named? (Text.trim s) = some op := by
        rw [named?_eq_some_iff]
        refine ⟨fun h => ?_, .name hname⟩
        cases h with
        | numeral h => exact absurd h (hname _)
        | name _ h => exact h
      rw [hfound]
      cases named? (Text.trim s) <;> simp

/-- A label that is refused is reported. -/
theorem reported_of_ofLabel {label : Label} {e : VocabularyError} (h : ofLabel label = .error e) :
    ∃ word, Reported label word ∧ e = .unknownOperator word := by
  have hcode : ∀ {n : Nat}, ofCode n = .error e → e = .unknownOperator (Text.decimal n) := by
    intro n h
    rw [ofCode] at h
    cases hn : all[n]? <;> rw [hn] at h <;> cases h
    rfl
  cases label with
  | code n => exact ⟨_, .code n, hcode h⟩
  | name s =>
    have hname : ofName s = .error e := h
    rw [ofName] at hname
    cases hs : codeNumeral? (Text.trim s) with
    | some n =>
      rw [hs] at hname
      exact ⟨_, .numeral (codeNumeral?_eq_some_iff.1 hs), hcode hname⟩
    | none =>
      rw [hs] at hname
      refine ⟨s, .name (codeNumeral?_eq_none_iff.1 hs), ?_⟩
      cases hn : named? (Text.trim s) <;> rw [hn] at hname <;> cases hname
      rfl

/-- A label is refused when it means no operator. -/
theorem ofLabel_eq_error_iff {label : Label} {e : VocabularyError} : ofLabel label = .error e
    ↔ ∃ word, ((∀ op, ¬ Answers label op) ∧ Reported label word) ∧ e = .unknownOperator word := by
  simp only [← ofLabel_eq_ok_iff]
  exact eq_error_iff_of_reported reported_of_ofLabel Reported.unique

end Operator

/-! ## Directions -/

namespace Direction

/-- The direction is what the label means. -/
inductive Answers : Label → Direction → Prop
  | code (d : Direction) : Answers (.code d.code) d
  | name {s d spelling} (hspelling : spelling ∈ d.spellings)
    (h : spelling.toList = Text.bareName (Text.trim s)) : Answers (.name s) d

/-- How a label is reported: a code in decimal, a name as it is given. -/
inductive Reported : Label → String → Prop
  | code (n : Nat) : Reported (.code n) (Text.decimal n)
  | name (s : String) : Reported (.name s) s

theorem mem_all (d : Direction) : d ∈ all := by cases d <;> decide

theorem spelling_inj : ∀ d ∈ all, ∀ d' ∈ all, ∀ spelling ∈ d.spellings, spelling ∈ d'.spellings →
    d = d' := by decide

theorem getElem?_all_iff {n : Nat} {d : Direction} : all[n]? = some d ↔ d.code = n :=
  getElem?_eq_some_iff_of_place (by decide) fun d => by cases d <;> rfl

theorem named?_eq_some_iff {s : String} {d : Direction} :
    named? s = some d ↔ ∃ spelling ∈ d.spellings, spelling.toList = Text.bareName s := by
  have hany : ∀ d : Direction, (d.spellings.any fun spelling => spelling.toList == Text.bareName s)
      = true ↔ ∃ spelling ∈ d.spellings, spelling.toList = Text.bareName s := by
    intro d
    rw [List.any_eq_true]
    simp only [beq_iff_eq]
  rw [named?, find?_eq_some_iff_of_unique (mem_all d), hany]
  intro d' h' h
  obtain ⟨spelling', hmem', hs'⟩ := (hany d').1 h'
  obtain ⟨spelling, hmem, hs⟩ := (hany d).1 h
  obtain rfl := String.toList_inj.1 (hs'.trans hs.symm)
  exact spelling_inj d' (mem_all d') d (mem_all d) _ hmem' hmem

theorem Reported.unique {label : Label} {word word' : String} (h : Reported label word)
    (h' : Reported label word') : word = word' := by
  cases h <;> cases h' <;> rfl

/-- **Lookup of directions.**  A label is taken to the direction that it means. -/
theorem ofLabel_eq_ok_iff {label : Label} {d : Direction} :
    ofLabel label = .ok d ↔ Answers label d := by
  cases label with
  | code n =>
    have hfound : Answers (.code n) d ↔ all[n]? = some d := by
      rw [getElem?_all_iff]
      constructor
      · intro h
        cases h
        rfl
      · rintro rfl
        exact .code d
    show ofCode n = _ ↔ _
    rw [ofCode, hfound]
    cases all[n]? <;> simp
  | name s =>
    have hfound : Answers (.name s) d ↔ named? (Text.trim s) = some d := by
      rw [named?_eq_some_iff]
      constructor
      · intro h
        cases h with
        | name hspelling h => exact ⟨_, hspelling, h⟩
      · rintro ⟨spelling, hspelling, h⟩
        exact .name hspelling h
    show ofName s = _ ↔ _
    rw [ofName, hfound]
    cases named? (Text.trim s) <;> simp

/-- A label that is refused is reported. -/
theorem reported_of_ofLabel {label : Label} {e : VocabularyError} (h : ofLabel label = .error e) :
    ∃ word, Reported label word ∧ e = .unknownDirection word := by
  cases label with
  | code n =>
    have hcode : ofCode n = .error e := h
    rw [ofCode] at hcode
    cases hn : all[n]? <;> rw [hn] at hcode <;> cases hcode
    exact ⟨_, .code n, rfl⟩
  | name s =>
    have hname : ofName s = .error e := h
    rw [ofName] at hname
    cases hn : named? (Text.trim s) <;> rw [hn] at hname <;> cases hname
    exact ⟨s, .name s, rfl⟩

/-- A label is refused when it means no direction. -/
theorem ofLabel_eq_error_iff {label : Label} {e : VocabularyError} : ofLabel label = .error e
    ↔ ∃ word, ((∀ d, ¬ Answers label d) ∧ Reported label word) ∧ e = .unknownDirection word := by
  simp only [← ofLabel_eq_ok_iff]
  exact eq_error_iff_of_reported reported_of_ofLabel Reported.unique

end Direction

end FilterPlan
