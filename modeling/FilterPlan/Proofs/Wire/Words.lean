/-
  The texts that operators, directions and dialects are asked for by.

  1. **Texts** — `IsNumeral` and `IsInteger` give the value of a run of digits, `SpellsName` says
     that the letters of a text are those of a name, in either case, once `_` and `-` are left out.
  2. **Operators** — a text asks for an operator by a numeral for its code or by its name
     (`Operator.AskedFor`), and by nothing else.  What asks for none is reported.
  3. **Directions** — the digit of a direction is looked up as a name is, so `_` and `-` are left
     out of it too: a direction is found where none was asked for, as by `-1`.
  4. **Dialects** — a dialect is asked for by one of its names, to the letter but for ASCII case.
  5. **The crux (`bareName_eq_iff`)** — what is looked up are ASCII words without k, so full
     lower-casing finds them in ASCII texts only.
-/
import FilterPlan.Proofs.Text.Case
import FilterPlan.Proofs.Text.LowerCase
import FilterPlan.Proofs.Text.Splitting
import FilterPlan.Proofs.Wire.RoundTrip

namespace FilterPlan

/-! ## Texts -/

namespace Text

/-- The text is a run of ASCII digits with this value, perhaps with a plus in front. -/
def IsNumeral (s : String) (n : Nat) : Prop :=
  ∃ ds, (s.toList = ds ∨ s.toList = '+' :: ds) ∧ isDigits ds = true ∧ Nat.ofDigitChars 10 ds 0 = n

/-- The text is a run of ASCII digits with this value, perhaps with a sign in front. -/
def IsInteger (s : String) (k : Int) : Prop :=
  (∃ n : Nat, IsNumeral s n ∧ k = n) ∨
    ∃ ds, s.toList = '-' :: ds ∧ isDigits ds = true ∧ k = -(Nat.ofDigitChars 10 ds 0 : Nat)

/-- The characters of a text other than `_` and `-`. -/
def withoutJoiners (s : String) : List Char := s.toList.filter fun c => c ≠ '_' ∧ c ≠ '-'

/-- The text spells the name, each letter in either case, with `_` and `-` wherever it likes. -/
def SpellsName (name s : String) : Prop := Spells (name.toList.map Char.toLower) (withoutJoiners s)

theorem toNat_of_isLower {c : Char} (h : c.isLower = true) : 97 ≤ c.toNat ∧ c.toNat ≤ 122 := by
  have hbounds : (decide (c.val ≥ 'a'.val) && decide (c.val ≤ 'z'.val)) = true := h
  simpa [UInt32.le_iff_toNat_le] using hbounds

/-- Among lower-case letters there is no capital. -/
theorem any_isUpper_of_all_isLower {word : List Char} (h : word.all Char.isLower = true) :
    word.any Char.isUpper = false := by
  rw [Bool.eq_false_iff, ne_eq, List.any_eq_true]
  rintro ⟨c, hc, hcapital⟩
  have hletter := toNat_of_isLower (List.all_eq_true.1 h c hc)
  rw [isUpper_iff] at hcapital
  omega

theorem toNat_of_isDigit {c : Char} (h : c.isDigit = true) : 48 ≤ c.toNat ∧ c.toNat ≤ 57 := by
  have hbounds : (decide (c.val ≥ '0'.val) && decide (c.val ≤ '9'.val)) = true := h
  simpa [UInt32.le_iff_toNat_le] using hbounds

theorem isByte_iff {s : String} {n : Nat} : IsByte s n ↔ IsNumeral s n ∧ n < 256 := by
  constructor
  · rintro ⟨ds, hs, hdigits, hn, hlt⟩
    exact ⟨⟨ds, hs, hdigits, hn⟩, hlt⟩
  · rintro ⟨⟨ds, hs, hdigits, hn⟩, hlt⟩
    exact ⟨ds, hs, hdigits, hn, hlt⟩

theorem isNumeral_iff {s : String} {n : Nat} : IsNumeral s n ↔ numeral? s.toList = some n :=
  numeral?_eq_some_iff.symm

theorem IsNumeral.unique {s : String} {n n' : Nat} (h : IsNumeral s n) (h' : IsNumeral s n') :
    n = n' := by
  rw [isNumeral_iff] at h h'
  exact Option.some.inj (h.symm.trans h')

/-- The digits of a number are a numeral for it. -/
theorem isNumeral_decimal (n : Nat) : IsNumeral (decimal n) n := by
  obtain ⟨hdigits, hvalue⟩ := digits?_eq_some_iff.1 (digits?_decimal n)
  exact ⟨_, .inl rfl, hdigits, hvalue⟩

/-- There is no white space in the digits of a number. -/
theorem trim_decimal (n : Nat) : trim (decimal n) = decimal n := by
  have hdigits : ∀ c ∈ (decimal n).toList, isBlank c = false := by
    intro c hc
    rw [decimal, Nat.toList_repr] at hc
    have hdigit := toNat_of_isDigit (Nat.isDigit_of_mem_toDigits (by decide) (by decide) hc)
    unfold isBlank
    grind
  rw [trim, strip_eq_self, String.ofList_toList]
  · exact fun c hc => hdigits c (List.mem_of_mem_head? hc)
  · exact fun c hc => hdigits c (List.mem_of_mem_getLast? hc)

/-! ## Letters and digits -/

/-- A word of lower-case letters that full lower-casing leads to from ASCII only. -/
def IsPlainWord (word : List Char) : Prop := word.all Char.isLower = true ∧ 'k' ∉ word

instance (word : List Char) : Decidable (IsPlainWord word) :=
  inferInstanceAs (Decidable (_ ∧ _))

theorem bareName_eq (s : String) : bareName s = (withoutJoiners s).flatMap lowerCase := by
  have hjoiner : (fun c => !isJoiner c) = fun c => decide (c ≠ '_' ∧ c ≠ '-') := by
    funext c
    rw [Bool.eq_iff_iff]
    simp [isJoiner]
  rw [bareName, withoutJoiners, hjoiner]

/-- **Words.**  A text's bare name is a plain word just where it spells that word. -/
theorem bareName_eq_iff {word : List Char} (plain : IsPlainWord word) {s : String} :
    bareName s = word ↔ Spells word (withoutJoiners s) := by
  obtain ⟨hlower, hk⟩ := plain
  rw [bareName_eq, flatMap_lowerCase_eq_iff,
    map_toLower_eq_iff (any_isUpper_of_all_isLower hlower)]
  intro x hx
  have hletter := toNat_of_isLower (List.all_eq_true.1 hlower x hx)
  exact ⟨by omega, fun h => hk (h ▸ hx)⟩

/-- A digit is the lower case of itself only. -/
theorem toLower_eq_digit_iff {digit c : Char} (h : digit.isDigit = true) :
    c.toLower = digit ↔ c = digit := by
  have hdigit := toNat_of_isDigit h
  rw [← Char.toNat_inj, ← Char.toNat_inj, toNat_toLower]
  split <;> omega

/-- **Digits.**  A text's bare name is a digit just where nothing but that digit is left. -/
theorem bareName_eq_digit_iff {digit : Char} (h : digit.isDigit = true) {s : String} :
    bareName s = [digit] ↔ withoutJoiners s = [digit] := by
  have hdigit := toNat_of_isDigit h
  rw [bareName_eq, flatMap_lowerCase_eq_iff, List.map_eq_singleton_iff]
  · constructor
    · rintro ⟨c, hs, hc⟩
      rw [hs, (toLower_eq_digit_iff h).1 hc]
    · intro hs
      exact ⟨digit, hs, (toLower_eq_digit_iff h).2 rfl⟩
  · intro x hx
    rw [List.mem_singleton.1 hx]
    refine ⟨by omega, ?_⟩
    rintro rfl
    cases h

/-- No letter of a word is a digit. -/
theorem not_isDigit_of_spells {word cs : List Char} (lower : word.all Char.isLower = true)
    (h : Spells word cs) : ∀ c ∈ cs, c.isDigit = false := by
  intro c hc
  rw [← map_toLower_eq_iff (any_isUpper_of_all_isLower lower)] at h
  rw [← Bool.not_eq_true]
  intro hdigit
  have hsame : c.toLower = c := (toLower_eq_digit_iff hdigit).2 rfl
  have hletter : c.isLower = true := by
    rw [← hsame]
    exact List.all_eq_true.1 lower c.toLower (h ▸ List.mem_map_of_mem hc)
  have hupper := toNat_of_isDigit hdigit
  have hlower := toNat_of_isLower hletter
  omega

/-- A run of digits stays when joiners are left out. -/
theorem filter_digits {ds : List Char} (h : isDigits ds = true) :
    ds.filter (fun c => c ≠ '_' ∧ c ≠ '-') = ds := by
  rw [isDigits, Bool.and_eq_true, List.all_eq_true] at h
  rw [List.filter_eq_self]
  intro c hc
  have hdigit := toNat_of_isDigit (h.2 c hc)
  have hne : ∀ x : Char, x.toNat < 48 ∨ 57 < x.toNat → c ≠ x := by
    rintro x hx rfl
    omega
  exact decide_eq_true ⟨hne '_' (.inr (by decide)), hne '-' (.inl (by decide))⟩

theorem exists_digit {ds : List Char} (h : isDigits ds = true) : ∃ c ∈ ds, c.isDigit = true := by
  rw [isDigits, Bool.and_eq_true, List.all_eq_true] at h
  cases ds with
  | nil => cases h.1
  | cons c ds => exact ⟨c, List.mem_cons_self, h.2 c List.mem_cons_self⟩

/-- A numeral, joiners left out, still holds a digit, so it spells no word. -/
theorem IsInteger.not_spells {s : String} {k : Int} (h : IsInteger s k) {word : List Char}
    (lower : word.all Char.isLower = true) : ¬ Spells word (withoutJoiners s) := by
  intro hspells
  have hnone := not_isDigit_of_spells lower hspells
  obtain ⟨ds, hds, hmem⟩ : ∃ ds, isDigits ds = true ∧ ∀ c ∈ ds, c ∈ withoutJoiners s := by
    rcases h with ⟨n, ⟨ds, hs | hs, hdigits, -⟩, -⟩ | ⟨ds, hs, hdigits, -⟩
    all_goals
      refine ⟨ds, hdigits, fun c hc => ?_⟩
      rw [← filter_digits hdigits] at hc
      rw [withoutJoiners, hs]
    · exact hc
    · exact List.mem_of_mem_tail hc
    · exact hc
  obtain ⟨c, hc, hdigit⟩ := exists_digit hds
  rw [hnone c (hmem c hc)] at hdigit
  cases hdigit

end Text

/-! ## Operators -/

namespace Operator

/-- A text without white space around it asks for the operator: by a numeral for its code, or by
    its name. -/
inductive AskedFor (core : String) (op : Operator) : Prop
  | code (h : Text.IsNumeral core op.code)
  | name (h : Text.SpellsName op.name core)

/-- What is said of a text that asks for no operator: the number in decimal if it is a numeral of
    eight bits, and otherwise the whole text as it was given. -/
inductive ReportedAs (s core : String) : String → Prop
  | code {n : Nat} (h : Text.IsNumeral core n) (range : 15 ≤ n ∧ n ≤ 255) :
    ReportedAs s core (Text.decimal n)
  | asGiven (h : ∀ n, 15 ≤ n → n ≤ 255 → ¬ Text.IsNumeral core n) : ReportedAs s core s

theorem isPlainWord_name (op : Operator) : Text.IsPlainWord (op.name.toList.map Char.toLower) := by
  cases op <;> decide

theorem bareName_name (op : Operator) :
    Text.bareName op.name = op.name.toList.map Char.toLower := by
  cases op <;> decide

/-- A number is the code of an operator just when it is less than fifteen. -/
theorem exists_code_iff {n : Nat} : (∃ op : Operator, op.code = n) ↔ n < 15 := by
  simp only [← getElem?_all_iff]
  have hlength : all.length = 15 := rfl
  rw [← hlength]
  constructor
  · rintro ⟨op, hop⟩
    exact (List.getElem?_eq_some_iff.1 hop).1
  · intro h
    exact ⟨all[n], List.getElem?_eq_getElem h⟩

/-- What a text means is what it asks for. -/
theorem answers_iff {s : String} {op : Operator} :
    Answers (.name s) op ↔ AskedFor (Text.trim s) op := by
  have hplain := isPlainWord_name op
  constructor
  · intro h
    cases h with
    | numeral h => exact .code (Text.isByte_iff.1 h).1
    | name _ h =>
      rw [bareName_name] at h
      exact .name ((Text.bareName_eq_iff hplain).1 h.symm)
  · rintro (h | h)
    · have hsmall : op.code < 15 := exists_code_iff.1 ⟨op, rfl⟩
      exact .numeral (Text.isByte_iff.2 ⟨h, by omega⟩)
    · refine .name (fun n hbyte => ?_) ?_
      · -- a numeral is no name
        have hinteger : Text.IsInteger (Text.trim s) n := .inl ⟨n, (Text.isByte_iff.1 hbyte).1, rfl⟩
        exact hinteger.not_spells hplain.1 h
      · rw [bareName_name]
        exact ((Text.bareName_eq_iff hplain).2 h).symm

/-- What is reported is what is said of a text that asks for nothing. -/
theorem reported_iff {s word : String} (hnone : ∀ op, ¬ AskedFor (Text.trim s) op) :
    Reported (.name s) word ↔ ReportedAs s (Text.trim s) word := by
  -- the codes that are taken were asked for
  have hlarge : ∀ n, Text.IsNumeral (Text.trim s) n → 15 ≤ n := by
    intro n hn
    rcases Nat.lt_or_ge n 15 with hlt | hge
    · obtain ⟨op, rfl⟩ := exists_code_iff.2 hlt
      exact absurd (.code hn) (hnone op)
    · exact hge
  constructor
  · intro h
    cases h with
    | numeral h =>
      obtain ⟨hn, hlt⟩ := Text.isByte_iff.1 h
      exact .code hn ⟨hlarge _ hn, by omega⟩
    | name h =>
      refine .asGiven fun n _ hle hn => ?_
      exact h n (Text.isByte_iff.2 ⟨hn, by omega⟩)
  · rintro (⟨hn, -, hle⟩ | h)
    · exact .numeral (Text.isByte_iff.2 ⟨hn, by omega⟩)
    · refine .name fun n hbyte => ?_
      obtain ⟨hn, hlt⟩ := Text.isByte_iff.1 hbyte
      exact h n (hlarge n hn) (by omega) hn

/-- A number, written in decimal, is looked up as the number. -/
theorem ofName_decimal (n : Nat) : ofName (Text.decimal n) = ofCode n := by
  have hnumeral := Text.isNumeral_decimal n
  have hcore := Text.trim_decimal n
  cases hcode : codeNumeral? (Text.decimal n) with
  | some m =>
    have hbyte := Text.isByte_iff.1 (codeNumeral?_eq_some_iff.1 hcode)
    rw [ofName, hcore, hcode, hbyte.1.unique hnumeral]
  | none =>
    -- too large for a code: neither is found, and both are reported by their digits
    have hlarge : 256 ≤ n := by
      rcases Nat.lt_or_ge n 256 with hlt | hge
      · exact absurd (Text.isByte_iff.2 ⟨hnumeral, hlt⟩) (codeNumeral?_eq_none_iff.1 hcode n)
      · exact hge
    have hcodes : all[n]? = none := by
      rw [List.getElem?_eq_none_iff]
      have hlength : all.length = 15 := rfl
      omega
    have hnames : named? (Text.decimal n) = none := by
      rw [Option.eq_none_iff_forall_ne_some]
      intro op hop
      rw [named?_eq_some_iff, bareName_name, eq_comm, Text.bareName_eq_iff (isPlainWord_name op)]
        at hop
      have hinteger : Text.IsInteger (Text.decimal n) n := .inl ⟨n, hnumeral, rfl⟩
      exact hinteger.not_spells (isPlainWord_name op).1 hop
    rw [ofName, hcore, hcode, ofCode, hcodes]
    simp only [hnames]

/-- **The language of operators.**  A text is looked up as the one operator that it asks for, white
    space around it aside, and a text that asks for none is reported.  A number and the text of its
    digits are one label on the wire. -/
theorem ofName_verdict (s : String) (n : UInt64) :
    (∃ core, Text.TrimsTo s core ∧
      (∀ op, ofName s = .ok op ↔ AskedFor core op) ∧
      (∀ op op', AskedFor core op → AskedFor core op' → op = op') ∧
      ∀ e, ofName s = .error e ↔
        (∀ op, ¬ AskedFor core op) ∧ ∃ word, ReportedAs s core word ∧ e = .unknownOperator word) ∧
    ∃ label label', Label.ofJson? (.nat n.toNat) = some label ∧
      Label.ofJson? (.text (Text.decimal n.toNat)) = some label' ∧
      ofLabel label = ofLabel label' := by
  have hok : ∀ op, ofName s = .ok op ↔ AskedFor (Text.trim s) op := by
    intro op
    rw [← answers_iff, ← ofLabel_eq_ok_iff]
    exact Iff.rfl
  refine ⟨⟨Text.trim s, Text.trimsTo_iff.2 rfl, hok, ?_, ?_⟩, ?_⟩
  · intro op op' h h'
    rw [← hok] at h h'
    exact Except.ok.inj (h.symm.trans h')
  · intro e
    have herror : ofLabel (.name s) = .error e ↔ ∃ word,
        ((∀ op, ¬ Answers (.name s) op) ∧ Reported (.name s) word) ∧ e = .unknownOperator word :=
      ofLabel_eq_error_iff
    simp only [answers_iff] at herror
    refine herror.trans ?_
    constructor
    · rintro ⟨word, ⟨hnone, hword⟩, rfl⟩
      exact ⟨hnone, word, (reported_iff hnone).1 hword, rfl⟩
    · rintro ⟨hnone, word, hword, rfl⟩
      exact ⟨word, ⟨hnone, (reported_iff hnone).2 hword⟩, rfl⟩
  · exact ⟨_, _, Label.ofJson?_nat n.toNat_lt, rfl, (ofName_decimal n.toNat).symm⟩

end Operator

/-! ## Directions -/

namespace Direction

/-- The names of a direction. -/
def words : Direction → List String
  | .unsorted => ["nosort", "none"]
  | .ascending => ["ascending", "asc"]
  | .descending => ["descending", "desc"]

/-- A text without white space around it asks for the direction: by an integer that is its code, or
    by one of its names. -/
inductive AskedFor (core : String) (d : Direction) : Prop
  | code (h : Text.IsInteger core d.code)
  | name {word : String} (hword : word ∈ d.words) (h : Text.SpellsName word core)

theorem spellings_eq (d : Direction) : d.spellings = Text.decimal d.code :: d.words := by
  cases d <;> rfl

theorem exists_digit (d : Direction) :
    ∃ digit : Char, digit.isDigit = true ∧ (Text.decimal d.code).toList = [digit] := by
  cases d <;> exact ⟨_, by decide, rfl⟩

theorem isPlainWord_of_mem_words {d : Direction} : ∀ word ∈ d.words,
    Text.IsPlainWord word.toList ∧ word.toList.map Char.toLower = word.toList := by
  cases d <;> decide

/-- **The language of directions.**  A text is looked up as a direction where its digit is left once
    the joiners are left out, or one of its names. -/
theorem ofName_eq_ok_iff {s : String} {d : Direction} : ofName s = .ok d ↔
    Text.withoutJoiners (Text.trim s) = (Text.decimal d.code).toList ∨
      ∃ word ∈ d.words, Text.SpellsName word (Text.trim s) := by
  have hanswers : ofName s = .ok d ↔ Answers (.name s) d := by
    rw [← ofLabel_eq_ok_iff]
    exact Iff.rfl
  have hspelling : Answers (.name s) d ↔
      ∃ spelling ∈ d.spellings, spelling.toList = Text.bareName (Text.trim s) := by
    constructor
    · intro h
      cases h with
      | name hspelling h => exact ⟨_, hspelling, h⟩
    · rintro ⟨spelling, hspelling, h⟩
      exact .name hspelling h
  obtain ⟨digit, hdigit, htext⟩ := d.exists_digit
  rw [hanswers, hspelling, spellings_eq, List.exists_mem_cons_iff, htext, eq_comm,
    Text.bareName_eq_digit_iff hdigit]
  refine or_congr_right (exists_congr fun word => and_congr_right fun hword => ?_)
  obtain ⟨hplain, hlower⟩ := isPlainWord_of_mem_words word hword
  rw [eq_comm, Text.bareName_eq_iff hplain, Text.SpellsName, hlower]

/-- Where its digit is left, the direction was asked for if the digit stands alone, or if it is a
    zero behind a minus. -/
theorem askedFor_iff_of_digit {core : String} {d : Direction}
    (h : Text.withoutJoiners core = (Text.decimal d.code).toList) :
    AskedFor core d ↔ core = Text.decimal d.code ∨ core = "-0" := by
  obtain ⟨digit, hdigit, htext⟩ := d.exists_digit
  constructor
  · rintro (hcode | ⟨hword, hspells⟩)
    · rcases hcode with ⟨n, ⟨ds, hs | hs, hdigits, -⟩, -⟩ | ⟨ds, hs, hdigits, hvalue⟩
      · -- digits only: none of them was left out
        left
        rw [← String.toList_inj, ← h, Text.withoutJoiners, hs, Text.filter_digits hdigits]
      · -- a plus would have been left
        rw [Text.withoutJoiners, hs, htext] at h
        have hplus : ('+' :: ds).filter (fun c => c ≠ '_' ∧ c ≠ '-') = '+' :: ds := by
          rw [List.filter_cons_of_pos (by decide), Text.filter_digits hdigits]
        rw [hplus] at h
        obtain ⟨-, rfl⟩ := List.cons.inj h
        cases hdigits
      · -- the value of digits behind a minus is a code, so it is zero
        right
        have hrest : ds = (Text.decimal d.code).toList := by
          rw [← h, Text.withoutJoiners, hs, List.filter_cons_of_neg (by decide),
            Text.filter_digits hdigits]
        have hself := (Text.digits?_eq_some_iff.1 (Text.digits?_decimal d.code)).2
        rw [hrest, hself] at hvalue
        have hzero : d.code = 0 := by omega
        rw [← String.toList_inj, hs, hrest, hzero]
        rfl
    · obtain ⟨hplain, hlower⟩ := isPlainWord_of_mem_words _ hword
      rw [Text.SpellsName, hlower, h, htext] at hspells
      have hletter := Text.not_isDigit_of_spells hplain.1 hspells digit List.mem_cons_self
      rw [hdigit] at hletter
      cases hletter
  · rintro (rfl | rfl)
    · exact .code (.inl ⟨d.code, Text.isNumeral_decimal _, rfl⟩)
    · have hzero : d.code = 0 := by
        cases d with
        | unsorted => rfl
        | ascending | descending => exact absurd h (by decide)
      refine .code (.inr ⟨['0'], rfl, rfl, ?_⟩)
      rw [hzero]
      rfl

/-- **What is found was asked for, but for joined digits.**  A text is looked up as a direction that
    it does not ask for just where `_` or `-` stand beside the direction's digit; a minus in front
    of a zero is no such case. -/
theorem ofName_asked_iff (s : String) (d : Direction) : ∃ core, Text.TrimsTo s core ∧
    (ofName s = .ok d ↔ Text.withoutJoiners core = (Text.decimal d.code).toList ∨
      ∃ word ∈ d.words, Text.SpellsName word core) ∧
    ((ofName s = .ok d → AskedFor core d) ↔
      (Text.withoutJoiners core = (Text.decimal d.code).toList →
        core = Text.decimal d.code ∨ core = "-0")) := by
  refine ⟨Text.trim s, Text.trimsTo_iff.2 rfl, ofName_eq_ok_iff, ?_⟩
  rw [ofName_eq_ok_iff]
  constructor
  · intro h hdigit
    exact (askedFor_iff_of_digit hdigit).1 (h (.inl hdigit))
  · rintro h (hdigit | ⟨word, hword, hspells⟩)
    · exact (askedFor_iff_of_digit hdigit).2 (h hdigit)
    · exact .name hword hspells

/-- The numeral of a negative number is looked up as a direction that it does not ask for. -/
theorem negative_numeral_found : Text.IsInteger "-1" (-1) ∧ ofName "-1" = .ok .ascending ∧
    ¬ ∃ core, Text.TrimsTo "-1" core ∧ AskedFor core .ascending := by
  refine ⟨.inr ⟨['1'], rfl, rfl, rfl⟩, rfl, ?_⟩
  rintro ⟨core, hcore, hasked⟩
  obtain rfl := Text.trimsTo_iff.1 hcore
  have hdigit : Text.withoutJoiners (Text.trim "-1") = (Text.decimal ascending.code).toList := by
    decide
  exact absurd ((askedFor_iff_of_digit hdigit).1 hasked) (by decide)

end Direction

/-! ## Dialects -/

namespace Dialect

/-- A text without white space around it asks for the dialect by one of these names, each letter of
    it in either case. -/
inductive AskedFor (core : String) : Dialect → Prop
  | dynamicLinq {name : String} (hname : name ∈ ["dynamiclinq", "dynamic-linq", "linq"])
    (h : Text.Spells name.toList core.toList) : AskedFor core .dynamicLinq
  | postgres {name : String} (hname : name ∈ ["postgres", "postgresql", "pg"])
    (h : Text.Spells name.toList core.toList) : AskedFor core .postgres

theorem any_isUpper_of_mem_spellings {d : Dialect} :
    ∀ name ∈ d.spellings, name.toList.any Char.isUpper = false := by
  cases d <;> decide

theorem askedFor_iff {core : String} {d : Dialect} :
    AskedFor core d ↔ Text.foldCase core ∈ d.spellings := by
  have hspells : Text.foldCase core ∈ d.spellings ↔
      ∃ name ∈ d.spellings, Text.Spells name.toList core.toList := by
    constructor
    · intro h
      exact ⟨_, h, (Text.foldCase_eq_iff (any_isUpper_of_mem_spellings _ h)).1 rfl⟩
    · rintro ⟨name, hname, h⟩
      rwa [(Text.foldCase_eq_iff (any_isUpper_of_mem_spellings name hname)).2 h]
  rw [hspells]
  constructor
  · intro h
    cases h with
    | dynamicLinq hname h => exact ⟨_, hname, h⟩
    | postgres hname h => exact ⟨_, hname, h⟩
  · rintro ⟨name, hname, h⟩
    cases d with
    | dynamicLinq => exact .dynamicLinq hname h
    | postgres => exact .postgres hname h

theorem AskedFor.unique {core : String} {d d' : Dialect} (h : AskedFor core d)
    (h' : AskedFor core d') : d = d' := by
  have hapart : ∀ name ∈ Dialect.dynamicLinq.spellings, name ∉ Dialect.postgres.spellings := by
    decide
  rw [askedFor_iff] at h h'
  cases d <;> cases d'
  · rfl
  · exact absurd h' (hapart _ h)
  · exact absurd h (hapart _ h')
  · rfl

/-- **The language of dialects.**  A text is looked up as the dialect that it asks for, white space
    around it aside.  One that asks for none is reported without that, in lower case. -/
theorem ofName_iff {s core : String} (h : Text.TrimsTo s core) :
    (∀ d, ofName s = .ok d ↔ AskedFor core d) ∧
      ∀ e, ofName s = .error e ↔ (∀ d, ¬ AskedFor core d) ∧ e = ⟨Text.foldCase core⟩ := by
  obtain rfl := Text.trimsTo_iff.1 h
  have hfound (d : Dialect) : [dynamicLinq, postgres].find? (fun d =>
      d.spellings.contains (Text.foldCase (Text.trim s))) = some d ↔ AskedFor (Text.trim s) d := by
    simp only [List.contains_eq_mem]
    rw [find?_eq_some_iff_of_unique (by cases d <;> decide), decide_eq_true_iff, askedFor_iff]
    intro d' h' h
    exact (askedFor_iff.2 (of_decide_eq_true h')).unique (askedFor_iff.2 (of_decide_eq_true h))
  rw [ofName]
  cases hd : [dynamicLinq, postgres].find? fun d =>
      d.spellings.contains (Text.foldCase (Text.trim s)) with
  | some d =>
    have hasked := (hfound d).1 hd
    refine ⟨fun d' => ⟨fun h => ?_, fun h => congrArg _ (hasked.unique h)⟩, fun e =>
      ⟨nofun, fun h => absurd hasked (h.1 d)⟩⟩
    rwa [← Except.ok.inj h]
  | none =>
    have hnone (d : Dialect) : ¬ AskedFor (Text.trim s) d := by
      rw [← hfound, hd]
      exact nofun
    refine ⟨fun d => ⟨nofun, fun h => absurd h (hnone d)⟩, fun e => ⟨fun h => ?_, fun h => ?_⟩⟩
    · exact ⟨hnone, (Except.error.inj h).symm⟩
    · rw [h.2]

end Dialect

end FilterPlan
