/-
  Packed texts under validated separators.

  1. **Characters** — `validate` refuses just the separators that are alike or that occur in
     identifiers, in markers or in white space.  No character is both of an identifier and blank, so
     identifiers lose nothing when they are trimmed.
  2. **Packed fields** — `PacksFields` says how identifiers are written as one field text: each with
     white space around it at will, joined by the field separator, behind a marker or none.
  3. **The crux (`targets_of_packsFields`)** — a validated separator is in no piece, so the text is
     cut just where it was joined; the value separator in it, if there is one, ends the marker.
  4. **Packed values** — values without the separator come back from their join, and the tests of all
     fields bind them.
-/
import FilterPlan.Proofs.Condition.Gathering
import FilterPlan.Proofs.Json.Records

namespace FilterPlan

/-! ## Characters -/

namespace Text

/-- The white space as closed ranges of code points. -/
def blankRanges : List (Nat × Nat) :=
  [(0x09, 0x0D), (0x20, 0x20), (0x85, 0x85), (0xA0, 0xA0), (0x1680, 0x1680), (0x2000, 0x200A),
    (0x2028, 0x2029), (0x202F, 0x202F), (0x205F, 0x205F), (0x3000, 0x3000)]

theorem exists_blankRange {c : Char} (h : isBlank c = true) :
    ∃ b ∈ blankRanges, b.1 ≤ c.toNat ∧ c.toNat ≤ b.2 := by
  simp only [isBlank, Bool.or_eq_true, Bool.and_eq_true, decide_eq_true_eq, beq_iff_eq] at h
  simp only [blankRanges, List.exists_mem_cons_iff, List.not_mem_nil, false_and, exists_false]
  omega

/-- White space has no letters and no digits in it. -/
theorem isAlphanumeric_of_isBlank {c : Char} (h : isBlank c = true) : isAlphanumeric c = false := by
  -- most of the ranges begin behind the last white space, and are settled by that alone
  have hapart : (alphanumericRanges.all fun r => Nat.blt 0x3000 r.1 ||
      blankRanges.all fun b => Nat.blt r.2 b.1 || Nat.blt b.2 r.1) = true := by
    decide +kernel
  have hlast : ∀ b ∈ blankRanges, b.2 ≤ 0x3000 := by decide
  obtain ⟨b, hb, hfrom, hto⟩ := exists_blankRange h
  have hbound := hlast b hb
  rw [isAlphanumeric, List.any_eq_false]
  intro r hr hcovers
  rw [Bool.and_eq_true, decide_eq_true_eq, decide_eq_true_eq] at hcovers
  have hr' := List.all_eq_true.1 hapart r hr
  rw [Bool.or_eq_true, List.all_eq_true] at hr'
  rcases hr' with hbehind | hbeside
  · rw [Nat.blt_eq] at hbehind
    omega
  · have hb' := hbeside b hb
    rw [Bool.or_eq_true, Nat.blt_eq, Nat.blt_eq] at hb'
    omega

/-- Holds of the characters that identifiers are made of. -/
def isIdentifierChar (c : Char) : Bool := isAlphanumeric c || c == '_' || c == '.'

/-- The text is an identifier. -/
structure IsIdentifier (name : String) : Prop where
  nonempty : name ≠ ""
  chars : ∀ c ∈ name.toList, isIdentifierChar c = true

instance (name : String) : Decidable (IsIdentifier name) :=
  decidable_of_iff (name ≠ "" ∧ name.toList.all isIdentifierChar = true)
    ⟨fun h => ⟨h.1, List.all_eq_true.1 h.2⟩, fun h => ⟨h.nonempty, List.all_eq_true.2 h.chars⟩⟩

theorem isBlank_of_isIdentifierChar {c : Char} (h : isIdentifierChar c = true) :
    isBlank c = false := by
  rw [Bool.eq_false_iff]
  intro blank
  rw [isIdentifierChar, isAlphanumeric_of_isBlank blank, Bool.false_or, Bool.or_eq_true,
    beq_iff_eq, beq_iff_eq] at h
  rcases h with rfl | rfl
  · exact absurd blank (by decide)
  · exact absurd blank (by decide)

/-- The text is the core with white space on either side, as much as one likes. -/
def Pads (core text : String) : Prop :=
  ∃ before after : String, allBlank before = true ∧ allBlank after = true ∧
    text = before ++ core ++ after

theorem Pads.trimsTo {core text : String} (h : Pads core text)
    (chars : ∀ c ∈ core.toList, isIdentifierChar c = true) : TrimsTo text core := by
  obtain ⟨before, after, hbefore, hafter, rfl⟩ := h
  have bare : ∀ c ∈ core.toList, isBlank c = false :=
    fun c hc => isBlank_of_isIdentifierChar (chars c hc)
  refine ⟨⟨before.toList, after.toList, List.all_eq_true.1 hbefore, List.all_eq_true.1 hafter, ?_⟩,
    fun c hc => bare c (List.mem_of_mem_head? hc), fun c hc => bare c (List.mem_of_getLast? hc)⟩
  rw [String.toList_append, String.toList_append]

/-- The characters of a join are those of the parts and the separator. -/
theorem mem_toList_join {separator x : Char} {parts : List String}
    (h : x ∈ (join separator parts).toList) : x = separator ∨ ∃ p ∈ parts, x ∈ p.toList := by
  rw [join, String.toList_ofList] at h
  induction parts with
  | nil => cases h
  | cons p rest ih =>
    cases rest with
    | nil =>
      rw [List.map_cons, List.map_nil, List.intercalate_singleton] at h
      exact .inr ⟨p, List.mem_cons_self, h⟩
    | cons q rest =>
      rw [List.map_cons, List.map_cons, List.intercalate_cons_cons, ← List.map_cons] at h
      rcases List.mem_append.1 h with h | h
      · rcases List.mem_append.1 h with h | h
        · exact .inr ⟨p, List.mem_cons_self, h⟩
        · exact .inl (List.mem_singleton.1 h)
      · rcases ih h with rfl | ⟨r, hr, hx⟩
        · exact .inl rfl
        · exact .inr ⟨r, List.mem_cons_of_mem p hr, hx⟩

theorem toList_join_singleton (separator : Char) (part : String) :
    (join separator [part]).toList = part.toList := by
  rw [join, String.toList_ofList, List.map_cons, List.map_nil, List.intercalate_singleton]

/-- A join of two parts or more has the separator in it. -/
theorem separator_mem_join (separator : Char) (p q : String) (rest : List String) :
    separator ∈ (join separator (p :: q :: rest)).toList := by
  rw [join, String.toList_ofList, List.map_cons, List.map_cons, List.intercalate_cons_cons]
  exact List.mem_append_left _ (List.mem_append_right _ (List.mem_singleton.2 rfl))

end Text

/-- A marker is made of letters. -/
theorem Connective.IsMarker.chars {join : Connective} {word : List Char} (h : join.IsMarker word) :
    ∀ c ∈ word, Text.isIdentifierChar c = true := by
  -- by `List.all`, since deciding a quantifier over characters may go through all of them
  have spelled : ∀ {letters : List Char}, (letters.all fun letter =>
      Text.isIdentifierChar letter && Text.isIdentifierChar letter.toUpper) = true →
      Text.Spells letters word → ∀ c ∈ word, Text.isIdentifierChar c = true := by
    intro letters hletters hspells c hc
    obtain ⟨letter, hletter, hcase⟩ := Json.forall₂_exists_left hspells hc
    obtain ⟨hlower, hupper⟩ := Bool.and_eq_true_iff.1 (List.all_eq_true.1 hletters _ hletter)
    rcases hcase with rfl | rfl
    · exact hlower
    · exact hupper
  cases join with
  | or => exact spelled (by decide) h
  | and => exact spelled (by decide) h

/-! ## Packed fields -/

namespace Separators

variable {s : Separators}

/-- **Validation.**  Separators are accepted if they differ and neither is reserved. -/
theorem validate_eq_ok_iff :
    s.validate = .ok () ↔ s.field ≠ s.value ∧ isReserved s.field = false ∧
      isReserved s.value = false := by
  rw [validate]
  by_cases hequal : s.field = s.value
  · simp [hequal]
  · cases hfield : isReserved s.field <;> cases hvalue : isReserved s.value <;> simp [hequal]

/-- The characters that a separator must not be: white space, and what identifiers are made of. -/
theorem isReserved_iff {c : Char} :
    isReserved c = true ↔ Text.isBlank c = true ∨ Text.isIdentifierChar c = true := by
  simp [isReserved, Text.isIdentifierChar, or_assoc]

/-- Why separators are refused: they are alike, or one of them is white space or may be part of an
    identifier.  The field separator is looked at first. -/
inductive RefusedFor (s : Separators) : VocabularyError → Prop
  | alike (h : s.field = s.value) : s.RefusedFor (.equalSeparators s.field)
  | field (hne : s.field ≠ s.value)
    (h : Text.isBlank s.field = true ∨ Text.isIdentifierChar s.field = true) :
    s.RefusedFor (.reservedSeparator .field s.field)
  | value (hne : s.field ≠ s.value)
    (hfield : ¬ (Text.isBlank s.field = true ∨ Text.isIdentifierChar s.field = true))
    (h : Text.isBlank s.value = true ∨ Text.isIdentifierChar s.value = true) :
    s.RefusedFor (.reservedSeparator .value s.value)

theorem validate_eq_error_iff {e : VocabularyError} : s.validate = .error e ↔ s.RefusedFor e := by
  rw [validate]
  constructor
  · intro h
    split at h
    · rename_i hequal
      rw [← Except.error.inj h]
      exact .alike hequal
    · rename_i hne
      split at h
      · rename_i hfield
        rw [← Except.error.inj h]
        exact .field hne (isReserved_iff.1 hfield)
      · rename_i hfield
        split at h
        · rename_i hvalue
          rw [← Except.error.inj h]
          exact .value hne (mt isReserved_iff.2 hfield) (isReserved_iff.1 hvalue)
        · cases h
  · intro h
    cases h with
    | alike hequal => rw [if_pos hequal]
    | field hne h => rw [if_neg hne, if_pos (isReserved_iff.2 h)]
    | value hne hfield h =>
      rw [if_neg hne, if_neg (mt isReserved_iff.1 hfield), if_pos (isReserved_iff.2 h)]

/-- The field text packs these identifiers: each with white space around it at will, joined by the
    field separator.  In front of them there may stand the marker of a connective, with white space
    around it too; without one they are packed under OR. -/
inductive PacksFields (s : Separators) (names : List String) : Connective → String → Prop
  | unmarked {padded : List String} (pads : List.Forall₂ Text.Pads names padded) :
    s.PacksFields names .or (Text.join s.field padded)
  | marked {join : Connective} {word marker : String} {padded : List String}
    (spells : join.IsMarker word.toList) (pads_word : Text.Pads word marker)
    (pads : List.Forall₂ Text.Pads names padded) :
    s.PacksFields names join (marker ++ s.value.toString ++ Text.join s.field padded)

/-- What pads an identifier or a marker holds no character that may separate. -/
theorem not_mem_of_pads {core text : String} (h : Text.Pads core text)
    (chars : ∀ c ∈ core.toList, Text.isIdentifierChar c = true) {separator : Char}
    (free : isReserved separator = false) : separator ∉ text.toList := by
  obtain ⟨before, after, hbefore, hafter, rfl⟩ := h
  rw [Bool.eq_false_iff, ne_eq, isReserved_iff, not_or] at free
  obtain ⟨hblank, hidentifier⟩ := free
  intro hmem
  rw [String.toList_append, String.toList_append, List.mem_append, List.mem_append] at hmem
  rcases hmem with (hmem | hmem) | hmem
  · exact hblank (List.all_eq_true.1 hbefore _ hmem)
  · exact hidentifier (chars _ hmem)
  · exact hblank (List.all_eq_true.1 hafter _ hmem)

/-- A text without the value separator has no marker. -/
theorem readMarker_of_not_mem {field : String} (free : s.value ∉ field.toList) :
    s.readMarker field = (.or, field) := by
  refine reads_iff.1 (.plain ?_)
  rintro join rest ⟨head, core, htext, -, -, -⟩
  exact free (by rw [htext]; exact List.mem_append_right _ List.mem_cons_self)

/-- A marker is read up to the value separator, and all behind it is left. -/
theorem readMarker_marked (valid : s.validate = .ok ()) {join : Connective} {word marker : String}
    (spells : join.IsMarker word.toList) (pads : Text.Pads word marker) (rest : String) :
    s.readMarker (marker ++ s.value.toString ++ rest) = (join, rest) := by
  obtain ⟨-, -, hvalue⟩ := validate_eq_ok_iff.1 valid
  refine reads_iff.1 (.marked ⟨marker, word, ?_, ?_, pads.trimsTo spells.chars, spells⟩)
  · simp
  · exact not_mem_of_pads pads spells.chars hvalue

section

variable {names padded : List String}

theorem not_mem_of_mem_padded (identifiers : ∀ n ∈ names, Text.IsIdentifier n)
    (pads : List.Forall₂ Text.Pads names padded) {separator : Char}
    (free : isReserved separator = false) : ∀ p ∈ padded, separator ∉ p.toList := by
  intro p hp
  obtain ⟨n, hn, hpad⟩ := Json.forall₂_exists_left pads hp
  exact not_mem_of_pads hpad (identifiers n hn).chars free

/-- Padded identifiers are trimmed to what they were. -/
theorem trim_padded (identifiers : ∀ n ∈ names, Text.IsIdentifier n)
    (pads : List.Forall₂ Text.Pads names padded) : padded.map Text.trim = names := by
  induction pads with
  | nil => rfl
  | @cons n p names padded hpad hrest ih =>
    obtain ⟨hn, hnames⟩ := List.forall_mem_cons.1 identifiers
    rw [List.map_cons, ih hnames, ← Text.trimsTo_iff.1 (hpad.trimsTo hn.chars)]

/-- **Identifiers come back.**  What was joined is cut where it was joined, and a single identifier
    is no list. -/
theorem targets_of_readMarker (valid : s.validate = .ok ()) (nonempty : names ≠ [])
    (identifiers : ∀ n ∈ names, Text.IsIdentifier n) (pads : List.Forall₂ Text.Pads names padded)
    {field : String} {join : Connective}
    (read : s.readMarker field = (join, Text.join s.field padded)) :
    s.targets field = ⟨join, names, decide (2 ≤ names.length)⟩ := by
  obtain ⟨-, hfield, -⟩ := validate_eq_ok_iff.1 valid
  have hfree : ∀ p ∈ padded, s.field ∉ p.toList := not_mem_of_mem_padded identifiers pads hfield
  have htrimmed : padded.map Text.trim = names := trim_padded identifiers pads
  have hkept : names.filter (· ≠ "") = names :=
    List.filter_eq_self.2 fun n hn => by simpa using (identifiers n hn).nonempty
  have hpadded : padded ≠ [] := by
    rintro rfl
    exact nonempty htrimmed.symm
  have hlength : names.length = padded.length := pads.length_eq
  simp only [targets, read]
  -- one identifier is read as it is, so its padding is trimmed there; two or more are cut apart
  cases padded with
  | nil => exact absurd rfl hpadded
  | cons p rest =>
    cases rest with
    | nil =>
      have hlists : ¬ s.listsFields (Text.join s.field [p]) = true := by
        rw [listsFields, Text.toList_join_singleton]
        simpa using hfree p List.mem_cons_self
      have hjoin : Text.join s.field [p] = p := by
        rw [← String.toList_inj, Text.toList_join_singleton]
      have hsingle : [Text.trim p] = names := htrimmed
      rw [if_neg hlists, hjoin, hsingle, hkept, hlength]
      rfl
    | cons q rest =>
      have hlists : s.listsFields (Text.join s.field (p :: q :: rest)) = true := by
        rw [listsFields, List.contains_iff_mem]
        exact Text.separator_mem_join s.field p q rest
      rw [if_pos hlists, fieldsIn, Text.pieces_join hpadded hfree, htrimmed, hkept, hlength]
      simp

/-- **Packed fields.**  Identifiers that a field text packs are its targets, in order and under the
    connective that they are packed under; they are a list if there are two of them or more. -/
theorem targets_of_packsFields (valid : s.validate = .ok ()) (nonempty : names ≠ [])
    (identifiers : ∀ n ∈ names, Text.IsIdentifier n) {join : Connective} {field : String}
    (packs : s.PacksFields names join field) :
    s.targets field = ⟨join, names, decide (2 ≤ names.length)⟩ := by
  cases packs with
  | unmarked pads =>
    obtain ⟨hdiffer, -, hvalue⟩ := validate_eq_ok_iff.1 valid
    refine targets_of_readMarker valid nonempty identifiers pads (readMarker_of_not_mem ?_)
    intro hmem
    -- the value separator is neither the one that joins nor a character of what is joined
    rcases Text.mem_toList_join hmem with heq | ⟨p, hp, hx⟩
    · exact hdiffer heq.symm
    · exact not_mem_of_mem_padded identifiers pads hvalue p hp hx
  | marked spells pads_word pads =>
    exact targets_of_readMarker valid nonempty identifiers pads
      (readMarker_marked valid spells pads_word _)

end

/-! ## Packed values -/

/-- **Packed values.**  Values that are not empty and have no separator in them come back from their
    join as they were. -/
theorem valuesIn_join {values : List String}
    (free : ∀ v ∈ values, v ≠ "" ∧ s.value ∉ v.toList) :
    s.valuesIn (Text.join s.value values) = values := by
  cases values with
  | nil => rfl
  | cons v rest =>
    rw [valuesIn, Text.pieces_join (List.cons_ne_nil v rest) fun w hw => (free w hw).2]
    exact List.filter_eq_self.2 fun w hw => by simpa using (free w hw).1

/-- **Packed values are bound field by field.**  A condition on identifiers, under an operator that
    takes as many values as are packed, compiles to a filter that binds them once for each. -/
theorem arguments_of_packed {c : Condition} {names values : List String} (d : Dialect)
    (nonempty : names ≠ []) (value : c.valueIsBlank = false) (packed : s.valuesIn c.value = values)
    (some_value : values ≠ []) {join : Connective}
    (targets : c.targets s = ⟨join, names, decide (2 ≤ names.length)⟩)
    (takes : c.operator = .oneOf ∨ c.operator = .noneOf ∨
      c.operator.packsBounds = true ∧ values.length = 2) :
    ∃ p, (Settings.compile ⟨s, d⟩ [c]).outcome = .ok p ∧
      p.arguments = (List.replicate names.length values).flatten := by
  have hpacks : c.operator.packs = true := by
    rcases takes with h | h | ⟨h, -⟩
    · rw [h]; rfl
    · rw [h]; rfl
    · exact Operator.packs_of_packsBounds h
  have hbounds : c.operator.packsBounds = true → (s.valuesIn c.value).length = 2 := by
    intro hrange
    rcases takes with h | h | ⟨-, h⟩
    · rw [h] at hrange; cases hrange
    · rw [h] at hrange; cases hrange
    · rw [packed]; exact h
  rw [← packed] at some_value
  obtain ⟨test, htest⟩ := Condition.bindsValues hpacks value some_value hbounds
  have hsingle : (c.targets s).listed = false → (c.targets s).fields.length = 1 := by
    have := List.length_pos_iff.2 nonempty
    rw [targets]
    simp only [decide_eq_false_iff_not]
    omega
  have hfields : (c.targets s).fields ≠ [] := by
    rw [targets]
    exact nonempty
  obtain ⟨f, hgather, hatoms⟩ := Targets.exists_gather hfields hsingle
  have hformula : c.formula? s = .ok (some f) := by
    rw [Condition.formula?_of_tests fun field => (htest field).1, hgather]
  refine ⟨_, Settings.outcome_compile_singleton hformula, ?_⟩
  rw [Formula.arguments_conjunction, Option.toList_some, Formula.atomsOf_eq_flatMap,
    List.flatMap_singleton, hatoms, targets, List.filterMap_flatMap]
  have heach : (fun field => (test field).atoms.filterMap (Atom.argument? d)) = fun _ => values :=
    funext fun field => ((htest field).2 d).trans packed
  rw [heach, List.flatMap_def, List.map_const']

end Separators

end FilterPlan
