/-
  The fields and values that texts stand for.

  1. **Markers** — `Reads` says which connective a field text asks for and what is left of it
     without the marker: `or` or `and` in either case, white space around it aside, before the
     first value separator.
  2. **Names and values** — `Names` says which fields that rest names, `Packs` which values a text
     packs.  They are stated by what joins back to the text, not by how it is cut.
  3. **The crux (`targets_iff`)** — a field text can be read in one way, and the targets that the
     library finds are what it names then.
-/
import FilterPlan.Separators
import FilterPlan.Proofs.Text.Case
import FilterPlan.Proofs.Text.Splitting

namespace FilterPlan

/-! ## Field texts -/

/-- The characters are the marker of a connective, each letter in either case. -/
def Connective.IsMarker : Connective → List Char → Prop
  | .or, cs => Text.Spells ['o', 'r'] cs
  | .and, cs => Text.Spells ['a', 'n', 'd'] cs

namespace Separators

/-- The text opens with a marker, white space around it aside, and the rest stands after the first
    value separator. -/
def Marks (s : Separators) (field : String) (join : Connective) (rest : String) : Prop :=
  ∃ head core : String, field.toList = head.toList ++ s.value :: rest.toList ∧
    s.value ∉ head.toList ∧ Text.TrimsTo head core ∧ join.IsMarker core.toList

/-- The text asks for a connective, OR unless a marker says otherwise, and this is left of it. -/
inductive Reads (s : Separators) (field : String) : Connective → String → Prop
  | marked {join : Connective} {rest : String} (marks : s.Marks field join rest) :
    s.Reads field join rest
  | plain (unmarked : ∀ join rest, ¬ s.Marks field join rest) : s.Reads field .or field

/-- What is left names these fields: a list of them wherever the field separator occurs, and
    otherwise itself.  Every name is trimmed, and an empty one is no name. -/
inductive Names (s : Separators) (rest : String) : List String → Prop
  | listed {pieces cores : List String} (separated : s.field ∈ rest.toList)
    (split : Text.SplitsInto s.field rest pieces)
    (trimmed : List.Forall₂ Text.TrimsTo pieces cores) :
    s.Names rest (cores.filter (· ≠ ""))
  | single {core : String} (unseparated : s.field ∉ rest.toList)
    (trimmed : Text.TrimsTo rest core) : s.Names rest ([core].filter (· ≠ ""))

/-- The text packs these values, none of them empty. -/
def Packs (s : Separators) (value : String) (values : List String) : Prop :=
  ∃ pieces, Text.SplitsInto s.value value pieces ∧ values = pieces.filter (· ≠ "")

end Separators

/-! ## Field texts are read as stated -/

theorem foldCase_eq_word_iff {join : Connective} {text : String} :
    (Text.foldCase text == join.word) = true ↔ join.IsMarker text.toList := by
  rw [beq_iff_eq]
  cases join with
  | or => exact Text.foldCase_eq_iff (by decide)
  | and => exact Text.foldCase_eq_iff (by decide)

theorem ofMarker?_eq_some_iff {marker : String} {join : Connective} :
    Connective.ofMarker? marker = some join ↔ join.IsMarker (Text.trim marker).toList := by
  rw [← foldCase_eq_word_iff, Connective.ofMarker?]
  constructor
  · intro h
    have hfound := List.find?_some h
    exact hfound
  · intro h
    cases join with
    | or => simp only [List.find?_cons, h]
    | and =>
      have hor : (Text.foldCase (Text.trim marker) == Connective.or.word) = false := by
        rw [beq_iff_eq.1 h]
        decide
      simp only [List.find?_cons, hor, h]

namespace Separators

theorem marks_iff {s : Separators} {field rest : String} {join : Connective} :
    s.Marks field join rest ↔ ∃ head, Text.cut? s.value field = some (head, rest) ∧
      Connective.ofMarker? head = some join := by
  constructor
  · rintro ⟨head, core, htext, hfree, hcore, hmarker⟩
    refine ⟨head, Text.cut?_eq_some_iff.2 ⟨htext, hfree⟩, ?_⟩
    rw [ofMarker?_eq_some_iff, ← Text.trimsTo_iff.1 hcore]
    exact hmarker
  · rintro ⟨head, hcut, hmarker⟩
    obtain ⟨htext, hfree⟩ := Text.cut?_eq_some_iff.1 hcut
    exact ⟨head, Text.trim head, htext, hfree, Text.trimsTo_iff.2 rfl,
      ofMarker?_eq_some_iff.1 hmarker⟩

/-- **Markers.**  A field text is read in one way, that of `readMarker`. -/
theorem reads_iff {s : Separators} {field rest : String} {join : Connective} :
    s.Reads field join rest ↔ s.readMarker field = (join, rest) := by
  have unmarked : (∀ join rest, ¬ s.Marks field join rest) → s.readMarker field = (.or, field) := by
    intro h
    rw [readMarker]
    cases hcut : Text.cut? s.value field with
    | none => rfl
    | some cut =>
      obtain ⟨head, rest'⟩ := cut
      cases hmarker : Connective.ofMarker? head with
      | none => simp only [hmarker]
      | some join' => exact absurd (marks_iff.2 ⟨head, hcut, hmarker⟩) (h join' rest')
  constructor
  · intro h
    cases h with
    | marked marks =>
      obtain ⟨head, hcut, hmarker⟩ := marks_iff.1 marks
      simp only [readMarker, hcut, hmarker]
    | plain h => exact unmarked h
  · intro h
    by_cases hmarks : ∃ join rest, s.Marks field join rest
    · obtain ⟨join', rest', marks⟩ := hmarks
      obtain ⟨head, hcut, hmarker⟩ := marks_iff.1 marks
      simp only [readMarker, hcut, hmarker, Prod.mk.injEq] at h
      obtain ⟨rfl, rfl⟩ := h
      exact .marked marks
    · have hnone : ∀ join rest, ¬ s.Marks field join rest :=
        fun join rest marks => hmarks ⟨join, rest, marks⟩
      rw [unmarked hnone, Prod.mk.injEq] at h
      obtain ⟨rfl, rfl⟩ := h
      exact .plain hnone

theorem names_iff {s : Separators} {rest : String} {fields : List String} :
    s.Names rest fields ↔ fields =
      if s.listsFields rest then s.fieldsIn rest else [Text.trim rest].filter (· ≠ "") := by
  have hlists : s.listsFields rest = true ↔ s.field ∈ rest.toList := by simp [listsFields]
  constructor
  · intro h
    cases h with
    | listed separated split trimmed =>
      rw [if_pos (hlists.2 separated), fieldsIn, ← Text.splitsInto_iff.1 split,
        Text.forall₂_trimsTo_iff.1 trimmed]
    | single unseparated trimmed =>
      rw [if_neg (fun h => unseparated (hlists.1 h)), Text.trimsTo_iff.1 trimmed]
  · rintro rfl
    by_cases h : s.listsFields rest = true
    · rw [if_pos h]
      exact .listed (hlists.1 h) (Text.splitsInto_iff.2 rfl) (Text.forall₂_trimsTo_iff.2 rfl)
    · rw [if_neg h]
      exact .single (fun hm => h (hlists.2 hm)) (Text.trimsTo_iff.2 rfl)

theorem packs_iff {s : Separators} {value : String} {values : List String} :
    s.Packs value values ↔ values = s.valuesIn value := by
  constructor
  · rintro ⟨pieces, split, rfl⟩
    rw [Text.splitsInto_iff.1 split, valuesIn]
  · rintro rfl
    exact ⟨_, Text.splitsInto_iff.2 rfl, rfl⟩

/-- **Targets.**  The targets of a field text are the fields that it names, under the connective
    that it asks for. -/
theorem targets_iff {s : Separators} {field : String} {join : Connective} {fields : List String} :
    (∃ rest, s.Reads field join rest ∧ s.Names rest fields) ↔
      (s.targets field).join = join ∧ (s.targets field).fields = fields := by
  simp only [reads_iff, names_iff, targets]
  constructor
  · rintro ⟨rest, hread, rfl⟩
    rw [hread]
    by_cases h : s.listsFields rest = true
    · simp only [if_pos h, and_self]
    · simp only [if_neg h, and_self]
  · rintro ⟨rfl, rfl⟩
    refine ⟨(s.readMarker field).2, ?_, ?_⟩
    · by_cases h : s.listsFields (s.readMarker field).2 = true
      · simp only [if_pos h]
      · simp only [if_neg h]
    · by_cases h : s.listsFields (s.readMarker field).2 = true
      · simp only [if_pos h]
      · simp only [if_neg h]

/-- A field text that is no list names one field at most. -/
theorem fields_of_not_listed {s : Separators} {field : String}
    (h : ¬ (s.targets field).listed = true) :
    (s.targets field).fields = [] ∨ ∃ f, (s.targets field).fields = [f] := by
  by_cases hlists : s.listsFields (s.readMarker field).2 = true
  · simp only [targets, if_pos hlists, not_true_eq_false] at h
  · simp only [targets, if_neg hlists]
    by_cases hempty : Text.trim (s.readMarker field).2 = ""
    · exact .inl (by simp [hempty])
    · exact .inr ⟨_, List.filter_cons_of_pos (by simpa using hempty)⟩

/-- Characters that are left without the marker come from the field text. -/
theorem mem_of_mem_readMarker {s : Separators} {field : String} {x : Char}
    (h : x ∈ (s.readMarker field).2.toList) : x ∈ field.toList := by
  have hread : s.Reads field (s.readMarker field).1 (s.readMarker field).2 := reads_iff.2 rfl
  generalize (s.readMarker field).1 = join at hread
  generalize (s.readMarker field).2 = rest at hread h
  cases hread with
  | marked marks =>
    obtain ⟨head, core, htext, -, -, -⟩ := marks
    rw [htext]
    exact List.mem_append_right _ (List.mem_cons_of_mem _ h)
  | plain _ => exact h

/-- What is left of a field text without the marker names no field if there is nothing in it but
    white space and field separators. -/
theorem fields_of_nothing_named {s : Separators} {field : String}
    (h : ∀ x ∈ (s.readMarker field).2.toList, Text.isBlank x = true ∨ x = s.field) :
    (s.targets field).fields = [] := by
  by_cases hlists : s.listsFields (s.readMarker field).2 = true
  · simp only [targets, if_pos hlists, fieldsIn, List.filter_eq_nil_iff, List.mem_map]
    rintro f ⟨piece, hpiece, rfl⟩
    have hsplit : Text.SplitsInto s.field _ (Text.pieces s.field (s.readMarker field).2) :=
      Text.splitsInto_iff.2 rfl
    have hblank : Text.allBlank piece = true := by
      refine List.all_eq_true.2 fun x hx => ?_
      have hseparator : x ≠ s.field := fun he => hsplit.free piece hpiece (he ▸ hx)
      exact (h x (Text.mem_of_mem_pieces hpiece hx)).resolve_right hseparator
    simp [Text.trim_eq_empty_iff.2 hblank]
  · have hseparator : s.field ∉ (s.readMarker field).2.toList := by
      simpa [listsFields] using hlists
    have hblank : Text.allBlank (s.readMarker field).2 = true := by
      refine List.all_eq_true.2 fun x hx => ?_
      exact (h x hx).resolve_right fun he => hseparator (he ▸ hx)
    simp [targets, if_neg hlists, Text.trim_eq_empty_iff.2 hblank]

/-- A blank field text names no field. -/
theorem fields_of_blank {s : Separators} {field : String} (blank : Text.allBlank field = true) :
    (s.targets field).fields = [] :=
  fields_of_nothing_named fun x hx =>
    .inl (List.all_eq_true.1 blank x (mem_of_mem_readMarker hx))

end Separators

end FilterPlan
