/-
  What becomes of a text that is sent as a request.

  1. **Entries** — `Means` says which condition or sort rule an entry stands for, `Unknown` that it
     stands for none and how that is reported.
  2. **The crux (`ofText_iff_verdict`)** — the shape of the whole text is settled before any label
     is looked up, and every condition before any sort rule.  So each text has one verdict: it is
     malformed, or names something unknown first, or is a request.
-/
import FilterPlan.Proofs.Json.Reading
import FilterPlan.Proofs.Wire.Labels
import FilterPlan.Proofs.Wire.Shapes
import FilterPlan.Proofs.Traversal

namespace FilterPlan

open Json

/-- What is read from a text and then decoded is what the shape says of its document. -/
theorem Json.Decodes.read?_bind_eq_some_iff {α : Type} {decode : Json → Option α}
    {shape : Json → α → Prop} (h : Decodes decode shape) {text : String} {a : α} :
    (Json.read? text).bind decode = some a ↔ ∃ j, IsDocument text j ∧ shape j a := by
  simp only [Option.bind_eq_some_iff, Json.read?_eq_some_iff, h _ _]

/-! ## Entries -/

/-- What is unknown about the first of some entries that mean nothing. -/
def FirstUnknown {ι α : Type} (Means : ι → α → Prop) (Unknown : ι → String → Prop)
    (entries : List ι) (word : String) : Prop :=
  ∃ before e after, entries = before ++ e :: after
    ∧ (∀ b ∈ before, ∃ a, Means b a) ∧ Unknown e word

/-- Entries that are resolved in turn are refused for the first one that means nothing. -/
theorem firstUnknown_iff {ι α : Type} {Means : ι → α → Prop} {Unknown : ι → String → Prop}
    {resolve : ι → Except VocabularyError α} {report : String → VocabularyError}
    (hok : ∀ {e a}, resolve e = .ok a ↔ Means e a)
    (herror : ∀ {e err}, resolve e = .error err ↔ ∃ word, Unknown e word ∧ err = report word)
    {entries : List ι} {err : VocabularyError} :
    entries.mapM resolve = .error err
      ↔ ∃ word, FirstUnknown Means Unknown entries word ∧ err = report word := by
  simp only [mapM_eq_error_iff, hok, herror, FirstUnknown]
  constructor
  · rintro ⟨before, e, after, hsplit, hbefore, word, hunknown, herr⟩
    exact ⟨word, ⟨before, e, after, hsplit, hbefore, hunknown⟩, herr⟩
  · rintro ⟨word, ⟨before, e, after, hsplit, hbefore, hunknown⟩, herr⟩
    exact ⟨before, e, after, hsplit, hbefore, word, hunknown, herr⟩

namespace ConditionEntry

/-- The condition is what the entry means. -/
def Means (e : ConditionEntry) (c : Condition) : Prop :=
  c.field = e.field ∧ c.value = e.value ∧ Operator.Answers e.operator c.operator
    ∧ c.skipIfBlank = e.skipIfBlank

/-- No operator answers to the entry's label, which is reported by this word. -/
def Unknown (e : ConditionEntry) (word : String) : Prop :=
  (∀ op, ¬ Operator.Answers e.operator op) ∧ Operator.Reported e.operator word

theorem resolve_eq_ok_iff {e : ConditionEntry} {c : Condition} :
    e.resolve = .ok c ↔ e.Means c := by
  rw [resolve, Means, ← Operator.ofLabel_eq_ok_iff]
  cases Operator.ofLabel e.operator with
  | error err => simp [Except.map]
  | ok op =>
    constructor
    · intro h
      cases h
      exact ⟨rfl, rfl, rfl, rfl⟩
    · rintro ⟨hfield, hvalue, hop, hskip⟩
      cases hop
      rw [← hfield, ← hvalue, ← hskip]
      rfl

theorem resolve_eq_error_iff {e : ConditionEntry} {err : VocabularyError} :
    e.resolve = .error err ↔ ∃ word, e.Unknown word ∧ err = .unknownOperator word := by
  simp only [Unknown, ← Operator.ofLabel_eq_error_iff, resolve]
  cases Operator.ofLabel e.operator <;> simp [Except.map]

end ConditionEntry

/-- The direction that a sort rule chooses by a label, or by none. -/
inductive Direction.Chosen : Option Label → Direction → Prop
  | absent : Chosen none .unsorted
  | label {label d} (h : Answers label d) : Chosen (some label) d

namespace SortEntry

/-- The sort rule is what the entry means. -/
def Means (e : SortEntry) (r : SortRule) : Prop :=
  r.field = e.field ∧ r.order = e.order ∧ Direction.Chosen e.direction r.direction

/-- No direction answers to the entry's label, which is reported by this word. -/
def Unknown (e : SortEntry) (word : String) : Prop :=
  ∃ label, e.direction = some label ∧ (∀ d, ¬ Direction.Answers label d)
    ∧ Direction.Reported label word

theorem resolve_eq_ok_iff {e : SortEntry} {r : SortRule} : e.resolve = .ok r ↔ e.Means r := by
  obtain ⟨field, order, direction⟩ := e
  obtain ⟨field', order', direction'⟩ := r
  cases direction with
  | none =>
    constructor
    · intro h
      cases h
      exact ⟨rfl, rfl, .absent⟩
    · rintro ⟨hfield, horder, hdirection⟩
      cases hfield
      cases horder
      cases hdirection
      rfl
  | some label =>
    have hchosen : Direction.Chosen (some label) direction' ↔ Direction.ofLabel label
        = .ok direction' := by
      rw [Direction.ofLabel_eq_ok_iff]
      refine ⟨fun h => ?_, .label⟩
      cases h with
      | label h => exact h
    simp only [resolve, Means, hchosen]
    cases Direction.ofLabel label with
    | error err => simp [Except.map]
    | ok d => simp [Except.map, eq_comm]

theorem resolve_eq_error_iff {e : SortEntry} {err : VocabularyError} :
    e.resolve = .error err ↔ ∃ word, e.Unknown word ∧ err = .unknownDirection word := by
  obtain ⟨field, order, direction⟩ := e
  cases direction with
  | none => simp [resolve, Unknown]
  | some label =>
    have hunknown : ∀ word, (SortEntry.mk field order (some label)).Unknown word
        ↔ (∀ d, ¬ Direction.Answers label d) ∧ Direction.Reported label word := by
      intro word
      simp [Unknown]
    simp only [hunknown, ← Direction.ofLabel_eq_error_iff, resolve]
    cases Direction.ofLabel label <;> simp [Except.map]

end SortEntry

/-! ## Verdicts -/

namespace Request

/-- What is to become of a text that is sent as a request, and who is to answer for a failure. -/
inductive Verdict (text : String) : Except (PlanError × Origin) Request → Prop
  /-- The text is no document of a request. -/
  | malformed (h : ∀ j e, IsDocument text j → ¬ IsRequestEntry j e) :
    Verdict text (.error (.malformedRequest, .client))
  /-- The first condition whose operator nothing answers to. -/
  | unknownOperator {j e word} (hj : IsDocument text j) (he : IsRequestEntry j e)
    (h : FirstUnknown ConditionEntry.Means ConditionEntry.Unknown e.conditions word) :
    Verdict text (.error (.vocabulary (.unknownOperator word), .internal))
  /-- All operators exist, and this is the first sort rule whose direction nothing answers to. -/
  | unknownDirection {j e word} (hj : IsDocument text j) (he : IsRequestEntry j e)
    (hconditions : ∀ entry ∈ e.conditions, ∃ c, entry.Means c)
    (h : FirstUnknown SortEntry.Means SortEntry.Unknown e.sorts word) :
    Verdict text (.error (.vocabulary (.unknownDirection word), .internal))
  /-- All operators and directions exist. -/
  | ok {j e r} (hj : IsDocument text j) (he : IsRequestEntry j e)
    (hconditions : List.Forall₂ ConditionEntry.Means e.conditions r.conditions)
    (hsorts : List.Forall₂ SortEntry.Means e.sorts r.sorts) (hpage : r.page = e.page) :
    Verdict text (.ok r)

theorem entry_eq_some_iff {text : String} {e : RequestEntry} :
    (Json.read? text).bind RequestEntry.ofJson? = some e
      ↔ ∃ j, IsDocument text j ∧ IsRequestEntry j e :=
  decodes_requestEntry.read?_bind_eq_some_iff

theorem conditions_eq_ok_iff {entries : List ConditionEntry} {conditions : List Condition} :
    entries.mapM ConditionEntry.resolve = .ok conditions
      ↔ List.Forall₂ ConditionEntry.Means entries conditions := by
  simp only [mapM_eq_ok_iff, ConditionEntry.resolve_eq_ok_iff]

theorem sorts_eq_ok_iff {entries : List SortEntry} {sorts : List SortRule} :
    entries.mapM SortEntry.resolve = .ok sorts ↔ List.Forall₂ SortEntry.Means entries sorts := by
  simp only [mapM_eq_ok_iff, SortEntry.resolve_eq_ok_iff]

theorem conditions_eq_error_iff {entries : List ConditionEntry} {err : VocabularyError} :
    entries.mapM ConditionEntry.resolve = .error err
      ↔ ∃ word, FirstUnknown ConditionEntry.Means ConditionEntry.Unknown entries word
        ∧ err = .unknownOperator word :=
  firstUnknown_iff ConditionEntry.resolve_eq_ok_iff ConditionEntry.resolve_eq_error_iff

theorem sorts_eq_error_iff {entries : List SortEntry} {err : VocabularyError} :
    entries.mapM SortEntry.resolve = .error err
      ↔ ∃ word, FirstUnknown SortEntry.Means SortEntry.Unknown entries word
        ∧ err = .unknownDirection word :=
  firstUnknown_iff SortEntry.resolve_eq_ok_iff SortEntry.resolve_eq_error_iff

/-- **Verdicts.**  A text is malformed, or names an unknown operator first, or then an unknown
    direction, or is a request, just when it is to be. -/
theorem ofText_iff_verdict (text : String) (verdict : Except (PlanError × Origin) Request) :
    ((ofText text).mapError fun e => (e, e.origin)) = verdict ↔ Verdict text verdict := by
  rw [ofText]
  constructor
  · rintro rfl
    cases hentry : (Json.read? text).bind RequestEntry.ofJson? with
    | none =>
      refine .malformed fun j e hj he => ?_
      rw [entry_eq_some_iff.2 ⟨j, hj, he⟩] at hentry
      cases hentry
    | some e =>
      obtain ⟨j, hj, he⟩ := entry_eq_some_iff.1 hentry
      simp only [RequestEntry.resolve]
      cases hconditions : e.conditions.mapM ConditionEntry.resolve with
      | error err =>
        obtain ⟨word, hfirst, rfl⟩ := conditions_eq_error_iff.1 hconditions
        exact .unknownOperator hj he hfirst
      | ok conditions =>
        have hmeans := conditions_eq_ok_iff.1 hconditions
        cases hsorts : e.sorts.mapM SortEntry.resolve with
        | error err =>
          obtain ⟨word, hfirst, rfl⟩ := sorts_eq_error_iff.1 hsorts
          exact .unknownDirection hj he (exists_forall₂_iff.1 ⟨conditions, hmeans⟩) hfirst
        | ok sorts => exact .ok hj he hmeans (sorts_eq_ok_iff.1 hsorts) rfl
  · intro h
    cases h with
    | malformed h =>
      have hentry : (Json.read? text).bind RequestEntry.ofJson? = none := by
        refine Option.eq_none_iff_forall_ne_some.2 fun e he => ?_
        obtain ⟨j, hj, he⟩ := entry_eq_some_iff.1 he
        exact h j e hj he
      rw [hentry]
      rfl
    | unknownOperator hj he hfirst =>
      rw [entry_eq_some_iff.2 ⟨_, hj, he⟩]
      simp only [RequestEntry.resolve, conditions_eq_error_iff.2 ⟨_, hfirst, rfl⟩]
      rfl
    | unknownDirection hj he hconditions hfirst =>
      obtain ⟨conditions, hmeans⟩ := exists_forall₂_iff.2 hconditions
      rw [entry_eq_some_iff.2 ⟨_, hj, he⟩]
      simp only [RequestEntry.resolve, conditions_eq_ok_iff.2 hmeans,
        sorts_eq_error_iff.2 ⟨_, hfirst, rfl⟩]
      rfl
    | @ok _ _ r hj he hconditions hsorts hpage =>
      rw [entry_eq_some_iff.2 ⟨_, hj, he⟩]
      simp only [RequestEntry.resolve, conditions_eq_ok_iff.2 hconditions,
        sorts_eq_ok_iff.2 hsorts]
      rw [← hpage]
      rfl

end Request

end FilterPlan
