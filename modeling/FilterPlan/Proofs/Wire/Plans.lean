/-
  Which values are plans.

  1. **Records** — a plan is an object with one member for each part that a plan can have, in a
     fixed order.  A part that it does not have is null.
  2. **Encoders** — `Writes` says of an encoder that what it writes has a shape, and that nothing
     else has it.  It holds of lists and of parts that may be null where it holds of their items.
  3. **The crux (`writes_plan`)** — so a value is a plan if it is what is written for that.
-/
import FilterPlan.Wire.Query
import FilterPlan.Proofs.Json.Records

namespace FilterPlan

open Json

/-! ## Records -/

/-- The value is a predicate: its expression, and its arguments in their order. -/
def IsPredicate (j : Json) (p : Predicate) : Prop :=
  ∃ expression arguments,
    j = .object [(some "expression", expression), (some "arguments", arguments)]
    ∧ IsText expression p.expression
    ∧ IsList IsText arguments p.arguments

/-- The value is a window. -/
def IsWindow (j : Json) (w : Window) : Prop :=
  ∃ offset limit, j = .object [(some "offset", offset), (some "limit", limit)]
    ∧ IsNat UInt64.size offset w.offset.toNat
    ∧ IsNat UInt64.size limit w.limit.toNat

/-- The value is a plan. -/
def IsPlan (j : Json) (plan : Plan) : Prop :=
  ∃ filter ordering page,
    j = .object [(some "filter", filter), (some "ordering", ordering), (some "page", page)]
    ∧ OrNull IsPredicate filter plan.filter
    ∧ OrNull IsText ordering plan.ordering
    ∧ OrNull IsWindow page plan.page

/-! ## Encoders -/

section

variable {α : Type} {encode : α → Json} {shape : Json → α → Prop}

/-- What is encoded has the shape, and nothing else has it. -/
def Writes (encode : α → Json) (shape : Json → α → Prop) : Prop := ∀ j a, shape j a ↔ j = encode a

theorem Writes.list (h : Writes encode shape) :
    Writes (fun as => .array (as.map encode)) (IsList shape) := by
  have hitems (items : List Json) (as : List α) :
      List.Forall₂ shape items as ↔ items = as.map encode := by
    rw [← List.forall₂_eq_eq_eq, List.forall₂_map_right_iff]
    exact ⟨.imp fun j a => (h j a).1, .imp fun j a => (h j a).2⟩
  intro j as
  simp only [IsList, hitems, exists_eq_right]

/-- What there is none of is written as null. -/
theorem Writes.orNull (h : Writes encode shape) : Writes (.optional encode) (OrNull shape) := by
  intro j a
  constructor
  · intro hj
    cases hj with
    | null => rfl
    | value hj => exact (h _ _).1 hj
  · rintro rfl
    cases a with
    | none => exact .null
    | some a => exact .value ((h _ _).2 rfl)

end

theorem writes_text : Writes .text IsText := fun _ _ => Iff.rfl

theorem writes_predicate : Writes Predicate.toJson IsPredicate := by
  intro j p
  simp only [IsPredicate, writes_text _ _, writes_text.list _ _]
  constructor
  · rintro ⟨expression, arguments, rfl, rfl, rfl⟩
    rfl
  · rintro rfl
    exact ⟨_, _, rfl, rfl, rfl⟩

theorem writes_window : Writes Window.toJson IsWindow := by
  intro j w
  constructor
  · rintro ⟨offset, limit, rfl, ⟨rfl, -⟩, ⟨rfl, -⟩⟩
    rfl
  · rintro rfl
    exact ⟨_, _, rfl, ⟨rfl, w.offset.toNat_lt⟩, rfl, w.limit.toNat_lt⟩

/-- **Plans.**  A value is a plan if it is what is written for that. -/
theorem writes_plan : Writes Plan.toJson IsPlan := by
  intro j plan
  simp only [IsPlan, writes_predicate.orNull _ _, writes_text.orNull _ _, writes_window.orNull _ _]
  constructor
  · rintro ⟨filter, ordering, page, rfl, rfl, rfl, rfl⟩
    rfl
  · rintro rfl
    exact ⟨_, _, _, rfl, rfl, rfl, rfl⟩

end FilterPlan
