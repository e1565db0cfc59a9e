/-
  Words in either case.

  `Spells` says that characters spell a word, each letter of it in either case.  Lower-casing the
  characters gives a word without capitals in exactly that case (`map_toLower_eq_iff`).
-/
import Mathlib.Data.List.Forall2
import FilterPlan.Text.Name

namespace FilterPlan.Text

/-! ## Characters -/

theorem toNat_toLower (c : Char) :
    c.toLower.toNat = if 65 ≤ c.toNat ∧ c.toNat ≤ 90 then c.toNat + 32 else c.toNat := by
  have hcapital : c.val ≥ 'A'.val ∧ c.val ≤ 'Z'.val ↔ 65 ≤ c.toNat ∧ c.toNat ≤ 90 := by
    simp [UInt32.le_iff_toNat_le]
  unfold Char.toLower
  by_cases h : c.val ≥ 'A'.val ∧ c.val ≤ 'Z'.val
  · rw [dif_pos h, if_pos (hcapital.1 h)]
    have hrange := hcapital.1 h
    show (c.val + 32).toNat = _
    rw [UInt32.toNat_add]
    simp
    omega
  · rw [dif_neg h, if_neg (mt hcapital.2 h)]

theorem toNat_toUpper (c : Char) :
    c.toUpper.toNat = if 97 ≤ c.toNat ∧ c.toNat ≤ 122 then c.toNat - 32 else c.toNat := by
  have hsmall : c.val ≥ 'a'.val ∧ c.val ≤ 'z'.val ↔ 97 ≤ c.toNat ∧ c.toNat ≤ 122 := by
    simp [UInt32.le_iff_toNat_le]
  unfold Char.toUpper
  by_cases h : c.val ≥ 'a'.val ∧ c.val ≤ 'z'.val
  · rw [dif_pos h, if_pos (hsmall.1 h)]
    have hrange := hsmall.1 h
    show (c.val + 4294967264).toNat = _
    rw [UInt32.toNat_add]
    simp
    omega
  · rw [dif_neg h, if_neg (mt hsmall.2 h)]

theorem isUpper_iff {c : Char} : c.isUpper = true ↔ 65 ≤ c.toNat ∧ c.toNat ≤ 90 := by
  show decide (c.val ≥ 'A'.val ∧ c.val ≤ 'Z'.val) = true ↔ _
  simp [UInt32.le_iff_toNat_le]

/-- What lower-cases to a letter is that letter in either case. -/
theorem toLower_eq_iff {letter c : Char} (h : letter.isUpper = false) :
    c.toLower = letter ↔ c = letter ∨ c = letter.toUpper := by
  have hletter := mt isUpper_iff.2 (Bool.eq_false_iff.1 h)
  rw [← Char.toNat_inj, ← Char.toNat_inj, ← Char.toNat_inj, toNat_toLower, toNat_toUpper]
  split <;> split <;> omega

/-! ## Words -/

/-- The characters spell the word, each of its letters in either case. -/
def Spells (word cs : List Char) : Prop :=
  List.Forall₂ (fun letter c => c = letter ∨ c = letter.toUpper) word cs

/-- **Lower case.**  Characters are a word without capitals, once lower-cased, exactly when they
    spell it. -/
theorem map_toLower_eq_iff {word cs : List Char} (h : word.any Char.isUpper = false) :
    cs.map Char.toLower = word ↔ Spells word cs := by
  induction word generalizing cs with
  | nil =>
    rw [List.map_eq_nil_iff, Spells, List.forall₂_nil_left_iff]
  | cons letter word ih =>
    rw [List.any_cons, Bool.or_eq_false_iff] at h
    obtain ⟨hletter, hword⟩ := h
    cases cs with
    | nil => simp [Spells]
    | cons c cs =>
      rw [List.map_cons, List.cons.injEq, toLower_eq_iff hletter, ih hword, Spells, Spells,
        List.forall₂_cons]

theorem foldCase_eq_iff {word s : String} (h : word.toList.any Char.isUpper = false) :
    foldCase s = word ↔ Spells word.toList s.toList := by
  rw [← map_toLower_eq_iff h, foldCase, ← String.toList_inj, String.toList_ofList]

end FilterPlan.Text
