/-
  What lower-cases to plain words.

  1. **Runs** — `caseRuns_lower` reads the table once: every run leads to characters outside ASCII,
     but for the one of U+212A, the sign of the kelvin, which leads to k.
  2. **Characters** — so the lower case of a character outside ASCII holds another such character,
     or it is k (`exists_lowerCase`).  This is also true of U+0130, whose lower case begins with i.
  3. **The crux (`flatMap_lowerCase_eq_iff`)** — a word of ASCII characters without k is the lower
     case of texts in ASCII only, and there lower-casing is a matter of single letters.
-/
import FilterPlan.Text.LowerCase

namespace FilterPlan.Text

/-! ## Runs -/

/-- The run leads to characters outside ASCII only. -/
def CaseRun.LeavesAscii (r : CaseRun) : Prop :=
  128 ≤ r.lower ∧ (r.lower + (r.last - r.first) < 0xD800 ∨
    0xE000 ≤ r.lower ∧ r.lower + (r.last - r.first) < 0x110000)

instance (r : CaseRun) : Decidable r.LeavesAscii :=
  inferInstanceAs (Decidable (_ ∧ _))

theorem caseRuns_lower : ∀ r ∈ caseRuns,
    r.LeavesAscii ∨ r.first = 0x212A ∧ r.last = 0x212A ∧ r.lower = 'k'.toNat := by
  decide +kernel

theorem CaseRun.toNat_lowerOf {r : CaseRun} (h : r.LeavesAscii) {n : Nat}
    (hn : r.covers n = true) : 128 ≤ (Char.ofNat (r.lowerOf n)).toNat := by
  obtain ⟨hlower, hvalid⟩ := h
  have hbounds : r.first ≤ n ∧ n ≤ r.last := by
    simp only [covers, Bool.and_eq_true, decide_eq_true_eq] at hn
    exact hn.1
  have hpoint : Nat.isValidChar (r.lowerOf n) := by
    unfold lowerOf
    rcases hvalid with h | h
    · exact .inl (by omega)
    · exact .inr ⟨by omega, by omega⟩
  have hself : (Char.ofNat (r.lowerOf n)).toNat = r.lowerOf n := by
    rw [Char.ofNat, dif_pos hpoint]
    rfl
  rw [hself]
  unfold lowerOf
  omega

/-! ## Characters -/

theorem lowerCase_of_ascii {c : Char} (h : c.toNat < 128) : lowerCase c = [c.toLower] :=
  if_pos h

/-- Outside ASCII, something of a character is left there, unless its lower case is k. -/
theorem exists_lowerCase {c : Char} (h : 128 ≤ c.toNat) :
    ∃ x ∈ lowerCase c, 128 ≤ x.toNat ∨ x = 'k' := by
  rw [lowerCase, if_neg (by omega)]
  by_cases hdotted : c = '\u0130'
  · rw [if_pos hdotted]
    exact ⟨'\u0307', by simp, .inl (by decide)⟩
  · rw [if_neg hdotted]
    cases hrun : caseRuns.find? fun r => r.covers c.toNat with
    | none => exact ⟨c, List.mem_singleton_self c, .inl h⟩
    | some r =>
      have hcovers := List.find?_some hrun
      refine ⟨_, List.mem_singleton_self _, ?_⟩
      have hlower := caseRuns_lower r (List.mem_of_find?_eq_some hrun)
      rcases hlower with hleaves | ⟨hfirst, hlast, hlower⟩
      · exact .inl (CaseRun.toNat_lowerOf hleaves hcovers)
      · -- the run of a single character
        right
        simp only [CaseRun.covers, Bool.and_eq_true, decide_eq_true_eq] at hcovers
        have hself : r.lowerOf c.toNat = 'k'.toNat := by
          unfold CaseRun.lowerOf
          omega
        rw [hself]
        rfl

/-- Only ASCII characters become one when ASCII letters are lower-cased. -/
theorem toNat_lt_of_toLower {c : Char} (h : c.toLower.toNat < 128) : c.toNat < 128 := by
  unfold Char.toLower at h
  split at h
  · rename_i hc
    have hcapital : 65 ≤ c.toNat ∧ c.toNat ≤ 90 := by
      simpa [UInt32.le_iff_toNat_le] using hc
    omega
  · exact h

/-! ## Words -/

theorem flatMap_lowerCase_of_ascii {cs : List Char} (h : ∀ c ∈ cs, c.toNat < 128) :
    cs.flatMap lowerCase = cs.map Char.toLower := by
  induction cs with
  | nil => rfl
  | cons c cs ih =>
    obtain ⟨hc, hcs⟩ := List.forall_mem_cons.1 h
    rw [List.flatMap_cons, lowerCase_of_ascii hc, ih hcs, List.map_cons, List.singleton_append]

/-- **Plain words.**  A word of ASCII characters without k is the lower case of ASCII texts only:
    no character of another script slips in. -/
theorem flatMap_lowerCase_eq_iff {word cs : List Char}
    (plain : ∀ x ∈ word, x.toNat < 128 ∧ x ≠ 'k') :
    cs.flatMap lowerCase = word ↔ cs.map Char.toLower = word := by
  constructor
  · rintro rfl
    have hascii : ∀ c ∈ cs, c.toNat < 128 := by
      intro c hc
      rcases Nat.lt_or_ge c.toNat 128 with h | h
      · exact h
      · exfalso
        obtain ⟨x, hx, hout⟩ := exists_lowerCase h
        obtain ⟨hin, hk⟩ := plain x (List.mem_flatMap.2 ⟨c, hc, hx⟩)
        rcases hout with hout | hout
        · omega
        · exact hk hout
    rw [flatMap_lowerCase_of_ascii hascii]
  · rintro rfl
    apply flatMap_lowerCase_of_ascii
    intro c hc
    exact toNat_lt_of_toLower (plain c.toLower (List.mem_map_of_mem hc)).1

end FilterPlan.Text
