/-
  Pages tile the rows.

  1. **No overflow** — `before` counts the pages in front of a page.  The window skips the rows of
     these; how many they are, and where the window ends, fits into 64 bits at the top of both
     ranges too, so the machine computes what the natural numbers say.
  2. **Rows** — `Window.Shows` says which rows a window stands for: as many as it takes, behind
     those that it skips.
  3. **The crux (`window_shows_iff`)** — a page shows the rows whose quotient by the size is the
     number of pages in front of it.  A row has one quotient, so one page shows it.
-/
import Mathlib.Logic.ExistsUnique
import FilterPlan.Page

namespace FilterPlan

/-- Holds of the rows, counted from zero, that the window stands for. -/
def Window.Shows (w : Window) (row : Nat) : Prop :=
  w.offset.toNat ≤ row ∧ row < w.offset.toNat + w.limit.toNat

namespace Page

/-! ## No overflow -/

/-- How many pages there are in front of a page.  There are none in front of page zero. -/
def before (p : Page) : Nat := p.number.toNat - 1

theorem toNat_max_one (n : UInt32) : (max n 1).toNat = max n.toNat 1 := by
  have hone : (1 : UInt32).toNat = 1 := rfl
  show (if n ≤ 1 then 1 else n).toNat = _
  simp only [UInt32.le_iff_toNat_le]
  split
  · omega
  · omega

/-- The number of a page, counted from zero, is that of the pages in front of it. -/
theorem toNat_max_sub_one (p : Page) : (max p.number 1 - 1).toNat = p.before := by
  have hone : (1 : UInt32).toNat = 1 := rfl
  have hmax := toNat_max_one p.number
  have hle : (1 : UInt32) ≤ max p.number 1 := by
    rw [UInt32.le_iff_toNat_le]
    omega
  rw [UInt32.toNat_sub_of_le _ _ hle, before]
  omega

/-- **No overflow.**  The rows of a page and of those in front of it are fewer than 64 bits
    count. -/
theorem before_mul_add_lt (p : Page) : p.before * p.size.toNat + p.size.toNat < UInt64.size := by
  have hnumber : p.number.toNat < UInt32.size := p.number.toNat_lt_size
  have hsize : p.size.toNat < UInt32.size := p.size.toNat_lt_size
  have hpages : p.before + 1 ≤ UInt32.size := by
    rw [before]
    omega
  calc p.before * p.size.toNat + p.size.toNat
      = (p.before + 1) * p.size.toNat := (Nat.succ_mul _ _).symm
    _ ≤ UInt32.size * (UInt32.size - 1) := Nat.mul_le_mul hpages (Nat.le_sub_one_of_lt hsize)
    _ < UInt64.size := by decide

theorem toNat_offset (p : Page) : p.window.offset.toNat = p.before * p.size.toNat := by
  have hlt := p.before_mul_add_lt
  have hproduct : p.before * p.size.toNat < UInt64.size := by omega
  show ((max p.number 1 - 1).toUInt64 * p.size.toUInt64).toNat = _
  rw [UInt64.toNat_mul, UInt32.toNat_toUInt64, UInt32.toNat_toUInt64, toNat_max_sub_one]
  exact Nat.mod_eq_of_lt hproduct

theorem toNat_limit (p : Page) : p.window.limit.toNat = p.size.toNat := UInt32.toNat_toUInt64 _

/-- The end of a window is where it should be, in 64 bits. -/
theorem toNat_offset_add_limit (p : Page) :
    (p.window.offset + p.window.limit).toNat = (p.before + 1) * p.size.toNat := by
  rw [UInt64.toNat_add, toNat_offset, toNat_limit, Nat.succ_mul]
  exact Nat.mod_eq_of_lt p.before_mul_add_lt

/-! ## Rows -/

/-- A page has one page more in front of it than the page before. -/
theorem before_next {n : UInt32} (hn : 1 ≤ n.toNat) (htop : n.toNat + 1 < UInt32.size)
    (size : UInt32) : (Page.mk (n + 1) size).before = (Page.mk n size).before + 1 := by
  have hnext : (n + 1).toNat = n.toNat + 1 := (UInt32.toNat_add n 1).trans (Nat.mod_eq_of_lt htop)
  show (n + 1).toNat - 1 = n.toNat - 1 + 1
  omega

/-- **Which page.**  A page shows the rows whose quotient by the size is the number of pages in
    front of it. -/
theorem window_shows_iff {p : Page} (hsize : 0 < p.size.toNat) {row : Nat} :
    p.window.Shows row ↔ row / p.size.toNat = p.before := by
  rw [Window.Shows, toNat_offset, toNat_limit, Nat.div_eq_iff hsize]
  omega

/-- Counted from one, the page of a row is the one behind as many pages as the quotient says. -/
theorem shows_iff_number {n size : UInt32} (hsize : 0 < size.toNat) {row : Nat} :
    1 ≤ n ∧ (Page.mk n size).window.Shows row ↔ n.toNat = row / size.toNat + 1 := by
  rw [window_shows_iff hsize, UInt32.le_iff_toNat_le]
  show 1 ≤ n.toNat ∧ row / size.toNat = n.toNat - 1 ↔ n.toNat = row / size.toNat + 1
  generalize row / size.toNat = quotient
  omega

/-- **Tiles.**  The window of a page is worked out exactly: nothing underflows in 32 bits, and the
    offset, the limit and their sum do not wrap in 64.  Page zero is page one.  Where pages have
    rows, each page ends where the next one begins, and every row in front of the end of the last
    page is shown by one page only. -/
theorem windows_tile :
    (∀ p : Page,
      (max p.number 1 - 1).toNat + 1 = (max p.number 1).toNat ∧
      p.window.offset.toNat = (max p.number 1 - 1).toNat * p.size.toNat ∧
      p.window.limit.toNat = p.size.toNat ∧
      (p.window.offset + p.window.limit).toNat
        = p.window.offset.toNat + p.window.limit.toNat) ∧
    (∀ size, (Page.mk 0 size).window = (Page.mk 1 size).window) ∧
    ∀ size : UInt32, 1 ≤ size →
      (∀ n : UInt32, 1 ≤ n → n.toNat ≤ UInt32.size - 2 →
        (Page.mk n size).window.offset + (Page.mk n size).window.limit
          = (Page.mk (n + 1) size).window.offset) ∧
      ∀ row < (UInt32.size - 1) * size.toNat,
        ∃! n : UInt32, 1 ≤ n ∧ (Page.mk n size).window.Shows row := by
  refine ⟨fun p => ⟨?_, ?_, p.toNat_limit, ?_⟩, fun size => rfl, fun size hsize => ⟨?_, ?_⟩⟩
  · rw [toNat_max_sub_one, toNat_max_one, before]
    omega
  · rw [toNat_offset, toNat_max_sub_one]
  · rw [toNat_offset_add_limit, toNat_offset, toNat_limit, Nat.succ_mul]
  · intro n hn htop
    have hnext : n.toNat + 1 < UInt32.size := Nat.lt_of_le_of_lt (Nat.succ_le_succ htop) (by decide)
    have hbefore := before_next (UInt32.le_iff_toNat_le.1 hn) hnext size
    rw [← UInt64.toNat_inj, toNat_offset_add_limit, toNat_offset, hbefore]
  · intro row hrow
    have hpositive : 0 < size.toNat := UInt32.le_iff_toNat_le.1 hsize
    have hquotient : row / size.toNat < UInt32.size - 1 :=
      (Nat.div_lt_iff_lt_mul hpositive).2 hrow
    have hnumber : row / size.toNat + 1 < UInt32.size := Nat.add_lt_of_lt_sub hquotient
    refine ⟨UInt32.ofNatLT _ hnumber, (shows_iff_number hpositive).2 UInt32.toNat_ofNatLT, ?_⟩
    intro n hn
    rw [← UInt32.toNat_inj, (shows_iff_number hpositive).1 hn, UInt32.toNat_ofNatLT]

/-- The last two pages of the greatest size, and the last row that they show. -/
theorem windows_tile_top :
    let size : UInt32 := 4294967295
    let n : UInt32 := 4294967294
    let row := 18446744065119617024
    1 ≤ size ∧ 1 ≤ n ∧ n.toNat ≤ UInt32.size - 2 ∧ row < (UInt32.size - 1) * size.toNat ∧
      (Page.mk n size).window.offset + (Page.mk n size).window.limit
        = (Page.mk (n + 1) size).window.offset ∧
      (Page.mk (n + 1) size).window.Shows row ∧
      ∃! n : UInt32, 1 ≤ n ∧ (Page.mk n size).window.Shows row := by
  intro size n row
  have hsize : 1 ≤ size := by decide
  have hn : 1 ≤ n := by decide
  have htop : n.toNat ≤ UInt32.size - 2 := by decide
  have hrow : row < (UInt32.size - 1) * size.toNat := by decide
  have hshows : (Page.mk (n + 1) size).window.Shows row := ⟨by decide, by decide⟩
  obtain ⟨hends, hone⟩ := windows_tile.2.2 size hsize
  exact ⟨hsize, hn, htop, hrow, hends n hn htop, hshows, hone row hrow⟩

end Page

end FilterPlan
