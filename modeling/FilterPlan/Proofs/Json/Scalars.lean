/-
  Words and strings are read as the grammar says.

  1. **Numbers** — the parts of a number end where the next one begins, so a word is cut into them
     in one way (`number?_eq_some_iff`).
  2. **Words** — three words are names of values; no number is one of them
     (`word?_eq_some_iff`).
  3. **Strings** — code points come from characters or from escapes of 16 bits, and those that are
     no half of a surrogate pair stand for a character each (`Quoted.content_iff`).
-/
import FilterPlan.Proofs.Json.Grammar

namespace FilterPlan

/-! ## Parts of numbers -/

theorem isDigits_iff {cs : List Char} :
    Text.isDigits cs = true ↔ cs ≠ [] ∧ ∀ c ∈ cs, c.isDigit = true := by
  simp [Text.isDigits]

namespace Number

theorem Whole.isDigits {cs : List Char} (h : Whole cs) : Text.isDigits cs = true := by
  cases h with
  | zero => decide
  | digits hc h => exact h

/-- No exponent begins with a digit or a point. -/
theorem Exponent.head {cs : List Char} (h : Exponent cs) :
    ∀ c ∈ cs.head?, c.isDigit = false ∧ c ≠ '.' := by
  intro c hc
  cases h with
  | absent => cases hc
  | present he hsign h =>
    rw [← Option.some.inj hc]
    rcases he with rfl | rfl <;> decide

/-- What stands behind the whole part does not begin with a digit. -/
theorem head_rest {fraction exponent : List Char} (hfraction : Fraction fraction)
    (hexponent : Exponent exponent) : ∀ c ∈ (fraction ++ exponent).head?, c.isDigit = false := by
  intro c hc
  cases hfraction with
  | absent => exact (hexponent.head c hc).1
  | present h =>
    rw [← Option.some.inj hc]
    rfl

theorem Magnitude.head {cs : List Char} {n : Option Nat} (h : Magnitude cs n) :
    ∃ c ∈ cs.head?, c.isDigit = true := by
  have hhead : ∀ {whole : List Char}, Whole whole → ∃ c ds, whole = c :: ds ∧ c.isDigit = true := by
    intro whole h
    obtain ⟨hne, hdigits⟩ := isDigits_iff.1 h.isDigits
    obtain ⟨c, ds, rfl⟩ := List.exists_cons_of_ne_nil hne
    exact ⟨c, ds, rfl, hdigits c List.mem_cons_self⟩
  cases h with
  | whole h =>
    obtain ⟨c, ds, rfl, hc⟩ := hhead h
    exact ⟨c, rfl, hc⟩
  | broken hwhole hfraction hexponent h =>
    obtain ⟨c, ds, rfl, hc⟩ := hhead hwhole
    exact ⟨c, rfl, hc⟩

/-- The minus is no part of a magnitude. -/
theorem Magnitude.not_minus {cs : List Char} {n : Option Nat} (h : Magnitude cs n)
    (rest : List Char) : cs ≠ '-' :: rest := by
  rintro rfl
  obtain ⟨c, hc, hdigit⟩ := h.head
  rw [← Option.some.inj hc] at hdigit
  exact absurd hdigit (by decide)

/-- The characters of numbers. -/
theorem Magnitude.chars {cs : List Char} {n : Option Nat} (h : Magnitude cs n) :
    ∀ c ∈ cs, Token.isWordChar c = true := by
  have hdigit : ∀ {c : Char}, c.isDigit = true → Token.isWordChar c = true := by
    intro c hc
    simp [Token.isWordChar, Char.isAlphanum, hc]
  have hdigits : ∀ {ds : List Char}, Text.isDigits ds = true →
      ∀ c ∈ ds, Token.isWordChar c = true :=
    fun h c hc => hdigit ((isDigits_iff.1 h).2 c hc)
  cases h with
  | whole h => exact hdigits h.isDigits
  | broken hwhole hfraction hexponent h =>
    refine List.forall_mem_append.2 ⟨hdigits hwhole.isDigits, List.forall_mem_append.2 ⟨?_, ?_⟩⟩
    · cases hfraction with
      | absent => simp
      | present hds => exact List.forall_mem_cons.2 ⟨rfl, hdigits hds⟩
    · cases hexponent with
      | absent => simp
      | present he hsign hds =>
        refine List.forall_mem_cons.2 ⟨?_, List.forall_mem_append.2 ⟨?_, hdigits hds⟩⟩
        · rcases he with rfl | rfl <;> rfl
        · rcases hsign with rfl | rfl | rfl <;> exact List.all_eq_true.1 rfl

end Number

/-- A number begins with a digit or a minus. -/
theorem Number.head {cs : List Char} {s : Scalar} (h : Number cs s) :
    (cs.head?.any fun c => c.isDigit || c == '-') = true := by
  have hmagnitude : ∀ {n : Option Nat}, Number.Magnitude cs n →
      (cs.head?.any fun c => c.isDigit || c == '-') = true := by
    intro n h
    obtain ⟨c, hc, hdigit⟩ := h.head
    rw [Option.mem_def.1 hc]
    simp [hdigit]
  cases h with
  | natural h => exact hmagnitude h
  | real h => exact hmagnitude h
  | negative | negativeZero | negativeReal => rfl

theorem Number.chars {cs : List Char} {s : Scalar} (h : Number cs s) :
    cs ≠ [] ∧ ∀ c ∈ cs, Token.isWordChar c = true := by
  constructor
  · rintro rfl
    exact absurd h.head (by decide)
  · cases h with
    | natural h => exact h.chars
    | real h => exact h.chars
    | negative h | negativeZero h | negativeReal h =>
      exact List.forall_mem_cons.2 ⟨rfl, h.chars⟩

namespace Token

open Number

theorem isWhole_iff {cs : List Char} : isWhole cs = true ↔ Whole cs := by
  constructor
  · intro h
    simp only [isWhole, Bool.and_eq_true, Bool.or_eq_true, bne_iff_ne, beq_iff_eq] at h
    obtain ⟨hdigits, hhead | rfl⟩ := h
    · cases cs with
      | nil => exact absurd hdigits (by decide)
      | cons c cs => exact .digits (fun hc => hhead (by rw [hc]; rfl)) hdigits
    · exact .zero
  · intro h
    cases h with
    | zero => decide
    | digits hc h => simp [isWhole, h, hc]

/-- Digits behind an `e` are no sign. -/
theorem isExponent_digits {e : Char} {ds : List Char} (he : e = 'e' ∨ e = 'E')
    (h : Text.isDigits ds = true) : isExponent (e :: ds) = true := by
  have hhead : ∀ c ∈ ds.head?, c ≠ '+' ∧ c ≠ '-' := by
    intro c hc
    have hdigit := (isDigits_iff.1 h).2 c (List.mem_of_mem_head? hc)
    constructor <;> rintro rfl <;> exact absurd hdigit (by decide)
  rw [isExponent.eq_4, h]
  · rcases he with rfl | rfl <;> rfl
  · rintro ds' rfl
    exact (hhead '+' rfl).1 rfl
  · rintro ds' rfl
    exact (hhead '-' rfl).2 rfl

theorem isExponent_iff {cs : List Char} : isExponent cs = true ↔ Exponent cs := by
  constructor
  · intro h
    fun_cases isExponent cs with
    | case1 => exact .absent
    | case2 e ds =>
      simp only [isExponent, Bool.and_eq_true, Bool.or_eq_true, beq_iff_eq] at h
      exact .present h.1 (.inr (.inl rfl)) h.2
    | case3 e ds =>
      simp only [isExponent, Bool.and_eq_true, Bool.or_eq_true, beq_iff_eq] at h
      exact .present h.1 (.inr (.inr rfl)) h.2
    | case4 e ds hplus hminus =>
      rw [isExponent.eq_4 _ _ hplus hminus] at h
      simp only [Bool.and_eq_true, Bool.or_eq_true, beq_iff_eq] at h
      exact .present h.1 (.inl rfl) h.2
  · intro h
    cases h with
    | absent => rfl
    | present he hsign h =>
      rcases hsign with rfl | rfl | rfl
      · exact isExponent_digits he h
      · simp [isExponent, he, h]
      · simp [isExponent, he, h]

/-! ## Numbers -/

/-- A run of digits ends before what does not begin with one. -/
theorem span_digits {ds rest : List Char} (hds : ∀ c ∈ ds, c.isDigit = true)
    (hrest : ∀ c ∈ rest.head?, c.isDigit = false) :
    (ds ++ rest).takeWhile Char.isDigit = ds ∧ (ds ++ rest).dropWhile Char.isDigit = rest := by
  rw [List.takeWhile_append_of_pos hds, List.dropWhile_append_of_pos hds]
  cases rest with
  | nil => simp
  | cons c rest => simp [hrest c rfl]

theorem isFraction_iff {cs : List Char} : isFraction cs = true ↔
    ∃ fraction exponent, cs = fraction ++ exponent ∧ Fraction fraction ∧ Exponent exponent := by
  constructor
  · intro h
    fun_cases isFraction cs with
    | case1 cs =>
      rw [isFraction, Bool.and_eq_true, isExponent_iff] at h
      refine ⟨'.' :: cs.takeWhile Char.isDigit, _, ?_, .present h.1, h.2⟩
      rw [List.cons_append, List.takeWhile_append_dropWhile]
    | case2 cs hpoint =>
      rw [isFraction.eq_2 _ hpoint, isExponent_iff] at h
      exact ⟨[], cs, rfl, .absent, h⟩
  · rintro ⟨fraction, exponent, rfl, hfraction, hexponent⟩
    have hhead := hexponent.head
    cases hfraction with
    | absent =>
      rw [List.nil_append, isFraction.eq_2 _ (by rintro cs rfl; exact (hhead '.' rfl).2 rfl)]
      exact isExponent_iff.2 hexponent
    | present h =>
      obtain ⟨htake, hdrop⟩ :=
        span_digits (isDigits_iff.1 h).2 fun c hc => (hhead c hc).1
      rw [List.cons_append, isFraction, htake, hdrop, h, isExponent_iff.2 hexponent]
      rfl

/-- A word is a number without a sign just when its digits are a whole part and the rest is what
    can stand behind one. -/
theorem magnitude?_eq_some_iff {word : List Char} {n : Option Nat} :
    magnitude? word = some n ↔ Magnitude word n := by
  constructor
  · intro h
    have hword : word.takeWhile Char.isDigit ++ word.dropWhile Char.isDigit = word :=
      List.takeWhile_append_dropWhile
    simp only [magnitude?] at h
    generalize word.takeWhile Char.isDigit = whole at h hword
    generalize word.dropWhile Char.isDigit = rest at h hword
    subst hword
    obtain ⟨hcond, hn⟩ := Option.ite_none_right_eq_some.1 h
    rw [Bool.and_eq_true, isWhole_iff, isFraction_iff] at hcond
    obtain ⟨hwhole, fraction, exponent, rfl, hfraction, hexponent⟩ := hcond
    by_cases hempty : fraction ++ exponent = []
    · rw [hempty] at hn ⊢
      rw [← Option.some.inj hn, List.append_nil]
      exact .whole hwhole
    · rw [List.isEmpty_eq_false_iff.2 hempty] at hn
      rw [← Option.some.inj hn]
      exact .broken hwhole hfraction hexponent hempty
  · intro h
    cases h with
    | whole h =>
      obtain ⟨htake, hdrop⟩ := @span_digits _ [] (isDigits_iff.1 h.isDigits).2 (by simp)
      rw [List.append_nil] at htake hdrop
      rw [magnitude?, htake, hdrop, isWhole_iff.2 h]
      rfl
    | broken hwhole hfraction hexponent h =>
      obtain ⟨htake, hdrop⟩ :=
        span_digits (isDigits_iff.1 hwhole.isDigits).2 (head_rest hfraction hexponent)
      have hrest := isFraction_iff.2 ⟨_, _, rfl, hfraction, hexponent⟩
      rw [magnitude?, htake, hdrop, isWhole_iff.2 hwhole, hrest, List.isEmpty_eq_false_iff.2 h]
      rfl

theorem number?_eq_some_iff {cs : List Char} {s : Scalar} :
    number? cs = some s ↔ Number cs s := by
  constructor
  · intro h
    fun_cases number? cs with
    | case1 word =>
      obtain ⟨n, hn, rfl⟩ := Option.map_eq_some_iff.1 h
      rw [magnitude?_eq_some_iff] at hn
      match n with
      | none => exact .negativeReal hn
      | some 0 => exact .negativeZero hn
      | some (n + 1) => exact .negative hn (Nat.succ_ne_zero n)
    | case2 word hminus =>
      rw [number?.eq_2 _ hminus] at h
      obtain ⟨n, hn, rfl⟩ := Option.map_eq_some_iff.1 h
      rw [magnitude?_eq_some_iff] at hn
      cases n with
      | none => exact .real hn
      | some n => exact .natural hn
  · intro h
    cases h with
    | natural h =>
      rw [number?.eq_2 _ h.not_minus, magnitude?_eq_some_iff.2 h]
      rfl
    | @negative cs n h hn =>
      obtain ⟨n, rfl⟩ := Nat.exists_eq_succ_of_ne_zero hn
      rw [number?, magnitude?_eq_some_iff.2 h]
      rfl
    | negativeZero h =>
      rw [number?, magnitude?_eq_some_iff.2 h]
      rfl
    | real h =>
      rw [number?.eq_2 _ h.not_minus, magnitude?_eq_some_iff.2 h]
      rfl
    | negativeReal h =>
      rw [number?, magnitude?_eq_some_iff.2 h]
      rfl

/-! ## Words -/

theorem word?_eq_some_iff {cs : List Char} {s : Scalar} : word? cs = some s ↔ Word cs s := by
  constructor
  · intro h
    simp only [word?] at h
    split at h
    · next hcs =>
      rw [hcs, ← Option.some.inj h]
      exact .null
    · split at h
      · next hcs =>
        rw [hcs, ← Option.some.inj h]
        exact .bool true
      · split at h
        · next hcs =>
          rw [hcs, ← Option.some.inj h]
          exact .bool false
        · exact .number (number?_eq_some_iff.1 h)
  · intro h
    cases h with
    | null => rfl
    | bool b => cases b <;> rfl
    | number h =>
      have hnull : cs ≠ "null".toList := by
        rintro rfl
        exact absurd h.head (by decide)
      have htrue : cs ≠ "true".toList := by
        rintro rfl
        exact absurd h.head (by decide)
      have hfalse : cs ≠ "false".toList := by
        rintro rfl
        exact absurd h.head (by decide)
      rw [word?, if_neg hnull, if_neg htrue, if_neg hfalse, number?_eq_some_iff.2 h]

/-- A word is a run of word characters, one at least. -/
theorem Word.chars {cs : List Char} {s : Scalar} (h : Word cs s) :
    cs ≠ [] ∧ ∀ c ∈ cs, isWordChar c = true := by
  cases h with
  | null => exact ⟨nofun, List.all_eq_true.1 rfl⟩
  | bool b => cases b <;> exact ⟨nofun, List.all_eq_true.1 rfl⟩
  | number h => exact h.chars

/-! ## Strings -/

/-- Half of a surrogate pair, or the code point of a character. -/
def IsPoint (n : Nat) : Prop := isHigh n = true ∨ isLow n = true ∨ n.isValidChar

theorem isPoint_toNat (c : Char) : IsPoint c.toNat := .inr (.inr c.valid)

/-- What an escape of 16 bits gives is half of a pair or a character. -/
theorem isPoint_of_lt {n : Nat} (h : n < 0x10000) : IsPoint n := by
  simp only [IsPoint, isHigh, isLow, Nat.isValidChar, Bool.and_eq_true, decide_eq_true_eq]
  omega

theorem escape?_lt {c : Char} {n : Nat} (h : escape? c = some n) : n < 0x10000 := by
  revert h
  fun_cases escape? c <;> intro h <;> cases h <;> decide

theorem hexDigit?_lt {c : Char} {n : Nat} (h : hexDigit? c = some n) : n < 16 := by
  have hdecimal : '0'.toNat = 48 ∧ '9'.toNat = 57 := ⟨rfl, rfl⟩
  have hlower : 'a'.val.toNat = 97 ∧ 'f'.val.toNat = 102 ∧ 'a'.toNat = 97 := ⟨rfl, rfl, rfl⟩
  have hupper : 'A'.val.toNat = 65 ∧ 'F'.val.toNat = 70 ∧ 'A'.toNat = 65 := ⟨rfl, rfl, rfl⟩
  have hval : c.val.toNat = c.toNat := rfl
  simp only [hexDigit?, Char.isDigit_iff_toNat, Char.le_def, UInt32.le_iff_toNat_le] at h
  split at h
  · have hn := Option.some.inj h
    omega
  · split at h
    · have hn := Option.some.inj h
      omega
    · split at h
      · have hn := Option.some.inj h
        omega
      · cases h

theorem HexDigits.lt {cs : List Char} {n : Nat} (h : HexDigits cs n) :
    n < Nat.pow 16 cs.length := by
  induction h with
  | nil => exact Nat.one_pos
  | @snoc cs n c d h hd ih =>
    have hd := hexDigit?_lt hd
    rw [List.length_append]
    calc n * 16 + d < n * 16 + 16 := by omega
      _ = (n + 1) * 16 := by omega
      _ ≤ Nat.pow 16 cs.length * 16 := Nat.mul_le_mul_right 16 ih

theorem Quoted.isPoint {body : List Char} {points : List Nat} (h : Quoted body points) :
    ∀ n ∈ points, IsPoint n := by
  induction h with
  | nil => simp
  | @plain c cs ns hquote hslash hcontrol h ih =>
    exact List.forall_mem_cons.2 ⟨isPoint_toNat c, ih⟩
  | escape hn h ih => exact List.forall_mem_cons.2 ⟨isPoint_of_lt (escape?_lt hn), ih⟩
  | unit hdigits hlength h ih =>
    have hlt := hdigits.lt
    rw [hlength] at hlt
    exact List.forall_mem_cons.2 ⟨isPoint_of_lt hlt, ih⟩

/-- A code point that is no half of a pair stands for its own character. -/
theorem assemble?_cons {n : Nat} (hhigh : isHigh n = false) (hlow : isLow n = false)
    (rest : List Nat) : assemble? (n :: rest) = (assemble? rest).map (Char.ofNat n :: ·) := by
  cases rest <;> simp [assemble?, hhigh, hlow]

theorem assemble?_of_encodes {points : List Nat} {cs : List Char} (h : Encodes points cs) :
    assemble? points = some cs := by
  induction h with
  | nil => rfl
  | single c h ih =>
    have hvalid : c.toNat.isValidChar := c.valid
    have hhigh : isHigh c.toNat = false := by
      simp only [isHigh, Bool.and_eq_false_iff, decide_eq_false_iff_not]
      omega
    have hlow : isLow c.toNat = false := by
      simp only [isLow, Bool.and_eq_false_iff, decide_eq_false_iff_not]
      omega
    rw [assemble?_cons hhigh hlow, ih, Char.ofNat_toNat]
    rfl
  | pair hhigh hlow h ih => simp [assemble?, hhigh, hlow, ih]

theorem encodes_of_assemble? {points : List Nat} {cs : List Char}
    (hpoints : ∀ n ∈ points, IsPoint n) (h : assemble? points = some cs) :
    Encodes points cs := by
  fun_induction assemble? points generalizing cs with
  | case1 =>
    rw [← Option.some.inj h]
    exact .nil
  | case2 high hhigh low rest hlow ih =>
    obtain ⟨text, htext, rfl⟩ := Option.map_eq_some_iff.1 h
    have hrest := (List.forall_mem_cons.1 (List.forall_mem_cons.1 hpoints).2).2
    exact .pair hhigh hlow (ih hrest htext)
  | case3 | case4 | case5 => cases h
  | case6 n rest hhigh hlow ih =>
    obtain ⟨text, htext, rfl⟩ := Option.map_eq_some_iff.1 h
    obtain ⟨hn, hrest⟩ := List.forall_mem_cons.1 hpoints
    have hvalid : n.isValidChar := (hn.resolve_left hhigh).resolve_left hlow
    have hchar : (Char.ofNat n).toNat = n := by
      rw [Char.ofNat, dif_pos hvalid]
      rfl
    have hsingle := Encodes.single (Char.ofNat n) (ih hrest htext)
    rw [hchar] at hsingle
    exact hsingle

/-- **Strings.**  What the code points of a string stand for is their text, if they have one. -/
theorem Quoted.content_iff {body : List Char} {points : List Nat} (h : Quoted body points)
    {t : Option String} :
    Content points t ↔ t = (assemble? points).map String.ofList := by
  have hpoints := h.isPoint
  constructor
  · intro ht
    cases ht with
    | text ht => rw [assemble?_of_encodes ht, Option.map_some, String.ofList_toList]
    | noText hnone =>
      cases hchars : assemble? points with
      | none => rfl
      | some cs => exact absurd (encodes_of_assemble? hpoints hchars) (hnone cs)
  · rintro rfl
    cases hchars : assemble? points with
    | none =>
      refine .noText fun cs hcs => ?_
      rw [assemble?_of_encodes hcs] at hchars
      cases hchars
    | some cs =>
      refine .text ?_
      rw [String.toList_ofList]
      exact encodes_of_assemble? hpoints hchars

end Token

end FilterPlan
