/-
  What the program relies on when it reads and writes files.

  1. **Laws** — a file system has places for files, and a name leads to one of them at most.
     Reading changes nothing.  Writing that fails changes nothing either; where it succeeds, the
     file that the name leads to holds the text and nothing else, and all other files are as they
     were.
  2. **The crux (`FileTree.fileSystem`)** — trees of files have these laws: bytes that are put at a
     path are what is found there afterwards, and what is found at any other path stays
     (`lookup_put_self`, `lookup_put_of_ne`).
-/
import FilterPlan.Command.Files

namespace FilterPlan.Command

/-! ## Laws -/

/-- Access to files that are kept as state, with what it promises. -/
structure FileSystem (σ : Type) where
  access : Files (StateM σ)
  /-- Where files can be. -/
  Place : Type
  /-- The place of the file that a name leads to, whether or not it is there. -/
  place? : σ → String → Option Place
  /-- The bytes of the file at a place, if it is there. -/
  content? : σ → Place → Option ByteArray
  /-- Reading changes nothing. -/
  read_state : ∀ s name, (access.read name s).2 = s
  /-- Writing that fails changes nothing. -/
  write_failed : ∀ s name text, (access.write name text s).1 = false →
    (access.write name text s).2 = s
  /-- Writing that succeeds changes one file, which then holds the text. -/
  write_done : ∀ s name text, (access.write name text s).1 = true →
    ∃ p, place? s name = some p ∧ content? (access.write name text s).2 p = some text.toUTF8 ∧
      ∀ other, other ≠ p → content? (access.write name text s).2 other = content? s other

namespace FileTree

/-! ## Trees -/

/-- A file that is there holds the bytes after they are put there. -/
theorem lookup_replaced_self {files : List (Path × ByteArray)} {p : Path} (bytes : ByteArray)
    (h : files.any (fun f => f.1 == p) = true) :
    (files.map fun f => if f.1 == p then (p, bytes) else f).lookup p = some bytes := by
  induction files with
  | nil => cases h
  | cons f rest ih =>
    rw [List.map_cons]
    by_cases hf : (f.1 == p) = true
    · rw [if_pos hf, List.lookup_cons_self]
    · rw [List.any_cons, Bool.eq_false_iff.2 hf, Bool.false_or] at h
      have hne : (p == f.1) = false := beq_eq_false_iff_ne.2 fun heq => hf (beq_iff_eq.2 heq.symm)
      rw [if_neg hf, List.lookup_cons, hne]
      exact ih h

/-- All other files are left alone. -/
theorem lookup_replaced_of_ne (files : List (Path × ByteArray)) {p q : Path} (bytes : ByteArray)
    (h : q ≠ p) : (files.map fun f => if f.1 == p then (p, bytes) else f).lookup q
      = files.lookup q := by
  induction files with
  | nil => rfl
  | cons f rest ih =>
    rw [List.map_cons]
    by_cases hf : (f.1 == p) = true
    · have hne : (q == f.1) = false := by
        rw [beq_iff_eq.1 hf]
        exact beq_eq_false_iff_ne.2 h
      rw [if_pos hf, List.lookup_cons, List.lookup_cons, ih, hne, beq_eq_false_iff_ne.2 h]
    · rw [if_neg hf, List.lookup_cons, List.lookup_cons, ih]

variable (t : FileTree) {p q : Path} (bytes : ByteArray)

/-- What is put at a path is found there. -/
theorem lookup_put_self : (t.put p bytes).files.lookup p = some bytes := by
  rw [put]
  by_cases hthere : (t.files.any fun f => f.1 == p) = true
  · rw [if_pos hthere]
    exact lookup_replaced_self bytes hthere
  · have hnone : t.files.lookup p = none := by
      rw [List.lookup_eq_none_iff]
      intro f hf
      rw [bne_iff_ne]
      rintro rfl
      exact hthere (List.any_eq_true.2 ⟨f, hf, beq_self_eq_true _⟩)
    rw [if_neg hthere]
    show (t.files ++ [(p, bytes)]).lookup p = _
    rw [List.lookup_append, hnone, Option.none_or, List.lookup_cons_self]

/-- What is found at another path stays. -/
theorem lookup_put_of_ne (h : q ≠ p) : (t.put p bytes).files.lookup q = t.files.lookup q := by
  rw [put]
  by_cases hthere : (t.files.any fun f => f.1 == p) = true
  · rw [if_pos hthere]
    exact lookup_replaced_of_ne t.files bytes h
  · have hnone : [(p, bytes)].lookup q = none := by
      rw [List.lookup_cons, beq_eq_false_iff_ne.2 h]
      rfl
    rw [if_neg hthere]
    show (t.files ++ [(p, bytes)]).lookup q = _
    rw [List.lookup_append, hnone, Option.or_none]

/-- The bytes of a text and of no other are read as it. -/
theorem fromUTF8?_eq_some_iff {bytes : ByteArray} {text : String} :
    String.fromUTF8? bytes = some text ↔ bytes = text.toUTF8 := by
  unfold String.fromUTF8?
  constructor
  · intro h
    split at h
    · rw [← Option.some.inj h]
      rfl
    · cases h
  · rintro rfl
    rw [String.toUTF8_eq_toByteArray, dif_pos text.isValidUTF8]
    rfl

theorem read_eq_some_iff {name text : String} :
    t.read name = some text ↔ ∃ p, t.path? name = some p ∧ t.files.lookup p = some text.toUTF8 := by
  simp only [read, Option.bind_eq_bind, Option.bind_eq_some_iff, fromUTF8?_eq_some_iff,
    exists_eq_right]

/-- A text is put where the name leads to, unless that is a folder. -/
theorem write?_eq_some_iff {name text : String} {after : FileTree} :
    t.write? name text = some after ↔
      ∃ p, t.path? name = some p ∧ t.isFolder p = false ∧ t.put p text.toUTF8 = after := by
  simp only [write?, Option.bind_eq_bind, Option.bind_eq_some_iff, Option.ite_none_left_eq_some,
    Bool.not_eq_true, Option.some.injEq]

theorem run_write (name text : String) : access.write name text t =
    match t.write? name text with
    | some after => (true, after)
    | none => (false, t) := by
  have hrun : access.write name text t = (match t.write? name text with
      | some after => (do set after; return true : StateM FileTree Bool)
      | none => return false) t := rfl
  rw [hrun]
  cases t.write? name text <;> rfl

/-- Trees as a file system. -/
def fileSystem : FileSystem FileTree where
  access := access
  Place := Path
  place? := path?
  content? t p := t.files.lookup p
  read_state _ _ := rfl
  write_failed t name text h := by
    rw [run_write] at h ⊢
    cases hwritten : t.write? name text with
    | none => rfl
    | some after => rw [hwritten] at h; cases h
  write_done t name text h := by
    rw [run_write] at h ⊢
    cases hwritten : t.write? name text with
    | none => rw [hwritten] at h; cases h
    | some after =>
      obtain ⟨p, hp, -, rfl⟩ := t.write?_eq_some_iff.1 hwritten
      exact ⟨p, hp, t.lookup_put_self _, fun other hne => t.lookup_put_of_ne _ hne⟩

end FileTree

end FilterPlan.Command
