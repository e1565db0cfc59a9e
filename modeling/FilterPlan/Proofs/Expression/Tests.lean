/-
  Atoms are written as tests.

  1. **Standing for an atom** — `StandsFor` says when a test asks what an atom asks: of the same
     field, cut at its dots, with the same comparison or match, and of the value that its argument
     is bound to.
  2. **Identifiers** — in PostgreSQL the identifier of every field reads back as the path of its
     names.  In Dynamic LINQ that of a `PlainPath` does: names of letters, digits and underscores
     that are no keywords.
  3. **The crux (`reads_atom`)** — the text of an atom is one test, and that test stands for the
     atom.
-/
import FilterPlan.Formula.Template
import FilterPlan.Proofs.Template.Text
import FilterPlan.Proofs.Text.Splitting
import FilterPlan.Proofs.Traversal
import FilterPlan.Proofs.Expression.Grammar

namespace FilterPlan

open Lexeme Grammar

/-! ## Standing for an atom -/

/-- The test asks what the atom asks, given the arguments that its placeholders refer to. -/
inductive StandsFor (arguments : List String) : Dialect → Test → Atom → Prop
  | compare {d path field op index value} (hpath : Text.SplitsInto '.' field path)
    (hvalue : arguments[index]? = some value) :
    StandsFor arguments d ⟨path, .compare op index⟩ (.compare field op value)
  | null {d path field op} (hpath : Text.SplitsInto '.' field path) :
    StandsFor arguments d ⟨path, .null op⟩ (.null field op)
  | call {path field test index value} (hpath : Text.SplitsInto '.' field path)
    (hvalue : arguments[index]? = some value) :
    StandsFor arguments .dynamicLinq ⟨path, .call test index⟩ (.text field test value)
  | like {path field test index value} (hpath : Text.SplitsInto '.' field path)
    (hvalue : arguments[index]? = some (test.likePattern value)) :
    StandsFor arguments .postgres ⟨path, .like index⟩ (.text field test value)

/-- Holds of dotted paths of words that Dynamic LINQ takes for names. -/
def PlainPath (field : String) : Prop :=
  ∀ name ∈ Text.pieces '.' field,
    name ≠ "" ∧ name.toList.all isWordChar = true ∧ name ∉ ["and", "or", "null"]

instance (field : String) : Decidable (PlainPath field) :=
  inferInstanceAs (Decidable (∀ name ∈ Text.pieces '.' field, _))

/-- Holds of the fields that a dialect can write as identifiers: PostgreSQL can write any. -/
def Dialect.CanName (field : String) : Dialect → Prop
  | .dynamicLinq => PlainPath field
  | .postgres => True

instance (field : String) : (d : Dialect) → Decidable (d.CanName field)
  | .dynamicLinq => inferInstanceAs (Decidable (PlainPath field))
  | .postgres => inferInstanceAs (Decidable True)

/-! ## Identifiers -/

/-- The characters of a single name in an identifier. -/
def Dialect.spell (name : String) : Dialect → List Char
  | .dynamicLinq => name.toList
  | .postgres => (Text.quoted name).toList

theorem toList_identifier (d : Dialect) (field : String) :
    (d.identifier field).toList
      = ['.'].intercalate ((Text.pieces '.' field).map fun name => d.spell name) := by
  cases d with
  | dynamicLinq =>
    have hsplit : Text.SplitsInto '.' field (Text.pieces '.' field) := Text.splitsInto_iff.2 rfl
    exact hsplit.joined.symm
  | postgres =>
    rw [Dialect.identifier, Text.quotedPath, Text.join, String.toList_ofList, List.map_map]
    rfl

/-- The lexemes of names with dots between them are a path. -/
theorem path_of_names {d : Dialect} {names : List String} {ls : List Lexeme} (nonempty : names ≠ [])
    (h : List.Forall₂ (fun name l => name? d l = some name) names ls) :
    Path d ([.dot].intercalate (ls.map fun l => [l])) names := by
  induction h with
  | nil => exact absurd rfl nonempty
  | @cons name l names ls hname hrest ih =>
    cases hrest with
    | nil => exact .last hname
    | cons hnext hrest =>
      have hpath := ih (List.cons_ne_nil _ _)
      rw [List.map_cons, List.map_cons, List.intercalate_cons_cons]
      exact .more hname hpath

/-- Names with dots between them are read as a path. -/
theorem reads_names {d : Dialect} {names : List String} (nonempty : names ≠ [])
    (hnames : ∀ name ∈ names, ∃ l, Reads d (d.spell name) [l] ∧ name? d l = some name) :
    ∃ ts, Reads d (['.'].intercalate (names.map fun name => d.spell name)) ts ∧
      Path d ts names := by
  obtain ⟨ls, hls⟩ := exists_forall₂_iff.2 hnames
  refine ⟨_, reads_dotted ?_, path_of_names nonempty (hls.imp fun name l h => h.2)⟩
  rw [List.forall₂_map_left_iff, List.forall₂_map_right_iff]
  exact hls.imp fun name l h => h.1

/-- **Identifiers.**  A field's identifier is read as one path, and the names on it are the field
    cut at its dots. -/
theorem reads_identifier {d : Dialect} {field : String} (hfield : d.CanName field) :
    ∃ ts, Reads d (d.identifier field).toList ts ∧ Path d ts (Text.pieces '.' field) := by
  have hsplit : Text.SplitsInto '.' field (Text.pieces '.' field) := Text.splitsInto_iff.2 rfl
  rw [toList_identifier]
  apply reads_names hsplit.nonempty
  intro name hname
  cases d with
  | dynamicLinq =>
    obtain ⟨nonempty, hchars, hkeyword⟩ := hfield name hname
    exact ⟨.word name, reads_word .dynamicLinq nonempty hchars, by rw [name?, if_neg hkeyword]⟩
  | postgres => exact ⟨.name name, reads_quoted name, rfl⟩

/-! ## Placeholders, signs and words -/

theorem reads_placeholder (d : Dialect) (index : Nat) :
    ∃ n, Reads d (d.placeholder index).toList [.placeholder n] ∧ index? d n = some index := by
  have hrun : ∀ n, ∀ c, begin? d c = some ([], .number []) →
      Reads d (c :: (Text.decimal n).toList) [.placeholder n] := by
    intro n c hbegin
    apply reads_of_run Mode.number (fun c => c.isDigit = true) hbegin
    · intro digits x hx
      rw [Mode.extend?, if_pos hx]
    · intro x hx
      rw [Text.decimal, Nat.toList_repr] at hx
      exact Nat.isDigit_of_mem_toDigits (by decide) (by decide) hx
    · rw [List.nil_append, Mode.finish?, Text.digits?_decimal]
      rfl
    · intro x hx
      rw [Mode.extend?]
      rcases hx with rfl | rfl | rfl | rfl <;> rfl
  cases d with
  | dynamicLinq =>
    have htext : (Dialect.dynamicLinq.placeholder index).toList
        = '@' :: (Text.decimal index).toList := by
      rw [Dialect.placeholder, String.toList_append]
      rfl
    rw [htext]
    refine ⟨index, hrun index '@' ?_, rfl⟩
    simp only [begin?, isWordChar_of_mem_marks (c := '@') (by simp [marks])]
    rfl
  | postgres =>
    have htext : (Dialect.postgres.placeholder index).toList
        = '$' :: (Text.decimal (index + 1)).toList := by
      rw [Dialect.placeholder, String.toList_append]
      rfl
    rw [htext]
    refine ⟨index + 1, hrun (index + 1) '$' ?_, rfl⟩
    simp only [begin?, isWordChar_of_mem_marks (c := '$') (by simp [marks])]
    rfl

theorem reads_comparison (d : Dialect) (op : Comparison) :
    Reads d (d.comparison op).toList [.sign (d.comparison op)] := by
  apply reads_sign
  · cases d <;> cases op <;> decide
  · cases d <;> cases op <;> decide

theorem sign?_comparison (d : Dialect) (op : Comparison) :
    sign? d (d.comparison op) = some op := by
  cases d <;> cases op <;> rfl

/-- The words of the dialects, and the methods that text tests call. -/
def keywords : List String :=
  ["and", "or", "null", "AND", "OR", "IS", "NOT", "NULL", "LIKE", "ESCAPE", "StartsWith",
    "EndsWith", "Contains"]

theorem reads_keyword (d : Dialect) {w : String} (hw : w ∈ keywords) :
    Reads d w.toList [.word w] := by
  have hwords : ∀ w ∈ keywords, w ≠ "" ∧ w.toList.all isWordChar = true := by decide +kernel
  exact reads_word d (hwords w hw).1 (hwords w hw).2

theorem reads_method (d : Dialect) (test : TextTest) :
    Reads d test.method.toList [.word test.method] := by
  apply reads_keyword
  cases test <;> decide

theorem method?_method (test : TextTest) : method? test.method = some test := by
  cases test <;> rfl

/-! ## Atoms -/

namespace Atom

/-- What stands behind the identifier of an atom. -/
def ending (d : Dialect) (index : Nat) (a : Atom) : String :=
  match d, a with
  | d, .compare _ op _ => " " ++ d.comparison op ++ " " ++ d.placeholder index
  | .dynamicLinq, .null _ op => " " ++ Dialect.dynamicLinq.comparison op ++ " null"
  | .postgres, .null _ .eq => " IS NULL"
  | .postgres, .null _ .ne => " IS NOT NULL"
  | .postgres, .null _ op => " " ++ Dialect.postgres.comparison op ++ " NULL"
  | .dynamicLinq, .text _ test _ =>
    "." ++ test.method ++ "(" ++ Dialect.dynamicLinq.placeholder index ++ ")"
  | .postgres, .text _ _ _ =>
    " LIKE " ++ Dialect.postgres.placeholder index ++ " ESCAPE '\\'"

/-- What an atom asks of its field. -/
def form (d : Dialect) (index : Nat) (a : Atom) : Form :=
  match d, a with
  | _, .compare _ op _ => .compare op index
  | _, .null _ op => .null op
  | .dynamicLinq, .text _ test _ => .call test index
  | .postgres, .text _ _ _ => .like index

theorem text_template (d : Dialect) (index : Nat) (a : Atom) :
    Template.text d index (a.template d) = d.identifier a.field ++ a.ending d index := by
  cases a with
  | compare field op value =>
    simp [template, Template.text, ending, Atom.field, String.append_assoc]
  | null field op =>
    cases d <;> cases op <;>
      simp [template, Template.text, ending, Atom.field, Dialect.nullTest, Dialect.comparison,
        String.append_assoc]
  | text field test value =>
    cases d <;>
      simp [template, TextTest.template, Template.text, ending, Atom.field, String.append_assoc]

/-- An ending begins with a space or a dot, so no name goes on into it. -/
theorem breaks_ending (d : Dialect) (index : Nat) (a : Atom) (rest : List Char) :
    Breaks ((a.ending d index).toList ++ rest) := by
  cases a with
  | compare field op value => simp [ending, Breaks]
  | null field op => cases d <;> cases op <;> simp [ending, Breaks]
  | text field test value => cases d <;> simp [ending, Breaks]

/-- A comparison with null is read as one, or as the words for it in PostgreSQL. -/
theorem reads_null_ending (d : Dialect) (index : Nat) (field : String) (op : Comparison) :
    ∃ us, Reads d ((null field op).ending d index).toList us ∧
      Tail d us ((null field op).form d index) := by
  cases d with
  | dynamicLinq =>
    refine ⟨_, ?_, .equalsNull (sign?_comparison .dynamicLinq op)⟩
    have hnull : Reads .dynamicLinq "null".toList [.word "null"] := reads_keyword _ (by decide)
    have hall := closed_append_reads (reads_comparison .dynamicLinq op).spaced hnull
    simpa [ending] using hall
  | postgres =>
    have his : Reads .postgres "IS".toList [.word "IS"] := reads_keyword _ (by decide)
    have hnull : Reads .postgres "NULL".toList [.word "NULL"] := reads_keyword _ (by decide)
    have horder := closed_append_reads (reads_comparison .postgres op).spaced hnull
    cases op with
    | eq =>
      refine ⟨_, ?_, .isNull⟩
      have hall := closed_append_reads his.spaced hnull
      simpa [ending] using hall
    | ne =>
      refine ⟨_, ?_, .isNotNull⟩
      have hnot : Reads .postgres "NOT".toList [.word "NOT"] := reads_keyword _ (by decide)
      have hall := closed_append_reads his.spaced (closed_append_reads hnot.before_space hnull)
      simpa [ending] using hall
    | _ =>
      refine ⟨_, ?_, .orderNull (sign?_comparison .postgres _) (by decide)⟩
      simpa [ending] using horder

/-- A text test is read as the call of a method, or as LIKE with its escape character. -/
theorem reads_text_ending (d : Dialect) (index : Nat) (field : String) (test : TextTest)
    (value : String) : ∃ us, Reads d ((text field test value).ending d index).toList us ∧
      Tail d us ((text field test value).form d index) := by
  obtain ⟨n, hplaceholder, hindex⟩ := reads_placeholder d index
  cases d with
  | dynamicLinq =>
    refine ⟨_, ?_, .call (method?_method test) hindex⟩
    have hclose := reads_append hplaceholder
      (fun rest => breaks_cons (.inr (.inr (.inr rfl))) _) (closed_right .dynamicLinq).reads
    have hopen := closed_append_reads (closed_left .dynamicLinq) hclose
    have hcall := reads_append (reads_method .dynamicLinq test)
      (fun rest => breaks_cons (.inr (.inr (.inl rfl))) _) hopen
    have hall := closed_append_reads (closed_dot .dynamicLinq) hcall
    simpa [ending] using hall
  | postgres =>
    refine ⟨_, ?_, .like hindex⟩
    have hlike : Reads .postgres "LIKE".toList [.word "LIKE"] := reads_keyword _ (by decide)
    have hescape : Reads .postgres "ESCAPE".toList [.word "ESCAPE"] := reads_keyword _ (by decide)
    have hmark := closed_append_reads hescape.spaced (reads_literal (c := '\\') (by decide))
    have hrest := reads_append hplaceholder
      (fun rest => breaks_cons (.inl rfl) _) hmark
    have hall := closed_append_reads hlike.spaced hrest
    simpa [ending] using hall

/-- The ending of an atom is read as what its form asks. -/
theorem reads_ending (d : Dialect) (index : Nat) (a : Atom) :
    ∃ us, Reads d (a.ending d index).toList us ∧ Tail d us (a.form d index) := by
  cases a with
  | compare field op value =>
    obtain ⟨n, hplaceholder, hindex⟩ := reads_placeholder d index
    refine ⟨_, ?_, .compare (sign?_comparison d op) hindex⟩
    have hall := closed_append_reads (reads_comparison d op).spaced hplaceholder
    simpa [ending] using hall
  | null field op => exact reads_null_ending d index field op
  | text field test value => exact reads_text_ending d index field test value

/-- **Atoms are tests.**  The text of an atom is read as one test of its field. -/
theorem reads_atom {d : Dialect} {a : Atom} (hfield : d.CanName a.field) (index : Nat) :
    ∃ ts, Reads d (Template.text d index (a.template d)).toList ts ∧
      IsTest d ts ⟨Text.pieces '.' a.field, a.form d index⟩ := by
  obtain ⟨ts, hident, hpath⟩ := reads_identifier hfield
  obtain ⟨us, hending, htail⟩ := a.reads_ending d index
  refine ⟨ts ++ us, ?_, .intro hpath htail⟩
  rw [text_template, String.toList_append]
  exact reads_append hident (breaks_ending d index a) hending

/-- The test that an atom is read as stands for it, once its value is where it refers to. -/
theorem standsFor {d : Dialect} {a : Atom} {index : Nat} {arguments : List String}
    (hbound : Template.bound (a.template d) <+: arguments.drop index) :
    StandsFor arguments d ⟨Text.pieces '.' a.field, a.form d index⟩ a := by
  have hsplit : Text.SplitsInto '.' a.field (Text.pieces '.' a.field) := Text.splitsInto_iff.2 rfl
  have hvalue : ∀ value rest, value :: rest <+: arguments.drop index →
      arguments[index]? = some value := by
    intro value rest hprefix
    obtain ⟨more, hmore⟩ := hprefix
    rw [← Nat.add_zero index, ← List.getElem?_drop, ← hmore]
    rfl
  cases a with
  | compare field op value => exact .compare hsplit (hvalue value [] hbound)
  | null field op => exact .null hsplit
  | text field test value =>
    cases d with
    | dynamicLinq => exact .call hsplit (hvalue value [] hbound)
    | postgres => exact .like hsplit (hvalue (test.likePattern value) [] hbound)

/-- A test refers to its own argument and to no other. -/
theorem index?_form (d : Dialect) (index : Nat) (a : Atom) :
    (a.form d index).index?.toList = List.range' index (Template.bound (a.template d)).length := by
  cases a with
  | compare field op value => rfl
  | null field op => rfl
  | text field test value => cases d <;> rfl

end Atom

end FilterPlan
