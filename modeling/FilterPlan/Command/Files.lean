/-
  Files, as far as the program uses them.

  1. **Access** — the program reads a file as a text and writes a text to a file; either may fail,
     and why does not matter to it.  `Files` is that much, in any monad.
  2. **Trees** — files and folders as a value.  A name leads through folders that are there, from
     the root or from the current one, and `.` and `..` are followed as they are met.  Writing
     replaces a file or adds one; it makes no folders.
-/
import FilterPlan.Text.Split

namespace FilterPlan.Command

/-! ## Access -/

/-- Reading and writing of texts by name. -/
structure Files (m : Type → Type) where
  /-- The text in a file; nothing if it cannot be read, or if its bytes are no text. -/
  read : String → m (Option String)
  /-- Makes a text the whole content of a file; false if that fails. -/
  write : String → String → m Bool

/-! ## Trees -/

/-- The names on the way from the root to a file or a folder. -/
abbrev Path := List String

/-- Files and folders by path. -/
structure FileTree where
  files : List (Path × ByteArray) := []
  /-- The folders, but those on the way to a file need not be listed. -/
  folders : List Path := []
  /-- The folder that names are relative to. -/
  current : Path := []

namespace FileTree

/-- Holds of the folders. -/
def isFolder (t : FileTree) (p : Path) : Bool :=
  (t.current :: t.folders).any p.isPrefixOf || t.files.any fun f => p.isPrefixOf f.1 && p != f.1

/-- The folder that one part of a name leads to. -/
def enter? (t : FileTree) (folder : Path) (part : String) : Option Path :=
  let next :=
    if part = "" ∨ part = "." then folder
    else if part = ".." then folder.dropLast
    else folder ++ [part]
  if t.isFolder next then some next else none

/-- The path of the file that a name leads to, whether or not it is there. -/
def path? (t : FileTree) (name : String) : Option Path := do
  let parts := Text.pieces '/' name
  let start := if name.toList.head? = some '/' then [] else t.current
  let folder ← parts.dropLast.foldlM t.enter? start
  let last ← parts.getLast?
  if last ∈ ["", ".", ".."] then none else some (folder ++ [last])

/-- The text in a file. -/
def read (t : FileTree) (name : String) : Option String := do
  let p ← t.path? name
  let bytes ← t.files.lookup p
  String.fromUTF8? bytes

/-- The tree with these bytes in the file at a path. -/
def put (t : FileTree) (p : Path) (bytes : ByteArray) : FileTree :=
  { t with files :=
      if t.files.any fun f => f.1 == p then
        t.files.map fun f => if f.1 == p then (p, bytes) else f
      else t.files ++ [(p, bytes)] }

/-- The tree after a text is written to a file, unless there can be no such file. -/
def write? (t : FileTree) (name text : String) : Option FileTree := do
  let p ← t.path? name
  if t.isFolder p then none else some (t.put p text.toUTF8)

/-- Access to the files of a tree that is kept as state. -/
def access : Files (StateM FileTree) where
  read name := do return (← get).read name
  write name text := do
    match (← get).write? name text with
    | some t =>
      set t
      return true
    | none => return false

example : FileTree.path? { folders := [["x"]], current := ["w"] } "./../x/a" = some ["x", "a"] := by
  decide
example : FileTree.path? { files := [(["a"], "x".toUTF8)] } "a/../b" = none := by decide

end FileTree

end FilterPlan.Command
