/-
  What a command line asks for.

  1. **Assignments** — an option takes a value, either after `=` or as the next argument, which
     then must not look like an option itself; a lone `-` does not.  A flag takes none.  Nothing
     is given twice, and nothing else may stand on the line but a final `--`.
  2. **Invocations** — the program's version, the table of operators, or the compilation of a
     request.
-/
import FilterPlan.Text.Split

namespace FilterPlan.Command

/-! ## Assignments -/

/-- Holds of arguments that may be the value of the option before them. -/
def isValue (arg : String) : Bool := arg == "-" || arg.toList.head? != some '-'

/-- What the arguments assign to the options and flags of these names, a flag counting as an option
    with an empty value; nothing if they are not well formed. -/
def assignments? (options flags : List String) : List String → Option (List (String × String))
  | [] => some []
  | arg :: rest =>
    if arg = "--" then (if rest.isEmpty then some [] else none)
    else if flags.contains arg then
      (assignments? options flags rest).map ((arg, "") :: ·)
    else if options.contains arg then
      match rest with
      | value :: rest =>
        if isValue value then (assignments? options flags rest).map ((arg, value) :: ·) else none
      | [] => none
    else
      match Text.cut? '=' arg with
      | some (name, value) =>
        if options.contains name then (assignments? options flags rest).map ((name, value) :: ·)
        else none
      | none => none

/-- The assignments, unless one name is assigned to twice. -/
def given? (options flags args : List String) : Option (List (String × String)) :=
  (assignments? options flags args).filter fun given => (given.map Prod.fst).Nodup

/-! ## Invocations -/

/-- How to compile a request. -/
structure CompileOptions where
  /-- The file that holds the request. -/
  request : String
  /-- The file that holds the settings. -/
  settings : Option String := none
  /-- The name of the dialect, in place of the one in the settings. -/
  dialect : Option String := none
  /-- The file to write the plan to, in place of standard output. -/
  output : Option String := none
  /-- Holds if the plan is to be written with a line for each part. -/
  pretty : Bool := false
deriving DecidableEq

/-- What a command line asks for. -/
inductive Invocation
  | version
  | compile (options : CompileOptions)
  /-- The table of operators, as text or as JSON. -/
  | operators (asJson : Bool)
deriving DecidableEq

namespace CompileOptions

/-- The options that a list of arguments gives. -/
def ofArguments? (args : List String) : Option CompileOptions := do
  let given ← given? ["--request", "--settings", "--dialect", "--output"] ["--pretty"] args
  let request ← given.lookup "--request"
  return {
    request
    settings := given.lookup "--settings"
    dialect := given.lookup "--dialect"
    output := given.lookup "--output"
    pretty := (given.lookup "--pretty").isSome }

end CompileOptions

namespace Invocation

/-- What a command line asks for, if it is well formed. -/
def ofArguments? : List String → Option Invocation
  | [] => none
  | command :: args =>
    if command = "compile" then (CompileOptions.ofArguments? args).map .compile
    else if command = "operators" then
      (given? [] ["--json"] args).map fun given => .operators (!given.isEmpty)
    else if command = "--version" ∨ ['-', 'V'].isPrefixOf command.toList then some .version
    else none

example : ofArguments? ["compile", "--request=r", "--pretty", "--output", "-", "--"] =
    some (.compile { request := "r", output := some "-", pretty := true }) := by decide
example : ofArguments? ["compile", "--request", "-r"] = none := by decide
example : ofArguments? ["operators", "--json", "--json"] = none := by decide

end Invocation

end FilterPlan.Command
