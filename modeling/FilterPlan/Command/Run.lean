/-
  The program.

  1. **Stages** — a compilation reads the settings, settles the dialect, reads the request, makes
     the plan and emits it, in this order.  The first stage that fails ends it, and nothing is
     written before the last one.
  2. **Output** — the plan goes to standard output on a line of its own, or to a file as it is.
  3. **Outcomes** — a run ends well, with a failure, or with a command line that asks for nothing
     the program can do; each has its exit code.
-/
import FilterPlan.Command.Files
import FilterPlan.Command.Invocation
import FilterPlan.Planner
import FilterPlan.Wire.Settings
import FilterPlan.Wire.Request
import FilterPlan.Json.Writer

namespace FilterPlan.Command

/-! ## Failures and outcomes -/

/-- Why a run fails. -/
inductive Failure
  /-- The request cannot be read, or the plan cannot be written. -/
  | io
  | unknownDialect (e : UnknownDialect)
  | query (e : PlanError)
deriving DecidableEq

/-- The failure in words. -/
def Failure.message : Failure → String
  | .io => "Failed to read or write a file"
  | .unknownDialect e => "Invalid dialect provided: " ++ e.message
  | .query e => e.message

/-- How a run ends. -/
inductive Ending
  | success
  | failure (e : Failure)
  /-- The command line is not well formed. -/
  | misuse
deriving DecidableEq

/-- What a run leaves behind, files aside. -/
structure Outcome where
  ending : Ending := .success
  /-- What is written to standard output. -/
  output : String := ""
deriving DecidableEq

/-- The exit code of a run. -/
def Ending.exitCode : Ending → Nat
  | .success => 0
  | .failure _ => 1
  | .misuse => 2

/-! ## Stages -/

section

variable {m : Type → Type} [Monad m]

/-- The settings of a file, or the standard ones if none is named. -/
def readSettings (files : Files m) : Option String → ExceptT Failure m Settings
  | none => pure { }
  | some path => do
    match ← files.read path with
    | none => throw (.query (.unreadableSettings path))
    | some text => MonadExcept.ofExcept ((Settings.ofText text).mapError .query)

/-- The settings with the dialect of this name, if one is named. -/
def withDialect (settings : Settings) : Option String → Except Failure Settings
  | none => .ok settings
  | some name =>
    ((Dialect.ofName name).map fun dialect => { settings with dialect }).mapError .unknownDialect

/-- The text in the request file. -/
def readRequest (files : Files m) (path : String) : ExceptT Failure m String := do
  match ← files.read path with
  | none => throw .io
  | some text => pure text

/-- The plan of a request that is given as a text. -/
def planOfText (settings : Settings) (text : String) : Except PlanError Plan := do
  let request ← Request.ofText text
  (settings.plan request).outcome

/-- Writes a text to a file, or passes it on to standard output as a line. -/
def emit (files : Files m) (text : String) : Option String → ExceptT Failure m String
  | none => pure (text ++ "\n")
  | some path => do
    if ← files.write path text then pure "" else throw .io

/-- A value as the options want it written. -/
def CompileOptions.write (options : CompileOptions) (value : Json) : String :=
  if options.pretty then value.writeIndented else value.write

/-- Compiles a request; the result is what goes to standard output. -/
def compile (files : Files m) (options : CompileOptions) : ExceptT Failure m String := do
  let settings ← readSettings files options.settings
  let settings ← MonadExcept.ofExcept (withDialect settings options.dialect)
  let text ← readRequest files options.request
  let plan ← MonadExcept.ofExcept ((planOfText settings text).mapError .query)
  emit files (options.write plan.toJson) options.output

end

/-! ## Reports -/

/-- A line of the table of operators: the first column is six characters wide. -/
def tableLine (code name : String) : String :=
  code ++ String.ofList (List.replicate (6 - code.length) ' ') ++ " " ++ name ++ "\n"

/-- The operators and their codes, as a table. -/
def operatorTable : String :=
  tableLine "Code" "Operator" ++ String.ofList (List.replicate 29 '-') ++ "\n"
    ++ String.join (Operator.all.map fun op => tableLine (Text.decimal op.code) op.name)

/-- The operators and their codes, as JSON. -/
def operatorList : Json :=
  .array (Operator.all.map fun op => .record [("code", .nat op.code), ("name", .text op.name)])

/-- What `--version` prints. -/
def versionLine : String := "linq-filter 0.1.0\n"

/-! ## Runs -/

/-- Runs the program on a command line. -/
def run {m : Type → Type} [Monad m] (files : Files m) (args : List String) : m Outcome :=
  match Invocation.ofArguments? args with
  | none => pure { ending := .misuse }
  | some .version => pure { output := versionLine }
  | some (.operators asJson) =>
    pure { output := if asJson then operatorList.writeIndented ++ "\n" else operatorTable }
  | some (.compile options) => do
    match ← (compile files options).run with
    | .ok output => pure { output }
    | .error e => pure { ending := .failure e }

end FilterPlan.Command
