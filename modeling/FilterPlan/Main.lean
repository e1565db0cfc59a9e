/-
  The program on the files of the system.
-/
import FilterPlan.Command.Run

namespace FilterPlan.Command

/-- The files of the system. -/
def systemFiles : Files IO where
  read path := do
    try
      return String.fromUTF8? (← IO.FS.readBinFile path)
    catch _ => return none
  write path text := do
    try
      IO.FS.writeFile path text
      return true
    catch _ => return false

end FilterPlan.Command

open FilterPlan.Command in
/-- Runs the program; a failure is told on standard error. -/
def main (args : List String) : IO UInt32 := do
  let outcome ← run systemFiles args
  IO.print outcome.output
  match outcome.ending with
  | .success => pure ()
  | .failure e => IO.eprintln ("Error: " ++ e.message)
  | .misuse =>
    IO.eprintln "usage: linq-filter compile --request FILE [--settings FILE] [--dialect NAME]"
    IO.eprintln "                           [--output FILE] [--pretty]"
    IO.eprintln "       linq-filter operators [--json]"
  return UInt32.ofNat outcome.ending.exitCode
