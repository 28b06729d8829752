import Collocation.CommandLine.Basic

/-!
# The program

The files of the machine, and the way in.
-/

namespace Collocation

/-- Give nothing for what fails. -/
def attempt {α : Type} (action : IO α) : IO (Option α) := do
  try
    return some (← action)
  catch _ =>
    return none

/-- The files of the machine, seen from the current directory. -/
def machineFiles : Files IO where
  read path := attempt do
    return (← IO.FS.readBinFile path).toList
  entries path := attempt do
    let directory := (← IO.currentDir) / path
    (← directory.readDir).toList.mapM fun entry => do
      return ⟨entry.fileName, ← entry.path.isDir⟩

end Collocation

open Collocation in
/-- Do what the arguments ask for. -/
def main (arguments : List String) : IO UInt32 := do
  let outcome ← commandLine machineFiles arguments
  let program := (← IO.appPath).fileName.getD "collocation"
  for line in outcome.output program do
    IO.println line
  if let some line := outcome.diagnostic? then
    IO.eprintln line
  return outcome.status
