import CoilProbe.Program

/-!
# The command line

Runs the program on its arguments, without a network: no name is known and nobody answers.
-/

open CoilProbe

/-- Runs the program and prints what it says. -/
def main (arguments : List String) : IO UInt32 := do
  let filterText := (← IO.getEnv "RUST_LOG").getD ""
  let exit := program "-" filterText {} (arguments.map Argument.ofString)
  (← IO.getStdout).write ⟨exit.output.toArray⟩
  (← IO.getStderr).putStr exit.errors
  return exit.status.toUInt32
