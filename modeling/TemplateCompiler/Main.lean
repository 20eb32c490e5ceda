import TemplateCompiler.Machine

/-! # The program

It runs its arguments on the machine, prints the answer and returns its exit code.
-/

/-- Runs the program. -/
def main (arguments : List String) : IO UInt32 := do
  let environment ← TemplateCompiler.Machine.environment
  let response ← TemplateCompiler.CommandLine.run environment arguments
  IO.print response.output.print
  return response.exitCode.toUInt32
