import ResourceFilter.Command.Line

/-! # The program

Reads the arguments, and what is piped in if they hold no filter; then writes the outcome and ends
with its code.
-/

set_option autoImplicit false

open ResourceFilter.Command in
/-- Runs the program. -/
def main (arguments : List String) : IO UInt32 := do
  let outcome ←
    match Invocation.ofArguments arguments with
    | .error stop => pure stop.outcome
    | .ok invocation =>
      let stdin ← IO.getStdin
      let waits := invocation.filter.isNone
      let terminal ← stdin.isTty
      let input ← if waits && !terminal then some <$> stdin.readBinToEnd else pure none
      pure (invocation.run input)
  let stdout ← IO.getStdout
  let stderr ← IO.getStderr
  stdout.putStr outcome.output
  stdout.flush
  stderr.putStr outcome.errors
  return outcome.code.toUInt32
