import RestrictedShell.Console
/-!
The completion report: one line on the standard output for a child that exited, and nothing there
for a child that was killed or lost.
-/

namespace RestrictedShell

/-- The line that tells how a command exited. -/
def completionLine (name : String) (code : Int32) : String :=
  name ++ " finished with code " ++ toString code.toInt ++ "\n"

/-- Reports how the command called `name` ended. -/
def report (name : String) : Outcome → Output Unit
  | .exited code => do
      Output.log (.commandFinished name code)
      Output.writeText .out (completionLine name code)
      Output.flush .out
  | outcome => Output.log (.noCompletionReport name outcome)

end RestrictedShell
