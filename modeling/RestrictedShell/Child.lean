import RestrictedShell.Console
import RestrictedShell.Dispatch
/-!
A launched child, seen from the parent: what it writes itself while it runs, what is said on the
error stream when it is waited for, and how it ends.
-/

namespace RestrictedShell

/-- A child between its launch and the wait for it. `output` is what it writes on the streams it
inherits; `remark` is written to the session's error stream on its behalf, and `settled` tells
whether that stream is flushed then. -/
structure Child where
  output : List (Stream × Bytes)
  remark : Bytes
  settled : Bool
  ending : Except IoError Outcome

namespace Child

/-- A child that runs and ends this way without a word. -/
def silent (outcome : Outcome) : Child :=
  ⟨[], [], false, .ok outcome⟩

/-- The code with which a command ends whose executable cannot be run. -/
def unusableCode : Int32 := 1

/-- Stands in for a child whose executable cannot be run. -/
def unusable : Child :=
  ⟨[], Text.encode "error executing command\n", true, .ok (.exited unusableCode)⟩

/-- What the child writes while it runs. -/
def events (child : Child) : List Event :=
  child.output.map fun piece => .childWrote piece.1 piece.2

/-- Waits for the child of a command. -/
def wait (command : Command) (child : Child) : Output Outcome := do
  Output.note (.waited command.name)
  Output.write .err child.remark
  if child.settled then Output.flush .err
  match child.ending with
  | .ok outcome => pure outcome
  | .error error => throw error

end Child

/-- The answer to a request to launch: what was logged on the way, and the child or the reason why
there is none. -/
structure Launched where
  log : List Log.Entry
  result : Except SpawnError Child

/-- What the child writes while it runs, if there is one. -/
def Launched.events (l : Launched) : List Event :=
  match l.result with
  | .ok child => child.events
  | .error _ => []

end RestrictedShell
