import RestrictedShell.Text
/-!
Joining paths as text.
-/

namespace RestrictedShell.Path

/-- The byte between the parts of a path. -/
def slash : UInt8 := 0x2F

/-- The path of `name` inside `dir`: an absolute name stands for itself, and otherwise one slash
divides the two, unless `dir` is empty or brings its own. -/
def join (dir name : Bytes) : Bytes :=
  if name.head? = some slash then name
  else if dir = [] ∨ dir.getLast? = some slash then dir ++ name
  else dir ++ slash :: name

end RestrictedShell.Path
