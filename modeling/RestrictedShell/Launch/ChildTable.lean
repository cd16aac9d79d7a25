import RestrictedShell.Session.Environment
/-!
A launcher whose answers are written down beforehand, for each command by itself.
-/

namespace RestrictedShell

/-- For each command the answers to its launches, in order. The last answer is given for all later
launches too; a command without answers runs and exits with code 0. -/
structure ChildTable where
  answers : Command → List (Except SpawnError Child)

namespace ChildTable

/-- The table in which every command exits with code 0. -/
def standard : ChildTable := ⟨fun _ => []⟩

/-- The answer to the next launch of a command. -/
def answer (t : ChildTable) (c : Command) : Except SpawnError Child :=
  (t.answers c).head?.getD (.ok (.silent (.exited 0)))

/-- Uses up an answer, unless it is the last. -/
def advance : List (Except SpawnError Child) → List (Except SpawnError Child)
  | _ :: second :: rest => second :: rest
  | answers => answers

/-- The table after a launch of a command. -/
def used (t : ChildTable) (c : Command) : ChildTable :=
  ⟨fun d => if d = c then advance (t.answers d) else t.answers d⟩

instance : Launcher ChildTable where
  launch i t := (⟨[], t.answer i.command⟩, t.used i.command)

end ChildTable

end RestrictedShell
