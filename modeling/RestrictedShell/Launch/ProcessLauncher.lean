import RestrictedShell.Path
import RestrictedShell.Session.Environment
/-!
Launching executables from a directory. An executable that cannot be loaded does not count as a
failure of the system: its place is taken by a child that says so and exits with a code of its own.
-/

namespace RestrictedShell

/-- Was it the executable that could not be used, rather than the system that could not make a
process? -/
def IoError.isExecFailure (e : IoError) : Bool :=
  e.kind = .notFound || e.kind = .permissionDenied || e.kind = .isADirectory ||
    e = .os .badExecutableFormat

/-- A system that makes processes: given the path of an executable and the words to start it with,
it answers with a child or with the reason why there is none. -/
class ProcessHost (η : Type) where
  spawn : (path : Bytes) → (argv : List Bytes) → η → Except IoError Child × η

/-- Launches the executables in a directory on a system. -/
structure ProcessLauncher (η : Type) where
  dir : Bytes
  host : η

namespace ProcessLauncher

variable {η : Type}

/-- The path of the executable for a command. -/
def path (l : ProcessLauncher η) (c : Command) : Bytes :=
  Path.join l.dir c.bytes

/-- What a launch comes to, given what the system answered. -/
def launched (path : Bytes) : Except IoError Child → Launched
  | .ok child => ⟨[.spawning path], .ok child⟩
  | .error error =>
      if error.isExecFailure then
        ⟨[.spawning path, .executableUnusable path error], .ok .unusable⟩
      else ⟨[.spawning path], .error ⟨path, error⟩⟩

instance [ProcessHost η] : Launcher (ProcessLauncher η) where
  launch i l :=
    let path := l.path i.command
    let answer := ProcessHost.spawn path i.argv l.host
    (launched path answer.1, { l with host := answer.2 })

end ProcessLauncher

end RestrictedShell
