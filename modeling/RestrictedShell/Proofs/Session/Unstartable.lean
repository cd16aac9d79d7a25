import RestrictedShell.Proofs.Host.Loading
import RestrictedShell.Proofs.Session.Refusal
import RestrictedShell.Proofs.Session.Stopping
import RestrictedShell.Source.Script

namespace RestrictedShell

open Text

namespace Console

end Console

theorem completionLine_one (name : String) :
    completionLine name Child.unusableCode = name ++ " finished with code 1\n" := by
  have hdecimal : toString Child.unusableCode.toInt = "1" := by decide
  rw [completionLine, hdecimal, String.append_assoc, String.append_assoc]
  rfl

namespace ProcessLauncher

variable {σ η : Type} [LineSource σ] [ProcessHost η]

theorem launch_of_spawn_error {i : Invocation} {s : σ} {l : ProcessLauncher η} {error : IoError}
    (h : (ProcessHost.spawn (l.path i.command) i.argv l.host).1 = .error error) :
    (Environment.launch i (s, l)).1 = launched (l.path i.command) (.error error) := by
  change launched _ (ProcessHost.spawn _ _ _).1 = _
  rw [h]

theorem launched_of_execFailure {path : Bytes} {error : IoError} (h : error.isExecFailure = true) :
    launched path (.error error) =
      ⟨[.spawning path, .executableUnusable path error], .ok .unusable⟩ :=
  if_pos h

theorem launched_of_not_execFailure {path : Bytes} {error : IoError}
    (h : error.isExecFailure = false) :
    launched path (.error error) = ⟨[.spawning path], .error ⟨path, error⟩⟩ :=
  if_neg (by rw [h]; exact Bool.false_ne_true)

end ProcessLauncher

namespace Session

section Course

variable {ε : Type} [Environment ε] {line : Bytes} {i : Invocation}

/-- What is said when an executable cannot be used. -/
def unusableRemark : Event :=
  .wrote .err (encode "error executing command\n")

/-- What is said when a process for the executable at a path cannot be made. -/
def spawnComplaint (path : Bytes) (error : IoError) : Event :=
  .wrote .err (encode
    ("error creating a new process: " ++ lossy path ++ ": " ++ error.message ++ "\n"))

/-- What is reported when a command has ended in place of an executable that cannot be used. -/
def unusableCompletion (name : String) : Event :=
  .wrote .out (encode (name ++ " finished with code 1\n"))

theorem aftermath_unusable (i : Invocation) (log : List Log.Entry) :
    (⟨log, .ok .unusable⟩ : Launched).aftermath i = log.map .logged ++
      [.waited i.command.name, unusableRemark, .flushed .err,
        .logged (.commandFinished i.command.name Child.unusableCode),
        unusableCompletion i.command.name, .flushed .out, .flushed .out] := by
  rw [Launched.aftermath_of_ok rfl, unusableCompletion, ← completionLine_one]
  change log.map Event.logged ++ [] ++ _ = _
  rw [List.append_nil]
  rfl

theorem aftermath_uncreated (i : Invocation) (log : List Log.Entry) (path : Bytes)
    (error : IoError) :
    (⟨log, .error ⟨path, error⟩⟩ : Launched).aftermath i = log.map .logged ++
      [.logged (.spawnFailed ⟨path, error⟩), spawnComplaint path error, .flushed .out] := by
  have hmessage : "error creating a new process: " ++ lossy path ++ ": " ++ error.message ++ "\n" =
      "error creating a new process: " ++ SpawnError.message ⟨path, error⟩ ++ "\n" := by
    simp only [SpawnError.message, String.append_assoc]
  rw [spawnComplaint, hmessage, Launched.aftermath]
  change log.map Event.logged ++ [] ++ [] ++ _ = _
  rw [List.append_nil, List.append_nil]
  rfl

theorem trace_of_external (hline : classify line = .external i) (e : ε) :
    (stepCourse line e).trace =
      [.logged .dispatching, .flushed .out, .launched i.argv] ++
        (Environment.launch i e).1.aftermath i := by
  rw [trace_stepCourse, hline]
  rfl

end Course

variable {σ η : Type} [LineSource σ] [ProcessHost η] {line : Bytes} {i : Invocation}
  {l : ProcessLauncher η} {error : IoError}

theorem trace_of_execFailure (hline : classify line = .external i)
    (hspawn : (ProcessHost.spawn (l.path i.command) i.argv l.host).1 = .error error)
    (hfailure : error.isExecFailure = true) (s : σ) :
    (stepCourse line (s, l)).trace =
      [.logged .dispatching, .flushed .out, .launched i.argv,
        .logged (.spawning (l.path i.command)),
        .logged (.executableUnusable (l.path i.command) error),
        .waited i.command.name, unusableRemark, .flushed .err,
        .logged (.commandFinished i.command.name Child.unusableCode),
        unusableCompletion i.command.name, .flushed .out, .flushed .out] := by
  rw [trace_of_external hline, ProcessLauncher.launch_of_spawn_error hspawn,
    ProcessLauncher.launched_of_execFailure hfailure, aftermath_unusable]
  rfl

theorem trace_of_not_execFailure (hline : classify line = .external i)
    (hspawn : (ProcessHost.spawn (l.path i.command) i.argv l.host).1 = .error error)
    (hfailure : error.isExecFailure = false) (s : σ) :
    (stepCourse line (s, l)).trace =
      [.logged .dispatching, .flushed .out, .launched i.argv,
        .logged (.spawning (l.path i.command)),
        .logged (.spawnFailed ⟨l.path i.command, error⟩),
        spawnComplaint (l.path i.command) error, .flushed .out] := by
  rw [trace_of_external hline, ProcessLauncher.launch_of_spawn_error hspawn,
    ProcessLauncher.launched_of_not_execFailure hfailure, aftermath_uncreated]
  rfl

theorem stepResult_of_spawn_error (hline : classify line = .external i)
    (hspawn : (ProcessHost.spawn (l.path i.command) i.argv l.host).1 = .error error) (s : σ) :
    stepResult line (s, l) = .ok .proceed := by
  unfold stepResult
  rw [hline]
  change (Environment.launch i (s, l)).1.flow = _
  rw [ProcessLauncher.launch_of_spawn_error hspawn]
  cases hfailure : error.isExecFailure with
  | true => rw [ProcessLauncher.launched_of_execFailure hfailure]; rfl
  | false => rw [ProcessLauncher.launched_of_not_execFailure hfailure]; rfl

theorem spawn_on_bare_host {argv : List Bytes} (hzero : (argv.any (·.contains 0)) = false)
    (hargv : Host.Loaded.tooLong argv = false) :
    (ProcessHost.spawn (encode "utils/mostra") argv (Host.atWork .empty [])).1 =
      .error (.os .noSuchFile) := by
  have hcomponents : Host.FileTree.components (encode "utils/mostra") =
      [encode "utils", encode "mostra"] := by decide
  have hfind : Host.FileTree.empty.find Host.workplace (encode "utils/mostra") =
      .error .noSuchFile :=
    Host.FileTree.find_empty hcomponents ⟨by decide, by decide, by decide⟩ (by decide) (by decide)
      (by decide)
  rw [Host.spawn_of_find_error (by rw [hzero]; rfl) hargv rfl hfind]

end Session

end RestrictedShell
