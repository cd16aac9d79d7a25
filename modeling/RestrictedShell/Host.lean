import RestrictedShell.Host.Script.Evaluator
import RestrictedShell.Launch.ProcessLauncher
/-!
A system with files, a standard input that its processes share, and installed programs. A process
runs from its start to its end before anything else happens. What the shell and the utilities do is
here so that commands can be run as a system runs them. Nothing is proved about it: the theorems
about launches hold on any system, and look into this one no further than the loading of a program.
-/

namespace RestrictedShell

/-- A system as its processes find it. With `forgetsChildren` a child that has ended leaves nothing
to be waited for. -/
structure Host where
  files : Host.FileTree
  dir : Host.Location
  input : Bytes
  forgetsChildren : Bool

namespace Host

/-- The variables of a process that no script has started. -/
def environment : List (Bytes × Bytes) :=
  [("PATH", "/usr/local/sbin:/usr/local/bin:/usr/sbin:/usr/bin:/sbin:/bin"), ("HOME", "/root"),
    ("TERM", "xterm"), ("LC_ALL", "C"), ("RUST_BACKTRACE", "0")].map fun v =>
    (Text.encode v.1, Text.encode v.2)

/-- A path or an argument with a zero byte in it cannot be handed over. -/
def zeroByte : IoError :=
  .custom .invalidInput "nul byte found in provided data"

/-- Starts a program and runs it to its end. What it takes of the standard input is gone for all
others. -/
def spawn (path : Bytes) (argv : List Bytes) (h : Host) : Except IoError Child × Host :=
  if path.contains 0 || argv.any (·.contains 0) then (.error zeroByte, h)
  else match Loaded.exec h.files h.dir path argv with
    | .error e => (.error (.os e), h)
    | .ok loaded =>
        let (outcome, p) := Script.runLoaded loaded
          (Process.fresh h.files h.dir h.input environment)
        let outcome := if h.forgetsChildren then .lost (IoError.os .noChildren).message else outcome
        (.ok ⟨p.printed.toList, [], false, .ok outcome⟩,
          { h with files := p.files, input := h.input.drop (h.input.length - p.inputLeft.length) })

theorem length_input_spawn_le (path : Bytes) (argv : List Bytes) (h : Host) :
    (spawn path argv h).2.input.length ≤ h.input.length := by
  unfold spawn
  split
  · exact Nat.le_refl _
  · split
    · exact Nat.le_refl _
    · simp only [List.length_drop]
      omega

instance : ProcessHost Host where
  spawn := spawn

/-- The files that every system brings with it, and the place where sessions work. -/
def workplace : Location :=
  [Text.encode "work"]

def standardFiles : FileTree :=
  let place (path : String) : Location := FileTree.components (Text.encode path)
  let withDirectories := ["/usr/bin", "/usr/sbin", "/usr/lib", "/usr/share",
    "/usr/local/bin", "/usr/local/sbin", "/usr/local/lib", "/tmp", "/root", "/etc", "/home",
    "/var/tmp", "/dev/fd", "/proc", "/mnt", "/opt", "/srv", "/run", "/sys", "/media", "/boot"].foldl (fun (t : FileTree) path => t.putDirectories (place path))
    (FileTree.empty.putDirectories workplace)
  let withPrograms := ("sh" :: "dash" :: Utility.names).foldl
    (fun (t : FileTree) name => t.put (place ("/usr/bin/" ++ name)) (.program name))
    withDirectories
  let withDevices := [("null", Device.null), ("zero", .zero), ("full", .full), ("tty", .terminal),
    ("stdin", .descriptor 0), ("stdout", .descriptor 1), ("stderr", .descriptor 2)].foldl
    (fun (t : FileTree) d => t.put (place ("/dev/" ++ d.1)) (.device d.2)) withPrograms
  let withDescriptors := (List.range 10).foldl
    (fun (t : FileTree) fd => t.put (place ("/dev/fd/" ++ fd.repr)) (.device (.descriptor fd)))
    withDevices
  ["bin", "sbin", "lib"].foldl
    (fun (t : FileTree) name => t.put (place ("/" ++ name)) (.link (Text.encode ("usr/" ++ name))))
    withDescriptors

/-- The plain files in the place where sessions work, by path. -/
def workFiles (t : FileTree) : List (Bytes × Bytes) :=
  (t.filesBelow workplace).mergeSort fun a b => decide (a.1 ≤ b.1)

/-- The plain files that are new or have another content, by path. -/
def changed (before after : FileTree) : List (Bytes × Bytes) :=
  (workFiles after).filter fun f => (workFiles before).lookup f.1 ≠ some f.2

/-- The paths of the plain files that are gone. -/
def removed (before after : FileTree) : List Bytes :=
  ((workFiles before).map Prod.fst).filter fun path => ((workFiles after).lookup path).isNone

/-- A system with these files, whose processes find this standard input. -/
def atWork (files : FileTree) (input : Bytes) : Host where
  files := files
  dir := workplace
  input := input
  forgetsChildren := false

end Host

end RestrictedShell
