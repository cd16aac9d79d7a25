import RestrictedShell.Proofs.Host.Loading
import RestrictedShell.Proofs.Session.Unstartable

namespace RestrictedShell

open Text

/-- The numbers for a path without a program that count as failures of the system all the same. -/
def Errno.mistaken : List Errno :=
  [.notADirectory, .linkLoop, .nameTooLong]

theorem Path.join_of_unended {dir name : Bytes} (hname : name.head? ≠ some slash) (hdir : dir ≠ [])
    (hend : dir.getLast? ≠ some slash) : join dir name = dir ++ slash :: name := by
  rw [join, if_neg hname, if_neg (by simp [hdir, hend])]

theorem isExecFailure_of_unloadable {e : Errno} (he : e ∈ Errno.unloadable) :
    (IoError.os e).isExecFailure = !decide (e ∈ Errno.mistaken) := by
  revert e
  decide

namespace ProcessLauncher

variable {η : Type} [ProcessHost η] {i : Invocation} {l : ProcessLauncher η} {e : Errno}

theorem launch_of_unloadable
    (hspawn : (ProcessHost.spawn (l.path i.command) i.argv l.host).1 = .error (.os e))
    (he : e ∈ Errno.unloadable) :
    (Launcher.launch i l).1.result =
      if e ∈ Errno.mistaken then .error ⟨l.path i.command, .os e⟩ else .ok .unusable := by
  change (launched _ (ProcessHost.spawn _ _ _).1).result = _
  have hfailure := isExecFailure_of_unloadable he
  rw [hspawn]
  split
  · next hmistaken =>
    rw [launched_of_not_execFailure (by simpa [hmistaken] using hfailure)]
  · next hmistaken =>
    rw [launched_of_execFailure (by simpa [hmistaken] using hfailure)]

theorem launch_of_find_error {l : ProcessLauncher Host}
    (hzero : ((l.path i.command).contains 0 || i.argv.any (·.contains 0)) = false)
    (hargv : Host.Loaded.tooLong i.argv = false) (hslash : (l.path i.command).contains 0x2F = true)
    (hfind : l.host.files.find l.host.dir (l.path i.command) = .error e) :
    (Launcher.launch i l).1.result =
      if e ∈ Errno.mistaken then .error ⟨l.path i.command, .os e⟩ else .ok .unusable := by
  apply launch_of_unloadable
  · rw [Host.spawn_of_find_error hzero hargv hslash hfind]
  · exact Host.FileTree.find_error hfind

end ProcessLauncher

namespace Session

variable {σ η : Type} [LineSource σ] [ProcessHost η] {line : Bytes} {i : Invocation}
  {l : ProcessLauncher η}

/-- A step whose executable cannot be loaded goes on. Where the number is one of the three, the
launch fails and the error stream gets a complaint about the system. For all others the launch gives
a stand-in, the error stream gets the remark about the executable, and the standard output the
completion with the code 1. However the files of a system are laid out, loading the executable fails
with no other number, unless the arguments are too long. -/
theorem unloadable_reported (hline : classify line = .external i) {e : Errno}
    (hspawn : (ProcessHost.spawn (l.path i.command) i.argv l.host).1 = .error (.os e))
    (he : e ∈ Errno.unloadable) (s : σ) {c : Console} (hc : c.Unlimited) :
    let answer := (Launcher.launch i l).1.result
    let seen := (step line).trace ⟨(s, l), c⟩
    (step line).result ⟨(s, l), c⟩ = .ok .proceed ∧
      (e ∉ Errno.mistaken → answer = .ok .unusable ∧
        seen.written .err = encode "error executing command\n" ∧
        seen.written .out = encode (i.command.name ++ " finished with code 1\n")) ∧
      (e ∈ Errno.mistaken → answer = .error ⟨l.path i.command, .os e⟩ ∧
        seen.written .err = encode ("error creating a new process: " ++ lossy (l.path i.command) ++
          ": " ++ (IoError.os e).message ++ "\n") ∧
        seen.written .out = []) ∧
      ∀ files place e', Host.Loaded.exec files place (l.path i.command) i.argv = .error e' →
        e' ∈ Errno.unloadable ∨ Host.Loaded.tooLong i.argv = true ∧ e' = .argumentListTooLong := by
  intro answer seen
  have hanswer : answer = _ := ProcessLauncher.launch_of_unloadable hspawn he
  have hfailure := isExecFailure_of_unloadable he
  obtain ⟨htrace, hresult⟩ := step_of_unlimited line (w := ⟨(s, l), c⟩) hc
  have hwritten : ∀ stream, seen.written stream = (stepCourse line (s, l)).trace.written stream :=
    fun stream => (congrArg _ htrace).trans (Trace.written_visible _ _ _)
  refine ⟨hresult.trans (stepResult_of_spawn_error hline hspawn s), fun hnot => ?_, fun hmem => ?_,
    fun _ _ _ => Host.Loaded.exec_error⟩
  · rw [decide_eq_false hnot] at hfailure
    rw [hanswer, if_neg hnot, hwritten, hwritten, trace_of_execFailure hline hspawn hfailure s]
    exact ⟨rfl, List.append_nil _, List.append_nil _⟩
  · rw [decide_eq_true hmem] at hfailure
    rw [hanswer, if_pos hmem, hwritten, hwritten, trace_of_not_execFailure hline hspawn hfailure s]
    exact ⟨rfl, List.append_nil _, rfl⟩

theorem unloadable_reported_of_no_files :
    let l : ProcessLauncher Host := ⟨encode "utils", Host.atWork .empty []⟩
    let seen := (step (encode "mostra a.txt")).trace ⟨((⟨[]⟩ : Script), l), Console.fresh .off⟩
    Errno.noSuchFile ∈ Errno.unloadable ∧ Errno.noSuchFile ∉ Errno.mistaken ∧
      (Launcher.launch ⟨.mostra, [encode "a.txt"]⟩ l).1.result = .ok .unusable ∧
      seen.written .err = encode "error executing command\n" ∧
      seen.written .out = encode "mostra finished with code 1\n" := by
  intro l seen
  have hline : classify (encode "mostra a.txt") = .external ⟨.mostra, [encode "a.txt"]⟩ := by
    decide
  have hspawn : (ProcessHost.spawn (l.path .mostra) [encode "mostra", encode "a.txt"] l.host).1 =
      .error (.os .noSuchFile) := spawn_on_bare_host rfl rfl
  have hmem : Errno.noSuchFile ∈ Errno.unloadable := by decide
  have hnot : Errno.noSuchFile ∉ Errno.mistaken := by decide
  exact ⟨hmem, hnot, (unloadable_reported hline hspawn hmem (⟨[]⟩ : Script)
    (Console.unlimited_fresh .off)).2.1 hnot⟩

/-- A directory of executables that is a plain file, a link to itself or too long a path leads to no
executable, and yet nothing stands in for the child. -/
theorem unloadable_mistaken :
    let work := encode "work"
    let files : Host.FileTree :=
      ⟨[([work], .directory), ([work, encode "a"], .file 0),
        ([work, encode "b"], .link (encode "b"))], #[⟨encode "x", 0o644⟩]⟩
    let endless : Bytes := List.replicate 4096 0x61
    let launched (dir : Bytes) : Except SpawnError Child :=
      (Launcher.launch ⟨.mostra, []⟩ (⟨dir, Host.atWork files []⟩ : ProcessLauncher Host)).1.result
    classify (encode "mostra") = .external ⟨.mostra, []⟩ ∧
      launched (encode "a") = .error ⟨encode "a/mostra", .os .notADirectory⟩ ∧
      launched (encode "b") = .error ⟨encode "b/mostra", .os .linkLoop⟩ ∧
      launched endless = .error ⟨endless ++ encode "/mostra", .os .nameTooLong⟩ := by
  intro work files endless launched
  have hlaunched : ∀ dir path e, Path.join dir (encode "mostra") = path →
      path.contains 0 = false → path.contains 0x2F = true →
      files.find Host.workplace path = .error e → e ∈ Errno.mistaken →
        launched dir = .error ⟨path, .os e⟩ := by
    rintro dir path e rfl hzero hslash hfind hmistaken
    have hresult := ProcessLauncher.launch_of_find_error (i := ⟨.mostra, []⟩)
      (l := ⟨dir, Host.atWork files []⟩) (Bool.or_eq_false_iff.mpr ⟨hzero, rfl⟩) rfl hslash hfind
    rwa [if_pos hmistaken] at hresult
  have hfile : files.find Host.workplace (encode "a/mostra") = .error .notADirectory := by
    have hcomponents : Host.FileTree.components (encode "a/mostra") =
        [encode "a", encode "mostra"] := by decide
    apply Host.FileTree.find_of_walk (by decide) (by decide) (by decide)
    rw [hcomponents]
    exact Host.FileTree.walk_of_file ⟨by decide, by decide, by decide⟩ rfl (by decide)
  have hloop : files.find Host.workplace (encode "b/mostra") = .error .linkLoop := by
    have hcomponents : Host.FileTree.components (encode "b/mostra") =
        [encode "b", encode "mostra"] := by decide
    apply Host.FileTree.find_of_walk (by decide) (by decide) (by decide)
    rw [hcomponents]
    exact Host.FileTree.walk_of_loop ⟨by decide, by decide, by decide⟩ rfl (by decide) (by decide)
      (by decide)
  have hlong : files.find Host.workplace (endless ++ encode "/mostra") = .error .nameTooLong := by
    apply Host.FileTree.find_of_long
    rw [List.length_append, List.length_replicate]
    exact Nat.le_add_right _ _
  have hdir : ∀ b ∈ endless, b = 0x61 := fun _ => List.eq_of_mem_replicate
  refine ⟨by decide, ?_, ?_, ?_⟩
  · exact hlaunched _ _ _ (by decide) (by decide) (by decide) hfile (by decide)
  · exact hlaunched _ _ _ (by decide) (by decide) (by decide) hloop (by decide)
  · apply hlaunched _ _ _ ?_ ?_ ?_ hlong (by decide)
    · apply Path.join_of_unended (by decide)
      · rw [Ne, List.replicate_eq_nil_iff]
        decide
      · intro hslash
        exact absurd (hdir _ (List.mem_of_getLast? hslash)) (by decide)
    · rw [← Bool.not_eq_true, List.contains_iff_mem, List.mem_append]
      rintro (hmem | hname)
      · exact absurd (hdir _ hmem) (by decide)
      · exact absurd hname (by decide)
    · rw [List.contains_iff_mem]
      exact List.mem_append_right _ (by decide)

end Session

end RestrictedShell
