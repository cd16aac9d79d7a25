import RestrictedShell.Options
import RestrictedShell.Proofs.Session.Advance
import RestrictedShell.Proofs.Session.Unloadable

namespace RestrictedShell

open Text

namespace Path

/-- The byte that the names of the two links in every directory are made of. -/
def dot : UInt8 := 0x2E

/-- The path of an entry of a directory. -/
def entry (dir name : Bytes) : Bytes :=
  dir ++ (if dir.getLast? = some slash then [] else [slash]) ++ name

theorem join_eq_entry {dir name : Bytes} (hname : name.head? ≠ some slash) (hdir : dir ≠ []) :
    join dir name = entry dir name := by
  by_cases hend : dir.getLast? = some slash
  · rw [join, if_neg hname, if_pos (.inr hend), entry, if_pos hend, List.append_nil]
  · rw [join_of_unended hname hdir hend, entry, if_neg hend, List.append_assoc,
      List.singleton_append]

theorem slash_mem_entry (dir name : Bytes) : slash ∈ entry dir name := by
  unfold entry
  split
  · rename_i hend
    simp [List.mem_of_getLast? hend]
  · simp

end Path

theorem Command.plain_bytes (c : Command) : Path.slash ∉ c.bytes ∧ Path.dot ∉ c.bytes := by
  cases c <;> decide

namespace Host

namespace FileTree

variable {t : FileTree} {through : Bool} {links : Nat} {place : Location} {name : Bytes}
  {rest : List Bytes}

theorem walk_of_directory (hname : IsEntryName name)
    (hnode : t.node? (place ++ [name]) = some .directory) :
    t.walk through links place (name :: rest) = t.walk through links (place ++ [name]) rest := by
  rw [walk, if_neg hname.notSame, if_neg hname.notAbove, if_neg (Nat.not_lt_of_le hname.fits)]
  simp only [hnode]

theorem walk_of_program {program : String} (hname : IsEntryName name)
    (hnode : t.node? (place ++ [name]) = some (.program program)) :
    t.walk through links place [name] = .ok (place ++ [name]) := by
  rw [walk, if_neg hname.notSame, if_neg hname.notAbove, if_neg (Nat.not_lt_of_le hname.fits)]
  simp only [hnode, if_true]

end FileTree

namespace Loaded

variable {path : Bytes} (files : FileTree) (place : Location) (argv : List Bytes)

theorem exec_of_slash (h : Path.slash ∈ path) :
    exec files place path argv =
      if tooLong argv then .error .argumentListTooLong
      else load files place maxDepth path argv := by
  have hcontains : path.contains 0x2F = true := List.contains_iff_mem.mpr h
  rw [exec, hcontains]
  rfl

theorem exec_of_name (h : Path.slash ∉ path) (hne : path ≠ []) :
    exec files place path argv =
      if tooLong argv then .error .argumentListTooLong
      else match search? files place path with
        | some found => load files place maxDepth found argv
        | none => .error .noSuchFile := by
  have hcontains : path.contains 0x2F = false := by
    rw [← Bool.not_eq_true, List.contains_iff_mem]
    exact h
  rw [exec, hcontains, decide_eq_false hne]
  rfl

variable {files place} in
theorem search?_of_first {name : Bytes} {node : Node}
    (h : executable files place (Text.encode "/usr/local/sbin" ++ 0x2F :: name) = .ok node) :
    search? files place name = some (Text.encode "/usr/local/sbin" ++ 0x2F :: name) := by
  apply List.find?_cons_of_pos
  rw [h]

end Loaded

end Host

/-- A system with the paths of all programs that were asked of it. -/
structure Watched (η : Type) where
  host : η
  requests : List Bytes

instance {η : Type} [ProcessHost η] : ProcessHost (Watched η) where
  spawn path argv w :=
    let answer := ProcessHost.spawn path argv w.host
    (answer.1, ⟨answer.2, w.requests ++ [path]⟩)

namespace ProcessLauncher

variable {η : Type} [ProcessHost η]

omit [ProcessHost η] in
theorem path_eq_entry {l : ProcessLauncher η} (h : l.dir ≠ []) (c : Command) :
    l.path c = Path.entry l.dir c.bytes := by
  refine Path.join_eq_entry (fun hhead => ?_) h
  exact c.plain_bytes.1 (List.mem_of_head? hhead)

theorem launch_watched (dir : Bytes) (w : Watched η) (i : Invocation) :
    (Launcher.launch i (⟨dir, w⟩ : ProcessLauncher (Watched η))).1 =
      (Launcher.launch i (⟨dir, w.host⟩ : ProcessLauncher η)).1 := rfl

theorem requests_foldl (l : ProcessLauncher (Watched η)) (is : List Invocation) :
    (is.foldl (fun l i => (Launcher.launch i l).2) l).host.requests =
      l.host.requests ++ is.map fun i => l.path i.command := by
  induction is generalizing l with
  | nil => exact (List.append_nil _).symm
  | cons i is ih =>
      rw [List.foldl_cons, ih, List.map_cons]
      exact List.append_assoc _ [_] _

end ProcessLauncher

namespace Session

variable {σ η : Type} [LineSource σ] [ProcessHost η]

theorem requests_of_run (settings : Settings) (s : σ) (l : ProcessLauncher (Watched η))
    (c : Console) :
    ((run settings).worldAfter ⟨(s, l), c⟩).env.2.host.requests =
      l.host.requests ++
        ((run settings).trace ⟨(s, l), c⟩).invocations.map fun i => l.path i.command := by
  obtain ⟨seen, hseen⟩ := exists_advances_runFrom settings 0 ⟨(s, l), c⟩
  have htrace := Action.trace_of_advances hseen
  have hlauncher : ((run settings).worldAfter ⟨(s, l), c⟩).env.2 = Launcher.following l seen :=
    hseen.launcher
  rw [hlauncher, ← Launcher.following_visible l c.filter seen, ← htrace]
  exact ProcessLauncher.requests_foldl l _

/-- Where the directory has a name, every launch asks for the entry of this directory that is called
as the command is, which is the first word of the line. The path has a slash in it, so that nothing
is searched for. The same holds of all launches of a session. -/
theorem programs_from_directory (o : Options) (hdir : o.commandsDir ≠ "") (s : σ) (host : η)
    (c : Console) :
    let dir := encode o.commandsDir
    let l : ProcessLauncher (Watched η) := ⟨dir, ⟨host, []⟩⟩
    (∃ o', Options.parse ["--commands-dir", o.commandsDir] = .ok (.run o') ∧
        o'.commandsDir = o.commandsDir) ∧
      (∀ line i, classify line = .external i →
        let path := Path.entry dir i.command.bytes
        (words line).head? = some i.command.bytes ∧
          (Launcher.launch i l).1 = (Launcher.launch i (⟨dir, host⟩ : ProcessLauncher η)).1 ∧
          (Launcher.launch i l).2.host.requests = [path] ∧
          Path.slash ∉ i.command.bytes ∧ Path.dot ∉ i.command.bytes ∧ Path.slash ∈ path ∧
          ∀ files place argv, Host.Loaded.exec files place path argv =
            if Host.Loaded.tooLong argv then .error .argumentListTooLong
            else Host.Loaded.load files place Host.Loaded.maxDepth path argv) ∧
      ((run o.settings).worldAfter ⟨(s, l), c⟩).env.2.host.requests =
        ((run o.settings).trace ⟨(s, l), c⟩).invocations.map fun i =>
          Path.entry dir i.command.bytes := by
  intro dir l
  have hnamed : l.dir ≠ [] := fun hempty => hdir (encode_injective (hempty.trans (by decide)))
  refine ⟨⟨_, rfl, rfl⟩, fun line i hline => ?_, ?_⟩
  · have hslash := Path.slash_mem_entry dir i.command.bytes
    obtain ⟨hplain, hundotted⟩ := i.command.plain_bytes
    refine ⟨?_, ProcessLauncher.launch_watched dir ⟨host, []⟩ i, ?_, hplain, hundotted, hslash,
      fun files place argv => Host.Loaded.exec_of_slash files place argv hslash⟩
    · rw [← argv_eq_words_of_classify hline]
      rfl
    · rw [← ProcessLauncher.path_eq_entry hnamed]
      rfl
  · rw [requests_of_run]
    exact List.map_congr_left fun i _ => ProcessLauncher.path_eq_entry hnamed i.command

theorem programs_from_parent :
    let o : Options := ⟨"% ", "..", false, 16, "error"⟩
    let dir := encode o.commandsDir
    let l : ProcessLauncher (Watched Host) := ⟨dir, ⟨Host.atWork .empty [], []⟩⟩
    o.commandsDir ≠ "" ∧ classify (encode " mostra ../a") = .external ⟨.mostra, [encode "../a"]⟩ ∧
      (Launcher.launch ⟨.mostra, [encode "../a"]⟩ l).2.host.requests = [encode "../mostra"] := by
  intro o dir l
  have hdir : o.commandsDir ≠ "" := by decide
  have hline : classify (encode " mostra ../a") = .external ⟨.mostra, [encode "../a"]⟩ := by decide
  have hentry : Path.entry dir (Command.bytes .mostra) = encode "../mostra" := by decide
  obtain ⟨_, hlaunch, _⟩ := programs_from_directory o hdir (⟨[]⟩ : Script)
    (Host.atWork .empty []) (Console.fresh .off)
  obtain ⟨_, _, hrequests, _⟩ := hlaunch _ _ hline
  exact ⟨hdir, hline, hrequests.trans (congrArg (fun path => [path]) hentry)⟩

/-- The directory without a name is accepted, and with it the bare name of the command is asked for,
which a system looks for in places of its own. -/
theorem program_from_elsewhere :
    let o : Options := ⟨"% ", "", false, 16, "error"⟩
    let bin := ["usr", "local", "sbin"].map encode
    let files : Host.FileTree :=
      ⟨[(bin.take 1, .directory), (bin.take 2, .directory), (bin, .directory),
        (bin ++ [encode "mostra"], .program "mostra")], #[]⟩
    let l : ProcessLauncher (Watched Host) :=
      ⟨encode o.commandsDir, ⟨Host.atWork files [], []⟩⟩
    Options.parse ["--commands-dir", ""] = .ok (.run o) ∧
      classify (encode "mostra") = .external ⟨.mostra, []⟩ ∧
      (Launcher.launch ⟨.mostra, []⟩ l).2.host.requests = [encode "mostra"] ∧
      Path.slash ∉ encode "mostra" ∧
      Host.Loaded.exec files Host.workplace (encode "mostra") [encode "mostra"] =
        .ok ⟨.utility "mostra", [encode "mostra"]⟩ := by
  intro o bin files l
  have hnone : Path.slash ∉ encode "mostra" := by decide
  -- The first of the places that are searched has a program with this name.
  have hwalk : files.walk true Host.FileTree.maxLinks [] (bin ++ [encode "mostra"]) =
      .ok (bin ++ [encode "mostra"]) := by
    have husr : Host.FileTree.IsEntryName (encode "usr") := ⟨by decide, by decide, by decide⟩
    have hlocal : Host.FileTree.IsEntryName (encode "local") := ⟨by decide, by decide, by decide⟩
    have hsbin : Host.FileTree.IsEntryName (encode "sbin") := ⟨by decide, by decide, by decide⟩
    have hname : Host.FileTree.IsEntryName (encode "mostra") := ⟨by decide, by decide, by decide⟩
    have hnames : bin ++ [encode "mostra"] =
        [encode "usr", encode "local", encode "sbin", encode "mostra"] := rfl
    rw [hnames, Host.FileTree.walk_of_directory husr rfl,
      Host.FileTree.walk_of_directory hlocal rfl, Host.FileTree.walk_of_directory hsbin rfl,
      Host.FileTree.walk_of_program hname rfl]
    rfl
  have hexecutable : Host.Loaded.executable files Host.workplace
      (encode "/usr/local/sbin" ++ 0x2F :: encode "mostra") = .ok (.program "mostra") := by
    have hcomponents : Host.FileTree.components
        (encode "/usr/local/sbin" ++ 0x2F :: encode "mostra") = bin ++ [encode "mostra"] := by
      decide
    have hresolve : files.resolve true Host.workplace
        (encode "/usr/local/sbin" ++ 0x2F :: encode "mostra") = .ok (bin ++ [encode "mostra"]) := by
      rw [Host.FileTree.resolve, if_neg (by decide), if_neg (by decide), if_pos (by decide),
        hcomponents, hwalk]
    rw [Host.Loaded.executable, Host.FileTree.find, hresolve]
    rfl
  refine ⟨rfl, by decide, rfl, hnone, ?_⟩
  rw [Host.Loaded.exec_of_name _ _ _ hnone (by decide), if_neg (by decide),
    Host.Loaded.search?_of_first hexecutable]
  dsimp only
  rw [Host.Loaded.load, hexecutable]
  rfl

end Session

end RestrictedShell
