import RestrictedShell.Host
/-!
Failures to load a program. However the files of a system are laid out, a path at which there is
nothing to run is reported under one of a few numbers, and it depends on how the path fails to lead
anywhere which of them it is.
-/

namespace RestrictedShell

/-- The numbers for a path at which there is no program to be loaded. -/
def Errno.unloadable : List Errno :=
  [.noSuchFile, .notADirectory, .linkLoop, .nameTooLong, .accessDenied, .isADirectory,
    .badExecutableFormat]

namespace Host

namespace FileTree

variable {t : FileTree} {through : Bool} {links : Nat} {place dir : Location}
  {name path : Bytes} {rest names : List Bytes}

theorem walk_error {e : Errno} (h : t.walk through links place names = .error e) :
    e ∈ Errno.unloadable := by
  fun_induction walk t through links place names
  case case1 | case5 | case8 | case11 => cases h
  case case2 ih | case3 ih | case7 ih | case10 ih => exact ih h
  case case4 | case6 | case9 | case12 =>
    cases h
    decide

theorem resolve_error {e : Errno} (h : t.resolve through dir path = .error e) :
    e ∈ Errno.unloadable := by
  unfold resolve at h
  split at h
  · cases h
    decide
  · split at h
    · cases h
      decide
    · exact walk_error h

theorem find_error {e : Errno} (h : t.find dir path = .error e) : e ∈ Errno.unloadable := by
  unfold find at h
  split at h
  · next hresolve =>
    cases h
    exact resolve_error hresolve
  · split at h
    · cases h
    · cases h
      decide

/-- A name that stands for an entry of a directory. -/
structure IsEntryName (name : Bytes) : Prop where
  notSame : name ≠ [0x2E]
  notAbove : name ≠ [0x2E, 0x2E]
  fits : name.length ≤ maxName

theorem walk_of_missing (hname : IsEntryName name) (hnode : t.node? (place ++ [name]) = none) :
    t.walk through links place (name :: rest) =
      if rest = [] then .ok (place ++ [name]) else .error .noSuchFile := by
  rw [walk, if_neg hname.notSame, if_neg hname.notAbove, if_neg (Nat.not_lt_of_le hname.fits)]
  simp only [hnode]

theorem walk_of_file {number : Nat} (hname : IsEntryName name)
    (hnode : t.node? (place ++ [name]) = some (.file number)) (hrest : rest ≠ []) :
    t.walk through links place (name :: rest) = .error .notADirectory := by
  rw [walk, if_neg hname.notSame, if_neg hname.notAbove, if_neg (Nat.not_lt_of_le hname.fits)]
  simp only [hnode, if_neg hrest]

theorem walk_of_loop (hname : IsEntryName name)
    (hnode : t.node? (place ++ [name]) = some (.link name)) (hrelative : name.head? ≠ some 0x2F)
    (hcomponents : components name = [name]) (hrest : rest ≠ []) :
    t.walk through links place (name :: rest) = .error .linkLoop := by
  induction links with
  | zero =>
      rw [walk, if_neg hname.notSame, if_neg hname.notAbove, if_neg (Nat.not_lt_of_le hname.fits)]
      simp only [hnode, hrest, false_and, if_false]
  | succ links ih =>
      rw [walk, if_neg hname.notSame, if_neg hname.notAbove, if_neg (Nat.not_lt_of_le hname.fits)]
      simp only [hnode, hrest, false_and, if_false, if_neg hrelative, hcomponents]
      exact ih

theorem find_of_walk {e : Errno} (hne : path ≠ []) (hfits : path.length < maxPath)
    (hrelative : path.head? ≠ some 0x2F)
    (h : t.walk true maxLinks dir (components path) = .error e) : t.find dir path = .error e := by
  unfold find resolve
  rw [if_neg hne, if_neg (Nat.not_le_of_lt hfits), if_neg hrelative, h]

theorem find_empty {first : Bytes} (hcomponents : components path = first :: rest)
    (hfirst : IsEntryName first) (hrest : rest ≠ []) (hfits : path.length < maxPath)
    (hrelative : path.head? ≠ some 0x2F) : empty.find dir path = .error .noSuchFile := by
  have hne : path ≠ [] := by
    rintro rfl
    cases hcomponents
  apply find_of_walk hne hfits hrelative
  have hnone : empty.node? (dir ++ [first]) = none := by simp [node?, empty]
  rw [hcomponents, walk_of_missing hfirst hnone, if_neg hrest]

theorem find_of_long (h : maxPath ≤ path.length) : t.find dir path = .error .nameTooLong := by
  have hne : path ≠ [] := by
    rintro rfl
    cases h
  unfold find resolve
  rw [if_neg hne, if_pos h]

end FileTree

namespace Loaded

theorem executable_error {files : FileTree} {dir : Location} {path : Bytes} {e : Errno}
    (h : executable files dir path = .error e) : e ∈ Errno.unloadable := by
  unfold executable at h
  split at h
  · next hfind =>
    cases h
    exact FileTree.find_error hfind
  · split at h
    · split at h
      · cases h
      · cases h
        decide
    · cases h
      decide
  · cases h
  · cases h
    decide

theorem load_error {files : FileTree} {dir : Location} {depth : Nat} {path : Bytes}
    {argv : List Bytes} {e : Errno} (h : load files dir depth path argv = .error e) :
    e ∈ Errno.unloadable := by
  fun_induction load files dir depth path argv
  case case1 hfailed | case5 hfailed =>
    cases h
    exact executable_error hfailed
  case case2 | case3 | case4 | case8 =>
    cases h
    decide
  case case6 ih => exact ih h
  case case7 => cases h

/-- A program is not loaded because there is none, or else because its arguments are too much. -/
theorem exec_error {files : FileTree} {dir : Location} {path : Bytes} {argv : List Bytes}
    {e : Errno} (h : exec files dir path argv = .error e) :
    e ∈ Errno.unloadable ∨ tooLong argv = true ∧ e = .argumentListTooLong := by
  unfold exec at h
  split at h
  · next hlong =>
    cases h
    exact .inr ⟨hlong, rfl⟩
  · split at h
    · exact .inl (load_error h)
    · cases h
      exact .inl (by decide)

theorem exec_of_find_error {files : FileTree} {dir : Location} {path : Bytes} {argv : List Bytes}
    {e : Errno} (hargv : tooLong argv = false) (hslash : path.contains 0x2F = true)
    (hfind : files.find dir path = .error e) : exec files dir path argv = .error e := by
  have hload : load files dir maxDepth path argv = .error e := by
    unfold load executable
    rw [hfind]
  unfold exec
  rw [hargv, hslash]
  exact hload

end Loaded

theorem spawn_of_exec_error {h : Host} {path : Bytes} {argv : List Bytes} {e : Errno}
    (hzero : (path.contains 0 || argv.any (·.contains 0)) = false)
    (hexec : Loaded.exec h.files h.dir path argv = .error e) :
    ProcessHost.spawn path argv h = (.error (.os e), h) := by
  change spawn path argv h = _
  unfold spawn
  rw [if_neg (by rw [hzero]; exact Bool.false_ne_true), hexec]

theorem spawn_of_find_error {h : Host} {path : Bytes} {argv : List Bytes} {e : Errno}
    (hzero : (path.contains 0 || argv.any (·.contains 0)) = false)
    (hargv : Loaded.tooLong argv = false) (hslash : path.contains 0x2F = true)
    (hfind : h.files.find h.dir path = .error e) :
    ProcessHost.spawn path argv h = (.error (.os e), h) :=
  spawn_of_exec_error hzero (Loaded.exec_of_find_error hargv hslash hfind)

end Host

end RestrictedShell
