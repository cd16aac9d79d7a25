import RestrictedShell.Dispatch

namespace RestrictedShell

theorem classify_eq (line : Bytes) :
    classify line =
      if line = Text.encode "termina" then .quit
      else if line = Text.encode "help" then .help
      else .ofWords (words line) := rfl

theorem classify_eq_quit_iff {line : Bytes} :
    classify line = .quit ↔ line = Text.encode "termina" := by
  rw [classify_eq]
  split
  · simp [*]
  · rename_i hne
    split
    · simp [hne]
    · simp [hne, Dispatch.ofWords_ne_quit]

namespace Command

/-- The seven words that name a command. -/
def names : List String :=
  ["mostra", "copia", "acrescenta", "conta", "apaga", "informa", "lista"]

theorem name_mem_names (c : Command) : c.name ∈ names :=
  List.mem_map_of_mem (f := name) c.mem_all

theorem exists_of_mem_names {name : String} (h : name ∈ names) : ∃ c : Command, c.name = name := by
  obtain ⟨c, _, hname⟩ := List.exists_of_mem_map (f := Command.name) (l := all) h
  exact ⟨c, hname⟩

end Command

/-- The first of these words names a command. -/
def Names (argv : List Bytes) : Prop :=
  ∃ name ∈ Command.names, argv.head? = some (Text.encode name)

instance (argv : List Bytes) : Decidable (Names argv) :=
  inferInstanceAs (Decidable (∃ name ∈ Command.names, _))

theorem names_argv (i : Invocation) : Names i.argv :=
  ⟨i.command.name, i.command.name_mem_names, rfl⟩

theorem exists_invocation_of_names {argv : List Bytes} (h : Names argv) :
    ∃ i : Invocation, argv = i.argv := by
  obtain ⟨name, hname, hhead⟩ := h
  obtain ⟨c, rfl⟩ := Command.exists_of_mem_names hname
  cases argv with
  | nil => cases hhead
  | cons word arguments => exact ⟨⟨c, arguments⟩, congrArg (· :: arguments) (Option.some.inj hhead)⟩

theorem names_words_iff {line : Bytes} :
    Names (words line) ↔ ∃ i, classify line = .external i := by
  constructor
  · intro h
    have hquit : line ≠ Text.encode "termina" := by
      rintro rfl
      revert h
      decide
    have hhelp : line ≠ Text.encode "help" := by
      rintro rfl
      revert h
      decide
    obtain ⟨i, hi⟩ := exists_invocation_of_names h
    refine ⟨i, ?_⟩
    rw [classify_eq, if_neg hquit, if_neg hhelp]
    exact Dispatch.ofWords_eq_external_iff.mpr hi
  · rintro ⟨i, hi⟩
    rw [← argv_eq_words_of_classify hi]
    exact names_argv i

end RestrictedShell
