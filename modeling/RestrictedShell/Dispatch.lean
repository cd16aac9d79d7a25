import RestrictedShell.Command
import RestrictedShell.Words
/-!
What a line asks for. The two reserved words count only as the whole line, before it is cut into
words; every other line is judged by its first word alone.
-/

namespace RestrictedShell

/-- A command with its arguments, exactly as they were typed. -/
structure Invocation where
  command : Command
  arguments : List Bytes
deriving DecidableEq, Repr

/-- The words handed to the child: the command's name and then the arguments. -/
def Invocation.argv (i : Invocation) : List Bytes :=
  i.command.bytes :: i.arguments

/-- What a line asks for. -/
inductive Dispatch where
  | blank
  | quit
  | help
  | unrecognized (name : String)
  | external (invocation : Invocation)
deriving DecidableEq, Repr

namespace Dispatch

/-- What a list of words asks for. -/
def ofWords : List Bytes → Dispatch
  | [] => blank
  | word :: arguments =>
      match Command.ofBytes? word with
      | some command => external ⟨command, arguments⟩
      | none => unrecognized (Text.lossy word)

end Dispatch

/-- What a line, without its terminator, asks for. -/
def classify (line : Bytes) : Dispatch :=
  if line = Text.encode Reserved.quit then .quit
  else if line = Text.encode Reserved.help then .help
  else .ofWords (words line)

namespace Dispatch

theorem ofWords_ne_quit (ws : List Bytes) : ofWords ws ≠ quit := by
  unfold ofWords
  split
  · simp
  · split <;> simp

theorem ofWords_ne_help (ws : List Bytes) : ofWords ws ≠ help := by
  unfold ofWords
  split
  · simp
  · split <;> simp

theorem ofWords_eq_external_iff {ws : List Bytes} {i : Invocation} :
    ofWords ws = external i ↔ ws = i.argv := by
  cases ws with
  | nil => simp [ofWords, Invocation.argv]
  | cons word arguments =>
      rcases hfound : Command.ofBytes? word with _ | command
      · have hnot : word ≠ i.command.bytes := fun h => by
          rw [Command.ofBytes?_eq_some_iff.mpr h] at hfound
          cases hfound
        simp [ofWords, hfound, Invocation.argv, hnot]
      · obtain rfl := Command.ofBytes?_eq_some_iff.mp hfound
        obtain ⟨d, arguments'⟩ := i
        simp only [ofWords, hfound, external.injEq, Invocation.mk.injEq, Invocation.argv,
          List.cons.injEq]
        exact and_congr_left fun _ => ⟨congrArg Command.bytes, Command.bytes_injective⟩

end Dispatch

theorem argv_eq_words_of_classify {line : Bytes} {i : Invocation}
    (h : classify line = .external i) : i.argv = words line := by
  unfold classify at h
  split at h
  · cases h
  · split at h
    · cases h
    · exact (Dispatch.ofWords_eq_external_iff.mp h).symm

end RestrictedShell
