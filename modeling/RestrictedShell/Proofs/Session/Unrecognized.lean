import RestrictedShell.Launch.ChildTable
import RestrictedShell.Proofs.Dispatch.Classification
import RestrictedShell.Proofs.Session.Refusal
import RestrictedShell.Proofs.Text.Lossy
import RestrictedShell.Source.Script

namespace RestrictedShell

open Text Words

theorem exists_word_of_unrecognized {line : Bytes} {name : String}
    (h : classify line = .unrecognized name) :
    ∃ word arguments, words line = word :: arguments ∧ IsWord word ∧
      (∀ c : Command, word ≠ c.bytes) ∧ name = lossy word := by
  have hnot : ¬ IsReserved line := (classify_eq_unrecognized_iff.mp ⟨name, h⟩).1
  rw [classify_of_not_reserved hnot] at h
  obtain ⟨word, arguments, hwords, hnone, hname⟩ := Dispatch.ofWords_eq_unrecognized_iff.mp h
  have hword : IsWord word := isWord_of_mem (hwords ▸ List.mem_cons_self)
  exact ⟨word, arguments, hwords, hword, hnone, hname⟩

namespace Words

theorem isAscii_of_mem_separators : ∀ b ∈ separators, isAscii b = true :=
  List.all_eq_true.mp (by decide)

theorem separator_free_lossy {word : Bytes} (h : IsWord word) :
    ∀ b ∈ encode (lossy word), b ∉ separators := by
  intro b hb hseparator
  have hkept : b ∈ word.filter isAscii := by
    rw [← filter_isAscii_lossy]
    exact List.mem_filter.mpr ⟨hb, isAscii_of_mem_separators b hseparator⟩
  exact h.2 b (List.mem_filter.mp hkept).1 hseparator

theorem lossy_ne_empty {word : Bytes} (h : IsWord word) : lossy word ≠ "" := by
  intro hempty
  by_cases htext : IsUtf8 word
  · have hform := encode_lossy_of_isUtf8 htext
    rw [hempty] at hform
    exact h.1 hform.symm
  · have hreplaced := replacement_mem_lossy htext
    rw [hempty] at hreplaced
    cases hreplaced

end Words

theorem replacement_notMem_name (c : Command) : replacement ∉ c.name.toList := by
  cases c <;> decide

/-- No word but its own is read as the name of a command. -/
theorem lossy_ne_name {word : Bytes} {c : Command} (h : word ≠ c.bytes) : lossy word ≠ c.name := by
  intro hname
  by_cases htext : IsUtf8 word
  · apply h
    rw [← encode_lossy_of_isUtf8 htext, hname]
    rfl
  · exact replacement_notMem_name c (hname ▸ replacement_mem_lossy htext)

namespace Session

variable {ε : Type} [Environment ε]

/-- What is said of a name that is no command's. -/
def unrecognizedText (name : String) : String :=
  "command not recognized: " ++ name ++ "\n"

theorem unrecognizedText_injective {a b : String} (h : unrecognizedText a = unrecognizedText b) :
    a = b :=
  (String.append_right_inj _).mp ((String.append_left_inj _).mp h)

theorem count_newline_line {a b c : Bytes} (ha : newline ∉ a) (hb : newline ∉ b)
    (hc : c = [newline]) : (a ++ b ++ c).count newline = 1 := by
  rw [List.count_append, List.count_append, List.count_eq_zero_of_not_mem ha,
    List.count_eq_zero_of_not_mem hb, hc, List.count_singleton_self]

theorem count_newline_unrecognizedText {name : String} (h : newline ∉ encode name) :
    (encode (unrecognizedText name)).count newline = 1 := by
  unfold unrecognizedText
  rw [encode_append, encode_append]
  exact count_newline_line (by decide) h (by decide)

theorem step_of_unrecognized {line : Bytes} {name : String}
    (h : classify line = .unrecognized name) {w : World ε} (hw : w.console.Unlimited) :
    (step line).trace w = Trace.visible w.console.filter
        [.logged .dispatching, .wrote .err (encode (unrecognizedText name)),
          .wrote .out (encode hintText), .flushed .out] ∧
      (step line).result w = .ok .proceed := by
  obtain ⟨htrace, hresult⟩ := step_of_unlimited line hw
  rw [htrace, hresult, trace_stepCourse, stepResult, h]
  exact ⟨rfl, rfl⟩

/-- A line that names no command is harmless. The name that is reported for it is a text without
separators, the first word itself if that is a text and else one with a replacement character, but
never a command. Nothing is launched for the line, the session goes on, and on streams that refuse
nothing the error stream gets one line, which says of no command that it is not recognized. -/
theorem unrecognized_harmless {line : Bytes} {name : String}
    (h : classify line = .unrecognized name) :
    name ≠ "" ∧ decode? (encode name) = some name ∧ (∀ b ∈ encode name, b ∉ separators) ∧
      (∀ c : Command, name ≠ c.name) ∧
      (∃ word arguments, words line = word :: arguments ∧
        (IsUtf8 word → encode name = word) ∧
        (¬ IsUtf8 word → encode name ≠ word ∧ replacement ∈ name.toList)) ∧
      ∀ w : World ε, w.console.Unlimited →
        let written := ((step line).trace w).written .err
        (step line).result w = .ok .proceed ∧ ((step line).trace w).launches = [] ∧
          written = encode ("command not recognized: " ++ name ++ "\n") ∧
          written.count newline = 1 ∧
          ∀ c : Command, written ≠ encode ("command not recognized: " ++ c.name ++ "\n") := by
  obtain ⟨word, arguments, hwords, hword, hnone, rfl⟩ := exists_word_of_unrecognized h
  have hfree := separator_free_lossy hword
  have hline : newline ∉ encode (lossy word) := fun hmem => by
    have hseparator := hfree newline hmem
    revert hseparator
    decide
  refine ⟨lossy_ne_empty hword, ?_, hfree, fun c => lossy_ne_name (hnone c),
    ⟨word, arguments, hwords, encode_lossy_of_isUtf8, fun htext => ⟨fun hform => ?_, ?_⟩⟩,
    fun w hw => ?_⟩
  · rw [decode?, if_pos (by rw [lossy_encode]), lossy_encode]
  · exact htext ⟨_, hform⟩
  · exact replacement_mem_lossy htext
  · obtain ⟨htrace, hresult⟩ := step_of_unrecognized h hw
    have hwritten : ((step line).trace w).written .err =
        encode (unrecognizedText (lossy word)) := by
      rw [htrace, Trace.written_visible]
      exact List.append_nil _
    refine ⟨hresult, ?_, hwritten, ?_, fun c hsame => ?_⟩
    · rw [htrace, Trace.launches_visible]
      rfl
    · rw [hwritten, count_newline_unrecognizedText hline]
    · exact lossy_ne_name (hnone c) (unrecognizedText_injective
        (encode_injective (hwritten.symm.trans hsame)))

theorem unrecognized_of_truncated_form :
    let line : Bytes := encode "ls" ++ 0xE9 :: encode " -l"
    let w : World (Script × ChildTable) :=
      ⟨(⟨[.line line]⟩, ChildTable.standard), Console.fresh .off⟩
    classify line = .unrecognized "ls\uFFFD" ∧
      (step line).result w = .ok .proceed ∧ ((step line).trace w).launches = [] ∧
      ((step line).trace w).written .err = encode "command not recognized: ls\uFFFD\n" := by
  intro line w
  have hline : classify line = .unrecognized "ls\uFFFD" := by decide
  obtain ⟨hresult, hlaunches, hwritten, _⟩ :=
    (unrecognized_harmless hline).2.2.2.2.2 w (Console.unlimited_fresh .off)
  exact ⟨hline, hresult, hlaunches, hwritten⟩

end Session

end RestrictedShell
