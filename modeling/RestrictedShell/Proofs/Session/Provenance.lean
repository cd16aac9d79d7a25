import RestrictedShell.Launch.ChildTable
import RestrictedShell.Proofs.Dispatch
import RestrictedShell.Proofs.Launcher
import RestrictedShell.Proofs.Source.Script
import RestrictedShell.Proofs.Words

namespace RestrictedShell

namespace Session

variable {κ : Type} [Launcher κ]

/-- The launch of `argv` after the events `before` answers the line that was read last. -/
def Answers (readings : List Reading) (before : Trace) (argv : List Bytes) : Prop :=
  ∃ earlier prompt between line i,
    before = earlier ++ .asked prompt :: between ∧
      (∀ event ∈ between, event.isAsked = false ∧ event.isLaunched = false) ∧
      readings[earlier.countP Event.isAsked]? = some (.line line) ∧
      classify line = .external i ∧ argv = i.argv

theorem Answers.prepend {readings : List Reading} {before block : Trace} {argv : List Bytes}
    (h : Answers readings.tail before argv) (hblock : block.countP Event.isAsked = 1) :
    Answers readings (block ++ before) argv := by
  obtain ⟨earlier, prompt, between, line, i, rfl, hfree, hread, hline, hargv⟩ := h
  refine ⟨block ++ earlier, prompt, between, line, i, by simp, hfree, ?_, hline, hargv⟩
  rw [List.countP_append, hblock, Nat.add_comm, ← hread, List.getElem?_tail]

theorem answers_step {readings : List Reading} {line prompt : Bytes} {e : Script × κ}
    {before after : Trace} {argv : List Bytes} (hread : readings[0]? = some (.line line))
    (h : (stepCourse line e).trace = before ++ .launched argv :: after) :
    Answers readings (.asked prompt :: before) argv := by
  obtain ⟨i, hline, hargv, rfl, _⟩ := launched_in_step h
  refine ⟨[], prompt, _, line, i, rfl, ?_, hread, hline, hargv⟩
  simp [Event.isAsked, Event.isLaunched]

theorem Answers.later {readings : List Reading} {before turn : Trace} {prompt : Bytes}
    {argv : List Bytes} (h : Answers readings.tail before argv)
    (hturn : ∀ event ∈ turn, event.isAsked = false) :
    Answers readings (.asked prompt :: (turn ++ before)) argv := by
  have hcount : turn.countP Event.isAsked = 0 :=
    List.countP_eq_zero.mpr fun event hevent => by simp [hturn event hevent]
  have hblock : (Event.asked prompt :: turn).countP Event.isAsked = 1 := by
    rw [List.countP_cons, hcount]
    rfl
  exact h.prepend hblock

/-- Every launch in the course of a session with a script answers the line that was read last. -/
theorem Runs.answers {settings : Settings} {failures : UInt32} {e : Script × κ}
    {course : Course (Script × κ)} {result : Except IoError Ending}
    (h : Runs settings failures e course result) {before after : Trace} {argv : List Bytes}
    (hcourse : course.trace = before ++ .launched argv :: after) :
    Answers e.1.readings before argv := by
  induction h generalizing before after with
  | @endOfInput failures e hread =>
      rw [Script.trace_turn, Course.trace_still] at hcourse
      exact absurd hcourse (Trace.ne_split_of_free (p := Event.isLaunched)
        (by simp [Event.isLaunched]) rfl)
  | @quit failures e line hread hquit =>
      rw [Script.trace_turn, Course.trace_still] at hcourse
      exact absurd hcourse (Trace.ne_split_of_free (p := Event.isLaunched)
        (by simp [Event.isLaunched]) rfl)
  | @broken failures e line error hread hstep =>
      rw [Script.trace_turn] at hcourse
      obtain ⟨before', rfl, hrest⟩ := Trace.cons_split hcourse (by simp)
      rw [Script.next_eq] at hread
      exact answers_step (Script.getElem?_eq_of_reading hread) hrest
  | @proceed failures e line course result hread hstep hrest ih =>
      rw [Script.trace_turn, Course.trace_append] at hcourse
      obtain ⟨before', rfl, hrest⟩ := Trace.cons_split hcourse (by simp)
      rcases Trace.append_split hrest with ⟨rest, hstep, _⟩ | ⟨rest, rfl, hlater⟩
      · rw [Script.next_eq] at hread
        exact answers_step (Script.getElem?_eq_of_reading hread) hstep
      · have hih := ih hlater
        rw [Course.fst_env_stepCourse, Script.next_eq] at hih
        exact hih.later (asked_free_stepCourse line _)
  | @exhausted failures e error hread hlimit =>
      rw [Script.trace_turn, Course.trace_still] at hcourse
      exact absurd hcourse (Trace.ne_split_of_free (p := Event.isLaunched)
        (by simp [complaint, Event.isLaunched]) rfl)
  | @retry failures e error course result hread hlimit hrest ih =>
      rw [Script.trace_turn, Course.trace_append, Course.trace_still] at hcourse
      obtain ⟨before', rfl, hrest⟩ := Trace.cons_split hcourse (by simp)
      rcases Trace.append_split hrest with ⟨rest, hnone, _⟩ | ⟨rest, rfl, hlater⟩
      · exact absurd hnone (Trace.ne_split_of_free (p := Event.isLaunched)
          (by simp [complaint, Event.isLaunched]) rfl)
      · have hih := ih hlater
        rw [Script.next_eq] at hih
        exact hih.later (by simp [complaint, Event.isAsked])

theorem Answers.visible {readings : List Reading} {before : Trace} {argv : List Bytes}
    (h : Answers readings before argv) (filter : Log.Filter) :
    Answers readings (Trace.visible filter before) argv := by
  obtain ⟨earlier, prompt, between, line, i, rfl, hfree, hread, hline, hargv⟩ := h
  refine ⟨Trace.visible filter earlier, prompt, Trace.visible filter between, line, i, ?_, ?_, ?_,
    hline, hargv⟩
  · rw [Trace.visible_append, Trace.visible_cons]
    rfl
  · exact fun event hevent => hfree event (List.mem_of_mem_filter hevent)
  · rw [Trace.countP_visible filter (fun _ => rfl)]
    exact hread

/-- Whatever fails, every launch of a session with a script answers the line that was read last,
word for word. -/
theorem exists_line_of_launched (settings : Settings) (readings : List Reading) (launcher : κ)
    (console : Console) {before after : Trace} {argv : List Bytes}
    (h : (run settings).trace ⟨((⟨readings⟩ : Script), launcher), console⟩ =
      before ++ .launched argv :: after) :
    ∃ earlier prompt between line i,
      before = earlier ++ .asked prompt :: between ∧
        (∀ event ∈ between, event.isAsked = false ∧ event.isLaunched = false) ∧
        readings[earlier.countP Event.isAsked]? = some (.line line) ∧
        classify line = .external i ∧ argv = i.argv ∧ argv = words line ∧
        (∃ name ∈ Command.names, argv.head? = some (Text.encode name)) ∧
        ∀ word ∈ argv, word ≠ [] ∧ ∀ b ∈ word, b ∉ Words.separators := by
  obtain ⟨course, result, stop, hruns, hseen, _, _⟩ := exists_course settings
    (w := ⟨((⟨readings⟩ : Script), launcher), console⟩) (Script.heard console)
  rw [h] at hseen
  obtain ⟨before', event, after', hcourse, rfl, ⟨rfl, _⟩ | ⟨_, error, _, hcut⟩⟩ := hseen.split
  · obtain ⟨earlier, prompt, between, line, i, hbefore, hfree, hread, hline, rfl⟩ :=
      (hruns.answers hcourse).visible console.filter
    have hwords := argv_eq_words_of_classify hline
    refine ⟨earlier, prompt, between, line, i, hbefore, hfree, hread, hline, rfl, hwords, ?_, ?_⟩
    · exact ⟨i.command.name, i.command.name_mem_names, rfl⟩
    · rw [hwords]
      exact fun word hword => Words.isWord_of_mem hword
  · cases hcut

theorem exists_line_of_launched_after_failure :
    let readings := [.failed (.input (.plain .other)), .line (Text.encode "mostra  a")]
    let console := { Console.fresh .off with out := ⟨none, some 1⟩ }
    let before : Trace :=
      [.asked (Text.encode "% "), .wrote .err (Text.encode "error reading command\n"),
        .asked (Text.encode "% "), .flushed .out]
    let argv := [Text.encode "mostra", Text.encode "a"]
    let after : Trace :=
      [.waited "mostra", .wrote .err [], .wrote .out (Text.encode "mostra finished with code 0\n")]
    (run Settings.standard).trace ⟨((⟨readings⟩ : Script), ChildTable.standard), console⟩ =
        before ++ .launched argv :: after ∧
      ∃ earlier prompt between line i,
        before = earlier ++ .asked prompt :: between ∧
          (∀ event ∈ between, event.isAsked = false ∧ event.isLaunched = false) ∧
          readings[earlier.countP Event.isAsked]? = some (.line line) ∧
          classify line = .external i ∧ argv = i.argv ∧ argv = words line ∧
          (∃ name ∈ Command.names, argv.head? = some (Text.encode name)) ∧
          ∀ word ∈ argv, word ≠ [] ∧ ∀ b ∈ word, b ∉ Words.separators := by
  intro readings console before argv after
  have htrace : (run Settings.standard).trace
      ⟨((⟨readings⟩ : Script), ChildTable.standard), console⟩ =
        before ++ .launched argv :: after := by
    unfold Action.trace Action.worldAfter run
    rw [runFrom_of_again (by rfl), runFrom_of_done (by rfl)]
    rfl
  exact ⟨htrace, exists_line_of_launched Settings.standard readings _ console htrace⟩

end Session

end RestrictedShell
