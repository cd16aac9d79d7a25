import RestrictedShell.Proofs.Dispatch
import RestrictedShell.Proofs.Launch.ChildTable
import RestrictedShell.Proofs.Session.Run
import RestrictedShell.Proofs.Source.Segments

namespace RestrictedShell

namespace Session

/-- The launches that these lines ask for: the words of each line up to the one that ends the
session, if the first of them names a command. -/
def requests (lines : List Bytes) : List (List Bytes) :=
  ((lines.takeWhile fun line => line != Text.encode "termina").map words).filter
    fun argv => decide (Names argv)

theorem launches_stepCourse {σ κ : Type} [LineSource σ] [Launcher κ] (line : Bytes) (e : σ × κ) :
    (stepCourse line e).trace.launches = if Names (words line) then [words line] else [] := by
  have hopening : Trace.launches (.logged .dispatching :: (classify line).opening) = [] :=
    Trace.launches_of_free fun event hevent => by
      rcases List.mem_cons.mp hevent with rfl | hevent
      · rfl
      · exact ((classify line).opening_free event hevent).2.1
  rw [trace_stepCourse, Trace.launches_append, hopening, List.nil_append]
  cases hline : classify line with
  | external i =>
      have haftermath : (Launched.aftermath i (Environment.launch i e).1).launches = [] :=
        Trace.launches_of_free fun event hevent => (Launched.aftermath_free i _ event hevent).2
      rw [if_pos (names_words_iff.mpr ⟨i, hline⟩), ← argv_eq_words_of_classify hline]
      exact congrArg (i.argv :: ·) haftermath
  | _ =>
      rw [if_neg fun hnames => ?_]
      · rfl
      · obtain ⟨i, hi⟩ := names_words_iff.mp hnames
        rw [hline] at hi
        cases hi

theorem requests_cons {line : Bytes} (h : classify line ≠ .quit) (lines : List Bytes) :
    requests (line :: lines) =
      (if Names (words line) then [words line] else []) ++ requests lines := by
  have hne : (line != Text.encode "termina") = true :=
    bne_iff_ne.mpr fun hquit => h (classify_eq_quit_iff.mpr hquit)
  simp only [requests, List.takeWhile_cons, hne, if_true, List.map_cons, List.filter_cons,
    decide_eq_true_eq]
  split <;> rfl

theorem launches_askCourse {ε : Type} [Environment ε] (prompt : String) (e : ε) :
    (askCourse prompt e).trace.launches = [] := by
  unfold askCourse
  split <;> rfl

theorem Runs.launches {settings : Settings} {failures : UInt32} {e : PlainReader × ChildTable}
    {course : Course (PlainReader × ChildTable)} {result : Except IoError Ending}
    (h : Runs settings failures e course result) (hclean : PlainReader.Clean e.1.input)
    (hreliable : e.2.Reliable) :
    (∃ ending, result = .ok ending) ∧
      course.trace.launches =
        requests (PlainReader.segments (PlainReader.content e.1.input)) := by
  induction h with
  | @endOfInput failures e hread =>
      obtain ⟨hanswer, _⟩ := PlainReader.next_clean hclean
      rw [hread] at hanswer
      have hnone := PlainReader.eq_nil_of_answered hanswer.symm
      rw [hnone, Course.trace_append, Trace.launches_append, launches_askCourse, Course.trace_still]
      exact ⟨⟨.endOfInput, rfl⟩, rfl⟩
  | @quit failures e line hread hquit =>
      obtain ⟨hanswer, _⟩ := PlainReader.next_clean hclean
      rw [hread] at hanswer
      obtain ⟨lines, hlines⟩ := PlainReader.eq_cons_of_answered hanswer.symm
      rw [hlines, classify_eq_quit_iff.mp hquit, Course.trace_append, Trace.launches_append,
        launches_askCourse, Course.trace_still]
      refine ⟨⟨.quit, rfl⟩, ?_⟩
      simp [requests, Trace.launches, Event.argv?]
  | @broken failures e line error hread hstep =>
      exact absurd hstep (ChildTable.Reliable.stepResult_ne_error
        (e := (Environment.next e).2) hreliable line error)
  | @proceed failures e line course result hread hstep hrest ih =>
      obtain ⟨hanswer, hclean', hsegments⟩ := PlainReader.next_clean hclean
      rw [hread] at hanswer
      obtain ⟨lines, hlines⟩ := PlainReader.eq_cons_of_answered hanswer.symm
      have hline : classify line ≠ .quit := not_quit_of_proceed hstep
      rw [Course.fst_env_stepCourse, hsegments, hlines, List.tail_cons] at ih
      obtain ⟨hresult, hlaunches⟩ := ih hclean'
        (ChildTable.Reliable.env_stepCourse (e := (Environment.next e).2) hreliable line)
      refine ⟨hresult, ?_⟩
      rw [Course.trace_append, Trace.launches_append, launches_askCourse, List.nil_append,
        Course.trace_append, Trace.launches_append, launches_stepCourse, hlaunches, hlines,
        requests_cons hline]
  | @exhausted failures e error hread hlimit =>
      obtain ⟨hanswer, _⟩ := PlainReader.next_clean hclean
      rw [hread] at hanswer
      exact absurd hanswer.symm (PlainReader.answered_ne_failed _ error)
  | @retry failures e error course result hread hlimit hrest ih =>
      obtain ⟨hanswer, _⟩ := PlainReader.next_clean hclean
      rw [hread] at hanswer
      exact absurd hanswer.symm (PlainReader.answered_ne_failed _ error)

/-- However the input is cut into pieces, a session on streams that refuse nothing launches what its
lines ask for, one after another, whatever becomes of the children, as long as no wait fails. -/
theorem launches_eq_requests (settings : Settings) (r : PlainReader) (t : ChildTable)
    (c : Console) (hclean : PlainReader.Clean r.input) (ht : t.Reliable) (hc : c.Unlimited) :
    (∃ ending, (run settings).result ⟨(r, t), c⟩ = .ok ending) ∧
      ((run settings).trace ⟨(r, t), c⟩).launches =
        requests (PlainReader.segments (PlainReader.content r.input)) := by
  obtain ⟨course, result, stop, hruns, hseen, hresult, hfree⟩ :=
    exists_course settings (w := ⟨(r, t), c⟩) (.inr hc)
  obtain rfl := hfree hc
  obtain ⟨⟨ending, rfl⟩, hlaunches⟩ := hruns.launches hclean ht
  rw [Trace.curtailed_none_iff.mp hseen, Trace.launches_visible, hlaunches]
  exact ⟨⟨ending, hresult⟩, rfl⟩

theorem launches_of_interrupted_input :
    let interrupted : Chunk := .fail (.plain .interrupted)
    let input : List Chunk :=
      [.data (Text.encode "conta  a\r\nlis"), interrupted, .data [], .data (Text.encode "ta\nls\n"),
        interrupted, .data (Text.encode "termina\r\ncopia a b\n")]
    let t : ChildTable := ⟨fun _ => [.ok (.silent (.signaled 9))]⟩
    let w : World (PlainReader × ChildTable) := ⟨(⟨input, .out⟩, t), Console.fresh .off⟩
    PlainReader.Clean input ∧ t.Reliable ∧ w.console.Unlimited ∧
      (∃ ending, (run Settings.standard).result w = .ok ending) ∧
      ((run Settings.standard).trace w).launches =
        [[Text.encode "conta", Text.encode "a"], [Text.encode "lista"]] := by
  intro interrupted input t w
  have hclean : PlainReader.Clean input := by
    intro chunk hchunk
    simp only [input, List.mem_cons, List.not_mem_nil, or_false] at hchunk
    rcases hchunk with rfl | rfl | rfl | rfl | rfl | rfl
    · exact .inl ⟨_, rfl⟩
    · exact .inr ⟨_, rfl, rfl⟩
    · exact .inl ⟨_, rfl⟩
    · exact .inl ⟨_, rfl⟩
    · exact .inr ⟨_, rfl, rfl⟩
    · exact .inl ⟨_, rfl⟩
  have ht : t.Reliable := ChildTable.reliable_silent (.signaled 9)
  have hc : w.console.Unlimited := Console.unlimited_fresh .off
  obtain ⟨hresult, hlaunches⟩ :=
    launches_eq_requests Settings.standard ⟨input, .out⟩ t w.console hclean ht hc
  have hrequests : requests (PlainReader.segments (PlainReader.content input)) =
      [[Text.encode "conta", Text.encode "a"], [Text.encode "lista"]] := by
    decide
  exact ⟨hclean, ht, hc, hresult, hlaunches.trans hrequests⟩

end Session

end RestrictedShell
