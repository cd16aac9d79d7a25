import RestrictedShell.Proofs.Report
import RestrictedShell.Proofs.Session.Advance
import RestrictedShell.Proofs.Session.Failures

namespace RestrictedShell

/-- The report on a launch of this command, if its child exits. -/
def Launched.block? (command : Command) (l : Launched) : Option Block :=
  match l.result with
  | .ok child =>
      match child.ending with
      | .ok (.exited code) => some (.completion command code)
      | _ => none
  | .error _ => none

namespace Dispatch

variable {κ : Type} [Launcher κ]

/-- What a line brings forth on the standard output. -/
def block? (k : κ) : Dispatch → Option Block
  | .quit | .blank => none
  | .help => some .help
  | .unrecognized _ => some .hint
  | .external i => (Launcher.launch i k).1.block? i.command

/-- The launcher behind a line. -/
def launcher (k : κ) : Dispatch → κ
  | .external i => (Launcher.launch i k).2
  | _ => k

/-- What these lines bring forth, one after another. -/
def blocks : κ → List Bytes → List Block
  | _, [] => []
  | k, line :: lines =>
      ((classify line).block? k).toList ++ blocks ((classify line).launcher k) lines

end Dispatch

theorem Launched.written_out_aftermath (i : Invocation) (l : Launched) :
    Trace.written .out (l.aftermath i) = (l.block? i.command).toList.flatMap Block.bytes := by
  have hattending : Trace.written .out (l.attending i) = [] := by
    apply List.flatMap_eq_nil_iff.mpr
    intro event hevent
    rcases of_mem_attending hevent with
      ⟨entry, _, rfl⟩ | ⟨s, bytes, rfl⟩ | ⟨child, _, rfl | rfl | rfl⟩ <;> rfl
  rw [aftermath, Trace.written_append, hattending, List.nil_append]
  obtain ⟨log, error | ⟨output, remark, settled, error | outcome⟩⟩ := l
  · rfl
  · rfl
  · cases outcome with
    | exited code =>
        simp [conclusion, Outcome.reported, block?, Trace.written, Block.bytes_completion]
    | _ => rfl

namespace Session

variable {κ : Type} [Launcher κ]

theorem written_out_stepCourse (line : Bytes) (e : Script × κ) :
    (stepCourse line e).trace.written .out =
      ((classify line).block? e.2).toList.flatMap Block.bytes := by
  rw [trace_stepCourse]
  cases classify line with
  | quit => rfl
  | blank => rfl
  | help => simp [Dispatch.opening, Dispatch.block?, Trace.written, Block.bytes_help]
  | unrecognized name =>
      simp [Dispatch.opening, Dispatch.block?, Trace.written, Block.bytes_hint]
  | external i =>
      have hsplit : Event.logged .dispatching :: (Dispatch.external i).opening ++
          (.launched i.argv :: (Environment.launch i e).1.aftermath i) =
            [.logged .dispatching, .flushed .out, .launched i.argv] ++
              (Environment.launch i e).1.aftermath i := rfl
      rw [hsplit, Trace.written_append, Launched.written_out_aftermath]
      rfl

theorem snd_env_stepCourse (line : Bytes) (e : Script × κ) :
    ((stepCourse line e).env e).2 = (classify line).launcher e.2 := by
  unfold stepCourse respondCourse
  rw [Course.env_append, Course.env_still, Course.env_append, Course.env_still]
  cases classify line with
  | external i =>
      simp only [launchCourse, Course.env_still_cons]
      rfl
  | _ => rfl

/-- The lines among the readings that a session with this trace has asked for. -/
def linesRead (s : Script) (trace : Trace) : List Bytes :=
  (LineSource.readings (trace.countP Event.isAsked) s).filterMap Reading.line?

theorem linesRead_turn {s : Script} {prompt : Bytes} {block rest : Trace} {reading : Reading}
    (hread : s.reading 0 = reading) (hfree : ∀ event ∈ block, event.isAsked = false) :
    linesRead s (.asked prompt :: (block ++ rest)) =
      reading.line?.toList ++ linesRead ⟨s.readings.tail⟩ rest := by
  have hnone : block.countP Event.isAsked = 0 :=
    List.countP_eq_zero.mpr fun event hevent => by simp [hfree event hevent]
  have hnext : LineSource.next s = (s.reading 0, ⟨s.readings.tail⟩) := by
    obtain ⟨_ | ⟨first, readings⟩⟩ := s <;> rfl
  rw [linesRead, List.countP_cons_of_pos rfl, List.countP_append, hnone, Nat.zero_add,
    LineSource.readings, hnext, hread, List.filterMap_cons]
  cases reading.line? <;> rfl

theorem linesRead_last {s : Script} {prompt : Bytes} {block : Trace} {reading : Reading}
    (hread : s.reading 0 = reading) (hfree : ∀ event ∈ block, event.isAsked = false) :
    linesRead s (.asked prompt :: block) = reading.line?.toList := by
  have hturn : linesRead s (.asked prompt :: (block ++ [])) =
      reading.line?.toList ++ linesRead ⟨s.readings.tail⟩ [] := linesRead_turn hread hfree
  rw [List.append_nil] at hturn
  exact hturn.trans (List.append_nil _)

theorem written_asked (prompt : Bytes) (rest : Trace) :
    Trace.written .out (.asked prompt :: rest) = Trace.written .out rest := rfl

theorem blocks_singleton (k : κ) (line : Bytes) :
    Dispatch.blocks k [line] = ((classify line).block? k).toList :=
  List.append_nil _

/-- A course writes the blocks of the lines that are read in it. -/
theorem Runs.written_out {settings : Settings} {failures : UInt32} {e : Script × κ}
    {course : Course (Script × κ)} {result : Except IoError Ending}
    (h : Runs settings failures e course result) :
    course.trace.written .out =
      (Dispatch.blocks e.2 (linesRead e.1 course.trace)).flatMap Block.bytes := by
  induction h with
  | @endOfInput failures e hread =>
      rw [Script.reading_next] at hread
      rw [Script.trace_turn, Course.trace_still, linesRead_last hread (by simp [Event.isAsked])]
      rfl
  | @quit failures e line hread hquit =>
      rw [Script.reading_next] at hread
      have hlines : (Reading.line line).line?.toList = [line] := rfl
      rw [Script.trace_turn, Course.trace_still, linesRead_last hread (by simp [Event.isAsked]),
        hlines, blocks_singleton, hquit]
      rfl
  | @broken failures e line error hread hstep =>
      rw [Script.reading_next] at hread
      have hlines : (Reading.line line).line?.toList = [line] := rfl
      rw [Script.trace_turn, linesRead_last hread (asked_free_stepCourse line _), hlines,
        blocks_singleton, written_asked, written_out_stepCourse]
      rfl
  | @proceed failures e line course result hread hstep hrest ih =>
      rw [Script.reading_next] at hread
      rw [Course.fst_env_stepCourse, Script.fst_next, snd_env_stepCourse] at ih
      rw [Script.trace_turn, Course.trace_append,
        linesRead_turn hread (asked_free_stepCourse line _), written_asked, Trace.written_append,
        written_out_stepCourse, ih, ← List.flatMap_append]
      rfl
  | @exhausted failures e error hread hlimit =>
      rw [Script.reading_next] at hread
      rw [Script.trace_turn, Course.trace_still,
        linesRead_last hread (by simp [complaint, Event.isAsked])]
      rfl
  | @retry failures e error course result hread hlimit hrest ih =>
      rw [Script.reading_next] at hread
      rw [Script.fst_next] at ih
      rw [Script.trace_turn, Course.trace_append, Course.trace_still,
        linesRead_turn hread (by simp [complaint, Event.isAsked]), written_asked,
        Trace.written_append, ih]
      rfl

theorem linesRead_visible (s : Script) (filter : Log.Filter) (trace : Trace) :
    linesRead s (trace.visible filter) = linesRead s trace := by
  rw [linesRead, linesRead, Trace.countP_visible filter fun _ => rfl]

theorem written_out_run (settings : Settings) (s : Script) (k : κ) {c : Console}
    (hc : c.Unlimited) :
    ((run settings).trace ⟨(s, k), c⟩).written .out =
      (Dispatch.blocks k (linesRead s ((run settings).trace ⟨(s, k), c⟩))).flatMap
        Block.bytes := by
  obtain ⟨course, result, hruns⟩ := exists_runs settings 0 (s, k)
  rw [(run_of_runs hruns hc).1, Trace.written_visible, linesRead_visible]
  exact hruns.written_out

/-- What a session writes on its standard output, on streams that refuse nothing. Nothing but the
kind of a line and the way in which its child exits has an influence on it, and it tells the whole
row of blocks: another session that writes the same has said the same, to the last report. -/
theorem written_out_eq_blocks {κ' : Type} [Launcher κ'] (settings settings' : Settings)
    (s s' : Script) (k : κ) (k' : κ') {c c' : Console} (hc : c.Unlimited) (hc' : c'.Unlimited) :
    let trace := (run settings).trace ⟨(s, k), c⟩
    let trace' := (run settings').trace ⟨(s', k'), c'⟩
    let blocks := Dispatch.blocks k (linesRead s trace)
    let blocks' := Dispatch.blocks k' (linesRead s' trace')
    trace.written .out = blocks.flatMap Block.bytes ∧
      (trace'.written .out = trace.written .out → blocks' = blocks) := by
  intro trace trace' blocks blocks'
  have hwritten : trace.written .out = blocks.flatMap Block.bytes := written_out_run settings s k hc
  have hwritten' : trace'.written .out = blocks'.flatMap Block.bytes :=
    written_out_run settings' s' k' hc'
  refine ⟨hwritten, fun hsame => ?_⟩
  apply Block.flatMap_bytes_injective
  rw [← hwritten', ← hwritten, hsame]

/-- A session of commands that all exit with code 0. -/
def clerk (readings : List Reading) : World (Script × ChildTable) :=
  ⟨(⟨readings⟩, ChildTable.standard), Console.fresh .off⟩

/-- A line that runs a command and one that names none. -/
def plain : List Reading :=
  [.line (Text.encode "lista x"), .line (Text.encode "ls")]

/-- The same after a failed read, with other arguments, another name and a blank line. -/
def varied : List Reading :=
  [.failed (.input (.plain .other)), .line (Text.encode "lista"), .line [],
    .line (Text.encode "mostrar finished")]

theorem countP_asked_plain :
    ((run Settings.standard).trace (clerk plain)).countP Event.isAsked = 3 := by
  unfold Action.trace Action.worldAfter run
  rw [runFrom_of_again (by rfl), runFrom_of_again (by rfl), runFrom_of_done (by rfl)]
  rfl

theorem countP_asked_varied :
    ((run Settings.standard).trace (clerk varied)).countP Event.isAsked = 5 := by
  unfold Action.trace Action.worldAfter run
  rw [runFrom_of_again (by rfl), runFrom_of_again (by rfl), runFrom_of_again (by rfl),
    runFrom_of_again (by rfl), runFrom_of_done (by rfl)]
  rfl

theorem blocks_plain_and_varied :
    Dispatch.blocks ChildTable.standard
        (linesRead ⟨plain⟩ ((run Settings.standard).trace (clerk plain))) =
          [.completion .lista 0, .hint] ∧
      Dispatch.blocks ChildTable.standard
        (linesRead ⟨varied⟩ ((run Settings.standard).trace (clerk varied))) =
          [.completion .lista 0, .hint] := by
  rw [linesRead, linesRead, countP_asked_plain, countP_asked_varied]
  decide

theorem written_out_of_varied :
    (Console.fresh .off).Unlimited ∧
      ((run Settings.standard).trace (clerk plain)).written .out =
        [Block.completion .lista 0, .hint].flatMap Block.bytes ∧
      ((run Settings.standard).trace (clerk varied)).written .out =
        ((run Settings.standard).trace (clerk plain)).written .out ∧
      Dispatch.blocks ChildTable.standard
          (linesRead ⟨varied⟩ ((run Settings.standard).trace (clerk varied))) =
        Dispatch.blocks ChildTable.standard
          (linesRead ⟨plain⟩ ((run Settings.standard).trace (clerk plain))) := by
  have hfree := Console.unlimited_fresh .off
  obtain ⟨hplain, htold⟩ := written_out_eq_blocks Settings.standard Settings.standard ⟨plain⟩
    ⟨varied⟩ ChildTable.standard ChildTable.standard hfree hfree
  obtain ⟨hvaried, _⟩ := written_out_eq_blocks Settings.standard Settings.standard ⟨varied⟩
    ⟨plain⟩ ChildTable.standard ChildTable.standard hfree hfree
  obtain ⟨hsaid, hsaid'⟩ := blocks_plain_and_varied
  have hshown : ((run Settings.standard).trace (clerk plain)).written .out =
      [Block.completion .lista 0, .hint].flatMap Block.bytes :=
    hplain.trans (congrArg (List.flatMap Block.bytes) hsaid)
  have hsame : ((run Settings.standard).trace (clerk varied)).written .out =
      ((run Settings.standard).trace (clerk plain)).written .out :=
    (hvaried.trans (congrArg (List.flatMap Block.bytes) hsaid')).trans hshown.symm
  exact ⟨hfree, hshown, hsame, htold hsame⟩

end Session

end RestrictedShell
