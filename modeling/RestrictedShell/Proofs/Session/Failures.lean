import RestrictedShell.Proofs.Session.Stepwise
import RestrictedShell.Proofs.Session.Stopping

namespace RestrictedShell

namespace Event

/-- A launch, a wait, or something that happens on the standard output. -/
def isAct : Event → Bool
  | .launched _ | .waited _ | .wrote .out _ | .flushed .out | .childWrote .. => true
  | _ => false

end Event

namespace Script

/-- The script without those of its first `n` readings that fail. -/
def spared (s : Script) (n : Nat) : Script :=
  ⟨(s.readings.take n).filter (fun reading => !reading.isFailed) ++ s.readings.drop n⟩

theorem spared_succ_of_failed {s : Script} (h : (s.reading 0).isFailed = true) (n : Nat) :
    s.spared (n + 1) = (⟨s.readings.tail⟩ : Script).spared n := by
  obtain ⟨_ | ⟨reading, rest⟩⟩ := s
  · cases h
  · have hfailed : reading.isFailed = true := h
    simp [spared, hfailed]

theorem spared_succ_of_not_failed {s : Script} (h : (s.reading 0).isFailed = false) (n : Nat) :
    (s.spared (n + 1)).reading 0 = s.reading 0 ∧
      (⟨(s.spared (n + 1)).readings.tail⟩ : Script) = (⟨s.readings.tail⟩ : Script).spared n := by
  obtain ⟨_ | ⟨reading, rest⟩⟩ := s
  · exact ⟨rfl, by simp [spared]⟩
  · have hkept : reading.isFailed = false := h
    simp [spared, Script.reading, hkept]

theorem next_spared {κ : Type} [Launcher κ] {e : Script × κ} {reading : Reading}
    (hread : (Environment.next e).1 = reading) (h : reading.isFailed = false) (n : Nat) :
    (Environment.next (e.1.spared (n + 1), e.2)).1 = reading ∧
      (Environment.next (e.1.spared (n + 1), e.2)).2 =
        ((Environment.next e).2.1.spared n, e.2) := by
  rw [reading_next] at hread
  obtain ⟨hsame, htail⟩ := spared_succ_of_not_failed (s := e.1) (by rw [hread]; exact h) n
  rw [next_eq, next_eq, ← htail]
  exact ⟨hsame.trans hread, rfl⟩

end Script

namespace Trace

/-- What is left of a trace if only launches, waits and the standard output matter. -/
def acts (trace : Trace) : Trace :=
  trace.filter Event.isAct

theorem acts_append (a b : Trace) : acts (a ++ b) = acts a ++ acts b :=
  List.filter_append a b

theorem acts_deeds (trace : Trace) : acts (deeds trace) = acts trace := by
  rw [acts, deeds, List.filter_filter, acts]
  refine List.filter_congr fun event _ => ?_
  cases event <;> simp [Event.isAct]

theorem written_deeds (s : Stream) (trace : Trace) : written s (deeds trace) = written s trace := by
  induction trace with
  | nil => rfl
  | cons event trace ih =>
      have hsplit : deeds (event :: trace) = deeds [event] ++ deeds trace :=
        List.filter_append [event] trace
      have hfirst : written s (deeds [event]) = written s [event] := by cases event <;> rfl
      rw [hsplit, written_append, hfirst, ih, ← written_append, List.singleton_append]

/-- The trace of these turns: before each of them, a line is asked for. -/
def asking (prompt : Bytes) (turns : List (Reading × Trace)) : Trace :=
  turns.flatMap fun turn => .asked prompt :: turn.2

theorem asking_cons (prompt : Bytes) (turn : Reading × Trace) (turns : List (Reading × Trace)) :
    asking prompt (turn :: turns) = .asked prompt :: (turn.2 ++ asking prompt turns) := rfl

theorem visible_asking (filter : Log.Filter) (prompt : Bytes) (turns : List (Reading × Trace)) :
    visible filter (asking prompt turns) =
      asking prompt (turns.map (Prod.map id (visible filter))) := by
  rw [asking, visible, List.filter_flatMap, asking, List.flatMap_map]
  rfl

theorem written_asking (s : Stream) (prompt : Bytes) (turns : List (Reading × Trace)) :
    written s (asking prompt turns) = turns.flatMap fun turn => written s turn.2 := by
  induction turns with
  | nil => rfl
  | cons turn turns ih =>
      rw [asking_cons, ← List.singleton_append, written_append, written_append, ih]
      rfl

theorem acts_asking (prompt : Bytes) (turns : List (Reading × Trace)) :
    acts (asking prompt turns) = turns.flatMap fun turn => acts turn.2 := by
  induction turns with
  | nil => rfl
  | cons turn turns ih =>
      rw [asking_cons, ← List.singleton_append, acts_append, acts_append, ih]
      rfl

end Trace

namespace Session

/-- `Spares prompt s turns whole spared`: the turns of a session that reads the script, one for each
of its requests, make up the trace `whole`, and those that do not begin with a failed read make up
the trace `spared`. Of a failed read nothing comes but the complaint about it. -/
structure Spares (prompt : Bytes) (s : Script) (turns : List (Reading × Trace))
    (whole spared : Trace) : Prop where
  whole_eq : whole = Trace.asking prompt turns
  spared_eq : spared = Trace.asking prompt (turns.filter fun turn => !turn.1.isFailed)
  readings : turns.map Prod.fst = (List.range turns.length).map s.reading
  asked_free : ∀ turn ∈ turns, ∀ event ∈ turn.2, event.isAsked = false
  failed : ∀ turn ∈ turns, turn.1.isFailed = true → turn.2.deeds = [readComplaint]

namespace Spares

variable {prompt : Bytes} {s : Script} {turns : List (Reading × Trace)} {whole spared : Trace}

theorem last {reading : Reading} {block : Trace} (hread : s.reading 0 = reading)
    (h : reading.isFailed = false) (hfree : ∀ event ∈ block, event.isAsked = false) :
    Spares prompt s [(reading, block)] (.asked prompt :: block) (.asked prompt :: block) where
  whole_eq := by simp [Trace.asking]
  spared_eq := by simp [Trace.asking, h]
  readings := by simp [hread]
  asked_free := by simpa using hfree
  failed := by simp [h]

theorem readings_cons {reading : Reading} {block : Trace} (hread : s.reading 0 = reading)
    (h : turns.map Prod.fst =
      (List.range turns.length).map (⟨s.readings.tail⟩ : Script).reading) :
    ((reading, block) :: turns).map Prod.fst =
      (List.range ((reading, block) :: turns).length).map s.reading := by
  rw [List.map_cons, h, List.length_cons, List.range_succ_eq_map, List.map_cons, List.map_map,
    hread]
  refine congrArg (reading :: ·) (List.map_congr_left fun k _ => ?_)
  exact (s.reading_succ k).symm

theorem kept {reading : Reading} {block : Trace}
    (h : Spares prompt ⟨s.readings.tail⟩ turns whole spared) (hread : s.reading 0 = reading)
    (hkept : reading.isFailed = false) (hfree : ∀ event ∈ block, event.isAsked = false) :
    Spares prompt s ((reading, block) :: turns) (.asked prompt :: (block ++ whole))
      (.asked prompt :: (block ++ spared)) where
  whole_eq := by rw [Trace.asking_cons, ← h.whole_eq]
  spared_eq := by
    rw [List.filter_cons_of_pos (by simpa using hkept), Trace.asking_cons, ← h.spared_eq]
  readings := readings_cons hread h.readings
  asked_free := List.forall_mem_cons.mpr ⟨hfree, h.asked_free⟩
  failed := List.forall_mem_cons.mpr ⟨by simp [hkept], h.failed⟩

theorem dropped {reading : Reading} {block : Trace}
    (h : Spares prompt ⟨s.readings.tail⟩ turns whole spared) (hread : s.reading 0 = reading)
    (hfailed : reading.isFailed = true) (hfree : ∀ event ∈ block, event.isAsked = false)
    (hdeeds : block.deeds = [readComplaint]) :
    Spares prompt s ((reading, block) :: turns) (.asked prompt :: (block ++ whole)) spared where
  whole_eq := by rw [Trace.asking_cons, ← h.whole_eq]
  spared_eq := by rw [List.filter_cons_of_neg (by simpa using hfailed), ← h.spared_eq]
  readings := readings_cons hread h.readings
  asked_free := List.forall_mem_cons.mpr ⟨hfree, h.asked_free⟩
  failed := List.forall_mem_cons.mpr ⟨fun _ => hdeeds, h.failed⟩

theorem visible (h : Spares prompt s turns whole spared) (filter : Log.Filter) :
    Spares prompt s (turns.map (Prod.map id (Trace.visible filter)))
      (whole.visible filter) (spared.visible filter) where
  whole_eq := by rw [h.whole_eq, Trace.visible_asking]
  spared_eq := by
    rw [h.spared_eq, Trace.visible_asking, List.filter_map]
    rfl
  readings := by
    rw [List.length_map, ← h.readings, List.map_map]
    rfl
  asked_free turn hturn event hevent := by
    obtain ⟨turn', hturn', rfl⟩ := List.mem_map.mp hturn
    exact h.asked_free turn' hturn' event (List.mem_of_mem_filter hevent)
  failed turn hturn hfailed := by
    obtain ⟨turn', hturn', rfl⟩ := List.mem_map.mp hturn
    exact (Trace.deeds_visible filter _).trans (h.failed turn' hturn' hfailed)

theorem countP_asked (h : Spares prompt s turns whole spared) :
    whole.countP Event.isAsked = turns.length := by
  rw [h.whole_eq, Trace.asking, List.countP_flatMap]
  have hone : ∀ turn ∈ turns,
      (List.countP Event.isAsked ∘ fun turn : Reading × Trace => .asked prompt :: turn.2) turn =
        1 := by
    intro turn hturn
    have hnone : turn.2.countP Event.isAsked = 0 :=
      List.countP_eq_zero.mpr fun event hevent => by simp [h.asked_free turn hturn event hevent]
    simp [List.countP_cons, hnone, Event.isAsked]
  rw [List.map_congr_left hone, List.map_const', List.sum_replicate_nat, Nat.mul_one]

theorem acts_eq (h : Spares prompt s turns whole spared) : spared.acts = whole.acts := by
  rw [h.spared_eq, h.whole_eq, Trace.acts_asking, Trace.acts_asking]
  have hfailed := h.failed
  clear h
  induction turns with
  | nil => rfl
  | cons turn turns ih =>
      have hrest := ih fun turn hturn => hfailed turn (List.mem_cons_of_mem _ hturn)
      cases hread : turn.1.isFailed with
      | false =>
          rw [List.filter_cons_of_pos (by simpa using hread), List.flatMap_cons, hrest,
            List.flatMap_cons]
      | true =>
          have hnone : turn.2.acts = [] := by
            rw [← Trace.acts_deeds, hfailed turn List.mem_cons_self hread]
            rfl
          rw [List.filter_cons_of_neg (by simpa using hread), hrest, List.flatMap_cons, hnone,
            List.nil_append]

theorem written_err (h : Spares prompt s turns whole spared) :
    whole.written .err = (turns.flatMap fun turn =>
        if turn.1.isFailed then Text.encode "error reading command\n" else turn.2.written .err) ∧
      spared.written .err =
        (turns.filter fun turn => !turn.1.isFailed).flatMap fun turn => turn.2.written .err := by
  rw [h.whole_eq, h.spared_eq, Trace.written_asking, Trace.written_asking]
  refine ⟨List.flatMap_congr fun turn hturn => ?_, rfl⟩
  split
  · rename_i hread
    rw [← Trace.written_deeds, h.failed turn hturn hread]
    rfl
  · rfl

end Spares

section

variable {κ : Type} [Launcher κ]

theorem Runs.exists_row {settings : Settings} {failures : UInt32} {e : Script × κ}
    {course : Course (Script × κ)} {result : Except IoError Ending}
    (h : Runs settings failures e course result) (hresult : result = .ok .readFailures)
    (hfailures : failures.toNat < max 1 settings.maxReadFailures.toNat) :
    ∃ k < course.trace.countP Event.isAsked,
      e.1.row failures.toNat k = max 1 settings.maxReadFailures.toNat := by
  induction h with
  | endOfInput => cases hresult
  | quit => cases hresult
  | broken => cases hresult
  | @proceed failures e line course result hread hstep hrest ih =>
      obtain ⟨k, hk, hrow⟩ := ih hresult (Nat.lt_of_lt_of_le Nat.zero_lt_one (Nat.le_max_left _ _))
      rw [Script.reading_next] at hread
      have hzero : e.1.row failures.toNat 0 = 0 := by simp [Script.row, hread, Reading.isFailed]
      rw [Course.fst_env_stepCourse, Script.fst_next, UInt32.toNat_zero, ← hzero,
        ← Script.row_succ] at hrow
      refine ⟨k + 1, ?_, hrow⟩
      rw [Script.trace_turn, Course.trace_append, List.countP_cons_of_pos rfl, List.countP_append]
      omega
  | @exhausted failures e error hread hlimit =>
      rw [Script.reading_next] at hread
      rw [UInt32.le_iff_toNat_le, toNat_succ hfailures] at hlimit
      have hzero : e.1.row failures.toNat 0 = failures.toNat + 1 := by
        simp [Script.row, hread, Reading.isFailed]
      rw [Script.trace_turn, List.countP_cons_of_pos rfl]
      exact ⟨0, by omega, by omega⟩
  | @retry failures e error course result hread hlimit hrest ih =>
      rw [UInt32.le_iff_toNat_le, toNat_succ hfailures] at hlimit
      obtain ⟨k, hk, hrow⟩ := ih hresult (by
        rw [toNat_succ hfailures]
        omega)
      rw [Script.reading_next] at hread
      have hzero : e.1.row failures.toNat 0 = failures.toNat + 1 := by
        simp [Script.row, hread, Reading.isFailed]
      rw [toNat_succ hfailures, ← hzero, Script.fst_next, ← Script.row_succ] at hrow
      refine ⟨k + 1, ?_, hrow⟩
      rw [Script.trace_turn, Course.trace_append, List.countP_cons_of_pos rfl, List.countP_append]
      omega

theorem env_stepCourse_eq (line : Bytes) (e : Script × κ) :
    (stepCourse line e).env e = (e.1, Launcher.following e.2 (stepCourse line e).trace) :=
  Prod.ext (Course.fst_env_stepCourse line e) (Course.tracks_stepCourse line e).env_eq

/-- For a session that does not give up, there is one without its failed reads, whatever its count
of failures begins with. -/
theorem Runs.spares {settings : Settings} {failures : UInt32} {e : Script × κ}
    {course : Course (Script × κ)} {result : Except IoError Ending}
    (h : Runs settings failures e course result) (hresult : result ≠ .ok .readFailures)
    (failures' : UInt32) :
    ∃ turns course', Runs settings failures' (e.1.spared turns.length, e.2) course' result ∧
      Spares (Text.encode settings.prompt) e.1 turns course.trace course'.trace := by
  induction h generalizing failures' with
  | @endOfInput failures e hread =>
      obtain ⟨hread', _⟩ := Script.next_spared hread rfl 0
      refine ⟨[(.endOfInput, [.logged .endOfInput])], _, .endOfInput hread', ?_⟩
      rw [Script.trace_turn, Script.trace_turn, Course.trace_still, Course.trace_still]
      exact .last ((Script.reading_next e).symm.trans hread) rfl (by simp [Event.isAsked])
  | @quit failures e line hread hquit =>
      obtain ⟨hread', _⟩ := Script.next_spared hread rfl 0
      refine ⟨[(.line line, [.logged .dispatching, .logged .quitRequested])], _,
        .quit hread' hquit, ?_⟩
      rw [Script.trace_turn, Script.trace_turn, Course.trace_still, Course.trace_still]
      exact .last ((Script.reading_next e).symm.trans hread) rfl (by simp [Event.isAsked])
  | @broken failures e line error hread hstep =>
      obtain ⟨hread', _⟩ := Script.next_spared hread rfl 0
      have hlauncher : (Environment.next e).2.2 =
          (Environment.next (e.1.spared (0 + 1), e.2)).2.2 := rfl
      obtain ⟨htrace, hend⟩ := stepCourse_congr line hlauncher
      refine ⟨[(.line line, (stepCourse line (Environment.next e).2).trace)], _,
        .broken hread' (hend.symm.trans hstep), ?_⟩
      rw [Script.trace_turn, Script.trace_turn, List.length_singleton, ← Nat.zero_add 1, ← htrace]
      exact .last ((Script.reading_next e).symm.trans hread) rfl (asked_free_stepCourse line _)
  | @proceed failures e line course result hread hstep hrest ih =>
      obtain ⟨turns, course', hruns, hspares⟩ := ih hresult 0
      obtain ⟨hread', hnext⟩ := Script.next_spared hread rfl turns.length
      have hlauncher : (Environment.next e).2.2 =
          (Environment.next (e.1.spared (turns.length + 1), e.2)).2.2 := rfl
      obtain ⟨htrace, hend⟩ := stepCourse_congr line hlauncher
      have hrest' : Runs settings 0
          ((stepCourse line (Environment.next (e.1.spared (turns.length + 1), e.2)).2).env
            (Environment.next (e.1.spared (turns.length + 1), e.2)).2) course' result := by
        rw [env_stepCourse_eq] at hruns ⊢
        rw [← htrace, hnext]
        exact hruns
      refine ⟨(.line line, (stepCourse line (Environment.next e).2).trace) :: turns, _,
        .proceed hread' (hend.symm.trans hstep) hrest', ?_⟩
      rw [Script.trace_turn, Script.trace_turn, Course.trace_append, Course.trace_append,
        List.length_cons, ← htrace]
      rw [Course.fst_env_stepCourse, Script.fst_next] at hspares
      exact hspares.kept ((Script.reading_next e).symm.trans hread) rfl
        (asked_free_stepCourse line _)
  | exhausted => exact absurd rfl hresult
  | @retry failures e error course result hread hlimit hrest ih =>
      obtain ⟨turns, course', hruns, hspares⟩ := ih hresult failures'
      have hfailed := (Script.reading_next e).symm.trans hread
      rw [Script.next_eq] at hruns hspares
      refine ⟨(.failed error, complaint error (failures + 1)) :: turns, course', ?_, ?_⟩
      · rw [List.length_cons, Script.spared_succ_of_failed (by rw [hfailed]; rfl)]
        exact hruns
      · rw [Script.trace_turn, Course.trace_append, Course.trace_still]
        exact hspares.dropped hfailed rfl (by simp [complaint, Event.isAsked]) rfl

theorem run_of_runs {settings : Settings} {e : Script × κ} {course : Course (Script × κ)}
    {result : Except IoError Ending} (h : Runs settings 0 e course result) {c : Console}
    (hc : c.Unlimited) :
    (run settings).trace ⟨e, c⟩ = course.trace.visible c.filter ∧
      (run settings).result ⟨e, c⟩ = result := by
  obtain ⟨hworld, hend⟩ := Action.ended_of_takes (a := run settings)
    (h.runFrom_eq (Script.heard c)) (Console.takes_of_unlimited hc _)
  exact ⟨Action.trace_of_worldAfter (by rw [hworld]), hend⟩

/-- A session on streams that refuse nothing, in which no row of failed reads is as long as the
settings allow, does the same without the failed reads, in the same order and with the same end. On
the error stream one complaint is missing for each of them, where it stood. -/
theorem run_spared (settings : Settings) (s : Script) (k : κ) (c : Console) (hc : c.Unlimited)
    (hrow : ∀ j < ((run settings).trace ⟨(s, k), c⟩).countP Event.isAsked,
      s.row 0 j < max 1 settings.maxReadFailures.toNat) :
    let whole := (run settings).trace ⟨(s, k), c⟩
    let rest : World (Script × κ) := ⟨(s.spared (whole.countP Event.isAsked), k), c⟩
    let spared := (run settings).trace rest
    (run settings).result rest = (run settings).result ⟨(s, k), c⟩ ∧ spared.acts = whole.acts ∧
      ∃ turns, Spares (Text.encode settings.prompt) s turns whole spared ∧
        whole.written .err = (turns.flatMap fun turn =>
          if turn.1.isFailed then Text.encode "error reading command\n"
          else turn.2.written .err) ∧
        spared.written .err = (turns.filter fun turn => !turn.1.isFailed).flatMap fun turn =>
          turn.2.written .err := by
  obtain ⟨course, result, hruns⟩ := exists_runs settings 0 (s, k)
  obtain ⟨hwhole, hresult⟩ := run_of_runs hruns hc
  have hgoesOn : result ≠ .ok .readFailures := by
    intro hgivesUp
    obtain ⟨j, hj, hlimit⟩ := hruns.exists_row hgivesUp
      (Nat.lt_of_lt_of_le Nat.zero_lt_one (Nat.le_max_left _ _))
    rw [hwhole, Trace.countP_visible _ fun _ => rfl] at hrow
    exact Nat.ne_of_lt (hrow j hj) hlimit
  obtain ⟨turns, course', hruns', hspares⟩ := hruns.spares hgoesOn 0
  obtain ⟨hspared, hresult'⟩ := run_of_runs hruns' hc
  have hvisible := hspares.visible c.filter
  have hcount := hspares.countP_asked
  rw [← Trace.countP_visible c.filter (fun _ => rfl), ← hwhole] at hcount
  rw [← hwhole, ← hspared, ← hcount] at hvisible
  rw [← hcount] at hresult'
  exact ⟨hresult'.trans hresult.symm, hvisible.acts_eq, _, hvisible, hvisible.written_err⟩

end

/-- With a limit of 2, a read fails before a command and another one behind it. -/
def interrupted : Script :=
  ⟨[.failed (.input (.plain .other)), .line (Text.encode "lista"),
    .failed (.input (.plain .timedOut)), .line (Text.encode "termina")]⟩

theorem run_spared_of_interrupted :
    let w : World (Script × ChildTable) := ⟨(interrupted, ChildTable.standard), Console.fresh .off⟩
    let commands : Script := ⟨[.line (Text.encode "lista"), .line (Text.encode "termina")]⟩
    w.console.Unlimited ∧
      (∀ j < ((run ⟨"% ", 2⟩).trace w).countP Event.isAsked, interrupted.row 0 j < 2) ∧
      (run ⟨"% ", 2⟩).result ⟨(commands, ChildTable.standard), Console.fresh .off⟩ =
        (run ⟨"% ", 2⟩).result w ∧
      ((run ⟨"% ", 2⟩).trace ⟨(commands, ChildTable.standard), Console.fresh .off⟩).acts =
        ((run ⟨"% ", 2⟩).trace w).acts := by
  have htrace : (run ⟨"% ", 2⟩).trace
      (⟨(interrupted, ChildTable.standard), Console.fresh .off⟩ : World (Script × ChildTable)) =
      [.asked (Text.encode "% "), .wrote .err (Text.encode "error reading command\n"),
        .asked (Text.encode "% "), .flushed .out, .launched [Text.encode "lista"], .waited "lista",
        .wrote .err [], .wrote .out (Text.encode "lista finished with code 0\n"), .flushed .out,
        .flushed .out, .asked (Text.encode "% "),
        .wrote .err (Text.encode "error reading command\n"), .asked (Text.encode "% ")] := by
    unfold Action.trace Action.worldAfter run
    rw [runFrom_of_again (by rfl), runFrom_of_again (by rfl), runFrom_of_again (by rfl),
      runFrom_of_done (by rfl)]
    rfl
  intro w commands
  have hcount : ((run ⟨"% ", 2⟩).trace w).countP Event.isAsked = 4 :=
    congrArg (List.countP Event.isAsked) htrace
  have hrow : ∀ j < ((run ⟨"% ", 2⟩).trace w).countP Event.isAsked, interrupted.row 0 j < 2 := by
    rw [hcount]
    decide
  obtain ⟨hresult, hacts, _⟩ := run_spared ⟨"% ", 2⟩ interrupted ChildTable.standard
    (Console.fresh .off) (Console.unlimited_fresh .off) hrow
  rw [hcount] at hresult hacts
  exact ⟨Console.unlimited_fresh .off, hrow, hresult, hacts⟩

end Session

end RestrictedShell
