import RestrictedShell.Launch.ProcessLauncher
import RestrictedShell.Proofs.Session.Advance
import RestrictedShell.Proofs.Session.Stopping

namespace RestrictedShell

/-- How many of these answers were failures since the last line, or since the first answer if there
is no line. -/
def Reading.failuresSinceLine (answers : List Reading) : Nat :=
  (answers.reverse.takeWhile fun reading => reading.line?.isNone).countP Reading.isFailed

namespace Reading

theorem failuresSinceLine_append_line (answers : List Reading) (line : Bytes) :
    failuresSinceLine (answers ++ [.line line]) = 0 := by
  simp [failuresSinceLine, line?]

theorem failuresSinceLine_append_failed (answers : List Reading) (error : ReadError) :
    failuresSinceLine (answers ++ [.failed error]) = failuresSinceLine answers + 1 := by
  rw [failuresSinceLine, List.reverse_append, List.reverse_singleton, List.singleton_append,
    List.takeWhile_cons_of_pos rfl, List.countP_cons_of_pos rfl]
  rfl

end Reading

theorem LineSource.readings_succ {σ : Type} [LineSource σ] (n : Nat) (s : σ) :
    readings (n + 1) s = readings n s ++ [(next (after s n)).1] := by
  rw [readings_eq_map, readings_eq_map, List.range_succ, List.map_append]
  rfl

/-- No question for a line, and no word of a failed read but of this one with this count. -/
def Event.IsAside (reading : Reading) (failures : UInt32) (event : Event) : Prop :=
  event.isAsked = false ∧
    ∀ error n, event = .logged (.readFailed error n) → reading = .failed error ∧ n = failures

namespace Console

/-- Nothing but such events happened from the one console to the other. -/
def Adds (p : Event → Prop) (c c' : Console) : Prop :=
  ∃ seen, c'.history = c.history ++ seen ∧ ∀ event ∈ seen, p event

variable {p : Event → Prop} {c c' c'' : Console}

theorem adds_refl (p : Event → Prop) (c : Console) : c.Adds p c :=
  ⟨[], (List.append_nil _).symm, by simp⟩

theorem Adds.trans (h : c.Adds p c') (h' : c'.Adds p c'') : c.Adds p c'' := by
  obtain ⟨seen, hseen, hp⟩ := h
  obtain ⟨seen', hseen', hp'⟩ := h'
  refine ⟨seen ++ seen', by rw [hseen', hseen, List.append_assoc], fun event hevent => ?_⟩
  exact (List.mem_append.mp hevent).elim (hp event) (hp' event)

theorem Adds.log (h : c.Adds p c') {entry : Log.Entry} (hentry : p (.logged entry)) :
    c.Adds p (c'.log entry) := by
  rw [log_eq_after]
  refine h.trans ⟨_, history_after _ _, fun event hevent => ?_⟩
  obtain rfl := List.mem_singleton.mp (List.mem_of_mem_filter hevent)
  exact hentry

end Console

theorem Action.adds_of_follows {ε α : Type} {a : Action ε α} {w : World ε} {course : Course ε}
    {result : Except IoError α} {p : Event → Prop} (h : Follows a w.env course result)
    (hcourse : ∀ event ∈ course.trace, p event) (hwrote : ∀ s bytes, p (.wrote s bytes)) :
    w.console.Adds p (a.worldAfter w).console := by
  obtain ⟨stop, hseen, _, _, hhistory, _⟩ := exists_stop (h w.console)
  refine ⟨a.trace w, hhistory, fun event hevent => ?_⟩
  obtain ⟨e, he, rfl | ⟨error, hcut⟩⟩ := hseen.mem hevent
  · exact hcourse e he
  · cases hcut
    exact hwrote _ _

namespace Launched

theorem readFailed_notMem_aftermath {i : Invocation} {l : Launched} {error : ReadError} {n : UInt32}
    (hlog : .readFailed error n ∉ l.log) : .logged (.readFailed error n) ∉ l.aftermath i := by
  intro hmem
  rcases List.mem_append.mp hmem with hattending | hconclusion
  · rcases of_mem_attending hattending with ⟨entry, hentry, heq⟩ | ⟨s, bytes, heq⟩ | ⟨child, _, heq⟩
    · cases heq
      exact hlog hentry
    · cases heq
    · simp at heq
  · rcases of_mem_conclusion hconclusion with
      heq | ⟨child, outcome, _, _, hreported⟩ | ⟨error, _, heq⟩
    · cases heq
    · simpa using Outcome.of_mem_reported hreported
    · simp at heq

end Launched

namespace Session

section

variable {ε : Type} [Environment ε]

theorem readFailed_notMem_stepCourse {line : Bytes} {e : ε} {error : ReadError} {n : UInt32}
    (hlog : ∀ i, .readFailed error n ∉ (Environment.launch i e).1.log) :
    .logged (.readFailed error n) ∉ (stepCourse line e).trace := by
  rw [trace_stepCourse]
  cases classify line with
  | external i =>
      have haftermath := Launched.readFailed_notMem_aftermath (i := i) (hlog i)
      simp [Dispatch.opening, haftermath]
  | _ => simp [Dispatch.opening]

end

section

variable {σ κ : Type} [LineSource σ] [Launcher κ]

/-- Behind its question for a line, a turn speaks of no failed read but that of the answer. -/
theorem adds_turn
    (hlog : ∀ (i : Invocation) (k : κ) error n, .readFailed error n ∉ (Launcher.launch i k).1.log)
    (settings : Settings) (failures : UInt32) (w : World (σ × κ)) :
    (Environment.ask settings.prompt w).2.console.Adds
      (Event.IsAside (Environment.ask settings.prompt w).1 (failures + 1))
      (turn settings failures w).world.console := by
  generalize hask : Environment.ask settings.prompt w = answer
  obtain ⟨reading, asked⟩ := answer
  have hwrote : ∀ stream bytes, Event.IsAside reading (failures + 1) (.wrote stream bytes) :=
    fun _ _ => ⟨rfl, by simp⟩
  cases reading with
  | endOfInput =>
      rw [turn_of_endOfInput hask rfl]
      exact (Console.adds_refl _ _).log ⟨rfl, by simp⟩
  | line line =>
      have hcourse : ∀ event ∈ (stepCourse line asked.env).trace,
          event.IsAside (.line line) (failures + 1) := by
        refine fun event hevent => ⟨asked_free_stepCourse line _ event hevent, ?_⟩
        rintro error n rfl
        exact absurd hevent (readFailed_notMem_stepCourse fun i => hlog i asked.env.2 error n)
      have hstep := Action.adds_of_follows (follows_step line asked.env) hcourse hwrote
      rw [Action.worldAfter] at hstep
      rw [turn_of_line hask rfl]
      rcases hrun : step line asked with ⟨_ | _, w'⟩ | ⟨error, w'⟩ <;> rw [hrun] at hstep
      · exact hstep
      · exact hstep.log ⟨rfl, by simp⟩
      · exact hstep
  | failed error =>
      have hcourse : ∀ event ∈ (Course.still asked.env (complaint error (failures + 1))).trace,
          event.IsAside (.failed error) (failures + 1) := by
        rw [Course.trace_still]
        intro event hevent
        rcases List.mem_cons.mp hevent with rfl | hevent
        · exact ⟨rfl, fun error n heq => by cases heq; exact ⟨rfl, rfl⟩⟩
        · obtain rfl := List.mem_singleton.mp hevent
          exact hwrote _ _
      have hcomplain := Action.adds_of_follows (follows_complain error _ asked.env) hcourse hwrote
      rw [Action.worldAfter] at hcomplain
      rw [turn_of_failed hask rfl, afterFailure]
      rcases hrun : complain error (failures + 1) asked with ⟨u, w'⟩ | ⟨error', w'⟩ <;>
        simp only [hrun] at hcomplain ⊢
      · split
        · exact hcomplain.log ⟨rfl, by simp⟩
        · exact hcomplain
      · exact hcomplain

end

section

variable {κ : Type} [Launcher κ] {settings : Settings} {w : World (Script × κ)}

/-- The count at a point of a session that has seen this much. -/
structure Counted (settings : Settings) (w : World (Script × κ)) (seen : Trace)
    (q : UInt32 × World (Script × κ)) : Prop where
  history : q.2.console.history = w.console.history ++ seen
  source : q.2.env.1 = LineSource.after w.env.1 (seen.countP Event.isAsked)
  count : q.1.toNat =
    Reading.failuresSinceLine (LineSource.readings (seen.countP Event.isAsked) w.env.1)
  short : q.1.toNat < max 1 settings.maxReadFailures.toNat

omit [Launcher κ] in
theorem countP_asked_append {reading : Reading} {failures : UInt32} {asides : Trace}
    (h : ∀ event ∈ asides, event.IsAside reading failures) (seen : Trace) (prompt : Bytes) :
    (seen ++ .asked prompt :: asides).countP Event.isAsked = seen.countP Event.isAsked + 1 := by
  have hnone : asides.countP Event.isAsked = 0 :=
    List.countP_eq_zero.mpr fun event hevent => by simp [(h event hevent).1]
  rw [List.countP_append, List.countP_cons_of_pos rfl, hnone]

theorem again_of_script {failures failures' : UInt32} {w w' : World (Script × κ)}
    (h : turn settings failures w = .again failures' w') :
    w'.env.1 = (LineSource.next w.env.1).2 ∧
      ((∃ line, (LineSource.next w.env.1).1 = .line line ∧ failures' = 0) ∨
        ∃ error, (LineSource.next w.env.1).1 = .failed error ∧ failures' = failures + 1) := by
  obtain ⟨⟨s, k⟩, c⟩ := w
  rcases again_cases h with ⟨line, asked, hask, hstep, hzero⟩ | ⟨error, asked, hask, hrun, hsucc, _⟩
  · rw [ask_script, Prod.mk.injEq] at hask
    obtain ⟨hread, rfl⟩ := hask
    exact ⟨fst_of_step_ok hstep, .inl ⟨line, hread, hzero⟩⟩
  · have hkept := (idle_complain error (failures + 1) asked).2
    rw [Action.worldAfter, hrun] at hkept
    rw [ask_script, Prod.mk.injEq] at hask
    obtain ⟨hread, rfl⟩ := hask
    exact ⟨congrArg Prod.fst hkept, .inr ⟨error, hread, hsucc⟩⟩

omit [Launcher κ] in
theorem Counted.readings_succ {seen : Trace} {q : UInt32 × World (Script × κ)}
    (h : Counted settings w seen q) :
    LineSource.readings (seen.countP Event.isAsked + 1) w.env.1 =
      LineSource.readings (seen.countP Event.isAsked) w.env.1 ++
        [(LineSource.next q.2.env.1).1] := by
  rw [LineSource.readings_succ, h.source]

section

variable
  (hlog : ∀ (i : Invocation) (k : κ) error n, .readFailed error n ∉ (Launcher.launch i k).1.log)

include hlog

theorem exists_turn_asides (settings : Settings) (failures : UInt32) (w : World (Script × κ)) :
    ∃ asides, (turn settings failures w).world.console.history =
        w.console.history ++ .asked (Text.encode settings.prompt) :: asides ∧
      ∀ event ∈ asides, event.IsAside (LineSource.next w.env.1).1 (failures + 1) := by
  obtain ⟨asides, hasides, haside⟩ := adds_turn hlog settings failures w
  obtain ⟨⟨s, k⟩, c⟩ := w
  rw [ask_script] at hasides haside
  refine ⟨asides, ?_, haside⟩
  rw [hasides, Console.history_after, List.append_assoc]
  rfl

theorem Counted.goesOn {seen : Trace} {p q : UInt32 × World (Script × κ)}
    (h : Counted settings w seen p) (hgoes : GoesOn settings p q) :
    ∃ seen', Counted settings w seen' q := by
  obtain ⟨asides, hasides, haside⟩ := exists_turn_asides hlog settings p.1 p.2
  have hasked := countP_asked_append haside seen (Text.encode settings.prompt)
  have hworld : (turn settings p.1 p.2).world = q.2 := by rw [hgoes]; rfl
  obtain ⟨hsource, hcount⟩ := again_of_script hgoes
  refine ⟨seen ++ .asked (Text.encode settings.prompt) :: asides, ?_, ?_, ?_,
    failures_lt_of_again hgoes⟩
  · rw [← hworld, hasides, h.history, List.append_assoc]
  · rw [hasked, hsource, h.source]
    rfl
  · rw [hasked, h.readings_succ]
    rcases hcount with ⟨line, hread, hzero⟩ | ⟨error, hread, hsucc⟩
    · rw [hread, hzero, Reading.failuresSinceLine_append_line]
      rfl
    · rw [hread, hsucc, toNat_succ h.short, h.count, Reading.failuresSinceLine_append_failed]

end

end

end Session

end RestrictedShell
