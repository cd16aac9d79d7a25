import RestrictedShell.Proofs.Console.Limits
import RestrictedShell.Proofs.Session.Attendance

namespace RestrictedShell

open Launcher

/-- Somebody else may write on the standard output now: a source that asks for a line, a child that
is launched, or one that writes. -/
def Event.isHandover : Event → Bool
  | .asked _ | .launched _ | .childWrote .. => true
  | _ => false

namespace Trace

/-- Behind everything that the session wrote on the stream there is a flush of it. -/
def Flushed (s : Stream) (trace : Trace) : Prop :=
  ∀ earlier bytes later, trace = earlier ++ .wrote s bytes :: later → .flushed s ∈ later

/-- The session never writes on the stream. -/
def Silent (s : Stream) (trace : Trace) : Prop :=
  ∀ bytes, .wrote s bytes ∉ trace

variable {s : Stream} {a b trace : Trace}

theorem Silent.visible (h : trace.Silent s) (filter : Log.Filter) :
    (trace.visible filter).Silent s :=
  fun bytes hmem => h bytes (List.mem_of_mem_filter hmem)

theorem Silent.flushed (h : trace.Silent s) : trace.Flushed s := by
  rintro earlier bytes later rfl
  exact absurd (by simp) (h bytes)

theorem Flushed.append (ha : a.Flushed s) (hb : b.Flushed s) : (a ++ b).Flushed s := by
  intro earlier bytes later h
  rcases append_split h with ⟨rest, hfirst, rfl⟩ | ⟨rest, rfl, hsecond⟩
  · exact List.mem_append_left b (ha earlier bytes rest hfirst)
  · exact hb rest bytes later hsecond

theorem flushed_concat (s : Stream) (trace : Trace) : Flushed s (trace ++ [.flushed s]) := by
  intro earlier bytes later h
  rcases append_split h with ⟨rest, _, rfl⟩ | ⟨rest, rfl, hlast⟩
  · simp
  · exact absurd hlast (ne_split_of_free (p := fun event => event == .wrote s bytes)
      (by simp) (by simp))

theorem Flushed.visible (h : trace.Flushed s) (filter : Log.Filter) :
    (trace.visible filter).Flushed s := by
  intro earlier bytes later hsplit
  obtain ⟨earlier', later', htrace, _, rfl⟩ := visible_split hsplit
  exact List.mem_filter.mpr ⟨h earlier' bytes later' htrace, rfl⟩

/-- The standard output is flushed wherever it is handed over, and at the end. -/
structure Tidy (trace : Trace) : Prop where
  handover : ∀ (before : Trace) event later, trace = before ++ event :: later →
    event.isHandover = true → before.Flushed .out
  ended : trace.Flushed .out

theorem Tidy.append (ha : a.Tidy) (hb : b.Tidy) : (a ++ b).Tidy where
  handover := by
    intro before event later h hevent
    rcases append_split h with ⟨rest, hfirst, _⟩ | ⟨rest, rfl, hsecond⟩
    · exact ha.handover before event rest hfirst hevent
    · exact ha.ended.append (hb.handover rest event later hsecond hevent)
  ended := ha.ended.append hb.ended

theorem Silent.tidy (h : trace.Silent .out) : trace.Tidy where
  handover := by
    rintro before event later rfl _
    refine Silent.flushed fun bytes hmem => h bytes ?_
    exact List.mem_append_left _ hmem
  ended := h.flushed

theorem tidy_concat (trace : Trace) (h : ∀ event ∈ trace, event.isHandover = false) :
    Tidy (trace ++ [.flushed .out]) where
  handover before event later hsplit hevent := by
    have hfree : ∀ event ∈ trace ++ [.flushed .out], event.isHandover = false := by
      simpa [or_imp, forall_and, Event.isHandover] using h
    exact absurd hsplit (ne_split_of_free hfree hevent)
  ended := flushed_concat .out trace

end Trace

open Trace

theorem Dispatch.tidy_opening (d : Dispatch) : d.opening.Tidy := by
  cases d with
  | quit => exact Silent.tidy (by simp [Silent, opening])
  | blank => exact tidy_concat [] (by simp)
  | help => exact tidy_concat [_] (by simp [Event.isHandover])
  | unrecognized name => exact tidy_concat [_, _] (by simp [Event.isHandover])
  | external i => exact tidy_concat [] (by simp)

namespace Launched

theorem cut_of_mem_attending {i : Invocation} {l : Launched} {event : Event} {stump : Trace}
    {error : IoError} (h : event ∈ l.attending i) (hcut : Cut event stump error) :
    error = Output.refusedWrite .err ∨ error = Output.refusedFlush .err := by
  rcases of_mem_attending h with
    ⟨entry, _, rfl⟩ | ⟨s, bytes, rfl⟩ | ⟨child, _, rfl | rfl | rfl⟩ <;> cases hcut
  · exact .inl rfl
  · exact .inr rfl

theorem silent_attending (i : Invocation) (l : Launched) : (l.attending i).Silent .out := by
  intro bytes hmem
  simpa using of_mem_attending hmem

theorem tidy_conclusion (i : Invocation) (l : Launched) : (l.conclusion i).Tidy := by
  obtain ⟨log, failure | ⟨output, remark, settled, failure | outcome⟩⟩ := l
  · exact tidy_concat [_, _] (by simp [Event.isHandover])
  · exact Silent.tidy (by simp [Silent, conclusion])
  · refine tidy_concat (outcome.reported i.command.name) ?_
    cases outcome <;> simp [Outcome.reported, Event.isHandover]

end Launched

namespace Session

variable {ε κ : Type} [Environment ε] [Launcher κ]

theorem tidy_stepCourse (line : Bytes) (e : ε) : (stepCourse line e).trace.Tidy := by
  have hlog : Tidy [.logged .dispatching] := Silent.tidy (by simp [Silent])
  rw [trace_stepCourse]
  refine (hlog.append (classify line).tidy_opening).append ?_
  cases classify line with
  | external i =>
      have hattending : Silent .out
          (.launched i.argv :: (Environment.launch i e).1.attending i) := by
        simpa [Silent] using (Environment.launch i e).1.silent_attending i
      exact hattending.tidy.append ((Environment.launch i e).1.tidy_conclusion i)
  | _ => exact Silent.tidy (by simp [Silent])

theorem tidy_askCourse (prompt : String) (e : ε) : (askCourse prompt e).trace.Tidy := by
  unfold askCourse
  cases Environment.promptStream e with
  | none => exact Silent.tidy (by simp [Silent, Course.trace])
  | some s =>
      cases s with
      | out => exact tidy_concat [_] (by simp [Event.isHandover])
      | _ => exact Silent.tidy (by simp [Silent, Course.trace])

theorem Runs.tidy {settings : Settings} {failures : UInt32} {e : ε} {course : Course ε}
    {result : Except IoError Ending} (h : Runs settings failures e course result) :
    course.trace.Tidy := by
  have hask := fun e : ε => tidy_askCourse settings.prompt e
  induction h with
  | endOfInput =>
      rw [Course.trace_append, Course.trace_still]
      exact (hask _).append (Silent.tidy (by simp [Silent]))
  | quit =>
      rw [Course.trace_append, Course.trace_still]
      exact (hask _).append (Silent.tidy (by simp [Silent]))
  | broken =>
      rw [Course.trace_append]
      exact (hask _).append (tidy_stepCourse _ _)
  | proceed _ _ _ ih =>
      rw [Course.trace_append, Course.trace_append]
      exact (hask _).append ((tidy_stepCourse _ _).append ih)
  | exhausted =>
      rw [Course.trace_append, Course.trace_still]
      exact (hask _).append (Silent.tidy (by simp [Silent, complaint]))
  | retry _ _ _ ih =>
      rw [Course.trace_append, Course.trace_append, Course.trace_still]
      exact (hask _).append ((Silent.tidy (by simp [Silent, complaint])).append ih)

end Session

namespace Trace

variable {filter : Log.Filter} {course seen : Trace} {stop : Option IoError}

theorem Curtailed.handover (h : Curtailed filter course seen stop) (hcourse : course.Tidy)
    {before later : Trace} {event : Event} (hseen : seen = before ++ event :: later)
    (hevent : event.isHandover = true) : before.Flushed .out := by
  rw [hseen] at h
  obtain ⟨before', e, later', rfl, rfl, ⟨rfl, _⟩ | ⟨_, error, _, hcut⟩⟩ := h.split
  · exact (hcourse.handover before' e later' rfl hevent).visible filter
  · cases hcut
    cases hevent

/-- A launch is followed by all that goes on until the end of the wait, or by what the error stream
lets through of it. -/
theorem Curtailed.attending {i : Invocation} {l : Launched} {after later : Trace}
    (h : Curtailed filter (l.aftermath i ++ later) after stop) :
    ∃ during rest : Trace, after = during ++ rest ∧ during.Silent .out ∧
      (during = (l.attending i).visible filter ∨
        rest = [] ∧ (stop = some (Output.refusedWrite .err) ∨
          stop = some (Output.refusedFlush .err))) := by
  have hattending := l.silent_attending i
  have hparts : l.aftermath i ++ later = l.attending i ++ (l.conclusion i ++ later) :=
    List.append_assoc _ _ _
  rw [hparts] at h
  rcases h.append_cases with ⟨rest, rfl, _⟩ | ⟨error, rfl, hcut⟩
  · exact ⟨_, rest, rfl, hattending.visible filter, .inl rfl⟩
  · refine ⟨after, [], (List.append_nil after).symm, fun bytes hmem => ?_, .inr ⟨rfl, ?_⟩⟩
    · obtain ⟨e, he, rfl | ⟨error', hstump⟩⟩ := hcut.mem hmem
      · exact hattending bytes he
      · cases hstump
        exact hattending _ he
    · obtain ⟨before, event, rest, stump, hsplit, hevent, _⟩ := curtailed_some_iff.mp hcut
      exact (l.cut_of_mem_attending (by rw [hsplit]; simp) hevent).imp (congrArg some)
        (congrArg some)

theorem Curtailed.attended {κ : Type} [Launcher κ] {k : κ} (h : Curtailed filter course seen stop)
    (hcourse : Attended k course) {before after : Trace} {argv : List Bytes}
    (hseen : seen = before ++ .launched argv :: after) :
    ∃ (i : Invocation) (during rest : Trace),
      argv = i.argv ∧ after = during ++ rest ∧ during.Silent .out ∧
      (during = ((answer k before i).attending i).visible filter ∨
        rest = [] ∧ (stop = some (Output.refusedWrite .err) ∨
          stop = some (Output.refusedFlush .err))) := by
  rw [hseen] at h
  obtain ⟨before', event, after', rfl, rfl, ⟨rfl, hafter⟩ | ⟨_, error, _, hcut⟩⟩ := h.split
  · obtain ⟨i, later, hargv, rfl, _⟩ := hcourse.of_launched
    obtain ⟨during, rest, hparts, hsilent, hwhole⟩ := hafter.attending
    rw [← answer_visible k filter] at hwhole
    exact ⟨i, during, rest, hargv, hparts, hsilent, hwhole⟩
  · cases hcut

end Trace

namespace Session

variable {κ : Type} [Launcher κ]

/-- Wherever a session hands the standard output over, and when it ends well, it has flushed
whatever it wrote there. From a launch to the end of the wait for the child it writes nothing there
at all; the wait is cut short by nothing but a refusal of the error stream, which ends the
session. -/
theorem flushed_at_handovers (settings : Settings) (w : World (Script × κ)) :
    let seen := (run settings).trace w
    let result := (run settings).result w
    (∀ (before : Trace) event later, seen = before ++ event :: later →
        event.isHandover = true → before.Flushed .out) ∧
      (∀ ending, result = .ok ending → seen.Flushed .out) ∧
      ∀ before argv after, seen = before ++ .launched argv :: after →
        ∃ (i : Invocation) (during rest : Trace),
          argv = i.argv ∧ after = during ++ rest ∧ during.Silent .out ∧
          (during = ((answer w.env.2 before i).attending i).visible w.console.filter ∨
            rest = [] ∧ (result = .error (Output.refusedWrite .err) ∨
              result = .error (Output.refusedFlush .err))) := by
  intro seen result
  obtain ⟨course, ending, stop, hruns, hseen, hresult, _⟩ :=
    exists_course settings (Script.heard w.console)
  refine ⟨fun before event later => hseen.handover hruns.tidy, fun ending' hok => ?_,
    fun before argv after hsplit => ?_⟩
  · cases stop with
    | none =>
        rw [curtailed_none_iff] at hseen
        change ((run settings).trace w).Flushed .out
        rw [hseen]
        exact hruns.tidy.ended.visible _
    | some error =>
        have herror : result = .error error := hresult
        rw [hok] at herror
        cases herror
  · obtain ⟨i, during, rest, hargv, hparts, hsilent, hwhole⟩ :=
      hseen.attended hruns.attended hsplit
    refine ⟨i, during, rest, hargv, hparts, hsilent, ?_⟩
    refine hwhole.imp_right (And.imp_right (Or.imp ?_ ?_))
    · rintro rfl
      exact hresult
    · rintro rfl
      exact hresult

end Session

end RestrictedShell
