import RestrictedShell.Proofs.Console.Limits
import RestrictedShell.Proofs.Source.Script

namespace RestrictedShell

namespace Action

variable {ε α : Type}

theorem happen_eq (event : Event) (after : ε) (w : World ε) :
    happen event after w = match w.console.refusal? event with
      | some (stump, error) => .error error ⟨w.env, w.console.after stump⟩
      | none => .ok () ⟨after, w.console.after [event]⟩ := by
  unfold happen
  rw [Output.perform_eq]
  cases w.console.refusal? event <;> rfl

theorem enact_of_takes {course : Course ε} {w : World ε} (h : w.console.Takes course.trace) :
    enact course w = .ok () ⟨course.env w.env, w.console.after course.trace⟩ := by
  induction course generalizing w with
  | nil =>
      change EStateM.Result.ok () w = .ok () ⟨w.env, w.console.after []⟩
      rw [Console.after_nil]
  | cons moment rest ih =>
      obtain ⟨event, after⟩ := moment
      obtain ⟨hfirst, hrest⟩ := Console.takes_cons.mp h
      have hhappen : happen event after w = .ok () ⟨after, w.console.after [event]⟩ := by
        rw [happen_eq, hfirst]
      rw [enact, bind_ok hhappen, ih hrest, ← Console.after_append]
      rfl

theorem enact_of_refusal {course : Course ε} {w : World ε} {before later stump : Trace}
    {event : Event} {error : IoError} (hcourse : course.trace = before ++ event :: later)
    (htaken : w.console.Takes before)
    (hrefused : (w.console.after before).refusal? event = some (stump, error)) :
    enact course w = .error error
      ⟨Course.env w.env (course.take before.length), w.console.after (before ++ stump)⟩ := by
  induction before generalizing course w with
  | nil =>
      obtain ⟨⟨event', after⟩, rest, rfl, hevent, _⟩ := List.map_eq_cons_iff.mp hcourse
      obtain rfl : event' = event := hevent
      rw [Console.after_nil] at hrefused
      have hhappen : happen event' after w = .error error ⟨w.env, w.console.after stump⟩ := by
        rw [happen_eq, hrefused]
      rw [enact, bind_error hhappen]
      rfl
  | cons first before ih =>
      obtain ⟨⟨first', after⟩, rest, rfl, hevent, hrest⟩ := List.map_eq_cons_iff.mp hcourse
      obtain rfl : first' = first := hevent
      obtain ⟨hfirst, hbefore⟩ := Console.takes_cons.mp htaken
      have hhappen : happen first' after w = .ok () ⟨after, w.console.after [first']⟩ := by
        rw [happen_eq, hfirst]
      rw [← List.singleton_append, Console.after_append] at hrefused
      rw [enact, bind_ok hhappen, ih hrest hbefore hrefused, ← Console.after_append]
      rfl

theorem trace_of_worldAfter {a : Action ε α} {w : World ε} {seen : Trace}
    (h : (a.worldAfter w).console = w.console.after seen) :
    a.trace w = seen.visible w.console.filter := by
  rw [trace, h, Console.history_after, List.drop_left]

theorem ended_of_takes {a : Action ε α} {w : World ε} {course : Course ε}
    {result : Except IoError α} (h : a w = (do enact course; conclude result : Action ε α) w)
    (htaken : w.console.Takes course.trace) :
    a.worldAfter w = ⟨course.env w.env, w.console.after course.trace⟩ ∧ a.result w = result := by
  rw [bind_ok (enact_of_takes htaken)] at h
  unfold worldAfter Action.result
  rw [h]
  cases result <;> exact ⟨rfl, rfl⟩

theorem ended_of_refusal {a : Action ε α} {w : World ε} {course : Course ε}
    {result : Except IoError α} (h : a w = (do enact course; conclude result : Action ε α) w)
    {before later stump : Trace} {event : Event} {error : IoError}
    (hcourse : course.trace = before ++ event :: later) (htaken : w.console.Takes before)
    (hrefused : (w.console.after before).refusal? event = some (stump, error)) :
    a.worldAfter w =
        ⟨Course.env w.env (course.take before.length), w.console.after (before ++ stump)⟩ ∧
      a.result w = .error error := by
  rw [bind_error (enact_of_refusal hcourse htaken hrefused)] at h
  unfold worldAfter Action.result
  rw [h]
  exact ⟨rfl, rfl⟩

end Action

namespace Event

/-- A reading, a launch, a wait or a flush. -/
def isMilestone : Event → Bool
  | .asked _ | .launched _ | .waited _ | .flushed _ => true
  | _ => false

end Event

namespace Trace

/-- The readings, launches, waits and flushes of a trace. -/
def milestones (trace : Trace) : Trace :=
  trace.filter Event.isMilestone

theorem milestones_append (a b : Trace) : milestones (a ++ b) = milestones a ++ milestones b :=
  List.filter_append a b

theorem stump_of_refusal? {c : Console} {event : Event} {stump : Trace} {error : IoError}
    (h : c.refusal? event = some (stump, error)) :
    stump.milestones = [] ∧ ∀ s, stump.written s <+: written s [event] := by
  cases event with
  | wrote s bytes =>
      simp only [Console.refusal?] at h
      split at h
      · split at h
        · cases h
          refine ⟨rfl, fun s' => ?_⟩
          by_cases hs : s = s' <;> simp [written, hs, List.take_prefix]
        · cases h
      · cases h
  | flushed s =>
      simp only [Console.refusal?] at h
      split at h
      · cases h
        exact ⟨rfl, fun s' => List.prefix_rfl⟩
      · cases h
  | _ => cases h

theorem prefix_of_refusal? {c : Console} {event : Event} {stump : Trace} {error : IoError}
    (h : c.refusal? event = some (stump, error)) (before later : Trace) :
    (before ++ stump).milestones <+: (before ++ event :: later).milestones ∧
      ∀ s, (before ++ stump).written s <+: (before ++ event :: later).written s := by
  obtain ⟨hnone, hwritten⟩ := stump_of_refusal? h
  refine ⟨?_, fun s => ?_⟩
  · rw [milestones_append, milestones_append, hnone, List.append_nil]
    exact List.prefix_append _ _
  · rw [← List.singleton_append, written_append, written_append, written_append,
      List.prefix_append_right_inj]
    exact (hwritten s).trans (List.prefix_append _ _)

/-- The standard output is flushed right before every launch. -/
def FlushedAtLaunches (trace : Trace) : Prop :=
  ∀ before argv later, trace = before ++ .launched argv :: later →
    ∃ earlier, before = earlier ++ [.flushed .out]

theorem flushedAtLaunches_of_free {trace : Trace}
    (h : ∀ event ∈ trace, event.isLaunched = false) : FlushedAtLaunches trace :=
  fun _ _ _ hsplit => absurd hsplit (ne_split_of_free h rfl)

theorem FlushedAtLaunches.append {a b : Trace} (ha : FlushedAtLaunches a)
    (hb : FlushedAtLaunches b) : FlushedAtLaunches (a ++ b) := by
  intro before argv later h
  rcases append_split h with ⟨rest, hfirst, _⟩ | ⟨rest, rfl, hsecond⟩
  · exact ha before argv rest hfirst
  · obtain ⟨earlier, rfl⟩ := hb rest argv later hsecond
    exact ⟨a ++ earlier, by simp⟩

theorem FlushedAtLaunches.visible {trace : Trace} (h : FlushedAtLaunches trace)
    (filter : Log.Filter) : FlushedAtLaunches (trace.visible filter) := by
  intro before argv later hsplit
  obtain ⟨before', later', htrace, rfl, _⟩ := visible_split hsplit
  obtain ⟨earlier, rfl⟩ := h before' argv later' htrace
  exact ⟨Trace.visible filter earlier, visible_append filter earlier _⟩

end Trace

namespace Session

variable {ε κ : Type} [Environment ε] [Launcher κ]

theorem flushedAtLaunches_stepCourse (line : Bytes) (e : ε) :
    (stepCourse line e).trace.FlushedAtLaunches := by
  intro before argv later h
  obtain ⟨i, _, _, rfl, _⟩ := launched_in_step h
  exact ⟨[.logged .dispatching], rfl⟩

theorem launched_free_askCourse (prompt : String) (e : ε) :
    ∀ event ∈ (askCourse prompt e).trace, event.isLaunched = false := by
  unfold askCourse
  split <;> simp [Course.trace, Event.isLaunched]

theorem Runs.flushedAtLaunches {settings : Settings} {failures : UInt32} {e : ε}
    {course : Course ε} {result : Except IoError Ending}
    (h : Runs settings failures e course result) : course.trace.FlushedAtLaunches := by
  have hask := fun e : ε =>
    Trace.flushedAtLaunches_of_free (launched_free_askCourse settings.prompt e)
  induction h with
  | endOfInput =>
      rw [Course.trace_append, Course.trace_still]
      exact (hask _).append (Trace.flushedAtLaunches_of_free (by simp [Event.isLaunched]))
  | quit =>
      rw [Course.trace_append, Course.trace_still]
      exact (hask _).append (Trace.flushedAtLaunches_of_free (by simp [Event.isLaunched]))
  | broken =>
      rw [Course.trace_append]
      exact (hask _).append (flushedAtLaunches_stepCourse _ _)
  | proceed _ _ _ ih =>
      rw [Course.trace_append, Course.trace_append]
      exact (hask _).append ((flushedAtLaunches_stepCourse _ _).append ih)
  | exhausted =>
      rw [Course.trace_append, Course.trace_still]
      exact (hask _).append
        (Trace.flushedAtLaunches_of_free (by simp [complaint, Event.isLaunched]))
  | retry _ _ _ ih =>
      rw [Course.trace_append, Course.trace_append, Course.trace_still]
      exact (hask _).append
        ((Trace.flushedAtLaunches_of_free (by simp [complaint, Event.isLaunched])).append ih)

theorem step_of_takes {line : Bytes} {w : World ε}
    (h : w.console.Takes (stepCourse line w.env).trace) :
    (step line).trace w = (stepCourse line w.env).trace.visible w.console.filter ∧
      (step line).result w = stepResult line w.env := by
  obtain ⟨hworld, hend⟩ := Action.ended_of_takes (follows_step line w.env w.console) h
  exact ⟨Action.trace_of_worldAfter (by rw [hworld]), hend⟩

theorem step_of_unlimited (line : Bytes) {w : World ε} (h : w.console.Unlimited) :
    (step line).trace w = (stepCourse line w.env).trace.visible w.console.filter ∧
      (step line).result w = stepResult line w.env :=
  step_of_takes (Console.takes_of_unlimited h _)

theorem exists_course_boundless (settings : Settings) (s : Script) (k : κ) (c : Console) :
    ∃ course result, Runs settings 0 (s, k) course result ∧
      (run settings).trace ⟨(s, k), c.boundless⟩ = course.trace.visible c.filter ∧
      (run settings).result ⟨(s, k), c.boundless⟩ = result ∧
      run settings ⟨(s, k), c⟩ =
        (do Action.enact course; Action.conclude result : Action (Script × κ) Ending)
          ⟨(s, k), c⟩ := by
  obtain ⟨course, result, hruns⟩ := exists_runs settings 0 (s, k)
  obtain ⟨hworld, hresult⟩ := Action.ended_of_takes (a := run settings)
    (hruns.runFrom_eq (Script.heard c.boundless))
    (Console.takes_of_unlimited c.unlimited_boundless _)
  exact ⟨course, result, hruns, Action.trace_of_worldAfter (by rw [hworld]), hresult,
    hruns.runFrom_eq (Script.heard c)⟩

theorem run_of_takes {settings : Settings} {s : Script} {k : κ} {c : Console}
    (h : c.Takes ((run settings).trace ⟨(s, k), c.boundless⟩)) :
    (run settings).trace ⟨(s, k), c⟩ = (run settings).trace ⟨(s, k), c.boundless⟩ ∧
      (run settings).result ⟨(s, k), c⟩ = (run settings).result ⟨(s, k), c.boundless⟩ := by
  obtain ⟨course, result, _, hwhole, hresult, hrun⟩ := exists_course_boundless settings s k c
  rw [hwhole, Console.takes_visible] at h
  obtain ⟨hworld, hend⟩ := Action.ended_of_takes hrun h
  rw [hwhole, hresult]
  exact ⟨Action.trace_of_worldAfter (by rw [hworld]), hend⟩

theorem run_of_refusal {settings : Settings} {s : Script} {k : κ} {c : Console}
    {before later stump : Trace} {event : Event} {error : IoError}
    (h : (run settings).trace ⟨(s, k), c.boundless⟩ = before ++ event :: later)
    (htaken : c.Takes before)
    (hrefused : (c.after before).refusal? event = some (stump, error)) :
    (run settings).trace ⟨(s, k), c⟩ = before ++ stump ∧
      (run settings).result ⟨(s, k), c⟩ = .error error := by
  obtain ⟨course, result, _, hwhole, _, hrun⟩ := exists_course_boundless settings s k c
  rw [hwhole] at h
  obtain ⟨before', later', hcourse, rfl, _⟩ := Trace.visible_split h
  rw [Console.takes_visible] at htaken
  rw [Console.after_visible] at hrefused
  obtain ⟨hworld, hend⟩ := Action.ended_of_refusal hrun hcourse htaken hrefused
  have hseen := Action.trace_of_worldAfter (a := run settings) (by rw [hworld])
  rw [Trace.visible_append, (Console.reveals_of_refusal? hrefused c.filter).2] at hseen
  exact ⟨hseen, hend⟩

theorem flushedAtLaunches_boundless (settings : Settings) (s : Script) (k : κ) (c : Console) :
    ((run settings).trace ⟨(s, k), c.boundless⟩).FlushedAtLaunches := by
  obtain ⟨course, result, hruns, hwhole, _⟩ := exists_course_boundless settings s k c
  rw [hwhole]
  exact hruns.flushedAtLaunches.visible c.filter

theorem run_taken_or_refused (settings : Settings) (s : Script) (k : κ) (c : Console) :
    c.Takes ((run settings).trace ⟨(s, k), c.boundless⟩) ∧
        (run settings).trace ⟨(s, k), c⟩ = (run settings).trace ⟨(s, k), c.boundless⟩ ∧
        (run settings).result ⟨(s, k), c⟩ = (run settings).result ⟨(s, k), c.boundless⟩ ∨
      ∃ before event later stump error,
        (run settings).trace ⟨(s, k), c.boundless⟩ = before ++ event :: later ∧ c.Takes before ∧
          (c.after before).refusal? event = some (stump, error) ∧
          (run settings).trace ⟨(s, k), c⟩ = before ++ stump ∧
          (run settings).result ⟨(s, k), c⟩ = .error error := by
  rcases c.takes_or_refuses ((run settings).trace ⟨(s, k), c.boundless⟩) with
    hall | ⟨before, event, later, stump, error, hwhole, htaken, hrefused⟩
  · exact .inl ⟨hall, run_of_takes hall⟩
  · exact .inr ⟨before, event, later, stump, error, hwhole, htaken, hrefused,
      run_of_refusal hwhole htaken hrefused⟩

/-- What is seen of a session on streams with limits is the beginning of what would be seen. -/
theorem run_prefix (settings : Settings) (s : Script) (k : κ) (c : Console) :
    ((run settings).trace ⟨(s, k), c⟩).milestones <+:
        ((run settings).trace ⟨(s, k), c.boundless⟩).milestones ∧
      ∀ stream, ((run settings).trace ⟨(s, k), c⟩).written stream <+:
        ((run settings).trace ⟨(s, k), c.boundless⟩).written stream := by
  rcases run_taken_or_refused settings s k c with
    ⟨_, hsame, _⟩ | ⟨before, event, later, stump, error, hwhole, _, hrefused, hseen, _⟩
  · rw [hsame]
    exact ⟨List.prefix_rfl, fun _ => List.prefix_rfl⟩
  · rw [hseen, hwhole]
    exact Trace.prefix_of_refusal? hrefused before later

theorem run_of_flush_refused {settings : Settings} {s : Script} {k : κ} {c : Console}
    {earlier later : Trace} {argv : List Bytes}
    (h : (run settings).trace ⟨(s, k), c.boundless⟩ =
      earlier ++ [.flushed .out] ++ .launched argv :: later)
    (htaken : c.Takes earlier) (hnot : ¬ c.Takes (earlier ++ [.flushed .out])) :
    (run settings).trace ⟨(s, k), c⟩ = earlier ∧
      (run settings).result ⟨(s, k), c⟩ = .error (Output.refusedFlush .out) := by
  have hflush : ¬ (c.after earlier).Takes [.flushed .out] := fun hflush =>
    hnot (Console.takes_append.mpr ⟨htaken, hflush⟩)
  rw [List.append_assoc, List.singleton_append] at h
  have hrun := run_of_refusal h htaken (Console.refusal?_flushed hflush)
  rwa [List.append_nil] at hrun

/-- A session on streams with limits is the session without limits, up to the first write or flush
that is refused. There it ends at once with the error of the refusal, and what was to come next is
not done: where the flush before a launch is refused, nothing is launched. -/
theorem run_until_refusal (settings : Settings) (s : Script) (k : κ) (c : Console) :
    let whole := (run settings).trace ⟨(s, k), c.boundless⟩
    let seen := (run settings).trace ⟨(s, k), c⟩
    let result := (run settings).result ⟨(s, k), c⟩
    (c.Takes whole ∧ seen = whole ∧ result = (run settings).result ⟨(s, k), c.boundless⟩ ∨
      ∃ before event later stump error, whole = before ++ event :: later ∧ c.Takes before ∧
        (c.after before).refusal? event = some (stump, error) ∧ seen = before ++ stump ∧
        result = .error error) ∧
    seen.milestones <+: whole.milestones ∧ (∀ stream, seen.written stream <+: whole.written stream) ∧
    ∀ before argv later, whole = before ++ .launched argv :: later →
      ∃ earlier, before = earlier ++ [.flushed .out] ∧
        (c.Takes earlier → ¬ c.Takes before →
          seen = earlier ∧ result = .error (Output.refusedFlush .out)) := by
  intro whole seen result
  obtain ⟨hmilestones, hwritten⟩ := run_prefix settings s k c
  refine ⟨run_taken_or_refused settings s k c, hmilestones, hwritten,
    fun before argv later hwhole => ?_⟩
  obtain ⟨earlier, rfl⟩ := flushedAtLaunches_boundless settings s k c before argv later hwhole
  exact ⟨earlier, rfl, run_of_flush_refused hwhole⟩

end Session

end RestrictedShell
