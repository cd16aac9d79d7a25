import RestrictedShell.Proofs.Launcher
import RestrictedShell.Proofs.Source.Script

namespace RestrictedShell

namespace Launcher

variable {κ : Type} [Launcher κ]

theorem following_start (k : κ) (i : Invocation) (later : Trace) :
    following k (.launched i.argv :: ((launch i k).1.aftermath i ++ later)) =
      following (launch i k).2 later := by
  rw [following_launched, following_append,
    following_free _ fun event hevent => ((launch i k).1.aftermath_free i event hevent).2]

/-- `Attended k course`: with the launcher `k`, all that belongs to a launch follows it in the
course before anything else does. -/
inductive Attended : κ → Trace → Prop
  | nil (k : κ) : Attended k []
  | cons {k : κ} {event : Event} {rest : Trace} (hlaunched : event.isLaunched = false)
      (hwaited : event.isWaited = false) (hrest : Attended k rest) : Attended k (event :: rest)
  | start {k : κ} {later : Trace} (i : Invocation) (hlater : Attended (launch i k).2 later)
      (hrested : later.Rested) :
      Attended k (.launched i.argv :: ((launch i k).1.aftermath i ++ later))

theorem Attended.append_free {k : κ} {a b : Trace} (h : Attended k b)
    (ha : ∀ event ∈ a, event.isLaunched = false ∧ event.isWaited = false) :
    Attended k (a ++ b) := by
  induction a with
  | nil => exact h
  | cons event a ih =>
      obtain ⟨hlaunched, hwaited⟩ := ha event List.mem_cons_self
      exact .cons hlaunched hwaited (ih fun e he => ha e (List.mem_cons_of_mem _ he))

theorem Attended.of_launched {k : κ} {before after : Trace} {argv : List Bytes}
    (h : Attended k (before ++ .launched argv :: after)) :
    ∃ i later, argv = i.argv ∧ after = (answer k before i).aftermath i ++ later ∧
      later.Rested := by
  generalize htrace : before ++ .launched argv :: after = trace at h
  induction h generalizing before with
  | nil => simp at htrace
  | @cons k event rest hlaunched hwaited hrest ih =>
      have hne : event ≠ .launched argv := by
        rintro rfl
        cases hlaunched
      obtain ⟨before', rfl, hlater⟩ := Trace.cons_split htrace.symm hne
      obtain ⟨i, later, hargv, hafter, hrested⟩ := ih hlater.symm
      refine ⟨i, later, hargv, ?_, hrested⟩
      rw [answer, following_cons_free k hlaunched]
      exact hafter
  | @start k later i hlater hrested ih =>
      cases before with
      | nil =>
          simp only [List.nil_append, List.cons.injEq, Event.launched.injEq] at htrace
          exact ⟨i, later, htrace.1, htrace.2, hrested⟩
      | cons first before =>
          simp only [List.cons_append, List.cons.injEq] at htrace
          obtain ⟨rfl, htrace⟩ := htrace
          rcases Trace.append_split htrace.symm with ⟨rest, hmem, _⟩ | ⟨before', rfl, hlast⟩
          · have hfree := ((launch i k).1.aftermath_free i (.launched argv) (by simp [hmem])).2
            cases hfree
          · obtain ⟨i', later', hargv, hafter, hrested'⟩ := ih hlast.symm
            refine ⟨i', later', hargv, ?_, hrested'⟩
            rw [answer, following_start]
            exact hafter

theorem Attended.of_waited {k : κ} {before after : Trace} {name : String}
    (h : Attended k (before ++ .waited name :: after)) :
    ∃ earlier i quiet child, before = earlier ++ .launched i.argv :: quiet ∧
      (∀ event ∈ quiet, event.isQuiet = true) ∧ (answer k earlier i).result = .ok child ∧
      name = i.command.name := by
  generalize htrace : before ++ .waited name :: after = trace at h
  induction h generalizing before with
  | nil => simp at htrace
  | @cons k event rest hlaunched hwaited hrest ih =>
      have hne : event ≠ .waited name := by
        rintro rfl
        cases hwaited
      obtain ⟨before', rfl, hlater⟩ := Trace.cons_split htrace.symm hne
      obtain ⟨earlier, i, quiet, child, rfl, hquiet, hchild, hname⟩ := ih hlater.symm
      refine ⟨event :: earlier, i, quiet, child, rfl, hquiet, ?_, hname⟩
      rw [answer, following_cons_free k hlaunched]
      exact hchild
  | @start k later i hlater hrested ih =>
      obtain ⟨before', rfl, htail⟩ := Trace.cons_split htrace.symm (by simp)
      rcases Trace.append_split htail with ⟨rest, haftermath, _⟩ | ⟨before'', rfl, hlast⟩
      · cases hresult : (launch i k).1.result with
        | error error =>
            have hfree := Launched.waited_free_aftermath (i := i) hresult (.waited name)
              (by simp [haftermath])
            cases hfree
        | ok child =>
            rw [Launched.aftermath_of_ok hresult] at haftermath
            obtain ⟨rfl, hname, _⟩ := Trace.split_unique (p := Event.isWaited)
              (fun event hevent => (Event.kinds_of_quiet
                ((launch i k).1.quiet_before_wait event hevent)).2.2)
              (fun event hevent => (List.mem_append.mp hevent).elim
                (fun hsaid => (child.said_free event hsaid).2.2)
                fun hconclusion => ((launch i k).1.conclusion_free i event hconclusion).2.2)
              rfl haftermath
            exact ⟨[], i, _, child, rfl, (launch i k).1.quiet_before_wait, hresult,
              Event.waited.inj hname⟩
      · obtain ⟨earlier, i', quiet, child, rfl, hquiet, hchild, hname⟩ := ih hlast.symm
        refine ⟨.launched i.argv :: ((launch i k).1.aftermath i ++ earlier), i', quiet, child,
          by simp, hquiet, ?_, hname⟩
        rw [answer, following_start]
        exact hchild

end Launcher

namespace Session

open Launcher

variable {κ : Type} [Launcher κ]

theorem attended_step {σ : Type} [LineSource σ] (line : Bytes) (e : σ × κ) {later : Trace}
    (hlater : Attended (following e.2 (stepCourse line e).trace) later) (hrested : later.Rested) :
    Attended e.2 ((stepCourse line e).trace ++ later) := by
  have hfree : ∀ event ∈ Event.logged .dispatching :: (classify line).opening,
      event.isLaunched = false ∧ event.isWaited = false := by
    intro event hevent
    rcases List.mem_cons.mp hevent with rfl | hevent
    · exact ⟨rfl, rfl⟩
    · exact ((classify line).opening_free event hevent).2
  rw [trace_stepCourse] at hlater ⊢
  rw [following_append, following_free _ fun event hevent => (hfree event hevent).1] at hlater
  rw [List.append_assoc]
  refine Attended.append_free ?_ hfree
  cases hline : classify line with
  | external i =>
      have hstate : following e.2 (.launched i.argv :: (Environment.launch i e).1.aftermath i) =
          (launch i e.2).2 := by
        have hstart := following_start e.2 i []
        rw [List.append_nil] at hstart
        exact hstart
      rw [hline, hstate] at hlater
      exact .start i hlater hrested
  | _ =>
      rw [hline] at hlater
      exact hlater

theorem Runs.rested {settings : Settings} {failures : UInt32} {e : Script × κ}
    {course : Course (Script × κ)} {result : Except IoError Ending}
    (h : Runs settings failures e course result) : course.trace.Rested := by
  cases h <;> simp [Trace.Rested, Script.trace_turn, Event.isAsked]

/-- All launches in the course of a session are attended to. -/
theorem Runs.attended {settings : Settings} {failures : UInt32} {e : Script × κ}
    {course : Course (Script × κ)} {result : Except IoError Ending}
    (h : Runs settings failures e course result) : Attended e.2 course.trace := by
  induction h with
  | @endOfInput failures e hread =>
      rw [Script.trace_turn, Course.trace_still]
      exact (Attended.nil _).append_free (a := [_, _])
        (by simp [Event.isLaunched, Event.isWaited])
  | @quit failures e line hread hquit =>
      rw [Script.trace_turn, Course.trace_still]
      exact (Attended.nil _).append_free (a := [_, _, _])
        (by simp [Event.isLaunched, Event.isWaited])
  | @broken failures e line error hread hstep =>
      rw [Script.trace_turn]
      have hturn := attended_step line (Environment.next e).2 (Attended.nil _) Trace.rested_nil
      rw [List.append_nil] at hturn
      exact .cons rfl rfl hturn
  | @proceed failures e line course result hread hstep hrest ih =>
      rw [Script.trace_turn, Course.trace_append]
      rw [(Course.tracks_stepCourse line _).env_eq] at ih
      exact .cons rfl rfl (attended_step line _ ih hrest.rested)
  | @exhausted failures e error hread hlimit =>
      rw [Script.trace_turn, Course.trace_still]
      exact (Attended.nil _).append_free (a := [_, _, _, _])
        (by simp [Event.isLaunched, Event.isWaited])
  | @retry failures e error course result hread hlimit hrest ih =>
      rw [Script.trace_turn, Course.trace_append, Course.trace_still]
      refine .cons rfl rfl (ih.append_free ?_)
      simp [complaint, Event.isLaunched, Event.isWaited]

end Session

end RestrictedShell
