import RestrictedShell.Proofs.Session.Step

namespace RestrictedShell

theorem Trace.launches_of_free {trace : Trace}
    (h : ∀ event ∈ trace, event.isLaunched = false) : trace.launches = [] := by
  refine List.filterMap_eq_nil_iff.mpr fun event hevent => ?_
  have hfree := h event hevent
  cases event with
  | launched argv => cases hfree
  | _ => rfl

theorem Trace.invocations_of_free {trace : Trace}
    (h : ∀ event ∈ trace, event.isLaunched = false) : trace.invocations = [] := by
  rw [invocations, launches_of_free h]
  rfl

theorem Trace.invocations_launched (i : Invocation) (rest : Trace) :
    invocations (.launched i.argv :: rest) = i :: rest.invocations := by
  have hfirst : invocations [.launched i.argv] = [i] := by
    change List.filterMap Invocation.ofArgv? [i.argv] = [i]
    rw [List.filterMap_cons_some (Invocation.ofArgv?_argv i), List.filterMap_nil]
  rw [← List.singleton_append, invocations_append, hfirst, List.singleton_append]

namespace Launcher

variable {κ : Type} [Launcher κ]

/-- The launcher after the launches of a trace. -/
def following (k : κ) (trace : Trace) : κ :=
  trace.invocations.foldl (fun k i => (launch i k).2) k

/-- The answer to a launch that comes after a trace. -/
def answer (k : κ) (before : Trace) (i : Invocation) : Launched :=
  (launch i (following k before)).1

/-- How many of these launches are accepted. -/
def accepted (k : κ) : List Invocation → Nat
  | [] => 0
  | i :: rest => (if (launch i k).1.result.isOk then 1 else 0) + accepted (launch i k).2 rest

/-- How many more children were launched in a trace than waited for. -/
def outstanding (k : κ) (trace : Trace) : Int :=
  accepted k trace.invocations - trace.countP Event.isWaited

theorem following_append (k : κ) (a b : Trace) :
    following k (a ++ b) = following (following k a) b := by
  simp only [following, Trace.invocations_append, List.foldl_append]

theorem following_launched (k : κ) (i : Invocation) (rest : Trace) :
    following k (.launched i.argv :: rest) = following (launch i k).2 rest := by
  rw [following, Trace.invocations_launched]
  rfl

theorem following_free (k : κ) {trace : Trace} (h : ∀ event ∈ trace, event.isLaunched = false) :
    following k trace = k := by
  rw [following, Trace.invocations_of_free h]
  rfl

theorem following_cons_free (k : κ) {event : Event} (h : event.isLaunched = false) (rest : Trace) :
    following k (event :: rest) = following k rest := by
  rw [← List.singleton_append, following_append, following_free k (by simpa using h)]

theorem following_congr (k : κ) {a b : Trace} (h : a.launches = b.launches) :
    following k a = following k b := by
  rw [following, following, Trace.invocations, Trace.invocations, h]

theorem following_visible (k : κ) (filter : Log.Filter) (trace : Trace) :
    following k (trace.visible filter) = following k trace :=
  following_congr k (Trace.launches_visible filter trace)

theorem answer_visible (k : κ) (filter : Log.Filter) (before : Trace) (i : Invocation) :
    answer k (Trace.visible filter before) i = answer k before i := by
  rw [answer, answer, following_visible]

theorem accepted_append (k : κ) (a b : List Invocation) :
    accepted k (a ++ b) = accepted k a + accepted (a.foldl (fun k i => (launch i k).2) k) b := by
  induction a generalizing k with
  | nil => exact (Nat.zero_add _).symm
  | cons i a ih =>
      simp only [List.cons_append, accepted, List.foldl_cons, ih]
      omega

theorem outstanding_append (k : κ) (a b : Trace) :
    outstanding k (a ++ b) = outstanding k a + outstanding (following k a) b := by
  simp only [outstanding, following, Trace.invocations_append, accepted_append, List.countP_append]
  omega

theorem outstanding_launched (k : κ) (before : Trace) (i : Invocation) :
    outstanding (following k before) [.launched i.argv] =
      if (answer k before i).result.isOk then 1 else 0 := by
  rw [outstanding, Trace.invocations_launched, accepted, answer]
  split <;> rfl

theorem outstanding_waited (k : κ) (name : String) : outstanding k [.waited name] = -1 := rfl

theorem outstanding_free (k : κ) {event : Event} (hlaunched : event.isLaunched = false)
    (hwaited : event.isWaited = false) : outstanding k [event] = 0 := by
  rw [outstanding, Trace.invocations_of_free (by simpa using hlaunched), List.countP_singleton,
    hwaited]
  rfl

end Launcher

namespace Course

variable {σ κ : Type} [Launcher κ]

/-- The launcher changes with the launches of the course, and with nothing else. -/
def Tracks : σ × κ → Course (σ × κ) → Prop
  | _, [] => True
  | e, (event, e') :: rest => e'.2 = Launcher.following e.2 [event] ∧ Tracks e' rest

theorem tracks_append {e : σ × κ} {a b : Course (σ × κ)} :
    Tracks e (a ++ b) ↔ Tracks e a ∧ Tracks (a.env e) b := by
  induction a generalizing e with
  | nil => simp [Tracks, env]
  | cons moment a ih =>
      simp only [List.cons_append, Tracks, ih, and_assoc]
      rfl

theorem tracks_still (e : σ × κ) {t : Trace} (h : ∀ event ∈ t, event.isLaunched = false) :
    Tracks e (still e t) := by
  induction t with
  | nil => trivial
  | cons event t ih =>
      refine ⟨?_, ih fun event' hevent' => h event' (List.mem_cons_of_mem _ hevent')⟩
      exact (Launcher.following_free e.2 (by simpa using h event List.mem_cons_self)).symm

theorem Tracks.env_eq {e : σ × κ} {course : Course (σ × κ)} (h : Tracks e course) :
    (course.env e).2 = Launcher.following e.2 course.trace := by
  induction course generalizing e with
  | nil => rfl
  | cons moment rest ih =>
      obtain ⟨event, e'⟩ := moment
      have hrest : (env e' rest).2 = Launcher.following e'.2 (trace rest) := ih h.2
      rw [h.1, ← Launcher.following_append] at hrest
      exact hrest

variable [LineSource σ]

theorem tracks_stepCourse (line : Bytes) (e : σ × κ) : Tracks e (Session.stepCourse line e) := by
  unfold Session.stepCourse Session.respondCourse
  have hopening : Tracks e (still e (classify line).opening) :=
    tracks_still e fun event hevent => ((classify line).opening_free event hevent).2.1
  refine tracks_append.mpr ⟨tracks_still e (by simp [Event.isLaunched]), ?_⟩
  rw [env_still]
  refine tracks_append.mpr ⟨hopening, ?_⟩
  rw [env_still]
  cases classify line with
  | external i =>
      refine ⟨(Launcher.following_launched e.2 i []).symm, tracks_still _ fun event hevent => ?_⟩
      exact (Launched.aftermath_free i _ event hevent).2
  | _ => trivial

theorem fst_env_stepCourse (line : Bytes) (e : σ × κ) :
    ((Session.stepCourse line e).env e).1 = e.1 := by
  unfold Session.stepCourse Session.respondCourse
  rw [env_append, env_still, env_append, env_still]
  cases classify line with
  | external i =>
      simp only [Session.launchCourse, env_still_cons]
      rfl
  | _ => rfl

end Course

end RestrictedShell
