import RestrictedShell.Proofs.Console
import RestrictedShell.Session
/-!
The course of an action: all that it does, event by event, as long as no stream refuses anything. It
depends on the environment alone, so that one course describes what the action does on every
console: the console performs the events in turn and stops at the first that it refuses.
-/

namespace RestrictedShell

/-- Events in their order, each with the environment that it leaves. -/
abbrev Course (ε : Type) := List (Event × ε)

namespace Course

variable {ε : Type}

def trace (course : Course ε) : Trace :=
  course.map Prod.fst

/-- The environment after all events. -/
def env (e : ε) : Course ε → ε
  | [] => e
  | (_, e') :: rest => env e' rest

/-- Events that leave the environment as it is. -/
def still (e : ε) (trace : Trace) : Course ε :=
  trace.map fun event => (event, e)

theorem trace_append (a b : Course ε) : (a ++ b).trace = a.trace ++ b.trace :=
  List.map_append

@[simp]
theorem trace_still (e : ε) (t : Trace) : (still e t).trace = t := by
  simp [trace, still, Function.comp_def]

theorem still_append (e : ε) (t u : Trace) : still e (t ++ u) = still e t ++ still e u :=
  List.map_append

theorem env_append (e : ε) (a b : Course ε) : (a ++ b).env e = b.env (a.env e) := by
  induction a generalizing e with
  | nil => rfl
  | cons moment a ih => exact ih moment.2

@[simp]
theorem env_still (e : ε) (t : Trace) : (still e t).env e = e := by
  induction t with
  | nil => rfl
  | cons _ t ih => exact ih

theorem env_still_cons (e e' : ε) (event : Event) (t : Trace) :
    (still e' (event :: t)).env e = e' :=
  env_still e' t

end Course

namespace Action

variable {ε α β : Type}

/-- All that happens while an action runs. -/
def trace (a : Action ε α) (w : World ε) : Trace :=
  (a.worldAfter w).console.history.drop w.console.history.length

/-- How an action ends. -/
def result (a : Action ε α) (w : World ε) : Except IoError α :=
  match a w with
  | .ok x _ => .ok x
  | .error error _ => .error error

theorem bind_ok {a : Action ε α} {f : α → Action ε β} {w w' : World ε} {x : α}
    (ha : a w = .ok x w') : (a >>= f) w = f x w' := by
  change EStateM.bind a f w = _
  simp only [EStateM.bind, ha]

theorem bind_error {a : Action ε α} {f : α → Action ε β} {w w' : World ε} {error : IoError}
    (ha : a w = .error error w') : (a >>= f) w = .error error w' := by
  change EStateM.bind a f w = _
  simp only [EStateM.bind, ha]

/-- Performs an event, and goes over to another environment if the console takes it. -/
def happen (event : Event) (after : ε) : Action ε Unit := fun w =>
  match Output.perform event w.console with
  | .ok _ c => .ok () ⟨after, c⟩
  | .error error c => .error error ⟨w.env, c⟩

/-- Performs the events of a course in turn. -/
def enact : Course ε → Action ε Unit
  | [] => pure ()
  | (event, after) :: rest => do
      happen event after
      enact rest

/-- Ends with a result. -/
def conclude : Except IoError α → Action ε α
  | .ok x => pure x
  | .error error => throw error

theorem enact_append (a b : Course ε) :
    enact (a ++ b) = (do enact a; enact b : Action ε Unit) := by
  induction a with
  | nil => simp only [enact, List.nil_append, pure_bind]
  | cons moment a ih => simp only [enact, List.cons_append, ih, bind_assoc]

theorem env_of_enact {course : Course ε} {w w' : World ε} {u : Unit}
    (h : enact course w = .ok u w') : w'.env = course.env w.env := by
  induction course generalizing w with
  | nil =>
      cases h
      rfl
  | cons moment rest ih =>
      cases hfirst : happen moment.1 moment.2 w with
      | error error w'' =>
          rw [enact, bind_error hfirst] at h
          cases h
      | ok u w'' =>
          rw [enact, bind_ok hfirst] at h
          have henv : w''.env = moment.2 := by
            unfold happen at hfirst
            split at hfirst
            · cases hfirst
              rfl
            · cases hfirst
          rw [ih h, henv]
          rfl

theorem unlimited_of_enact {course : Course ε} {w w' : World ε} {u : Unit}
    (h : enact course w = .ok u w') (hw : w.console.Unlimited) : w'.console.Unlimited := by
  induction course generalizing w with
  | nil =>
      cases h
      exact hw
  | cons moment rest ih =>
      obtain ⟨event, after⟩ := moment
      obtain ⟨c, hc, hkept⟩ := Output.exists_perform_of_unlimited event hw
      have hfirst : happen event after w = .ok () ⟨after, c⟩ := by
        unfold happen
        rw [hc]
      rw [enact, bind_ok hfirst] at h
      exact ih h hkept

/-- In the environment `e` the action follows a course and ends with a result, unless the console
refuses something. -/
def Follows (a : Action ε α) (e : ε) (course : Course ε) (result : Except IoError α) : Prop :=
  ∀ c, a ⟨e, c⟩ = (do enact course; conclude result : Action ε α) ⟨e, c⟩

/-- The console refuses something of the course, or takes all of it and the action ends with its
result. -/
theorem Follows.enacted {a : Action ε α} {e : ε} {course : Course ε} {result : Except IoError α}
    (h : Follows a e course result) (c : Console) :
    (∃ error w, enact course ⟨e, c⟩ = .error error w ∧ a ⟨e, c⟩ = .error error w) ∨
      ∃ c', enact course ⟨e, c⟩ = .ok () ⟨course.env e, c'⟩ ∧
        a ⟨e, c⟩ = conclude result ⟨course.env e, c'⟩ := by
  have ha := h c
  cases hrun : enact course ⟨e, c⟩ with
  | error error w =>
      rw [bind_error hrun] at ha
      exact .inl ⟨error, w, rfl, ha⟩
  | ok u w =>
      rw [bind_ok hrun] at ha
      obtain ⟨env, console⟩ := w
      obtain rfl : env = course.env e := env_of_enact hrun
      exact .inr ⟨console, rfl, ha⟩

theorem follows_pure (x : α) (e : ε) : Follows (pure x) e (Course.still e []) (.ok x) :=
  fun _ => rfl

theorem follows_throw (error : IoError) (e : ε) :
    Follows (throw error : Action ε α) e (Course.still e []) (.error error) :=
  fun _ => rfl

theorem follows_happen (event : Event) (e after : ε) :
    Follows (happen event after) e [(event, after)] (.ok ()) := by
  intro c
  simp only [enact, conclude, bind_pure_unit]

theorem follows_bind {a : Action ε α} {f : α → Action ε β} {e : ε} {course course' : Course ε}
    {x : α} {result : Except IoError β} (ha : Follows a e course (.ok x))
    (hf : Follows (f x) (course.env e) course' result) :
    Follows (a >>= f) e (course ++ course') result := by
  intro c
  rw [enact_append, bind_assoc]
  rcases ha.enacted c with ⟨error, w, hrun, hfirst⟩ | ⟨c', hrun, hfirst⟩
  · rw [bind_error hrun]
    exact bind_error hfirst
  · rw [bind_ok hrun]
    exact (bind_ok hfirst).trans (hf c')

theorem follows_bind_error {a : Action ε α} {f : α → Action ε β} {e : ε} {course : Course ε}
    {error : IoError} (ha : Follows a e course (.error error)) :
    Follows (a >>= f) e course (.error error) := by
  intro c
  rcases ha.enacted c with ⟨error', w, hrun, hfirst⟩ | ⟨c', hrun, hfirst⟩
  · rw [bind_error hrun]
    exact bind_error hfirst
  · rw [bind_ok hrun]
    exact bind_error hfirst

theorem exists_enact (course : Course ε) (result : Except IoError α) (w : World ε) :
    ∃ seen stop w', (do enact course; conclude result : Action ε α) w =
        conclude ((stop.map .error).getD result) w' ∧
      Trace.Curtailed w.console.filter course.trace seen stop ∧
      w'.console.history = w.console.history ++ seen ∧
      (w.console.Unlimited → stop = none) ∧
      ∃ taken rest, course = taken ++ rest ∧ w'.env = taken.env w.env ∧
        seen.launches = taken.trace.launches := by
  induction course generalizing w with
  | nil =>
      refine ⟨[], none, w, ?_, .nil, (List.append_nil _).symm, fun _ => rfl, [], [], rfl, rfl, rfl⟩
      simp only [enact, pure_bind, Option.map_none, Option.getD_none]
  | cons moment rest ih =>
      obtain ⟨event, after⟩ := moment
      have hperformed := Output.performed_perform event w.console
      cases hrun : Output.perform event w.console with
      | ok u c =>
          rw [hrun] at hperformed
          cases hperformed with
          | taken hhistory hfilter hkept =>
              have hfirst : happen event after w = .ok () ⟨after, c⟩ := by
                unfold happen
                rw [hrun]
              obtain ⟨seen, stop, w', hw', hseen, hrest, hfree, taken, left, rfl, henv, htaken⟩ :=
                ih ⟨after, c⟩
              refine ⟨Trace.visible w.console.filter [event] ++ seen, stop, w', ?_, ?_, ?_, ?_,
                (event, after) :: taken, left, rfl, henv, ?_⟩
              · rw [enact, bind_assoc, bind_ok hfirst]
                exact hw'
              · rw [← hfilter]
                exact .cons event hseen
              · rw [hrest, hhistory, List.append_assoc]
              · exact fun h => hfree (hkept h)
              · rw [Trace.launches_append, Trace.launches_visible, htaken]
                exact (Trace.launches_append [event] (Course.trace taken)).symm
      | error error c =>
          rw [hrun] at hperformed
          cases hperformed with
          | @refused _ stump _ hcut hhistory hfilter hlimited =>
              have hfirst : happen event after w = .error error ⟨w.env, c⟩ := by
                unfold happen
                rw [hrun]
              refine ⟨stump, some error, ⟨w.env, c⟩, ?_, .cut hcut, hhistory,
                fun h => absurd h hlimited, [], (event, after) :: rest, rfl, rfl, hcut.launches⟩
              rw [enact, bind_assoc, bind_error hfirst]
              rfl

/-- What comes of an action that follows a course in its world. -/
theorem exists_stop {a : Action ε α} {w : World ε} {course : Course ε}
    {result : Except IoError α}
    (h : a w = (do enact course; conclude result : Action ε α) w) :
    ∃ stop, Trace.Curtailed w.console.filter course.trace (a.trace w) stop ∧
      a.result w = (stop.map .error).getD result ∧ (w.console.Unlimited → stop = none) ∧
      (a.worldAfter w).console.history = w.console.history ++ a.trace w ∧
      ∃ taken rest, course = taken ++ rest ∧ (a.worldAfter w).env = taken.env w.env ∧
        (a.trace w).launches = taken.trace.launches := by
  obtain ⟨seen, stop, w', hw', hseen, hhistory, hfree, htaken⟩ := exists_enact course result w
  have hend : a.worldAfter w = w' ∧ a.result w = (stop.map .error).getD result := by
    unfold worldAfter Action.result
    rw [h.trans hw']
    cases (stop.map Except.error).getD result <;> exact ⟨rfl, rfl⟩
  have htrace : a.trace w = seen := by
    rw [trace, hend.1, hhistory, List.drop_left]
  rw [htrace, hend.1]
  exact ⟨stop, hseen, hend.2, hfree, hhistory, htaken⟩

end Action

end RestrictedShell
