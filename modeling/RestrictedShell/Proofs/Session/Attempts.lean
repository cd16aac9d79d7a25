import RestrictedShell.Proofs.Session.Advance

namespace RestrictedShell

/-- A launch together with what came of it: how the child ended, or why there is none, or the
failure of the wait. -/
structure Attempt where
  invocation : Invocation
  result : Except IoError (Except SpawnError Outcome)

section

variable {σ σ' κ : Type} [LineSource σ] [LineSource σ'] [Launcher κ]

theorem tracks_attending (i : Invocation) (e : σ × κ) :
    Course.Tracks e (Course.still (Environment.launch i e).2
      (.launched i.argv :: (Environment.launch i e).1.attending i)) :=
  ⟨(Launcher.following_launched e.2 i []).symm,
    Course.tracks_still _ fun event hevent => (Launched.attending_free i _ event hevent).2⟩

theorem attempt_congr (i : Invocation) {w : World (σ × κ)} {v : World (σ' × κ)}
    (h : w.Alike v) : (Environment.attempt i).result w = (Environment.attempt i).result v := by
  have hlaunch : (Environment.launch i w.env).1 = (Environment.launch i v.env).1 :=
    congrArg (fun k => (Launcher.launch i k).1) h.1
  have hv := Session.follows_attempt i v.env v.console
  have htrace : (Course.still (Environment.launch i w.env).2
      (.launched i.argv :: (Environment.launch i w.env).1.attending i)).trace =
        (Course.still (Environment.launch i v.env).2
          (.launched i.argv :: (Environment.launch i v.env).1.attending i)).trace := by
    rw [Course.trace_still, Course.trace_still, hlaunch]
  rw [← hlaunch] at hv
  exact (Action.alike_ended h (Session.follows_attempt i w.env w.console) hv (by rw [htrace, hlaunch])
    (tracks_attending i w.env) (hlaunch ▸ tracks_attending i v.env)).1

end

namespace World

variable {σ σ' κ : Type} [LineSource σ] [LineSource σ'] [Launcher κ]

/-- What came of the launches in a trace, each of them in the world as it was then. -/
def attempts (w : World (σ × κ)) : Trace → List Attempt
  | [] => []
  | event :: rest =>
      (Trace.invocations [event]).map (fun i => ⟨i, (Environment.attempt i).result w⟩) ++
        attempts ⟨(w.env.1, Launcher.following w.env.2 [event]), w.console.after [event]⟩ rest

theorem attempts_congr {w : World (σ × κ)} {v : World (σ' × κ)} (h : w.Alike v) (trace : Trace) :
    w.attempts trace = v.attempts trace := by
  induction trace generalizing w v with
  | nil => rfl
  | cons event rest ih =>
      have hnext : (⟨(w.env.1, Launcher.following w.env.2 [event]), w.console.after [event]⟩ :
          World (σ × κ)).Alike
            ⟨(v.env.1, Launcher.following v.env.2 [event]), v.console.after [event]⟩ :=
        ⟨congrArg (Launcher.following · [event]) h.1, Console.clear_after_congr h.2 [event]⟩
      rw [attempts, attempts, ih hnext]
      congr 1
      apply List.map_congr_left
      intro i _
      rw [attempt_congr i h]

theorem attempts_append (w : World (σ × κ)) (a b : Trace) :
    w.attempts (a ++ b) = w.attempts a ++
      attempts ⟨(w.env.1, Launcher.following w.env.2 a), w.console.after a⟩ b := by
  induction a generalizing w with
  | nil =>
      rw [Console.after_nil]
      rfl
  | cons event a ih =>
      rw [List.cons_append, attempts, attempts, ih, List.append_assoc, ← Launcher.following_append,
        ← Console.after_append, List.singleton_append]

theorem Advances.attempts_append {w w' : World (σ × κ)} {given : List Reading} {a : Trace}
    (h : w.Advances given a w') (b : Trace) :
    w.attempts (a ++ b) = w.attempts a ++ w'.attempts b := by
  have halike : (⟨(w.env.1, Launcher.following w.env.2 a), w.console.after a⟩ :
      World (σ × κ)).Alike w' := ⟨h.launcher.symm, by rw [h.console]⟩
  rw [World.attempts_append, attempts_congr halike]

end World

end RestrictedShell
