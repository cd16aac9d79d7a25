import RestrictedShell.Proofs.Session.Supervision

namespace RestrictedShell

open Launcher

theorem Balanced.append {κ : Type} [Launcher κ] {k : κ} {a b : Trace} (ha : Balanced k a)
    (hb : Balanced (following k a) b) : Balanced k (a ++ b) where
  single := by
    rintro before ⟨after, htrace⟩
    rcases List.append_eq_append_iff.mp htrace with ⟨rest, rfl, _⟩ | ⟨rest, rfl, rfl⟩
    · exact ha.single before (List.prefix_append before rest)
    · rw [outstanding_append, ha.ended, Int.zero_add]
      exact hb.single rest (List.prefix_append rest after)
  asked := by
    intro before after prompt htrace
    rcases Trace.append_split htrace with ⟨rest, hfirst, _⟩ | ⟨rest, rfl, hsecond⟩
    · exact ha.asked hfirst
    · rw [outstanding_append, ha.ended, hb.asked hsecond]
      rfl
  ended := by
    rw [outstanding_append, ha.ended, hb.ended]
    rfl

namespace Session

variable {ε σ κ : Type} [Environment ε] [LineSource σ] [Launcher κ]

/-- The world after handling these lines one by one, whatever comes of each of them. -/
def afterSteps (lines : List Bytes) (w : World ε) : World ε :=
  lines.foldl (fun w line => (step line).worldAfter w) w

theorem supervised_step (line : Bytes) (w : World (σ × κ)) :
    Supervised w.env.2 ((step line).trace w) ((step line).result w) ∧
      ((step line).worldAfter w).console.history =
        w.console.history ++ (step line).trace w ∧
      ((step line).worldAfter w).env.2 = following w.env.2 ((step line).trace w) := by
  obtain ⟨stop, hseen, hresult, _, hhistory, taken, rest, hcourse, henv, hlaunches⟩ :=
    Action.exists_stop (follows_step line w.env w.console)
  have hattended := attended_step line w.env (Attended.nil _) Trace.rested_nil
  have htracks := Course.tracks_stepCourse line w.env
  rw [List.append_nil] at hattended
  rw [hcourse, Course.tracks_append] at htracks
  refine ⟨hseen.supervised hattended hresult, hhistory, ?_⟩
  rw [henv, htracks.1.env_eq, following_congr _ hlaunches]

theorem exists_history (lines : List Bytes) (w : World (σ × κ)) :
    ∃ before, (afterSteps lines w).console.history = w.console.history ++ before ∧
      (afterSteps lines w).env.2 = following w.env.2 before ∧ Balanced w.env.2 before := by
  induction lines generalizing w with
  | nil =>
      refine ⟨[], (List.append_nil _).symm, rfl, ?_, ?_, rfl⟩
      · intro before hprefix
        rw [List.prefix_nil.mp hprefix]
        exact ⟨Int.le_refl 0, Int.zero_le_ofNat 1⟩
      · intro before after prompt htrace
        simp at htrace
  | cons line lines ih =>
      obtain ⟨hsupervised, hfirst, hlauncher⟩ := supervised_step line w
      obtain ⟨before, hrest, hafter, hbalanced⟩ := ih ((step line).worldAfter w)
      rw [hlauncher] at hafter hbalanced
      refine ⟨(step line).trace w ++ before, ?_, ?_, hsupervised.balanced.append hbalanced⟩
      · rw [← List.append_assoc, ← hfirst]
        exact hrest
      · rw [following_append]
        exact hafter

/-- Every child that is launched is waited for before anything else is done, and then its end is
reported, in every session and in every sequence of steps, whatever the streams refuse. -/
theorem children_supervised (w : World (Script × κ)) :
    (∀ settings,
      Supervised w.env.2 ((run settings).trace w) ((run settings).result w) ∧
        Balanced w.env.2 ((run settings).trace w)) ∧
      ∀ lines line, ∃ before,
        (afterSteps lines w).console.history = w.console.history ++ before ∧
          Balanced w.env.2 before ∧
          Supervised (following w.env.2 before) ((step line).trace (afterSteps lines w))
            ((step line).result (afterSteps lines w)) ∧
          Balanced (following w.env.2 before) ((step line).trace (afterSteps lines w)) := by
  constructor
  · intro settings
    obtain ⟨course, result, stop, hruns, hseen, hresult, _⟩ :=
      exists_course settings (Script.heard w.console)
    have hsupervised := hseen.supervised hruns.attended hresult
    exact ⟨hsupervised, hsupervised.balanced⟩
  · intro lines line
    obtain ⟨before, hhistory, hlauncher, hbalanced⟩ := exists_history lines w
    obtain ⟨hsupervised, _⟩ := supervised_step line (afterSteps lines w)
    rw [hlauncher] at hsupervised
    exact ⟨before, hhistory, hbalanced, hsupervised, hsupervised.balanced⟩

end Session

end RestrictedShell
