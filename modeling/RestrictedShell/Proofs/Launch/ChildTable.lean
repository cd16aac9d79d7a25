import RestrictedShell.Launch.ChildTable
import RestrictedShell.Proofs.Launcher

namespace RestrictedShell.ChildTable

/-- No wait for a child of the table fails. -/
def Reliable (t : ChildTable) : Prop :=
  ∀ c child, .ok child ∈ t.answers c → ∃ outcome, child.ending = .ok outcome

theorem reliable_silent (outcome : Outcome) :
    Reliable ⟨fun _ => [.ok (.silent outcome)]⟩ := by
  intro c child hchild
  rw [Except.ok.inj (List.mem_singleton.mp hchild)]
  exact ⟨outcome, rfl⟩

theorem mem_of_mem_advance {answer : Except SpawnError Child}
    {answers : List (Except SpawnError Child)} (h : answer ∈ advance answers) :
    answer ∈ answers := by
  unfold advance at h
  split at h
  · exact List.mem_cons_of_mem _ h
  · exact h

theorem mem_of_mem_used {t : ChildTable} {c d : Command} {answer : Except SpawnError Child}
    (h : answer ∈ (t.used c).answers d) : answer ∈ t.answers d := by
  simp only [used] at h
  split at h
  · exact mem_of_mem_advance h
  · exact h

theorem mem_of_mem_following {t : ChildTable} {trace : Trace} {d : Command}
    {answer : Except SpawnError Child}
    (h : answer ∈ (Launcher.following t trace).answers d) : answer ∈ t.answers d := by
  unfold Launcher.following at h
  generalize trace.invocations = invocations at h
  induction invocations generalizing t with
  | nil => exact h
  | cons i invocations ih => exact mem_of_mem_used (ih h)

theorem Reliable.following {t : ChildTable} (h : t.Reliable) (trace : Trace) :
    (Launcher.following t trace).Reliable :=
  fun c child hchild => h c child (mem_of_mem_following hchild)

theorem mem_or_eq_silent {t : ChildTable} {c : Command} {child : Child}
    (h : t.answer c = .ok child) :
    .ok child ∈ t.answers c ∨ child = .silent (.exited 0) := by
  unfold answer at h
  cases hanswers : t.answers c with
  | nil =>
      rw [hanswers] at h
      cases h
      exact .inr rfl
  | cons first rest =>
      rw [hanswers] at h
      cases h
      exact .inl List.mem_cons_self

theorem Reliable.ending {t : ChildTable} (h : t.Reliable) {c : Command} {child : Child}
    (hchild : t.answer c = .ok child) : ∃ outcome, child.ending = .ok outcome := by
  rcases mem_or_eq_silent hchild with hmem | rfl
  · exact h c child hmem
  · exact ⟨.exited 0, rfl⟩

variable {σ : Type} [LineSource σ]

theorem Reliable.stepResult_ne_error {e : σ × ChildTable} (h : e.2.Reliable) (line : Bytes)
    (error : IoError) : Session.stepResult line e ≠ .error error := by
  unfold Session.stepResult Session.respondResult
  cases classify line with
  | external i =>
      change Launched.flow ⟨[], e.2.answer i.command⟩ ≠ .error error
      unfold Launched.flow
      cases hanswer : e.2.answer i.command with
      | error refusal => simp
      | ok child =>
          obtain ⟨outcome, houtcome⟩ := h.ending hanswer
          simp [houtcome, Except.map]
  | _ => simp

theorem Reliable.env_stepCourse {e : σ × ChildTable} (h : e.2.Reliable) (line : Bytes) :
    ((Session.stepCourse line e).env e).2.Reliable := by
  rw [(Course.tracks_stepCourse line e).env_eq]
  exact h.following _

end RestrictedShell.ChildTable
