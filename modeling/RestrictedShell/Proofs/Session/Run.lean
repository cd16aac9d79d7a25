import RestrictedShell.Proofs.Session.Step

namespace RestrictedShell.Session

variable {ε : Type} [Environment ε]

/-- The course of asking for a line. -/
def askCourse (prompt : String) (e : ε) : Course ε :=
  match Environment.promptStream e with
  | none => [(.asked (Text.encode prompt), (Environment.next e).2)]
  | some s => [(.wrote s (Text.encode prompt), e), (.flushed s, (Environment.next e).2)]

/-- The complaint about a failed read. -/
def readComplaint : Event :=
  .wrote .err (Text.encode "error reading command\n")

/-- What is done about a failed read, which is this many failures in a row. -/
def complaint (error : ReadError) (failures : UInt32) : Trace :=
  [.logged (.readFailed error failures), .wrote .err (Text.encode "error reading command\n")]

/-- `Runs settings failures e course result`: after this many failures in a row, a session in the
environment `e` takes this course to this result. -/
inductive Runs (settings : Settings) : UInt32 → ε → Course ε → Except IoError Ending → Prop
  | endOfInput {failures : UInt32} {e : ε} (hread : (Environment.next e).1 = .endOfInput) :
      Runs settings failures e
        (askCourse settings.prompt e ++ Course.still (Environment.next e).2 [.logged .endOfInput])
        (.ok .endOfInput)
  | quit {failures : UInt32} {e : ε} {line : Bytes} (hread : (Environment.next e).1 = .line line)
      (hquit : classify line = .quit) :
      Runs settings failures e
        (askCourse settings.prompt e ++
          Course.still (Environment.next e).2 [.logged .dispatching, .logged .quitRequested])
        (.ok .quit)
  | broken {failures : UInt32} {e : ε} {line : Bytes} {error : IoError}
      (hread : (Environment.next e).1 = .line line)
      (hstep : stepResult line (Environment.next e).2 = .error error) :
      Runs settings failures e
        (askCourse settings.prompt e ++ stepCourse line (Environment.next e).2) (.error error)
  | proceed {failures : UInt32} {e : ε} {line : Bytes} {course : Course ε}
      {result : Except IoError Ending} (hread : (Environment.next e).1 = .line line)
      (hstep : stepResult line (Environment.next e).2 = .ok .proceed)
      (hrest : Runs settings 0
        ((stepCourse line (Environment.next e).2).env (Environment.next e).2) course result) :
      Runs settings failures e
        (askCourse settings.prompt e ++ (stepCourse line (Environment.next e).2 ++ course)) result
  | exhausted {failures : UInt32} {e : ε} {error : ReadError}
      (hread : (Environment.next e).1 = .failed error)
      (hlimit : settings.maxReadFailures ≤ failures + 1) :
      Runs settings failures e
        (askCourse settings.prompt e ++ Course.still (Environment.next e).2
          (complaint error (failures + 1) ++ [.logged .inputKeepsFailing])) (.ok .readFailures)
  | retry {failures : UInt32} {e : ε} {error : ReadError} {course : Course ε}
      {result : Except IoError Ending} (hread : (Environment.next e).1 = .failed error)
      (hlimit : ¬ settings.maxReadFailures ≤ failures + 1)
      (hrest : Runs settings (failures + 1) (Environment.next e).2 course result) :
      Runs settings failures e
        (askCourse settings.prompt e ++ (Course.still (Environment.next e).2
          (complaint error (failures + 1)) ++ course)) result

theorem flow_ne_quit (l : Launched) : l.flow ≠ .ok .quit := by
  obtain ⟨log, error | ⟨output, remark, settled, error | outcome⟩⟩ := l <;>
    simp [Launched.flow, Except.map]

theorem stepResult_eq_quit_iff {line : Bytes} {e : ε} :
    stepResult line e = .ok .quit ↔ classify line = .quit := by
  unfold stepResult respondResult
  cases classify line with
  | external i => simp [flow_ne_quit]
  | _ => simp

theorem not_quit_of_proceed {line : Bytes} {e : ε} (h : stepResult line e = .ok .proceed) :
    classify line ≠ .quit := by
  intro hquit
  rw [stepResult_eq_quit_iff.mpr hquit] at h
  cases h

theorem pending_stepCourse_le (line : Bytes) (e : ε) :
    Environment.pending ((stepCourse line e).env e) ≤ Environment.pending e := by
  unfold stepCourse respondCourse
  rw [Course.env_append, Course.env_still, Course.env_append, Course.env_still]
  cases classify line with
  | external i =>
      simp only [launchCourse, Course.env_still_cons]
      exact Environment.pending_launch_le i e
  | _ => exact Nat.le_refl _

theorem toNat_succ {settings : Settings} {failures : UInt32}
    (h : failures.toNat < max 1 settings.maxReadFailures.toNat) :
    (failures + 1).toNat = failures.toNat + 1 := by
  have hlimit := settings.maxReadFailures.toNat_lt
  rw [UInt32.toNat_add, UInt32.toNat_one]
  omega

/-- Every session has a course. -/
theorem exists_runs (settings : Settings) (failures : UInt32) (e : ε) :
    ∃ course result, Runs settings failures e course result := by
  cases hread : (Environment.next e).1 with
  | endOfInput => exact ⟨_, _, .endOfInput hread⟩
  | line line =>
      have hless := Environment.pending_next_line e line hread
      have hkept := pending_stepCourse_le line (Environment.next e).2
      cases hstep : stepResult line (Environment.next e).2 with
      | error error => exact ⟨_, _, .broken hread hstep⟩
      | ok flow =>
          cases flow with
          | quit => exact ⟨_, _, .quit hread (stepResult_eq_quit_iff.mp hstep)⟩
          | proceed =>
              obtain ⟨course, result, hrest⟩ := exists_runs settings 0
                ((stepCourse line (Environment.next e).2).env (Environment.next e).2)
              exact ⟨_, _, .proceed hread hstep hrest⟩
  | failed error =>
      have hle := Environment.pending_next_le e
      by_cases hlimit : settings.maxReadFailures ≤ failures + 1
      · exact ⟨_, _, .exhausted hread hlimit⟩
      · have hless := patience_succ_lt hlimit
        obtain ⟨course, result, hrest⟩ := exists_runs settings (failures + 1) (Environment.next e).2
        exact ⟨_, _, .retry hread hlimit hrest⟩
termination_by (Environment.pending e, patience settings failures)
decreasing_by
  -- A line uses up some of the supply; a failed read that does not, uses up patience.
  · exact Prod.Lex.left _ _ (Nat.lt_of_le_of_lt hkept hless)
  · rcases Nat.lt_or_eq_of_le hle with hlt | heq
    · exact Prod.Lex.left _ _ hlt
    · rw [heq]
      exact Prod.Lex.right _ hless

theorem runFrom_of_done {settings : Settings} {failures : UInt32} {w : World ε}
    {result : EStateM.Result IoError (World ε) Ending}
    (h : turn settings failures w = .done result) : runFrom settings failures w = result := by
  rw [runFrom]
  split
  · rename_i hturn
    rw [h] at hturn
    cases hturn
    rfl
  · rename_i hturn
    rw [h] at hturn
    cases hturn

theorem runFrom_of_again {settings : Settings} {failures failures' : UInt32} {w w' : World ε}
    (h : turn settings failures w = .again failures' w') :
    runFrom settings failures w = runFrom settings failures' w' := by
  rw [runFrom]
  split
  · rename_i hturn
    rw [h] at hturn
    cases hturn
  · rename_i hturn
    rw [h] at hturn
    cases hturn
    rfl

/-- Prompts are refused neither where the source shows them by itself nor where the console refuses
nothing. -/
def Heard (ε : Type) [Environment ε] (c : Console) : Prop :=
  (∀ e : ε, Environment.promptStream e = none) ∨ c.Unlimited

theorem Heard.of_enact {course : Course ε} {w w' : World ε} {u : Unit}
    (h : Action.enact course w = .ok u w') (hheard : Heard ε w.console) :
    Heard ε w'.console :=
  hheard.imp id (Action.unlimited_of_enact h)

theorem exists_ask (prompt : String) (e : ε) {c : Console} (hheard : Heard ε c) :
    ∃ c', Environment.ask prompt ⟨e, c⟩ =
        ((Environment.next e).1, ⟨(Environment.next e).2, c'⟩) ∧
      Action.enact (askCourse prompt e) ⟨e, c⟩ = .ok () ⟨(Environment.next e).2, c'⟩ := by
  unfold Environment.ask askCourse
  cases hstream : Environment.promptStream e with
  | none =>
      dsimp only
      exact ⟨_, rfl, rfl⟩
  | some s =>
      have hfree : c.Unlimited := hheard.resolve_left fun h => by simp [h e] at hstream
      obtain ⟨c', hwrite, hc'⟩ :=
        Output.exists_perform_of_unlimited (.wrote s (Text.encode prompt)) hfree
      obtain ⟨c'', hflush, _⟩ := Output.exists_perform_of_unlimited (.flushed s) hc'
      have hshown : (do Output.writeText s prompt; Output.flush s : Output Unit) c =
          .ok () c'' := by
        change EStateM.bind (Output.perform (.wrote s (Text.encode prompt)))
          (fun _ => Output.perform (.flushed s)) c = _
        simp only [EStateM.bind, hwrite, hflush]
      have hfirst : Action.happen (.wrote s (Text.encode prompt)) e ⟨e, c⟩ =
          .ok () ⟨e, c'⟩ := by
        unfold Action.happen
        simp only [hwrite]
      have hsecond : Action.happen (.flushed s) (Environment.next e).2 ⟨e, c'⟩ =
          .ok () ⟨(Environment.next e).2, c''⟩ := by
        unfold Action.happen
        simp only [hflush]
      dsimp only
      refine ⟨c'', ?_, ?_⟩
      · simp only [hshown]
        rfl
      · simp only [Action.enact, bind_pure_unit]
        rw [Action.bind_ok hfirst, hsecond]

theorem turn_of_line {settings : Settings} {failures : UInt32} {w : World ε} {line : Bytes}
    {answer : Reading × World ε} (hask : Environment.ask settings.prompt w = answer)
    (hread : answer.1 = .line line) :
    turn settings failures w =
      match step line answer.2 with
      | .ok .proceed w => .again 0 w
      | .ok .quit w => .done (.ok .quit { w with console := w.console.log .quitRequested })
      | .error e w => .done (.error e w) := by
  obtain ⟨reading, w'⟩ := answer
  cases hread
  cases hstep : step line w' with
  | error e w => simp only [turn, hask, hstep]
  | ok flow w => cases flow <;> simp only [turn, hask, hstep]

theorem turn_of_failed {settings : Settings} {failures : UInt32} {w : World ε} {error : ReadError}
    {answer : Reading × World ε} (hask : Environment.ask settings.prompt w = answer)
    (hread : answer.1 = .failed error) :
    turn settings failures w = afterFailure settings error (failures + 1) answer.2 := by
  obtain ⟨reading, w'⟩ := answer
  cases hread
  unfold turn
  rw [hask]

omit [Environment ε] in
theorem follows_complain (error : ReadError) (failures : UInt32) (e : ε) :
    Action.Follows (complain error failures) e (Course.still e (complaint error failures))
      (.ok ()) :=
  Action.follows_bind_still (Action.follows_log _ e) (Action.follows_writeText .err _ e)

theorem Runs.runFrom_eq {settings : Settings} {failures : UInt32} {e : ε} {course : Course ε}
    {result : Except IoError Ending} (h : Runs settings failures e course result) {c : Console}
    (hheard : Heard ε c) :
    runFrom settings failures ⟨e, c⟩ =
      (do Action.enact course; Action.conclude result : Action ε Ending) ⟨e, c⟩ := by
  induction h generalizing c with
  | @endOfInput failures e hread =>
      obtain ⟨c', hask, henact⟩ := exists_ask settings.prompt e hheard
      rw [Action.enact_append, bind_assoc, Action.bind_ok henact]
      apply runFrom_of_done
      unfold turn
      rw [hask, hread]
      rfl
  | @quit failures e line hread hquit =>
      obtain ⟨c', hask, henact⟩ := exists_ask settings.prompt e hheard
      rw [Action.enact_append, bind_assoc, Action.bind_ok henact]
      apply runFrom_of_done
      unfold turn
      rw [hask, hread]
      dsimp only [step]
      rw [hquit]
      rfl
  | @broken failures e line error hread hstep =>
      obtain ⟨c', hask, henact⟩ := exists_ask settings.prompt e hheard
      have hfollows := follows_step line (Environment.next e).2
      rw [hstep] at hfollows
      rw [Action.enact_append, bind_assoc, Action.bind_ok henact]
      rcases hfollows.enacted c' with ⟨error', w, hrun, hline⟩ | ⟨c'', hrun, hline⟩
      · rw [Action.bind_error hrun]
        exact runFrom_of_done (by rw [turn_of_line hask hread, hline])
      · rw [Action.bind_ok hrun]
        exact runFrom_of_done (by rw [turn_of_line hask hread, hline]; rfl)
  | @proceed failures e line course result hread hstep hrest ih =>
      obtain ⟨c', hask, henact⟩ := exists_ask settings.prompt e hheard
      have hfollows := follows_step line (Environment.next e).2
      rw [hstep] at hfollows
      rw [Action.enact_append, bind_assoc, Action.bind_ok henact, Action.enact_append, bind_assoc]
      rcases hfollows.enacted c' with ⟨error', w, hrun, hline⟩ | ⟨c'', hrun, hline⟩
      · rw [Action.bind_error hrun]
        exact runFrom_of_done (by rw [turn_of_line hask hread, hline])
      · rw [Action.bind_ok hrun, ← ih ((hheard.of_enact henact).of_enact hrun)]
        exact runFrom_of_again (by rw [turn_of_line hask hread, hline]; rfl)
  | @exhausted failures e error hread hlimit =>
      obtain ⟨c', hask, henact⟩ := exists_ask settings.prompt e hheard
      have hfollows := follows_complain error (failures + 1) (Environment.next e).2
      rw [Action.enact_append, bind_assoc, Action.bind_ok henact, Course.still_append,
        Action.enact_append, bind_assoc]
      rcases hfollows.enacted c' with ⟨error', w, hrun, hline⟩ | ⟨c'', hrun, hline⟩
      · rw [Action.bind_error hrun]
        exact runFrom_of_done (by rw [turn_of_failed hask hread, afterFailure, hline])
      · rw [Action.bind_ok hrun]
        apply runFrom_of_done
        rw [turn_of_failed hask hread, afterFailure, hline]
        change (if _ then _ else _) = _
        rw [if_pos hlimit]
        rfl
  | @retry failures e error course result hread hlimit hrest ih =>
      obtain ⟨c', hask, henact⟩ := exists_ask settings.prompt e hheard
      have hfollows := follows_complain error (failures + 1) (Environment.next e).2
      rw [Action.enact_append, bind_assoc, Action.bind_ok henact, Action.enact_append, bind_assoc]
      rcases hfollows.enacted c' with ⟨error', w, hrun, hline⟩ | ⟨c'', hrun, hline⟩
      · rw [Action.bind_error hrun]
        exact runFrom_of_done (by rw [turn_of_failed hask hread, afterFailure, hline])
      · have hnext := (hheard.of_enact henact).of_enact hrun
        rw [Course.env_still] at hrun hline
        rw [Action.bind_ok hrun, ← ih hnext]
        apply runFrom_of_again
        rw [turn_of_failed hask hread, afterFailure, hline]
        change (if _ then _ else _) = _
        rw [if_neg hlimit]

/-- What is seen of a session is its course, curtailed by what the console refuses. -/
theorem exists_course (settings : Settings) {w : World ε} (hheard : Heard ε w.console) :
    ∃ course result stop, Runs settings 0 w.env course result ∧
      Trace.Curtailed w.console.filter course.trace ((run settings).trace w) stop ∧
      (run settings).result w = (stop.map .error).getD result ∧
      (w.console.Unlimited → stop = none) := by
  obtain ⟨course, result, hruns⟩ := exists_runs settings 0 w.env
  obtain ⟨stop, hseen, hresult, hfree, _⟩ := Action.exists_stop (hruns.runFrom_eq hheard)
  exact ⟨course, result, stop, hruns, hseen, hresult, hfree⟩

end RestrictedShell.Session
