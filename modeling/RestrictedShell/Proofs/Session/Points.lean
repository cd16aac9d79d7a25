import Mathlib.Logic.Relation
import RestrictedShell.Proofs.Launcher
import RestrictedShell.Proofs.Session.Refusal
/-!
The points of a session, between one turn and the next. What one turn can do is told first; what
holds at every point of a session, and where its launches come from, follows by induction. A session
goes on from each of its points as one that begins there.
-/

namespace RestrictedShell

/-- The source after this many readings. -/
def LineSource.after {σ : Type} [LineSource σ] (s : σ) : Nat → σ
  | 0 => s
  | n + 1 => (next (after s n)).2

/-- An event is a write on this stream, or a flush of it. -/
def Event.IsOn (s : Stream) : Event → Prop
  | .wrote s' _ | .flushed s' => s' = s
  | _ => False

theorem Event.not_launched_of_isOn {s : Stream} {event : Event} (h : event.IsOn s) :
    event.isLaunched = false := by
  cases event with
  | launched argv => cases h
  | _ => rfl

namespace Console

theorem isOn_of_refusal? {c : Console} {event : Event} {stump : Trace} {error : IoError}
    {s : Stream} (h : c.refusal? event = some (stump, error)) (hon : event.IsOn s) :
    ∀ event ∈ stump, event.IsOn s := by
  cases event with
  | wrote s' bytes =>
      simp only [refusal?] at h
      split at h
      · split at h
        · cases h
          simpa [Event.IsOn] using hon
        · cases h
      · cases h
  | flushed s' =>
      simp only [refusal?] at h
      split at h
      · cases h
        simp
      · cases h
  | _ => cases h

/-- Nothing was launched from the one console to the other. -/
def Idle (c c' : Console) : Prop :=
  ∃ seen, c'.history = c.history ++ seen ∧ ∀ event ∈ seen, event.isLaunched = false

theorem Idle.trans {c c' c'' : Console} (h : c.Idle c') (h' : c'.Idle c'') : c.Idle c'' := by
  obtain ⟨seen, hseen, hfree⟩ := h
  obtain ⟨seen', hseen', hfree'⟩ := h'
  refine ⟨seen ++ seen', by rw [hseen', hseen, List.append_assoc], fun event hevent => ?_⟩
  exact (List.mem_append.mp hevent).elim (hfree event) (hfree' event)

theorem idle_after (c : Console) {trace : Trace} (h : ∀ event ∈ trace, event.isLaunched = false) :
    c.Idle (c.after trace) :=
  ⟨_, history_after c trace, fun event hevent => h event (List.mem_of_mem_filter hevent)⟩

theorem idle_refl (c : Console) : c.Idle c :=
  ⟨[], (List.append_nil _).symm, by simp⟩

theorem idle_log (c : Console) (entry : Log.Entry) : c.Idle (c.log entry) := by
  rw [log_eq_after]
  exact idle_after c (by simp [Event.isLaunched])

end Console

namespace Session

/-- What the world is like after a turn. -/
def Turn.world {ε : Type} : Turn ε → World ε
  | .again _ w => w
  | .done (.ok _ w) => w
  | .done (.error _ w) => w

section Turns

variable {ε : Type} [Environment ε] {settings : Settings} {failures failures' : UInt32}
  {w w' : World ε}

theorem ended_of_again (h : turn settings failures w = .again failures' w') :
    Action.result (runFrom settings failures) w = Action.result (runFrom settings failures') w' ∧
      Action.worldAfter (runFrom settings failures) w =
        Action.worldAfter (runFrom settings failures') w' := by
  unfold Action.result Action.worldAfter
  rw [runFrom_of_again h]
  exact ⟨rfl, rfl⟩

theorem ended_of_done_ok {ending : Ending} (h : turn settings failures w = .done (.ok ending w')) :
    Action.result (runFrom settings failures) w = .ok ending ∧
      Action.worldAfter (runFrom settings failures) w = w' := by
  unfold Action.result Action.worldAfter
  rw [runFrom_of_done h]
  exact ⟨rfl, rfl⟩

theorem ended_of_done_error {error : IoError}
    (h : turn settings failures w = .done (.error error w')) :
    Action.result (runFrom settings failures) w = .error error ∧
      Action.worldAfter (runFrom settings failures) w = w' := by
  unfold Action.result Action.worldAfter
  rw [runFrom_of_done h]
  exact ⟨rfl, rfl⟩

/-- Another turn comes after a line that lets the session go on, or after a failed read that the
settings still allow. -/
theorem again_cases (h : turn settings failures w = .again failures' w') :
    (∃ line asked, Environment.ask settings.prompt w = (.line line, asked) ∧
        step line asked = .ok .proceed w' ∧ failures' = 0) ∨
      ∃ error asked, Environment.ask settings.prompt w = (.failed error, asked) ∧
        complain error (failures + 1) asked = .ok () w' ∧ failures' = failures + 1 ∧
        ¬ settings.maxReadFailures ≤ failures + 1 := by
  rcases hask : Environment.ask settings.prompt w with ⟨line | _ | error, asked⟩
  · rw [turn_of_line hask rfl] at h
    rcases hstep : step line asked with ⟨_ | _, w''⟩ | ⟨error, w''⟩ <;>
      simp only [hstep, Turn.again.injEq, reduceCtorEq] at h
    obtain ⟨rfl, rfl⟩ := h
    exact .inl ⟨line, asked, rfl, hstep, rfl⟩
  · simp only [turn, hask, reduceCtorEq] at h
  · rw [turn_of_failed hask rfl] at h
    obtain ⟨rfl, hlimit, _⟩ := afterFailure_again h
    unfold afterFailure at h
    cases hrun : complain error (failures + 1) asked with
    | error error w'' => simp only [hrun, reduceCtorEq] at h
    | ok u w'' =>
        simp only [hrun, if_neg hlimit, Turn.again.injEq, true_and] at h
        exact .inr ⟨error, asked, rfl, h ▸ hrun, rfl, hlimit⟩

theorem failures_lt_of_again (h : turn settings failures w = .again failures' w') :
    failures'.toNat < max 1 settings.maxReadFailures.toNat := by
  rcases again_cases h with ⟨_, _, _, _, rfl⟩ | ⟨_, _, _, _, rfl, hlimit⟩
  · rw [UInt32.toNat_zero]
    omega
  · rw [UInt32.le_iff_toNat_le] at hlimit
    omega

end Turns

section Asking

variable {ε : Type} [Environment ε]

theorem ask_of_takes {prompt : String} {w : World ε}
    (h : w.console.Takes (askCourse prompt w.env).trace) :
    Environment.ask prompt w = ((Environment.next w.env).1,
      ⟨(Environment.next w.env).2, w.console.after (askCourse prompt w.env).trace⟩) := by
  unfold askCourse at h ⊢
  unfold Environment.ask
  cases hstream : Environment.promptStream w.env with
  | none =>
      dsimp only
      rw [Console.record_asked]
      rfl
  | some s =>
      simp only [hstream, Course.trace, List.map_cons, List.map_nil] at h ⊢
      obtain ⟨hwrite, hflush⟩ := Console.takes_cons.mp h
      rw [Console.takes_singleton] at hflush
      have hshown : (do Output.writeText s prompt; Output.flush s : Output Unit) w.console =
          .ok () (w.console.after [.wrote s (Text.encode prompt), .flushed s]) := by
        change EStateM.bind (Output.write s (Text.encode prompt)) (fun _ => Output.flush s) _ = _
        rw [← List.singleton_append, Console.after_append]
        simp only [EStateM.bind, Output.write_eq, hwrite, Output.flush_eq, hflush]
      simp only [hshown]
      rfl

theorem ask_of_refusal {prompt : String} {w : World ε} {before later stump : Trace} {event : Event}
    {error : IoError} (hcourse : (askCourse prompt w.env).trace = before ++ event :: later)
    (htaken : w.console.Takes before)
    (hrefused : (w.console.after before).refusal? event = some (stump, error)) :
    Environment.ask prompt w =
      (.failed (.input error), ⟨w.env, w.console.after (before ++ stump)⟩) := by
  unfold askCourse at hcourse
  unfold Environment.ask
  cases hstream : Environment.promptStream w.env with
  | none =>
      simp only [hstream, Course.trace, List.map_cons, List.map_nil] at hcourse
      obtain ⟨rfl, rfl, _⟩ : before = [] ∧ .asked (Text.encode prompt) = event ∧ later = [] := by
        cases before <;> simp_all
      cases hrefused
  | some s =>
      simp only [hstream, Course.trace, List.map_cons, List.map_nil] at hcourse
      have hshown : (do Output.writeText s prompt; Output.flush s : Output Unit) w.console =
          .error error (w.console.after (before ++ stump)) := by
        change EStateM.bind (Output.write s (Text.encode prompt)) (fun _ => Output.flush s) _ = _
        cases before with
        | nil =>
            obtain ⟨rfl, _⟩ := List.cons.inj hcourse
            rw [Console.after_nil] at hrefused
            simp only [EStateM.bind, Output.write_eq, hrefused, List.nil_append]
        | cons first before =>
            obtain ⟨rfl, hflush⟩ := List.cons.inj hcourse
            obtain ⟨rfl, rfl, _⟩ : before = [] ∧ .flushed s = event ∧ later = [] := by
              cases before <;> simp_all
            rw [Console.takes_singleton] at htaken
            simp only [EStateM.bind, Output.write_eq, htaken, Output.flush_eq, hrefused,
              ← Console.after_append]
      simp only [hshown]

theorem exists_ask_of_not_takes {prompt : String} {w : World ε}
    (h : ¬ w.console.Takes (askCourse prompt w.env).trace) :
    ∃ s seen error, Environment.promptStream w.env = some s ∧
      Environment.ask prompt w = (.failed (.input error), ⟨w.env, w.console.after seen⟩) ∧
      ∀ event ∈ seen, event.IsOn s := by
  obtain ⟨before, event, later, stump, error, hcourse, htaken, hrefused⟩ :=
    (w.console.takes_or_refuses _).resolve_left h
  cases hstream : Environment.promptStream w.env with
  | none =>
      simp only [askCourse, hstream, Course.trace, List.map_cons, List.map_nil] at h
      exact absurd (Console.takes_singleton.mpr rfl) h
  | some s =>
      have hon : ∀ event ∈ (askCourse prompt w.env).trace, event.IsOn s := by
        simp [askCourse, hstream, Course.trace, Event.IsOn]
      rw [hcourse] at hon
      refine ⟨s, before ++ stump, error, rfl, ask_of_refusal hcourse htaken hrefused, ?_⟩
      intro shown hshown
      rcases List.mem_append.mp hshown with hbefore | hstump
      · exact hon shown (List.mem_append_left _ hbefore)
      · exact Console.isOn_of_refusal? hrefused (hon event (by simp)) shown hstump

theorem idle_ask (prompt : String) (w : World ε) :
    w.console.Idle (Environment.ask prompt w).2.console := by
  by_cases htakes : w.console.Takes (askCourse prompt w.env).trace
  · rw [ask_of_takes htakes]
    exact Console.idle_after _ (launched_free_askCourse prompt w.env)
  · obtain ⟨s, seen, error, _, hask, hon⟩ := exists_ask_of_not_takes htakes
    rw [hask]
    exact Console.idle_after _ fun event hevent => Event.not_launched_of_isOn (hon event hevent)

theorem next_of_ask_line {prompt : String} {w asked : World ε} {line : Bytes}
    (h : Environment.ask prompt w = (.line line, asked)) :
    (Environment.next w.env).1 = .line line ∧ asked.env = (Environment.next w.env).2 := by
  by_cases htakes : w.console.Takes (askCourse prompt w.env).trace
  · rw [ask_of_takes htakes, Prod.mk.injEq] at h
    exact ⟨h.1, h.2 ▸ rfl⟩
  · obtain ⟨s, seen, error, _, hask, _⟩ := exists_ask_of_not_takes htakes
    rw [hask] at h
    cases h

theorem env_of_ask (prompt : String) (w : World ε) :
    (Environment.ask prompt w).2.env = w.env ∨
      (Environment.ask prompt w).2.env = (Environment.next w.env).2 := by
  by_cases htakes : w.console.Takes (askCourse prompt w.env).trace
  · rw [ask_of_takes htakes]
    exact .inr rfl
  · obtain ⟨s, seen, error, _, hask, _⟩ := exists_ask_of_not_takes htakes
    rw [hask]
    exact .inl rfl

end Asking

section Complaining

variable {ε : Type}

theorem takes_complaint {error : ReadError} {failures : UInt32} {c : Console} :
    c.Takes (complaint error failures) ↔ c.Takes [readComplaint] := by
  rw [complaint, Console.takes_cons, Console.takes_congr (c.clear_after_logged _)]
  exact and_iff_right rfl

theorem complain_of_takes (error : ReadError) (failures : UInt32) {w : World ε}
    (h : w.console.Takes [readComplaint]) :
    complain error failures w = .ok () ⟨w.env, w.console.after (complaint error failures)⟩ := by
  have hrun := follows_complain error failures w.env w.console
  have htaken : w.console.Takes (Course.still w.env (complaint error failures)).trace := by
    rw [Course.trace_still]
    exact takes_complaint.mpr h
  rw [Action.bind_ok (Action.enact_of_takes htaken), Course.env_still, Course.trace_still] at hrun
  exact hrun

theorem exists_complain_of_not_takes (error : ReadError) (failures : UInt32) {w : World ε}
    (h : ¬ w.console.Takes [readComplaint]) :
    ∃ part, complain error failures w = .error (Output.refusedWrite .err)
      ⟨w.env, w.console.after [.logged (.readFailed error failures), .wrote .err part]⟩ := by
  rw [← Console.takes_congr (w.console.clear_after_logged (.readFailed error failures))] at h
  obtain ⟨part, hpart⟩ := Console.exists_refusal?_wrote h
  refine ⟨part, ?_⟩
  have hrun := follows_complain error failures w.env w.console
  have henact := Action.enact_of_refusal (w := w) (Course.trace_still w.env
    (complaint error failures)) (Console.takes_singleton.mpr rfl) hpart
  rw [Action.bind_error henact] at hrun
  exact hrun

theorem idle_complain (error : ReadError) (failures : UInt32) (w : World ε) :
    w.console.Idle ((complain error failures).worldAfter w).console ∧
      ((complain error failures).worldAfter w).env = w.env := by
  unfold Action.worldAfter
  by_cases h : w.console.Takes [readComplaint]
  · rw [complain_of_takes error failures h]
    exact ⟨Console.idle_after _ (by simp [complaint, Event.isLaunched]), rfl⟩
  · obtain ⟨part, hrun⟩ := exists_complain_of_not_takes error failures h
    rw [hrun]
    exact ⟨Console.idle_after _ (by simp [Event.isLaunched]), rfl⟩

end Complaining

section Launches

variable {ε : Type} [Environment ε]

theorem history_worldAfter_step (line : Bytes) (w : World ε) :
    ((step line).worldAfter w).console.history = w.console.history ++ (step line).trace w := by
  obtain ⟨stop, _, _, _, hhistory, _⟩ := Action.exists_stop (follows_step line w.env w.console)
  exact hhistory

theorem exists_invocation_of_launched {line : Bytes} {w : World ε} {argv : List Bytes}
    (h : .launched argv ∈ (step line).trace w) :
    ∃ i, classify line = .external i ∧ argv = i.argv := by
  obtain ⟨stop, hseen, _⟩ := Action.exists_stop (follows_step line w.env w.console)
  obtain ⟨event, hevent, rfl | ⟨error, hcut⟩⟩ := hseen.mem h
  · obtain ⟨before, after, hsplit⟩ := List.append_of_mem hevent
    obtain ⟨i, hline, hargv, _⟩ := launched_in_step hsplit
    exact ⟨i, hline, hargv⟩
  · cases hcut

/-- This command line is what the next line of the source asks for. -/
def Requested (e : ε) (argv : List Bytes) : Prop :=
  ∃ line i, (Environment.next e).1 = .line line ∧ classify line = .external i ∧ argv = i.argv

theorem idle_turn_of_line {settings : Settings} (failures : UInt32) {w asked : World ε}
    {line : Bytes} (hask : Environment.ask settings.prompt w = (.line line, asked)) :
    ((step line).worldAfter asked).console.Idle (turn settings failures w).world.console := by
  rw [turn_of_line hask rfl, Action.worldAfter]
  rcases step line asked with ⟨_ | _, w'⟩ | ⟨error, w'⟩
  · exact Console.idle_refl _
  · exact Console.idle_log _ _
  · exact Console.idle_refl _

theorem idle_turn_of_failed {settings : Settings} (failures : UInt32) {w asked : World ε}
    {error : ReadError} (hask : Environment.ask settings.prompt w = (.failed error, asked)) :
    asked.console.Idle (turn settings failures w).world.console := by
  have hcomplain := (idle_complain error (failures + 1) asked).1
  rw [Action.worldAfter] at hcomplain
  rw [turn_of_failed hask rfl, afterFailure]
  rcases hrun : complain error (failures + 1) asked with ⟨u, w'⟩ | ⟨error, w'⟩ <;>
    simp only [hrun] at hcomplain ⊢
  · split
    · exact hcomplain.trans (Console.idle_log _ _)
    · exact hcomplain
  · exact hcomplain

theorem exists_turn_history (settings : Settings) (failures : UInt32) (w : World ε) :
    ∃ seen, (turn settings failures w).world.console.history = w.console.history ++ seen ∧
      ∀ argv, .launched argv ∈ seen → Requested w.env argv := by
  have hasked := idle_ask settings.prompt w
  rcases hask : Environment.ask settings.prompt w with ⟨line | _ | error, asked⟩ <;>
    rw [hask] at hasked
  · obtain ⟨shown, hshown, hfree⟩ := hasked
    obtain ⟨later, hlater, hquiet⟩ := idle_turn_of_line failures hask
    rw [history_worldAfter_step, hshown, List.append_assoc, List.append_assoc] at hlater
    refine ⟨_, hlater, fun argv hargv => ?_⟩
    rcases List.mem_append.mp hargv with hargv | hargv
    · cases hfree _ hargv
    · rcases List.mem_append.mp hargv with hargv | hargv
      · obtain ⟨i, hi, rfl⟩ := exists_invocation_of_launched hargv
        exact ⟨line, i, (next_of_ask_line hask).1, hi, rfl⟩
      · cases hquiet _ hargv
  · have hturn : w.console.Idle (turn settings failures w).world.console := by
      rw [turn, hask]
      exact hasked.trans (Console.idle_log _ _)
    obtain ⟨seen, hseen, hfree⟩ := hturn
    exact ⟨seen, hseen, fun argv hargv => by cases hfree _ hargv⟩
  · obtain ⟨seen, hseen, hfree⟩ := hasked.trans (idle_turn_of_failed failures hask)
    exact ⟨seen, hseen, fun argv hargv => by cases hfree _ hargv⟩

end Launches

/-- One more turn leads a session from `p` to `q`. -/
def GoesOn {ε : Type} [Environment ε] (settings : Settings) (p q : UInt32 × World ε) : Prop :=
  turn settings p.1 p.2 = .again q.1 q.2

/-- A session that is at `p`, with this many failing reads in a row so far, comes to `q`. -/
def Reaches {ε : Type} [Environment ε] (settings : Settings) :
    UInt32 × World ε → UInt32 × World ε → Prop :=
  Relation.ReflTransGen (GoesOn settings)

section

variable {ε : Type} [Environment ε] {settings : Settings} {p q : UInt32 × World ε}

theorem Reaches.ended (h : Reaches settings p q) :
    Action.result (runFrom settings p.1) p.2 = Action.result (runFrom settings q.1) q.2 ∧
      Action.worldAfter (runFrom settings p.1) p.2 =
        Action.worldAfter (runFrom settings q.1) q.2 := by
  induction h with
  | refl => exact ⟨rfl, rfl⟩
  | tail _ hturn ih =>
      obtain ⟨hresult, hworld⟩ := ended_of_again hturn
      exact ⟨ih.1.trans hresult, ih.2.trans hworld⟩

theorem run_of_reaches {w : World ε} (h : Reaches settings (0, w) q) :
    (run settings).result w = Action.result (runFrom settings q.1) q.2 ∧
      (run settings).worldAfter w = Action.worldAfter (runFrom settings q.1) q.2 :=
  h.ended

theorem Reaches.failures_lt (h : Reaches settings p q)
    (hless : p.1.toNat < max 1 settings.maxReadFailures.toNat) :
    q.1.toNat < max 1 settings.maxReadFailures.toNat := by
  induction h with
  | refl => exact hless
  | tail _ hturn => exact failures_lt_of_again hturn

theorem worldAfter_of_done {failures : UInt32} {w : World ε}
    {result : EStateM.Result IoError (World ε) Ending}
    (h : turn settings failures w = .done result) :
    Action.worldAfter (runFrom settings failures) w = (turn settings failures w).world := by
  rcases result with ⟨ending, w'⟩ | ⟨error, w'⟩
  · rw [(ended_of_done_ok h).2, h]
    rfl
  · rw [(ended_of_done_error h).2, h]
    rfl

/-- Every launch of a session was requested at some point that the session comes to. -/
theorem exists_run_history (settings : Settings) (failures : UInt32) (w : World ε) :
    ∃ seen, (Action.worldAfter (runFrom settings failures) w).console.history =
        w.console.history ++ seen ∧
      ∀ argv, .launched argv ∈ seen →
        ∃ q, Reaches settings (failures, w) q ∧ Requested q.2.env argv := by
  induction failures, w using @runFrom.induct ε _ settings with
  | case1 failures w result hturn =>
      obtain ⟨seen, hseen, hrequested⟩ := exists_turn_history settings failures w
      rw [worldAfter_of_done hturn]
      exact ⟨seen, hseen, fun argv hargv => ⟨_, .refl, hrequested argv hargv⟩⟩
  | case2 failures w failures' w' hturn ih =>
      obtain ⟨seen, hseen, hrequested⟩ := exists_turn_history settings failures w
      obtain ⟨later, hlater, hlaunches⟩ := ih
      have hgoes : GoesOn settings (failures, w) (failures', w') := hturn
      rw [hturn] at hseen
      rw [(ended_of_again hturn).2]
      refine ⟨seen ++ later, ?_, fun argv hargv => ?_⟩
      · rw [hlater, ← List.append_assoc, ← hseen]
        rfl
      · rcases List.mem_append.mp hargv with hargv | hargv
        · exact ⟨_, .refl, hrequested argv hargv⟩
        · obtain ⟨q, hreach, hq⟩ := hlaunches argv hargv
          exact ⟨q, .head hgoes hreach, hq⟩

theorem exists_point_of_launched {w : World ε} {argv : List Bytes}
    (h : .launched argv ∈ (run settings).trace w) :
    ∃ q, Reaches settings (0, w) q ∧ Requested q.2.env argv := by
  obtain ⟨seen, hseen, hlaunches⟩ := exists_run_history settings 0 w
  have htrace : (run settings).trace w = seen := by
    change ((run settings).worldAfter w).console.history = _ at hseen
    rw [Action.trace, hseen]
    exact List.drop_left
  exact hlaunches argv (htrace ▸ h)

end

section

variable {σ κ : Type} [LineSource σ] [Launcher κ] {settings : Settings}

theorem fst_of_step_ok {line : Bytes} {w w' : World (σ × κ)} {flow : Flow}
    (h : step line w = .ok flow w') : w'.env.1 = w.env.1 := by
  rcases (follows_step line w.env).enacted w.console with ⟨error, w'', _, hrun⟩ | ⟨c, _, hrun⟩
  · rw [hrun] at h
    cases h
  · rw [hrun] at h
    cases hresult : stepResult line w.env with
    | error error =>
        rw [hresult] at h
        cases h
    | ok flow' =>
        rw [hresult] at h
        cases h
        exact Course.fst_env_stepCourse line w.env

theorem fst_of_again {failures failures' : UInt32} {w w' : World (σ × κ)}
    (h : turn settings failures w = .again failures' w') :
    w'.env.1 = w.env.1 ∨ w'.env.1 = (LineSource.next w.env.1).2 := by
  have hasked := env_of_ask settings.prompt w
  rcases again_cases h with ⟨line, asked, hask, hstep, _⟩ | ⟨error, asked, hask, hrun, _⟩
  · rw [hask] at hasked
    rw [fst_of_step_ok hstep]
    exact hasked.imp (congrArg Prod.fst) (congrArg Prod.fst)
  · have hkept := (idle_complain error (failures + 1) asked).2
    rw [Action.worldAfter, hrun] at hkept
    rw [hask] at hasked
    rw [hkept]
    exact hasked.imp (congrArg Prod.fst) (congrArg Prod.fst)

theorem Reaches.exists_source {p q : UInt32 × World (σ × κ)} (h : Reaches settings p q) :
    ∃ n, q.2.env.1 = LineSource.after p.2.env.1 n := by
  induction h with
  | refl => exact ⟨0, rfl⟩
  | tail _ hturn ih =>
      obtain ⟨n, hn⟩ := ih
      rcases fst_of_again hturn with hsame | hnext
      · exact ⟨n, hsame.trans hn⟩
      · exact ⟨n + 1, by rw [hnext, hn]; rfl⟩

end

end Session

end RestrictedShell
