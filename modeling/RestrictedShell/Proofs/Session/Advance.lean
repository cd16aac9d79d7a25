import RestrictedShell.Proofs.Session.Stepwise

namespace RestrictedShell

namespace Reading

def line? : Reading → Option Bytes
  | line bytes => some bytes
  | _ => none

def error? : Reading → Option ReadError
  | failed error => some error
  | _ => none

end Reading

namespace LineSource

variable {σ σ' : Type} [LineSource σ] [LineSource σ']

/-- `Yields s answers s'`: these are the next answers of the source, which is then left as `s'`. -/
inductive Yields : σ → List Reading → σ → Prop
  | nil (s : σ) : Yields s [] s
  | cons {s s' : σ} {answers : List Reading} (hrest : Yields (next s).2 answers s') :
      Yields s ((next s).1 :: answers) s'

theorem Yields.append {s s' s'' : σ} {a b : List Reading} (h : Yields s a s')
    (h' : Yields s' b s'') : Yields s (a ++ b) s'' := by
  induction h with
  | nil => exact h'
  | cons _ ih => exact .cons (ih h')

theorem after_next (s : σ) (n : Nat) : after (next s).2 n = after s (n + 1) := by
  induction n with
  | zero => rfl
  | succ n ih => exact congrArg (fun s => (next s).2) ih

/-- The next so many readings of a source. -/
def readings : Nat → σ → List Reading
  | 0, _ => []
  | n + 1, s => (next s).1 :: readings n (next s).2

theorem readings_eq_map (n : Nat) (s : σ) :
    readings n s = (List.range n).map fun k => (next (after s k)).1 := by
  induction n generalizing s with
  | zero => rfl
  | succ n ih =>
      rw [readings, ih, List.range_succ_eq_map, List.map_cons, List.map_map]
      refine congrArg ((next s).1 :: ·) (List.map_congr_left fun k _ => ?_)
      rw [after_next]
      rfl

/-- The sources prompt alike and give the same answers, as often as they are asked. -/
def Same (s : σ) (s' : σ') : Prop :=
  ∀ n, promptStream (after s n) = promptStream (after s' n) ∧
    (next (after s n)).1 = (next (after s' n)).1

theorem same_refl (s : σ) : Same s s :=
  fun _ => ⟨rfl, rfl⟩

theorem Same.next {s : σ} {s' : σ'} (h : Same s s') :
    Same (LineSource.next s).2 (LineSource.next s').2 := by
  intro n
  rw [after_next, after_next]
  exact h (n + 1)

theorem Same.after {s : σ} {s' : σ'} (h : Same s s') (n : Nat) :
    Same (LineSource.after s n) (LineSource.after s' n) := by
  induction n with
  | zero => exact h
  | succ n ih => exact ih.next

theorem Yields.eq_after {s s' : σ} {answers : List Reading} (h : Yields s answers s') :
    s' = after s answers.length := by
  induction h with
  | nil => rfl
  | cons _ ih => exact ih.trans (after_next _ _)

theorem Same.yields {s t : σ} {s' t' : σ'} {answers : List Reading} (h : Same s s')
    (hs : Yields s answers t) (hs' : Yields s' answers t') : Same t t' := by
  rw [hs.eq_after, hs'.eq_after]
  exact h.after _

end LineSource

theorem Trace.launched_free_stump {c : Console} {event : Event} {stump : Trace} {error : IoError}
    (h : c.refusal? event = some (stump, error)) :
    ∀ event ∈ stump, event.isLaunched = false := by
  intro event hevent
  have hnone := List.filter_eq_nil_iff.mp (stump_of_refusal? h).1 event hevent
  cases event with
  | launched argv => exact absurd rfl hnone
  | _ => rfl

namespace Course

variable {σ κ : Type}

/-- Nothing in the course takes anything from the source of lines. -/
def Stays (s : σ) (course : Course (σ × κ)) : Prop :=
  ∀ moment ∈ course, moment.2.1 = s

theorem stays_still (e : σ × κ) (trace : Trace) : Stays e.1 (still e trace) := by
  intro moment hmoment
  obtain ⟨event, _, rfl⟩ := List.mem_map.mp hmoment
  rfl

theorem Stays.append {s : σ} {a b : Course (σ × κ)} (ha : Stays s a) (hb : Stays s b) :
    Stays s (a ++ b) :=
  fun moment hmoment => (List.mem_append.mp hmoment).elim (ha moment) (hb moment)

theorem Stays.env_eq {e : σ × κ} {course : Course (σ × κ)} (h : Stays e.1 course) :
    (course.env e).1 = e.1 := by
  induction course generalizing e with
  | nil => rfl
  | cons moment rest ih =>
      obtain ⟨hfirst, hrest⟩ := List.forall_mem_cons.mp h
      rw [← hfirst] at hrest
      exact (ih hrest).trans hfirst

theorem stays_stepCourse [LineSource σ] [Launcher κ] (line : Bytes) (e : σ × κ) :
    Stays e.1 (Session.stepCourse line e) := by
  refine (stays_still e _).append ((stays_still e _).append ?_)
  cases classify line with
  | external i => exact stays_still (Environment.launch i e).2 _
  | _ => exact fun _ hmoment => absurd hmoment List.not_mem_nil

end Course

namespace World

section

variable {σ σ' κ : Type} [LineSource σ] [LineSource σ'] [Launcher κ]

/-- `w.Advances answers seen w'`: from the one world to the other, the source gives these answers,
and nothing but these events happens. -/
structure Advances (w : World (σ × κ)) (answers : List Reading) (seen : Trace)
    (w' : World (σ × κ)) : Prop where
  source : LineSource.Yields w.env.1 answers w'.env.1
  launcher : w'.env.2 = Launcher.following w.env.2 seen
  console : w'.console = w.console.after seen

theorem advances_refl (w : World (σ × κ)) : w.Advances [] [] w where
  source := .nil _
  launcher := rfl
  console := (Console.after_nil _).symm

theorem Advances.trans {w w' w'' : World (σ × κ)} {a b : List Reading} {t u : Trace}
    (h : w.Advances a t w') (h' : w'.Advances b u w'') : w.Advances (a ++ b) (t ++ u) w'' where
  source := h.source.append h'.source
  launcher := by rw [h'.launcher, h.launcher, Launcher.following_append]
  console := by rw [h'.console, h.console, Console.after_append]

theorem Advances.visible {w w' : World (σ × κ)} {given : List Reading} {seen : Trace}
    (h : w.Advances given seen w') : w.Advances given (seen.visible w.console.filter) w' where
  source := h.source
  launcher := by rw [Launcher.following_visible, h.launcher]
  console := by rw [Console.after_visible, h.console]

theorem advances_log (w : World (σ × κ)) (entry : Log.Entry) :
    w.Advances [] [.logged entry] { w with console := w.console.log entry } where
  source := .nil _
  launcher := (Launcher.following_free _ (by simp [Event.isLaunched])).symm
  console := Console.log_eq_after _ _

/-- The same answers to come, the same launcher, and the same limits. -/
structure Like (w : World (σ × κ)) (w' : World (σ' × κ)) : Prop where
  source : LineSource.Same w.env.1 w'.env.1
  alike : w.Alike w'

omit [Launcher κ] in
theorem like_refl (w : World (σ × κ)) : w.Like w :=
  ⟨LineSource.same_refl _, rfl, rfl⟩

/-- Two worlds advance by the same answers and the same events. -/
def Abreast (answers : List Reading) (w : World (σ × κ)) (w' : World (σ' × κ))
    (v : World (σ × κ)) (v' : World (σ' × κ)) : Prop :=
  ∃ seen, w.Advances answers seen v ∧ w'.Advances answers seen v'

variable {w v u : World (σ × κ)} {w' v' u' : World (σ' × κ)} {a b : List Reading}

theorem Abreast.like (h : Abreast a w w' v v') (hlike : w.Like w') : v.Like v' := by
  obtain ⟨seen, hw, hw'⟩ := h
  refine ⟨hlike.source.yields hw.source hw'.source, ?_, ?_⟩
  · rw [hw.launcher, hw'.launcher, hlike.alike.1]
  · rw [hw.console, hw'.console]
    exact Console.clear_after_congr hlike.alike.2 seen

theorem Abreast.trans (h : Abreast a w w' v v') (h' : Abreast b v v' u u') :
    Abreast (a ++ b) w w' u u' := by
  obtain ⟨seen, hw, hw'⟩ := h
  obtain ⟨later, hv, hv'⟩ := h'
  exact ⟨seen ++ later, hw.trans hv, hw'.trans hv'⟩

theorem abreast_log (w : World (σ × κ)) (w' : World (σ' × κ)) (entry : Log.Entry) :
    Abreast [] w w' { w with console := w.console.log entry }
      { w' with console := w'.console.log entry } :=
  ⟨_, advances_log w entry, advances_log w' entry⟩

end

end World

namespace Action

theorem eq_of_result_ok {ε α : Type} {a : Action ε α} {w : World ε} {x : α}
    (h : a.result w = .ok x) : a w = .ok x (a.worldAfter w) := by
  unfold Action.result at h
  unfold worldAfter
  split at h <;> simp_all

theorem eq_of_result_error {ε α : Type} {a : Action ε α} {w : World ε} {error : IoError}
    (h : a.result w = .error error) : a w = .error error (a.worldAfter w) := by
  unfold Action.result at h
  unfold worldAfter
  split at h <;> simp_all

variable {σ σ' κ α : Type} [LineSource σ] [LineSource σ'] [Launcher κ]

theorem trace_of_advances {a : Action (σ × κ) α} {w : World (σ × κ)} {given : List Reading}
    {seen : Trace} (h : w.Advances given seen (a.worldAfter w)) :
    a.trace w = seen.visible w.console.filter :=
  trace_of_worldAfter h.console

theorem advances {a : Action (σ × κ) α} {w : World (σ × κ)} {course : Course (σ × κ)}
    {result : Except IoError α} (h : a w = (do enact course; conclude result : Action (σ × κ) α) w)
    (htracks : Course.Tracks w.env course) (hstays : Course.Stays w.env.1 course) :
    w.Advances [] (a.trace w) (a.worldAfter w) := by
  have hadvances : ∃ seen, w.Advances [] seen (a.worldAfter w) := by
    rcases w.console.takes_or_refuses course.trace with
      hall | ⟨before, event, later, stump, error, hcourse, htaken, hrefused⟩
    · refine ⟨course.trace, ?_⟩
      rw [(ended_of_takes h hall).1]
      refine ⟨?_, htracks.env_eq, rfl⟩
      rw [hstays.env_eq]
      exact .nil _
    · have htake : Course.Stays w.env.1 (course.take before.length) :=
        fun moment hmoment => hstays moment (List.mem_of_mem_take hmoment)
      refine ⟨before ++ stump, ?_⟩
      rw [(ended_of_refusal h hcourse htaken hrefused).1]
      refine ⟨?_, ?_, rfl⟩
      · rw [htake.env_eq]
        exact .nil _
      · rw [htracks.env_take hcourse, Launcher.following_append,
          Launcher.following_free _ (Trace.launched_free_stump hrefused)]
  obtain ⟨seen, hseen⟩ := hadvances
  rw [trace_of_advances hseen]
  exact hseen.visible

/-- Actions with the same events have the same outcome in alike worlds, which advance abreast. -/
theorem abreast {a : Action (σ × κ) α} {a' : Action (σ' × κ) α} {w : World (σ × κ)}
    {w' : World (σ' × κ)} {course : Course (σ × κ)} {course' : Course (σ' × κ)}
    {result : Except IoError α} (halike : w.Alike w')
    (ha : a w = (do enact course; conclude result : Action (σ × κ) α) w)
    (ha' : a' w' = (do enact course'; conclude result : Action (σ' × κ) α) w')
    (htrace : course.trace = course'.trace) (htracks : Course.Tracks w.env course)
    (htracks' : Course.Tracks w'.env course') (hstays : Course.Stays w.env.1 course)
    (hstays' : Course.Stays w'.env.1 course') :
    a.result w = a'.result w' ∧ World.Abreast [] w w' (a.worldAfter w) (a'.worldAfter w') := by
  obtain ⟨hresult, hseen, _⟩ := alike_ended halike ha ha' htrace htracks htracks'
  exact ⟨hresult, a.trace w, advances ha htracks hstays, hseen ▸ advances ha' htracks' hstays'⟩

end Action

namespace Session

section

variable {ε : Type} [Environment ε]

/-- The answer that one request gets from the source: none if the prompt is refused. -/
def supplied (prompt : String) (w : World ε) : List Reading :=
  match Action.enact (askCourse prompt w.env) w with
  | .ok _ _ => [(Environment.next w.env).1]
  | .error _ _ => []

/-- The answers that a session gets from its source, after this many failures in a row. -/
def answers (settings : Settings) (failures : UInt32) (w : World ε) : List Reading :=
  match _h : turn settings failures w with
  | .done _ => supplied settings.prompt w
  | .again failures' w' => supplied settings.prompt w ++ answers settings failures' w'
termination_by (Environment.pending w.env, patience settings failures)
decreasing_by
  rcases turn_again _h with hless | ⟨hle, hless⟩
  · exact Prod.Lex.left _ _ hless
  · rcases Nat.lt_or_eq_of_le hle with hlt | heq
    · exact Prod.Lex.left _ _ hlt
    · rw [heq]
      exact Prod.Lex.right _ hless

theorem supplied_of_takes {prompt : String} {w : World ε}
    (h : w.console.Takes (askCourse prompt w.env).trace) :
    supplied prompt w = [(Environment.next w.env).1] := by
  rw [supplied, Action.enact_of_takes h]

theorem supplied_of_refusal {prompt : String} {w : World ε} {before later stump : Trace}
    {event : Event} {error : IoError}
    (hcourse : (askCourse prompt w.env).trace = before ++ event :: later)
    (htaken : w.console.Takes before)
    (hrefused : (w.console.after before).refusal? event = some (stump, error)) :
    supplied prompt w = [] := by
  rw [supplied, Action.enact_of_refusal hcourse htaken hrefused]

theorem turn_of_endOfInput {settings : Settings} {failures : UInt32} {w : World ε}
    {answer : Reading × World ε} (hask : Environment.ask settings.prompt w = answer)
    (hread : answer.1 = .endOfInput) :
    turn settings failures w = .done (.ok .endOfInput
      { answer.2 with console := answer.2.console.log .endOfInput }) := by
  obtain ⟨reading, w'⟩ := answer
  cases hread
  simp only [turn, hask]

/-- What a turn decides: another turn after this many failures, or the result of the session. -/
def Turn.verdict : Turn ε → UInt32 ⊕ Except IoError Ending
  | .again failures _ => .inl failures
  | .done (.ok ending _) => .inr (.ok ending)
  | .done (.error error _) => .inr (.error error)

variable {settings : Settings} {failures failures' : UInt32} {w : World ε}

theorem ended_of_verdict_inl (h : (turn settings failures w).verdict = .inl failures') :
    Action.result (runFrom settings failures) w =
        Action.result (runFrom settings failures') (turn settings failures w).world ∧
      Action.worldAfter (runFrom settings failures) w =
        Action.worldAfter (runFrom settings failures') (turn settings failures w).world ∧
      answers settings failures w = supplied settings.prompt w ++
        answers settings failures' (turn settings failures w).world := by
  rcases hturn : turn settings failures w with ⟨_, w'⟩ | ⟨_, _⟩ | ⟨_, _⟩ <;> rw [hturn] at h <;>
    cases h
  refine ⟨(ended_of_again hturn).1, (ended_of_again hturn).2, ?_⟩
  rw [answers]
  split
  · rename_i hdone
    rw [hturn] at hdone
    cases hdone
  · rename_i hagain
    rw [hturn] at hagain
    cases hagain
    rfl

theorem ended_of_verdict_inr {result : Except IoError Ending}
    (h : (turn settings failures w).verdict = .inr result) :
    Action.result (runFrom settings failures) w = result ∧
      Action.worldAfter (runFrom settings failures) w = (turn settings failures w).world ∧
      answers settings failures w = supplied settings.prompt w := by
  have hanswers : ∀ {ended}, turn settings failures w = .done ended →
      answers settings failures w = supplied settings.prompt w := by
    intro ended hdone
    rw [answers]
    split
    · rfl
    · rename_i hagain
      rw [hdone] at hagain
      cases hagain
  rcases hturn : turn settings failures w with ⟨_, _⟩ | ⟨_, _⟩ | ⟨_, _⟩ <;> rw [hturn] at h <;>
    cases h
  · exact ⟨(ended_of_done_ok hturn).1, (ended_of_done_ok hturn).2, hanswers hturn⟩
  · exact ⟨(ended_of_done_error hturn).1, (ended_of_done_error hturn).2, hanswers hturn⟩

end

section

open World

variable {σ σ' κ : Type} [LineSource σ] [LineSource σ'] [Launcher κ] {w : World (σ × κ)}
  {w' : World (σ' × κ)}

theorem abreast_ask (prompt : String) (h : w.Like w') :
    (Environment.ask prompt w).1 = (Environment.ask prompt w').1 ∧
      supplied prompt w = supplied prompt w' ∧
      Abreast (supplied prompt w) w w' (Environment.ask prompt w).2
        (Environment.ask prompt w').2 := by
  obtain ⟨hprompt, hanswer⟩ := h.source 0
  have htrace : (askCourse prompt w.env).trace = (askCourse prompt w'.env).trace := by
    unfold askCourse
    change Environment.promptStream w.env = Environment.promptStream w'.env at hprompt
    rw [hprompt]
    cases Environment.promptStream w'.env <;> rfl
  have hfree := launched_free_askCourse prompt w.env
  rcases w.console.takes_or_refuses (askCourse prompt w.env).trace with
    hall | ⟨before, event, later, stump, error, hcourse, htaken, hrefused⟩
  · have hall' := (Console.takes_congr h.alike.2).mp hall
    rw [htrace] at hall'
    rw [ask_of_takes hall, ask_of_takes hall', supplied_of_takes hall, supplied_of_takes hall']
    refine ⟨hanswer, congrArg (fun reading => [reading]) hanswer,
      (askCourse prompt w.env).trace, ⟨.cons (.nil _), ?_, rfl⟩, ⟨?_, ?_, by rw [htrace]⟩⟩
    · rw [Launcher.following_free _ hfree]
      rfl
    · have hsame : (Environment.next w.env).1 = (LineSource.next w'.env.1).1 := hanswer
      rw [hsame]
      exact .cons (.nil _)
    · rw [Launcher.following_free _ hfree]
      rfl
  · have hrefused' := hrefused
    rw [Console.refusal?_after_congr h.alike.2] at hrefused'
    have htaken' := (Console.takes_congr h.alike.2).mp htaken
    have hcourse' := htrace.symm.trans hcourse
    have hseen : ∀ event ∈ before ++ stump, event.isLaunched = false := by
      intro event hevent
      rcases List.mem_append.mp hevent with hbefore | hstump
      · exact hfree event (by simp [hcourse, hbefore])
      · exact Trace.launched_free_stump hrefused event hstump
    rw [ask_of_refusal hcourse htaken hrefused, ask_of_refusal hcourse' htaken' hrefused',
      supplied_of_refusal hcourse htaken hrefused, supplied_of_refusal hcourse' htaken' hrefused']
    exact ⟨rfl, rfl, before ++ stump,
      ⟨.nil _, (Launcher.following_free _ hseen).symm, rfl⟩,
      ⟨.nil _, (Launcher.following_free _ hseen).symm, rfl⟩⟩

theorem abreast_step (line : Bytes) (h : w.Alike w') :
    (step line).result w = (step line).result w' ∧
      Abreast [] w w' ((step line).worldAfter w) ((step line).worldAfter w') := by
  obtain ⟨htrace, hresult⟩ := stepCourse_congr line h.1
  have hstep' := follows_step line w'.env w'.console
  rw [← hresult] at hstep'
  exact Action.abreast h (follows_step line w.env w.console) hstep' htrace
    (Course.tracks_stepCourse line w.env) (Course.tracks_stepCourse line w'.env)
    (Course.stays_stepCourse line w.env) (Course.stays_stepCourse line w'.env)

theorem abreast_complain (error : ReadError) (failures : UInt32) (h : w.Alike w') :
    (complain error failures).result w = (complain error failures).result w' ∧
      Abreast [] w w' ((complain error failures).worldAfter w)
        ((complain error failures).worldAfter w') := by
  have hfree : ∀ event ∈ complaint error failures, event.isLaunched = false := by
    simp [complaint, Event.isLaunched]
  exact Action.abreast h (follows_complain error failures w.env w.console)
    (follows_complain error failures w'.env w'.console) (by simp)
    (Course.tracks_still _ hfree) (Course.tracks_still _ hfree)
    (Course.stays_still _ _) (Course.stays_still _ _)

theorem abreast_afterFailure (settings : Settings) (error : ReadError) (failures : UInt32)
    (h : w.Alike w') :
    (afterFailure settings error failures w).verdict =
        (afterFailure settings error failures w').verdict ∧
      Abreast [] w w' (afterFailure settings error failures w).world
        (afterFailure settings error failures w').world := by
  obtain ⟨hresult, habreast⟩ := abreast_complain error failures h
  unfold afterFailure
  cases hrun : (complain error failures).result w with
  | error failure =>
      rw [Action.eq_of_result_error hrun, Action.eq_of_result_error (hresult.symm.trans hrun)]
      exact ⟨rfl, habreast⟩
  | ok u =>
      rw [Action.eq_of_result_ok hrun, Action.eq_of_result_ok (hresult.symm.trans hrun)]
      dsimp only
      split
      · exact ⟨rfl, habreast.trans (abreast_log _ _ _)⟩
      · exact ⟨rfl, habreast⟩

theorem abreast_turn (settings : Settings) (failures : UInt32) (h : w.Like w') :
    supplied settings.prompt w = supplied settings.prompt w' ∧
      (turn settings failures w).verdict = (turn settings failures w').verdict ∧
      Abreast (supplied settings.prompt w) w w' (turn settings failures w).world
        (turn settings failures w').world := by
  obtain ⟨hreading, hsupplied, hasked⟩ := abreast_ask settings.prompt h
  have halike := (hasked.like h).alike
  refine ⟨hsupplied, ?_⟩
  -- What follows the reading takes nothing more from the source.
  rw [← List.append_nil (supplied settings.prompt w)]
  cases hread : (Environment.ask settings.prompt w).1 with
  | endOfInput =>
      rw [turn_of_endOfInput rfl hread, turn_of_endOfInput rfl (hreading.symm.trans hread)]
      exact ⟨rfl, hasked.trans (abreast_log _ _ _)⟩
  | line line =>
      obtain ⟨hresult, hstep⟩ := abreast_step line halike
      rw [turn_of_line rfl hread, turn_of_line rfl (hreading.symm.trans hread)]
      cases hrun : (step line).result (Environment.ask settings.prompt w).2 with
      | error error =>
          rw [Action.eq_of_result_error hrun,
            Action.eq_of_result_error (hresult.symm.trans hrun)]
          exact ⟨rfl, hasked.trans hstep⟩
      | ok flow =>
          rw [Action.eq_of_result_ok hrun, Action.eq_of_result_ok (hresult.symm.trans hrun)]
          cases flow with
          | proceed => exact ⟨rfl, hasked.trans hstep⟩
          | quit => exact ⟨rfl, hasked.trans (hstep.trans (abreast_log _ _ _))⟩
  | failed error =>
      rw [turn_of_failed rfl hread, turn_of_failed rfl (hreading.symm.trans hread)]
      obtain ⟨hverdict, hfailed⟩ := abreast_afterFailure settings error (failures + 1) halike
      exact ⟨hverdict, hasked.trans hfailed⟩

/-- Sessions in worlds that are like each other do the same, and leave them so. -/
theorem abreast_runFrom (settings : Settings) (failures : UInt32) (h : w.Like w') :
    answers settings failures w = answers settings failures w' ∧
      Action.result (runFrom settings failures) w = Action.result (runFrom settings failures) w' ∧
      Abreast (answers settings failures w) w w' (Action.worldAfter (runFrom settings failures) w)
        (Action.worldAfter (runFrom settings failures) w') := by
  induction failures, w using @runFrom.induct (σ × κ) _ settings generalizing w' with
  | case1 failures w result hturn =>
      obtain ⟨hsupplied, hverdict, habreast⟩ := abreast_turn settings failures h
      obtain ⟨ended, hended⟩ : ∃ ended, (turn settings failures w).verdict = .inr ended := by
        rw [hturn]
        cases result <;> exact ⟨_, rfl⟩
      obtain ⟨hresult, hworld, hanswers⟩ := ended_of_verdict_inr hended
      obtain ⟨hresult', hworld', hanswers'⟩ := ended_of_verdict_inr (hverdict.symm.trans hended)
      rw [hresult, hresult', hworld, hworld', hanswers, hanswers']
      exact ⟨hsupplied, rfl, habreast⟩
  | case2 failures w failures' next hturn ih =>
      obtain ⟨hsupplied, hverdict, habreast⟩ := abreast_turn settings failures h
      have hagain : (turn settings failures w).verdict = .inl failures' := by rw [hturn]; rfl
      have hnext : (turn settings failures w).world = next := by rw [hturn]; rfl
      obtain ⟨hresult, hworld, hanswers⟩ := ended_of_verdict_inl hagain
      obtain ⟨hresult', hworld', hanswers'⟩ := ended_of_verdict_inl (hverdict.symm.trans hagain)
      have hlike := habreast.like h
      rw [hnext] at hlike habreast hresult hworld hanswers
      obtain ⟨hrest, hend, hlater⟩ := ih hlike
      rw [hresult, hresult', hworld, hworld', hanswers, hanswers', ← hsupplied, ← hrest]
      exact ⟨rfl, hend, habreast.trans hlater⟩

theorem exists_advances_turn (settings : Settings) (failures : UInt32) (w : World (σ × κ)) :
    ∃ seen, w.Advances (supplied settings.prompt w) seen (turn settings failures w).world := by
  obtain ⟨_, _, seen, hturn, _⟩ := abreast_turn settings failures (like_refl w)
  exact ⟨seen, hturn⟩

theorem exists_advances_runFrom (settings : Settings) (failures : UInt32) (w : World (σ × κ)) :
    ∃ seen, w.Advances (answers settings failures w) seen
      (Action.worldAfter (runFrom settings failures) w) := by
  obtain ⟨_, _, seen, hrun, _⟩ := abreast_runFrom settings failures (like_refl w)
  exact ⟨seen, hrun⟩

end

end Session

end RestrictedShell
