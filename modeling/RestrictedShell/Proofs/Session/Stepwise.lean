import RestrictedShell.Proofs.Launch.ChildTable
import RestrictedShell.Proofs.Session.Points
import RestrictedShell.Proofs.Session.Refusal

namespace RestrictedShell

/-- The same launcher and the same limits, whatever the lines come from and whatever happened
before. -/
def World.Alike {σ σ' κ : Type} (w : World (σ × κ)) (w' : World (σ' × κ)) : Prop :=
  w.env.2 = w'.env.2 ∧ w.console.clear = w'.console.clear

/-- What a session does around its steps: it asks for lines, and logs why it ends. -/
def Event.isFrame : Event → Bool
  | .asked _ | .logged .quitRequested | .logged .endOfInput => true
  | _ => false

namespace Trace

/-- A trace without what a session does around its steps. -/
def unframed (trace : Trace) : Trace :=
  trace.filter fun event => !event.isFrame

theorem unframed_append (a b : Trace) : unframed (a ++ b) = unframed a ++ unframed b :=
  List.filter_append a b

theorem unframed_eq_nil {trace : Trace} (h : ∀ event ∈ trace, event.isFrame = true) :
    trace.unframed = [] :=
  List.filter_eq_nil_iff.mpr fun event hevent => by simp [h event hevent]

theorem unframed_of_free {trace : Trace} (h : ∀ event ∈ trace, event.isFrame = false) :
    trace.unframed = trace :=
  List.filter_eq_self.mpr fun event hevent => by simp [h event hevent]

theorem unframed_visible_eq_nil {trace : Trace} (h : ∀ event ∈ trace, event.isFrame = true)
    (filter : Log.Filter) : (trace.visible filter).unframed = [] :=
  unframed_eq_nil fun event hevent => h event (List.mem_of_mem_filter hevent)

end Trace

theorem World.Alike.after_frame {σ σ' κ : Type} {e : σ × κ} {c : Console} {w : World (σ' × κ)}
    {trace : Trace} (halike : (⟨e, c⟩ : World (σ × κ)).Alike w)
    (h : ∀ event ∈ trace, event.isFrame = true) :
    (⟨e, c.after trace⟩ : World (σ × κ)).Alike w := by
  have hnone : ∀ s, trace.written s = [] ∧ trace.count (.flushed s) = 0 := by
    intro s
    constructor
    · refine List.flatMap_eq_nil_iff.mpr fun event hevent => ?_
      have hframe := h event hevent
      cases event with
      | wrote s' bytes => cases hframe
      | _ => rfl
    · refine List.count_eq_zero.mpr fun hflushed => ?_
      cases h _ hflushed
  exact ⟨halike.1, (Console.clear_after_of_free hnone c).trans halike.2⟩

section

variable {σ σ' κ α : Type} [Launcher κ]

theorem Course.Tracks.env_take {e : σ × κ} {course : Course (σ × κ)} (h : Tracks e course)
    {before later : Trace} (hcourse : course.trace = before ++ later) :
    (Course.env e (course.take before.length)).2 = Launcher.following e.2 before := by
  rw [← List.take_append_drop before.length course] at h
  have hbefore : Course.trace (course.take before.length) = before := by
    rw [Course.trace, List.map_take]
    change (course.trace).take before.length = before
    rw [hcourse, List.take_left]
  rw [(Course.tracks_append.mp h).1.env_eq, hbefore]

theorem Action.alike_ended {a : Action (σ × κ) α} {a' : Action (σ' × κ) α} {w : World (σ × κ)}
    {w' : World (σ' × κ)} {course : Course (σ × κ)} {course' : Course (σ' × κ)}
    {result : Except IoError α} (halike : w.Alike w')
    (ha : a w = (do enact course; conclude result : Action (σ × κ) α) w)
    (ha' : a' w' = (do enact course'; conclude result : Action (σ' × κ) α) w')
    (htrace : course.trace = course'.trace) (htracks : Course.Tracks w.env course)
    (htracks' : Course.Tracks w'.env course') :
    a.result w = a'.result w' ∧ a.trace w = a'.trace w' ∧
      (a.worldAfter w).Alike (a'.worldAfter w') := by
  obtain ⟨hlauncher, hclear⟩ := halike
  have hfilter : w.console.filter = w'.console.filter := by
    change w.console.clear.filter = w'.console.clear.filter
    rw [hclear]
  rcases w.console.takes_or_refuses course.trace with
    hall | ⟨before, event, later, stump, error, hcourse, htaken, hrefused⟩
  · obtain ⟨hworld, hresult⟩ := ended_of_takes ha hall
    obtain ⟨hworld', hresult'⟩ :=
      ended_of_takes ha' (htrace ▸ (Console.takes_congr hclear).mp hall)
    refine ⟨hresult.trans hresult'.symm, ?_, ?_, ?_⟩
    · rw [trace_of_worldAfter (by rw [hworld]), trace_of_worldAfter (by rw [hworld']), htrace,
        hfilter]
    · rw [hworld, hworld', htracks.env_eq, htracks'.env_eq, htrace, hlauncher]
    · rw [hworld, hworld', htrace]
      exact Console.clear_after_congr hclear _
  · have hrefused' := hrefused
    rw [Console.refusal?_after_congr hclear] at hrefused'
    obtain ⟨hworld, hresult⟩ := ended_of_refusal ha hcourse htaken hrefused
    obtain ⟨hworld', hresult'⟩ := ended_of_refusal ha' (htrace ▸ hcourse)
      ((Console.takes_congr hclear).mp htaken) hrefused'
    refine ⟨hresult.trans hresult'.symm, ?_, ?_, ?_⟩
    · rw [trace_of_worldAfter (by rw [hworld]), trace_of_worldAfter (by rw [hworld']), hfilter]
    · rw [hworld, hworld', htracks.env_take hcourse, htracks'.env_take (htrace ▸ hcourse),
        hlauncher]
    · rw [hworld, hworld']
      exact Console.clear_after_congr hclear _

end

namespace Session

section

variable {σ σ' κ : Type} [LineSource σ] [LineSource σ'] [Launcher κ]

theorem stepCourse_congr (line : Bytes) {e : σ × κ} {e' : σ' × κ} (h : e.2 = e'.2) :
    (stepCourse line e).trace = (stepCourse line e').trace ∧
      stepResult line e = stepResult line e' := by
  obtain ⟨s, k⟩ := e
  obtain ⟨s', k'⟩ := e'
  obtain rfl : k = k' := h
  rw [trace_stepCourse, trace_stepCourse]
  exact ⟨rfl, rfl⟩

theorem step_congr (line : Bytes) {w : World (σ × κ)} {w' : World (σ' × κ)}
    (halike : w.Alike w') :
    (step line).result w = (step line).result w' ∧ (step line).trace w = (step line).trace w' ∧
      ((step line).worldAfter w).Alike ((step line).worldAfter w') := by
  obtain ⟨htrace, hresult⟩ := stepCourse_congr line halike.1
  have hstep' := follows_step line w'.env w'.console
  rw [← hresult] at hstep'
  exact Action.alike_ended halike (follows_step line w.env w.console) hstep' htrace
    (Course.tracks_stepCourse line w.env) (Course.tracks_stepCourse line w'.env)

end

/-- What comes of handling lines one after another. -/
structure Stepped (ε : Type) where
  count : Nat
  result : Except IoError Flow
  world : World ε

variable {σ κ : Type} [LineSource σ] [Launcher κ]

/-- Handles lines one after another, up to the first after which the session is not to go on. -/
def stepThrough : List Bytes → World (σ × κ) → Stepped (σ × κ)
  | [], w => ⟨0, .ok .proceed, w⟩
  | line :: lines, w =>
      let after := (step line).worldAfter w
      match (step line).result w with
      | .ok .proceed =>
          let later := stepThrough lines after
          { later with count := later.count + 1 }
      | result => ⟨1, result, after⟩

/-- All lines were handled, and the session might have gone on. -/
def Stepped.ranOut {ε : Type} (s : Stepped ε) : Bool :=
  match s.result with
  | .ok .proceed => true
  | _ => false

/-- How a session ends whose steps end this way. -/
def Stepped.ending {ε : Type} (s : Stepped ε) : Except IoError Ending :=
  match s.result with
  | .ok .proceed => .ok .endOfInput
  | .ok .quit => .ok .quit
  | .error error => .error error

theorem stepThrough_proceed {line : Bytes} {w : World (σ × κ)}
    (h : (step line).result w = .ok .proceed) (lines : List Bytes) :
    stepThrough (line :: lines) w =
      { stepThrough lines ((step line).worldAfter w) with
        count := (stepThrough lines ((step line).worldAfter w)).count + 1 } := by
  simp only [stepThrough, h]

theorem stepThrough_stop {line : Bytes} {w : World (σ × κ)}
    (h : (step line).result w ≠ .ok .proceed) (lines : List Bytes) :
    stepThrough (line :: lines) w = ⟨1, (step line).result w, (step line).worldAfter w⟩ := by
  simp only [stepThrough]

theorem frame_free_opening (d : Dispatch) : ∀ event ∈ d.opening, event.isFrame = false := by
  cases d <;> simp [Dispatch.opening, Event.isFrame]

theorem frame_free_aftermath (i : Invocation) (t : ChildTable) :
    ∀ event ∈ (Launcher.launch i t).1.aftermath i, event.isFrame = false := by
  intro event hevent
  rcases List.mem_append.mp hevent with hattending | hconclusion
  · rcases Launched.of_mem_attending hattending with
      ⟨entry, hentry, _⟩ | ⟨s, bytes, rfl⟩ | ⟨child, _, rfl | rfl | rfl⟩
    · cases hentry
    all_goals rfl
  · rcases Launched.of_mem_conclusion hconclusion with
      rfl | ⟨child, outcome, _, _, hreported⟩ | ⟨error, _, rfl | rfl⟩
    · rfl
    · rcases Outcome.of_mem_reported hreported with rfl | ⟨code, _, rfl | rfl | rfl⟩ <;> rfl
    · rfl
    · rfl

theorem frame_free_stepCourse (line : Bytes) (e : σ × ChildTable) :
    ∀ event ∈ (stepCourse line e).trace, event.isFrame = false := by
  rw [trace_stepCourse]
  intro event hevent
  rcases List.mem_append.mp hevent with hevent | hevent
  · rcases List.mem_cons.mp hevent with rfl | hevent
    · rfl
    · exact frame_free_opening _ event hevent
  · split at hevent
    · rename_i i _
      rcases List.mem_cons.mp hevent with rfl | hevent
      · rfl
      · exact frame_free_aftermath i e.2 event hevent
    · cases hevent

theorem frame_free_step (line : Bytes) (w : World (σ × ChildTable)) :
    ∀ event ∈ (step line).trace w, event.isFrame = false := by
  obtain ⟨stop, hseen, _⟩ := Action.exists_stop (follows_step line w.env w.console)
  intro event hevent
  obtain ⟨e, he, rfl | ⟨error, hcut⟩⟩ := hseen.mem hevent
  · exact frame_free_stepCourse line w.env e he
  · cases hcut
    rfl

theorem asked_free_of_frame_free {event : Event} (h : event.isFrame = false) :
    event.isAsked = false := by
  cases event with
  | asked prompt => cases h
  | _ => rfl

theorem ask_script (prompt : String) (s : Script) (k : κ) (c : Console) :
    Environment.ask prompt (⟨(s, k), c⟩ : World (Script × κ)) =
      (s.next.1, ⟨(s.next.2, k), c.after [.asked (Text.encode prompt)]⟩) := by
  rw [← Console.record_asked]
  rfl

/-- What a session with a script of lines has done by its end, against what its steps have done. -/
structure Refines (w : World (Script × ChildTable)) (run : Action (Script × ChildTable) Ending)
    (w' : World (σ × ChildTable)) (stepped : Stepped (σ × ChildTable)) : Prop where
  result : run.result w = stepped.ending
  alike : (run.worldAfter w).Alike stepped.world
  exists_history : ∃ seen : Trace,
    (run.worldAfter w).console.history = w.console.history ++ seen ∧
      stepped.world.console.history = w'.console.history ++ seen.unframed ∧
      seen.countP Event.isAsked = stepped.count + stepped.ranOut.toNat

theorem refines_nil (settings : Settings) (failures : UInt32) {t : ChildTable} {c : Console}
    {w : World (σ × ChildTable)}
    (halike : (⟨(⟨[]⟩, t), c⟩ : World (Script × ChildTable)).Alike w) :
    Refines ⟨(⟨[]⟩, t), c⟩ (runFrom settings failures) w (stepThrough [] w) := by
  have hturn : turn settings failures (⟨(⟨[]⟩, t), c⟩ : World (Script × ChildTable)) =
      .done (.ok .endOfInput
        ⟨(⟨[]⟩, t), c.after [.asked (Text.encode settings.prompt), .logged .endOfInput]⟩) := by
    simp only [turn, ask_script, Script.next, Console.log_eq_after, ← Console.after_append]
    rfl
  have hframe : ∀ event ∈ [Event.asked (Text.encode settings.prompt), .logged .endOfInput],
      event.isFrame = true := by simp [Event.isFrame]
  obtain ⟨hending, hworld⟩ := ended_of_done_ok hturn
  refine ⟨hending, hworld ▸ halike.after_frame hframe, ?_⟩
  rw [hworld]
  refine ⟨_, Console.history_after c _, ?_, Trace.countP_visible _ (fun _ => rfl) _⟩
  rw [Trace.unframed_visible_eq_nil hframe]
  exact (List.append_nil _).symm

omit [LineSource σ] in
theorem exists_asked (prompt : String) (line : Bytes) (lines : List Bytes)
    {w : World (Script × ChildTable)} {w' : World (σ × ChildTable)}
    (hlines : w.env.1 = ⟨(line :: lines).map .line⟩) (halike : w.Alike w') :
    ∃ asked, Environment.ask prompt w = (.line line, asked) ∧
      asked.env.1 = ⟨lines.map .line⟩ ∧ asked.Alike w' ∧
      asked.console.history = w.console.history ++ [.asked (Text.encode prompt)] := by
  obtain ⟨⟨s, t⟩, c⟩ := w
  obtain rfl : s = ⟨(line :: lines).map .line⟩ := hlines
  exact ⟨_, ask_script prompt _ t c, rfl, halike.after_frame (by simp [Event.isFrame]),
    Console.history_after c _⟩

theorem history_first_step (line : Bytes) {prompt : Bytes} {w asked : World (Script × ChildTable)}
    {w' : World (σ × ChildTable)} (halike : asked.Alike w')
    (hasked : asked.console.history = w.console.history ++ [.asked prompt]) :
    ∃ seen : Trace,
      ((step line).worldAfter asked).console.history = w.console.history ++ seen ∧
        ((step line).worldAfter w').console.history = w'.console.history ++ seen.unframed ∧
        seen.countP Event.isAsked = 1 := by
  have hfree := frame_free_step line w'
  refine ⟨.asked prompt :: (step line).trace w', ?_, ?_, ?_⟩
  · rw [history_worldAfter_step, (step_congr line halike).2.1, hasked, List.append_assoc]
    rfl
  · rw [history_worldAfter_step, ← List.singleton_append, Trace.unframed_append,
      Trace.unframed_of_free hfree]
    rfl
  · rw [List.countP_cons, List.countP_eq_zero.mpr fun event hevent => by
      simp [asked_free_of_frame_free (hfree event hevent)]]
    rfl

theorem refines_cons {settings : Settings} (line : Bytes) {lines : List Bytes}
    (ih : ∀ (w : World (Script × ChildTable)) (w' : World (σ × ChildTable)),
      w.env.1 = ⟨lines.map .line⟩ → w.Alike w' →
        Refines w (runFrom settings 0) w' (stepThrough lines w'))
    (failures : UInt32) {w : World (Script × ChildTable)} {w' : World (σ × ChildTable)}
    (hlines : w.env.1 = ⟨(line :: lines).map .line⟩) (halike : w.Alike w') :
    Refines w (runFrom settings failures) w' (stepThrough (line :: lines) w') := by
  obtain ⟨asked, hask, hrest, halike', hhistory⟩ :=
    exists_asked settings.prompt line lines hlines halike
  obtain ⟨seen, hseen, hseen', hcount⟩ := history_first_step line halike' hhistory
  obtain ⟨hresult, _, hafter⟩ := step_congr line halike'
  have hturn : turn settings failures w = _ := turn_of_line hask rfl
  rw [Action.result] at hresult
  rw [Action.worldAfter] at hseen hafter
  -- The step decides in both alike: it fails, asks for the end, or lets the rest of the lines come.
  cases hstep : step line asked with
  | error error w₂ =>
      simp only [hstep] at hturn hseen hafter hresult
      obtain ⟨hending, hworld⟩ := ended_of_done_error hturn
      rw [stepThrough_stop (by rw [← hresult]; simp), ← hresult]
      refine ⟨hending, ?_, seen, ?_, hseen', hcount⟩
      · rw [hworld]
        exact hafter
      · rw [hworld]
        exact hseen
  | ok flow w₂ =>
      have hsource := fst_of_step_ok hstep
      simp only [hstep] at hturn hseen hafter hresult
      cases flow with
      | proceed =>
          obtain ⟨hending, hworld⟩ := ended_of_again hturn
          obtain ⟨hlast, halike₂, later, hlater, hlater', hasked⟩ :=
            ih w₂ ((step line).worldAfter w') (hsource.trans hrest) hafter
          rw [stepThrough_proceed hresult.symm]
          refine ⟨hending.trans hlast, hworld ▸ halike₂, seen ++ later, ?_, ?_, ?_⟩
          · rw [hworld, hlater, hseen, List.append_assoc]
          · dsimp only
            rw [hlater', hseen', Trace.unframed_append, List.append_assoc]
          · simp only [List.countP_append, hcount, hasked, Stepped.ranOut]
            omega
      | quit =>
          obtain ⟨hending, hworld⟩ := ended_of_done_ok hturn
          have hframe : ∀ event ∈ [Event.logged .quitRequested], event.isFrame = true := by
            simp [Event.isFrame]
          rw [Console.log_eq_after] at hworld
          rw [stepThrough_stop (by rw [← hresult]; simp), ← hresult]
          refine ⟨hending, hworld ▸ hafter.after_frame hframe,
            seen ++ Trace.visible w₂.console.filter [.logged .quitRequested], ?_, ?_, ?_⟩
          · rw [hworld, Console.history_after, hseen, List.append_assoc]
          · rw [Trace.unframed_append, Trace.unframed_visible_eq_nil hframe, List.append_nil]
            exact hseen'
          · rw [List.countP_append, Trace.countP_visible _ fun _ => rfl]
            exact hcount

/-- The loop of a session comes to what its steps come to, whatever the streams refuse. -/
theorem refines (settings : Settings) (lines : List Bytes) (failures : UInt32)
    (w : World (Script × ChildTable)) (w' : World (σ × ChildTable))
    (hlines : w.env.1 = ⟨lines.map .line⟩) (halike : w.Alike w') :
    Refines w (runFrom settings failures) w' (stepThrough lines w') := by
  induction lines generalizing failures w w' with
  | nil =>
      obtain ⟨⟨s, t⟩, c⟩ := w
      obtain rfl : s = ⟨[]⟩ := hlines
      exact refines_nil settings failures halike
  | cons line lines ih => exact refines_cons line (ih 0) failures hlines halike

/-- A session with a script of lines does what the steps for these lines do one after another, up to
the first after which it is not to go on. Around them it asks for each line, and once more where the
lines ran out, and logs why it ends; nothing else sets it apart from its steps, whatever the streams
refuse. -/
theorem run_eq_stepThrough (settings : Settings) (lines : List Bytes) (s : σ) (t : ChildTable)
    (c : Console) :
    let w : World (Script × ChildTable) := ⟨(⟨lines.map .line⟩, t), c⟩
    let stepped := stepThrough lines (⟨(s, t), c⟩ : World (σ × ChildTable))
    stepped.world.console.history = c.history ++ ((run settings).trace w).unframed ∧
      (run settings).result w = stepped.ending ∧
      ((run settings).trace w).countP Event.isAsked = stepped.count + stepped.ranOut.toNat ∧
      ((run settings).worldAfter w).Alike stepped.world := by
  intro w stepped
  obtain ⟨hending, halike, seen, hseen, hseen', hcount⟩ :=
    refines settings lines 0 w ⟨(s, t), c⟩ rfl ⟨rfl, rfl⟩
  have htrace : (run settings).trace w = seen := by
    change ((run settings).worldAfter w).console.history = c.history ++ seen at hseen
    rw [Action.trace, hseen]
    exact List.drop_left
  rw [htrace]
  exact ⟨hseen', hending, hcount, halike⟩

end Session

end RestrictedShell
