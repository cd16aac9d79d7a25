import RestrictedShell.Proofs.Session.Course

namespace RestrictedShell

namespace Output

variable {ε α β : Type}

theorem act_bind (o : Output α) (f : α → Output β) :
    (o >>= f).act = (do (f (← o.act)).act : Action ε β) := by
  funext w
  change act (EStateM.bind o f) w = EStateM.bind o.act (fun x => (f x).act) w
  cases hrun : o w.console with
  | ok x c => cases hnext : f x c <;> simp only [act, EStateM.bind, hrun, hnext]
  | error error c => simp only [act, EStateM.bind, hrun]

end Output

namespace Action

variable {ε α β : Type}

theorem follows_perform (event : Event) (e : ε) :
    Follows (Output.perform event).act e (Course.still e [event]) (.ok ()) := by
  intro c
  have hact : (Output.perform event).act ⟨e, c⟩ = happen event e ⟨e, c⟩ := by
    unfold Output.act happen
    cases Output.perform event c <;> rfl
  exact hact.trans (follows_happen event e e c)

theorem follows_write (s : Stream) (bytes : Bytes) (e : ε) :
    Follows (Output.write s bytes).act e (Course.still e [.wrote s bytes]) (.ok ()) :=
  follows_perform (.wrote s bytes) e

theorem follows_writeText (s : Stream) (text : String) (e : ε) :
    Follows (Output.writeText s text).act e (Course.still e [.wrote s (Text.encode text)])
      (.ok ()) :=
  follows_write s (Text.encode text) e

theorem follows_flush (s : Stream) (e : ε) :
    Follows (Output.flush s).act e (Course.still e [.flushed s]) (.ok ()) :=
  follows_perform (.flushed s) e

theorem follows_log (entry : Log.Entry) (e : ε) :
    Follows (Output.log entry).act e (Course.still e [.logged entry]) (.ok ()) :=
  follows_perform (.logged entry) e

theorem follows_waited (command : String) (e : ε) :
    Follows (Output.note (.waited command)).act e (Course.still e [.waited command]) (.ok ()) :=
  follows_perform (.waited command) e

theorem follows_bind_still {a : Action ε α} {f : α → Action ε β} {e : ε} {t t' : Trace} {x : α}
    {result : Except IoError β} (ha : Follows a e (Course.still e t) (.ok x))
    (hf : Follows (f x) e (Course.still e t') result) :
    Follows (a >>= f) e (Course.still e (t ++ t')) result := by
  rw [Course.still_append]
  refine follows_bind ha ?_
  rwa [Course.env_still]

theorem follows_close (e : ε) :
    Follows (do (Output.flush .out).act; pure Flow.proceed) e
      (Course.still e [.flushed .out]) (.ok Flow.proceed) :=
  follows_bind_still (follows_flush .out e) (follows_pure Flow.proceed e)

theorem enact_logged (e : ε) (log : List Log.Entry) (c : Console) :
    enact (Course.still e (log.map .logged)) ⟨e, c⟩ = .ok () ⟨e, c.logAll log⟩ := by
  induction log generalizing c with
  | nil => rfl
  | cons entry log ih => exact ih (c.log entry)

theorem enact_childWrote (e : ε) (pieces : List (Stream × Bytes)) (c : Console) :
    enact (Course.still e (pieces.map fun p => .childWrote p.1 p.2)) ⟨e, c⟩ =
      .ok () ⟨e, c.recordAll (pieces.map fun p => .childWrote p.1 p.2)⟩ := by
  induction pieces generalizing c with
  | nil => rfl
  | cons piece pieces ih => exact ih (c.record (.childWrote piece.1 piece.2))

theorem enact_events (e : ε) (l : Launched) (c : Console) :
    enact (Course.still e l.events) ⟨e, c⟩ = .ok () ⟨e, c.recordAll l.events⟩ := by
  obtain ⟨log, error | child⟩ := l
  · rfl
  · exact enact_childWrote e _ c

end Action

namespace Child

/-- What is said on the error stream when the child is waited for. -/
def said (child : Child) : Trace :=
  .wrote .err child.remark :: if child.settled then [.flushed .err] else []

theorem eq_of_mem_said {child : Child} {event : Event} (h : event ∈ child.said) :
    event = .wrote .err child.remark ∨ event = .flushed .err := by
  rcases List.mem_cons.mp h with rfl | hflush
  · exact .inl rfl
  · split at hflush
    · exact .inr (List.mem_singleton.mp hflush)
    · cases hflush

theorem said_free (child : Child) :
    ∀ event ∈ child.said,
      event.isAsked = false ∧ event.isLaunched = false ∧ event.isWaited = false := by
  intro event hevent
  rcases eq_of_mem_said hevent with rfl | rfl <;> exact ⟨rfl, rfl, rfl⟩

theorem follows_wait {ε : Type} (command : Command) (child : Child) (e : ε) :
    Action.Follows (child.wait command).act e
      (Course.still e (.waited command.name :: child.said)) child.ending := by
  obtain ⟨output, remark, settled, ending⟩ := child
  unfold wait said
  simp only [Output.act_bind]
  refine Action.follows_bind_still (Action.follows_waited command.name e) ?_
  refine Action.follows_bind_still (Action.follows_write .err remark e) ?_
  cases settled with
  | true =>
      simp only [if_true, Output.act_bind]
      refine Action.follows_bind_still (Action.follows_flush .err e) ?_
      cases ending with
      | ok outcome => exact Action.follows_pure outcome e
      | error error => exact Action.follows_throw error e
  | false =>
      cases ending with
      | ok outcome => exact Action.follows_pure outcome e
      | error error => exact Action.follows_throw error e

end Child

/-- What reporting an outcome does. -/
def Outcome.reported (name : String) : Outcome → Trace
  | .exited code =>
      [.logged (.commandFinished name code), .wrote .out (Text.encode (completionLine name code)),
        .flushed .out]
  | outcome => [.logged (.noCompletionReport name outcome)]

theorem Outcome.of_mem_reported {name : String} {outcome : Outcome} {event : Event}
    (h : event ∈ outcome.reported name) :
    event = .logged (.noCompletionReport name outcome) ∨
      ∃ code, outcome = .exited code ∧ (event = .logged (.commandFinished name code) ∨
        event = .wrote .out (Text.encode (completionLine name code)) ∨ event = .flushed .out) := by
  cases outcome with
  | exited code => exact .inr ⟨code, rfl, by simpa [reported] using h⟩
  | signaled signal => exact .inl (List.mem_singleton.mp h)
  | lost reason => exact .inl (List.mem_singleton.mp h)

theorem follows_report {ε : Type} (name : String) (outcome : Outcome) (e : ε) :
    Action.Follows (report name outcome).act e (Course.still e (outcome.reported name))
      (.ok ()) := by
  cases outcome with
  | exited code =>
      simp only [report, Output.act_bind]
      refine Action.follows_bind_still (Action.follows_log _ e) ?_
      exact Action.follows_bind_still (Action.follows_writeText .out _ e)
        (Action.follows_flush .out e)
  | signaled signal => exact Action.follows_log _ e
  | lost reason => exact Action.follows_log _ e

namespace Dispatch

/-- What is done for a line before anything is launched. -/
def opening : Dispatch → Trace
  | .quit => []
  | .blank => [.flushed .out]
  | .help => [.wrote .out (Text.encode Session.helpText), .flushed .out]
  | .unrecognized name =>
      [.wrote .err (Text.encode ("command not recognized: " ++ name ++ "\n")),
        .wrote .out (Text.encode Session.hintText), .flushed .out]
  | .external _ => [.flushed .out]

theorem opening_free (d : Dispatch) :
    ∀ event ∈ d.opening,
      event.isAsked = false ∧ event.isLaunched = false ∧ event.isWaited = false := by
  cases d <;> simp [opening, Event.isAsked, Event.isLaunched, Event.isWaited]

end Dispatch

namespace Launched

/-- What is done for a child once it is there. -/
def waiting (i : Invocation) (l : Launched) : Trace :=
  match l.result with
  | .ok child => .waited i.command.name :: child.said
  | .error _ => []

/-- What is done once a child has ended, or when there is none: its outcome or the lack of it is
reported, and the standard output flushed, unless the wait fails. -/
def conclusion (i : Invocation) (l : Launched) : Trace :=
  match l.result with
  | .ok child =>
      match child.ending with
      | .ok outcome => outcome.reported i.command.name ++ [.flushed .out]
      | .error _ => []
  | .error error =>
      [.logged (.spawnFailed error),
        .wrote .err (Text.encode ("error creating a new process: " ++ error.message ++ "\n")),
        .flushed .out]

/-- What happens from a launch until its child has been waited for. -/
def attending (i : Invocation) (l : Launched) : Trace :=
  l.log.map .logged ++ l.events ++ l.waiting i

/-- What a step does after it has launched a command, given the answer of the launcher. -/
def aftermath (i : Invocation) (l : Launched) : Trace :=
  l.attending i ++ l.conclusion i

/-- The result of waiting, if there is a child. -/
def attempted (l : Launched) : Except IoError (Except SpawnError Outcome) :=
  match l.result with
  | .ok child => child.ending.map .ok
  | .error error => .ok (.error error)

/-- How a step ends that launches a command: a failing wait fails it. -/
def flow (l : Launched) : Except IoError Flow :=
  match l.result with
  | .ok child => child.ending.map fun _ => .proceed
  | .error _ => .ok .proceed

/-- What happens until the end of the wait comes from the launcher's log, from the child, or from
the wait for it. -/
theorem of_mem_attending {i : Invocation} {l : Launched} {event : Event}
    (h : event ∈ l.attending i) :
    (∃ entry ∈ l.log, event = .logged entry) ∨ (∃ s bytes, event = .childWrote s bytes) ∨
      ∃ child, l.result = .ok child ∧
        (event = .waited i.command.name ∨ event = .wrote .err child.remark ∨
          event = .flushed .err) := by
  obtain ⟨log, error | child⟩ := l
  · simp only [attending, events, waiting, List.append_nil, List.mem_map] at h
    obtain ⟨entry, hentry, rfl⟩ := h
    exact .inl ⟨entry, hentry, rfl⟩
  · rcases List.mem_append.mp h with hquiet | hwaiting
    · rcases List.mem_append.mp hquiet with hlogged | hown
      · obtain ⟨entry, hentry, rfl⟩ := List.mem_map.mp hlogged
        exact .inl ⟨entry, hentry, rfl⟩
      · obtain ⟨piece, _, rfl⟩ := List.mem_map.mp hown
        exact .inr (.inl ⟨piece.1, piece.2, rfl⟩)
    · refine .inr (.inr ⟨child, rfl, ?_⟩)
      exact (List.mem_cons.mp hwaiting).imp_right Child.eq_of_mem_said

theorem of_mem_conclusion {i : Invocation} {l : Launched} {event : Event}
    (h : event ∈ l.conclusion i) :
    event = .flushed .out ∨
      (∃ child outcome, l.result = .ok child ∧ child.ending = .ok outcome ∧
        event ∈ outcome.reported i.command.name) ∨
      ∃ error, l.result = .error error ∧ (event = .logged (.spawnFailed error) ∨
        event = .wrote .err
          (Text.encode ("error creating a new process: " ++ error.message ++ "\n"))) := by
  obtain ⟨log, error | ⟨output, remark, settled, error | outcome⟩⟩ := l
  · simp only [conclusion, List.mem_cons, List.not_mem_nil, or_false] at h
    rcases h with rfl | rfl | rfl
    · exact .inr (.inr ⟨error, rfl, .inl rfl⟩)
    · exact .inr (.inr ⟨error, rfl, .inr rfl⟩)
    · exact .inl rfl
  · cases h
  · rcases List.mem_append.mp h with hreported | hflushed
    · exact .inr (.inl ⟨_, outcome, rfl, rfl, hreported⟩)
    · exact .inl (List.mem_singleton.mp hflushed)

theorem conclusion_free (i : Invocation) (l : Launched) :
    ∀ event ∈ l.conclusion i,
      event.isAsked = false ∧ event.isLaunched = false ∧ event.isWaited = false := by
  intro event hevent
  rcases of_mem_conclusion hevent with
    rfl | ⟨child, outcome, _, _, hreported⟩ | ⟨error, _, rfl | rfl⟩
  · exact ⟨rfl, rfl, rfl⟩
  · rcases Outcome.of_mem_reported hreported with rfl | ⟨code, _, rfl | rfl | rfl⟩ <;>
      exact ⟨rfl, rfl, rfl⟩
  · exact ⟨rfl, rfl, rfl⟩
  · exact ⟨rfl, rfl, rfl⟩

theorem attending_free (i : Invocation) (l : Launched) :
    ∀ event ∈ l.attending i, event.isAsked = false ∧ event.isLaunched = false := by
  intro event hevent
  rcases of_mem_attending hevent with
    ⟨entry, _, rfl⟩ | ⟨s, bytes, rfl⟩ | ⟨child, _, rfl | rfl | rfl⟩ <;> exact ⟨rfl, rfl⟩

theorem aftermath_free (i : Invocation) (l : Launched) :
    ∀ event ∈ l.aftermath i, event.isAsked = false ∧ event.isLaunched = false := by
  intro event hevent
  rcases List.mem_append.mp hevent with hattending | hconclusion
  · exact l.attending_free i event hattending
  · exact (l.conclusion_free i event hconclusion).imp_right And.left

theorem aftermath_of_ok {i : Invocation} {l : Launched} {child : Child} (h : l.result = .ok child) :
    l.aftermath i = l.log.map .logged ++ l.events ++
      .waited i.command.name :: (child.said ++ l.conclusion i) := by
  simp [aftermath, attending, waiting, h]

theorem quiet_before_wait (l : Launched) :
    ∀ event ∈ l.log.map .logged ++ l.events, event.isQuiet = true := by
  intro event hevent
  rcases List.mem_append.mp hevent with hlog | hown
  · obtain ⟨entry, _, rfl⟩ := List.mem_map.mp hlog
    rfl
  · obtain ⟨log, error | child⟩ := l
    · cases hown
    · obtain ⟨piece, _, rfl⟩ := List.mem_map.mp hown
      rfl

theorem waited_free_aftermath {i : Invocation} {l : Launched} {error : SpawnError}
    (h : l.result = .error error) : ∀ event ∈ l.aftermath i, event.isWaited = false := by
  intro event hevent
  rcases List.mem_append.mp hevent with hattending | hconclusion
  · rcases of_mem_attending hattending with ⟨entry, _, rfl⟩ | ⟨s, bytes, rfl⟩ | ⟨child, hchild, _⟩
    · rfl
    · rfl
    · rw [h] at hchild
      cases hchild
  · exact (l.conclusion_free i event hconclusion).2.2

theorem out_free_aftermath {i : Invocation} {l : Launched}
    (h : ∀ child code, l.result = .ok child → child.ending ≠ .ok (.exited code)) :
    ∀ bytes, .wrote .out bytes ∉ l.aftermath i := by
  intro bytes hmem
  rcases List.mem_append.mp hmem with hattending | hconclusion
  · simpa using of_mem_attending hattending
  · rcases of_mem_conclusion hconclusion with
      hflushed | ⟨child, outcome, hchild, hending, hreported⟩ | ⟨error, _, hlogged | hwrote⟩
    · cases hflushed
    · rcases Outcome.of_mem_reported hreported with hlogged | ⟨code, rfl, _⟩
      · cases hlogged
      · exact h child code hchild hending
    · cases hlogged
    · cases hwrote

theorem eq_of_wrote_err {i : Invocation} {l : Launched} {bytes : Bytes}
    (h : .wrote .err bytes ∈ l.aftermath i) :
    (∃ child, l.result = .ok child ∧ bytes = child.remark) ∨
      ∃ error, l.result = .error error ∧
        bytes = Text.encode ("error creating a new process: " ++ error.message ++ "\n") := by
  rcases List.mem_append.mp h with hattending | hconclusion
  · rcases of_mem_attending hattending with
      ⟨entry, _, hlogged⟩ | ⟨s, bytes, hown⟩ | ⟨child, hchild, hwaited | hwrote | hflushed⟩
    · cases hlogged
    · cases hown
    · cases hwaited
    · exact .inl ⟨child, hchild, (Event.wrote.inj hwrote).2⟩
    · cases hflushed
  · rcases of_mem_conclusion hconclusion with
      hflushed | ⟨child, outcome, _, _, hreported⟩ | ⟨error, herror, hlogged | hwrote⟩
    · cases hflushed
    · simpa using Outcome.of_mem_reported hreported
    · cases hlogged
    · exact .inr ⟨error, herror, (Event.wrote.inj hwrote).2⟩

end Launched

namespace Session

variable {ε : Type} [Environment ε]

/-- The course of a launch in an environment. -/
def launchCourse (i : Invocation) (e : ε) : Course ε :=
  Course.still (Environment.launch i e).2
    (.launched i.argv :: (Environment.launch i e).1.aftermath i)

/-- The course of doing what a line asks for. -/
def respondCourse (d : Dispatch) (e : ε) : Course ε :=
  Course.still e d.opening ++
    match d with
    | .external i => launchCourse i e
    | _ => []

/-- How doing what a line asks for ends if no stream refuses anything. -/
def respondResult (d : Dispatch) (e : ε) : Except IoError Flow :=
  match d with
  | .quit => .ok .quit
  | .external i => (Environment.launch i e).1.flow
  | _ => .ok .proceed

/-- The course of handling a line. -/
def stepCourse (line : Bytes) (e : ε) : Course ε :=
  Course.still e [.logged .dispatching] ++ respondCourse (classify line) e

/-- How handling a line ends if no stream refuses anything. -/
def stepResult (line : Bytes) (e : ε) : Except IoError Flow :=
  respondResult (classify line) e

theorem follows_start (i : Invocation) (e : ε) :
    Action.Follows (Environment.start i) e
      (Course.still (Environment.launch i e).2
        (.launched i.argv :: (Environment.launch i e).1.log.map .logged ++
          (Environment.launch i e).1.events))
      (.ok (Environment.launch i e).1.result) := by
  intro c
  generalize hlaunch : Environment.launch i e = answer
  obtain ⟨l, e'⟩ := answer
  have hlog := Action.enact_logged e' l.log (c.record (.launched i.argv))
  have hevents := Action.enact_events e' l ((c.record (.launched i.argv)).logAll l.log)
  have hfirst : Action.enact (Course.still e' [.launched i.argv]) ⟨e, c⟩ =
      .ok () ⟨e', c.record (.launched i.argv)⟩ := rfl
  rw [List.cons_append, ← List.singleton_append, Course.still_append, Course.still_append,
    Action.enact_append, Action.enact_append, bind_assoc, bind_assoc, Action.bind_ok hfirst,
    Action.bind_ok hlog, Action.bind_ok hevents]
  simp only [Environment.start, hlaunch]
  rfl

theorem follows_attempt (i : Invocation) (e : ε) :
    Action.Follows (Environment.attempt i) e
      (Course.still (Environment.launch i e).2
        (.launched i.argv :: (Environment.launch i e).1.attending i))
      (Environment.launch i e).1.attempted := by
  have hstart := follows_start i e
  rw [Launched.attending, ← List.cons_append, Course.still_append]
  refine Action.follows_bind hstart ?_
  rw [Course.env_still_cons]
  generalize Environment.launch i e = answer
  obtain ⟨⟨log, error | child⟩, e'⟩ := answer
  · exact Action.follows_pure _ e'
  · obtain ⟨output, remark, settled, error | outcome⟩ := child
    · exact Action.follows_bind_error (Child.follows_wait i.command _ e')
    · have hwait := Child.follows_wait i.command ⟨output, remark, settled, .ok outcome⟩ e'
      simp only [Launched.waiting]
      rw [← List.append_nil (_ :: _)]
      exact Action.follows_bind_still hwait (Action.follows_pure _ e')

theorem follows_respond_external (i : Invocation) (e : ε) :
    Action.Follows (respond (.external i)) e (Course.still e [.flushed .out] ++ launchCourse i e)
      (Environment.launch i e).1.flow := by
  have hattempt := follows_attempt i e
  simp only [respond, runExternal, bind_assoc]
  refine Action.follows_bind (Action.follows_flush .out e) ?_
  rw [Course.env_still, launchCourse, Launched.aftermath, ← List.cons_append, Course.still_append]
  generalize Environment.launch i e = answer at hattempt
  obtain ⟨⟨log, error | child⟩, e'⟩ := answer
  · refine Action.follows_bind hattempt ?_
    simp only [Course.env_still_cons, bind_assoc]
    exact Action.follows_bind_still (Action.follows_log _ e')
      (Action.follows_bind_still (Action.follows_writeText .err _ e') (Action.follows_close e'))
  · obtain ⟨output, remark, settled, error | outcome⟩ := child
    · simp only [Launched.conclusion, Course.still, List.map_nil, List.append_nil]
      exact Action.follows_bind_error hattempt
    · refine Action.follows_bind hattempt ?_
      simp only [Course.env_still_cons]
      exact Action.follows_bind_still (follows_report i.command.name outcome e')
        (Action.follows_close e')

theorem follows_respond (d : Dispatch) (e : ε) :
    Action.Follows (respond d) e (respondCourse d e) (respondResult d e) := by
  cases d with
  | quit => exact Action.follows_pure Flow.quit e
  | blank => exact Action.follows_close e
  | help =>
      simp only [respond, respondCourse, List.append_nil]
      exact Action.follows_bind_still (Action.follows_writeText .out helpText e)
        (Action.follows_close e)
  | unrecognized name =>
      simp only [respond, respondCourse, List.append_nil]
      exact Action.follows_bind_still (Action.follows_writeText .err _ e)
        (Action.follows_bind_still (Action.follows_writeText .out hintText e)
          (Action.follows_close e))
  | external i => exact follows_respond_external i e

theorem follows_step (line : Bytes) (e : ε) :
    Action.Follows (step line) e (stepCourse line e) (stepResult line e) :=
  Action.follows_bind (Action.follows_log .dispatching e) (follows_respond (classify line) e)

theorem trace_stepCourse (line : Bytes) (e : ε) :
    (stepCourse line e).trace = .logged .dispatching :: (classify line).opening ++
      match classify line with
      | .external i => .launched i.argv :: (Environment.launch i e).1.aftermath i
      | _ => [] := by
  unfold stepCourse respondCourse
  rw [Course.trace_append, Course.trace_append, Course.trace_still, Course.trace_still]
  cases classify line with
  | external i => simp [launchCourse]
  | _ => rfl

/-- A step launches nothing but what its line asks for, and that at one place. -/
theorem launched_in_step {line : Bytes} {e : ε} {before after : Trace} {argv : List Bytes}
    (h : (stepCourse line e).trace = before ++ .launched argv :: after) :
    ∃ i, classify line = .external i ∧ argv = i.argv ∧
      before = [.logged .dispatching, .flushed .out] ∧
      after = (Environment.launch i e).1.aftermath i := by
  rw [trace_stepCourse] at h
  cases hline : classify line with
  | external i =>
      rw [hline] at h
      obtain ⟨hbefore, hargv, hafter⟩ := Trace.split_unique (p := Event.isLaunched)
        (by simp [Dispatch.opening, Event.isLaunched])
        (fun event hevent => (Launched.aftermath_free i _ event hevent).2) rfl h
      cases hargv
      exact ⟨i, rfl, rfl, hbefore, hafter⟩
  | _ =>
      rw [hline] at h
      have hmem := congrArg (Event.launched argv ∈ ·) h
      simp [Dispatch.opening] at hmem

theorem asked_free_stepCourse (line : Bytes) (e : ε) :
    ∀ event ∈ (stepCourse line e).trace, event.isAsked = false := by
  rw [trace_stepCourse]
  intro event hevent
  simp only [List.cons_append, List.mem_cons, List.mem_append] at hevent
  rcases hevent with rfl | hevent | hevent
  · rfl
  · exact ((classify line).opening_free event hevent).1
  · split at hevent
    · rename_i i _
      rcases List.mem_cons.mp hevent with rfl | hevent
      · rfl
      · exact (Launched.aftermath_free i _ event hevent).1
    · cases hevent

end Session

end RestrictedShell
