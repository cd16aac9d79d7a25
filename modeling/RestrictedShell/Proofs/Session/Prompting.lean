import RestrictedShell.Launch.ChildTable
import RestrictedShell.Proofs.Session.Points
import RestrictedShell.Source.PlainReader
/-!
Prompts that are refused. A stream that refuses a prompt refuses it for good, and a prompt that
cannot be shown counts as a failed read. So a session whose prompts are refused complains until the
settings allow no more, with nothing read or launched, and then it ends well.
-/

namespace RestrictedShell

namespace Console

theorem refusal?_congr_of_isOn {c c' : Console} {s : Stream} {event : Event}
    (h : c.allowance s = c'.allowance s) (hon : event.IsOn s) :
    c.refusal? event = c'.refusal? event := by
  cases event with
  | wrote s' bytes =>
      obtain rfl : s' = s := hon
      simp only [refusal?, h]
  | flushed s' =>
      obtain rfl : s' = s := hon
      simp only [refusal?, h]
  | _ => cases hon

theorem takes_iff_of_allowance {c c' : Console} {s : Stream} {trace : Trace}
    (h : c.allowance s = c'.allowance s) (hon : ∀ event ∈ trace, event.IsOn s) :
    c.Takes trace ↔ c'.Takes trace := by
  unfold Takes
  refine forall_congr' fun before => forall_congr' fun event => forall_congr' fun later => ?_
  refine forall_congr' fun hsplit => ?_
  have hafter : (c.after before).allowance s = (c'.after before).allowance s := by
    rw [allowance_after, allowance_after, h]
  rw [refusal?_congr_of_isOn hafter (hon event (by simp [hsplit]))]

theorem takes_of_isOn {c : Console} {s : Stream} {trace : Trace} (h : c.allowance s = .unlimited)
    (hon : ∀ event ∈ trace, event.IsOn s) : c.Takes trace := by
  have hsame : c.allowance s = (fresh .off).allowance s := by
    rw [h]
    exact (unlimited_fresh .off s).symm
  rw [takes_iff_of_allowance hsame hon]
  exact takes_of_unlimited (unlimited_fresh .off) trace

theorem allowance_after_of_isOn (c : Console) {s s' : Stream} {trace : Trace} (hne : s ≠ s')
    (hon : ∀ event ∈ trace, event.IsOn s) : (c.after trace).allowance s' = c.allowance s' := by
  rw [allowance_after]
  refine Allowance.after_of_free ?_ ?_ _
  · refine List.flatMap_eq_nil_iff.mpr fun event hevent => ?_
    have hstream := hon event hevent
    cases event with
    | wrote s'' bytes =>
        obtain rfl : s'' = s := hstream
        simp [hne]
    | _ => rfl
  · refine List.count_eq_zero.mpr fun hflushed => ?_
    exact hne (hon _ hflushed).symm

end Console

namespace Session

variable {ε : Type} [Environment ε] {settings : Settings} {s : Stream}

theorem trace_askCourse {e : ε} (h : Environment.promptStream e = some s) (prompt : String) :
    (askCourse prompt e).trace = [.wrote s (Text.encode prompt), .flushed s] := by
  unfold askCourse
  rw [h]
  rfl

theorem readComplaint_isOn {n : Nat} :
    ∀ event ∈ List.replicate n readComplaint, event.IsOn .err := by
  intro event hevent
  rw [List.eq_of_mem_replicate hevent]
  rfl

/-- This prompt cannot be shown on the stream. -/
def PromptRefused (prompt : String) (s : Stream) (c : Console) : Prop :=
  ¬ c.Takes [.wrote s (Text.encode prompt), .flushed s]

theorem exists_turn_of_promptRefused (failures : UInt32) {w : World ε}
    (hstream : Environment.promptStream w.env = some s) (hs : s ≠ .err)
    (hrefused : PromptRefused settings.prompt s w.console) :
    ∃ trace, (∀ event ∈ trace, event.isLaunched = false) ∧
      (¬ w.console.Takes [readComplaint] ∧
          turn settings failures w =
            .done (.error (Output.refusedWrite .err) ⟨w.env, w.console.after trace⟩) ∨
        w.console.Takes [readComplaint] ∧
          (w.console.after trace).allowance .err =
            (w.console.after [readComplaint]).allowance .err ∧
          turn settings failures w =
            if settings.maxReadFailures ≤ failures + 1 then
              .done (.ok .readFailures
                ⟨w.env, (w.console.after trace).log .inputKeepsFailing⟩)
            else .again (failures + 1) ⟨w.env, w.console.after trace⟩) := by
  rw [PromptRefused, ← trace_askCourse hstream] at hrefused
  obtain ⟨s', seen, error, hstream', hask, hon⟩ := exists_ask_of_not_takes hrefused
  obtain rfl : s' = s := Option.some.inj (hstream'.symm.trans hstream)
  have hquiet : ∀ event ∈ seen, event.isLaunched = false := fun event hevent =>
    Event.not_launched_of_isOn (hon event hevent)
  have hallowance := Console.allowance_after_of_isOn w.console hs hon
  have htakes := Console.takes_iff_of_allowance hallowance (readComplaint_isOn (n := 1))
  rw [turn_of_failed hask rfl, afterFailure]
  by_cases herr : w.console.Takes [readComplaint]
  · refine ⟨seen ++ complaint (.input error) (failures + 1), ?_, .inr ⟨herr, ?_, ?_⟩⟩
    · simpa [complaint, Event.isLaunched, or_imp, forall_and] using hquiet
    · rw [Console.after_append, Console.allowance_after, hallowance, Console.allowance_after]
      rfl
    · rw [complain_of_takes _ _ (htakes.mpr herr), Console.after_append]
  · obtain ⟨part, hrun⟩ := exists_complain_of_not_takes (.input error) (failures + 1)
      (w := ⟨w.env, w.console.after seen⟩) fun h => herr (htakes.mp h)
    refine ⟨seen ++ [.logged (.readFailed (.input error) (failures + 1)), .wrote .err part], ?_,
      .inl ⟨herr, ?_⟩⟩
    · simpa [Event.isLaunched, or_imp, forall_and] using hquiet
    · rw [hrun, Console.after_append]

/-- What becomes of a session that complains so many times. -/
structure Complains (w : World ε) (n : Nat) (run : Action ε Ending) : Prop where
  env : (run.worldAfter w).env = w.env
  idle : w.console.Idle (run.worldAfter w).console
  exhausted : w.console.Takes (List.replicate n readComplaint) → run.result w = .ok .readFailures
  refused : ¬ w.console.Takes (List.replicate n readComplaint) →
    run.result w = .error (Output.refusedWrite .err)

omit [Environment ε] in
theorem takes_replicate_succ {c : Console} {n : Nat} :
    c.Takes (List.replicate (n + 1) readComplaint) ↔
      c.Takes [readComplaint] ∧
        (c.after [readComplaint]).Takes (List.replicate n readComplaint) := by
  rw [List.replicate_succ, Console.takes_cons, Console.takes_singleton]

theorem complains_of_done {n : Nat} {failures : UInt32} {w : World ε} {trace : Trace}
    (hquiet : ∀ event ∈ trace, event.isLaunched = false)
    (herr : ¬ w.console.Takes [readComplaint])
    (hturn : turn settings failures w =
      .done (.error (Output.refusedWrite .err) ⟨w.env, w.console.after trace⟩)) :
    Complains w (n + 1) (runFrom settings failures) := by
  obtain ⟨hresult, hworld⟩ := ended_of_done_error hturn
  refine ⟨by rw [hworld], ?_, fun htakes => ?_, fun _ => hresult⟩
  · rw [hworld]
    exact Console.idle_after _ hquiet
  · exact absurd (takes_replicate_succ.mp htakes).1 herr

theorem complains_of_again {n : Nat} {failures failures' : UInt32} {w : World ε} {trace : Trace}
    (hquiet : ∀ event ∈ trace, event.isLaunched = false) (herr : w.console.Takes [readComplaint])
    (hallowance : (w.console.after trace).allowance .err =
      (w.console.after [readComplaint]).allowance .err)
    (hturn : turn settings failures w = .again failures' ⟨w.env, w.console.after trace⟩)
    (h : Complains ⟨w.env, w.console.after trace⟩ n (runFrom settings failures')) :
    Complains w (n + 1) (runFrom settings failures) := by
  obtain ⟨hresult, hworld⟩ := ended_of_again hturn
  have htakes : w.console.Takes (List.replicate (n + 1) readComplaint) ↔
      (w.console.after trace).Takes (List.replicate n readComplaint) := by
    rw [Console.takes_iff_of_allowance hallowance readComplaint_isOn]
    exact takes_replicate_succ.trans (and_iff_right herr)
  refine ⟨?_, ?_, fun hall => ?_, fun hnot => ?_⟩
  · rw [hworld]
    exact h.env
  · rw [hworld]
    exact (Console.idle_after _ hquiet).trans h.idle
  · exact hresult.trans (h.exhausted (htakes.mp hall))
  · exact hresult.trans (h.refused fun hall => hnot (htakes.mpr hall))

theorem complains_of_promptRefused {n : Nat} {failures : UInt32} {w : World ε}
    (hstream : Environment.promptStream w.env = some s) (hs : s ≠ .err)
    (hrefused : PromptRefused settings.prompt s w.console)
    (hcount : failures.toNat + (n + 1) = max 1 settings.maxReadFailures.toNat) :
    Complains w (n + 1) (runFrom settings failures) := by
  -- The row of failures is `n + 1` short of the limit, and every turn brings it nearer by one.
  induction n generalizing failures w with
  | zero =>
      have hless : failures.toNat < max 1 settings.maxReadFailures.toNat := by omega
      have hlimit : settings.maxReadFailures ≤ failures + 1 := by
        rw [UInt32.le_iff_toNat_le, toNat_succ hless]
        omega
      obtain ⟨trace, hquiet, ⟨herr, hturn⟩ | ⟨herr, _, hturn⟩⟩ :=
        exists_turn_of_promptRefused failures hstream hs hrefused
      · exact complains_of_done hquiet herr hturn
      · rw [if_pos hlimit] at hturn
        obtain ⟨hresult, hworld⟩ := ended_of_done_ok hturn
        refine ⟨by rw [hworld], ?_, fun _ => hresult, fun hnot => absurd herr hnot⟩
        rw [hworld]
        exact (Console.idle_after _ hquiet).trans (Console.idle_log _ _)
  | succ n ih =>
      have hless : failures.toNat < max 1 settings.maxReadFailures.toNat := by omega
      have hsucc := toNat_succ hless
      have hlimit : ¬ settings.maxReadFailures ≤ failures + 1 := by
        rw [UInt32.le_iff_toNat_le, hsucc]
        omega
      obtain ⟨trace, hquiet, ⟨herr, hturn⟩ | ⟨herr, hallowance, hturn⟩⟩ :=
        exists_turn_of_promptRefused failures hstream hs hrefused
      · exact complains_of_done hquiet herr hturn
      · rw [if_neg hlimit] at hturn
        refine complains_of_again hquiet herr hallowance hturn ?_
        exact ih hstream (Console.not_takes_after hrefused trace) (by omega)

theorem run_of_stepRefused {w asked : World ε} {q : UInt32 × World ε} {line : Bytes}
    {before later stump : Trace} {event : Event} {error : IoError}
    (hreach : Reaches settings (0, w) q)
    (hask : Environment.ask settings.prompt q.2 = (.line line, asked))
    (hcourse : (stepCourse line asked.env).trace = before ++ event :: later)
    (htaken : asked.console.Takes before)
    (hrefused : (asked.console.after before).refusal? event = some (stump, error)) :
    (run settings).result w = .error error := by
  have hstep := (Action.ended_of_refusal (follows_step line asked.env asked.console) hcourse htaken
    hrefused).2
  have hturn : turn settings q.1 q.2 = _ := turn_of_line hask rfl
  rw [(run_of_reaches hreach).1]
  unfold Action.result at hstep
  cases hrun : step line asked with
  | error error' w' =>
      simp only [hrun, Except.error.injEq] at hturn hstep
      rw [← hstep]
      exact (ended_of_done_error hturn).1
  | ok flow w' =>
      simp only [hrun, reduceCtorEq] at hstep

theorem run_of_complaintRefused {w asked : World ε} {q : UInt32 × World ε} {error : ReadError}
    (hreach : Reaches settings (0, w) q)
    (hask : Environment.ask settings.prompt q.2 = (.failed error, asked))
    (hrefused : ¬ asked.console.Takes [readComplaint]) :
    (run settings).result w = .error (Output.refusedWrite .err) := by
  obtain ⟨part, hrun⟩ := exists_complain_of_not_takes error (q.1 + 1) hrefused
  have hturn : turn settings q.1 q.2 = _ := turn_of_failed hask rfl
  rw [afterFailure, hrun] at hturn
  rw [(run_of_reaches hreach).1]
  exact (ended_of_done_error hturn).1

theorem run_of_promptRefused {w : World ε} {q : UInt32 × World ε}
    (hreach : Reaches settings (0, w) q) (hstream : Environment.promptStream q.2.env = some s)
    (hs : s ≠ .err) (hrefused : PromptRefused settings.prompt s q.2.console) :
    Complains q.2 (max 1 settings.maxReadFailures.toNat - q.1.toNat) (runFrom settings q.1) := by
  have hless := hreach.failures_lt (by
    rw [UInt32.toNat_zero]
    omega)
  obtain ⟨n, hn⟩ : ∃ n, max 1 settings.maxReadFailures.toNat - q.1.toNat = n + 1 :=
    ⟨_, (Nat.succ_pred_eq_of_pos (by omega)).symm⟩
  rw [hn]
  exact complains_of_promptRefused hstream hs hrefused (by omega)

/-- What a session does about its streams at any point. What they refuse of a step, or of the
complaint about a failed read, ends the session with the error of the refusal. A prompt that is
refused does not: nothing is read or launched any more, and the session complains as often as the
settings still allow and ends well, or with the error of the error stream where this refuses a
complaint. -/
theorem refusals_of_session {w : World ε} {q : UInt32 × World ε}
    (hreach : Reaches settings (0, w) q) :
    (∀ line asked before event later stump error,
        Environment.ask settings.prompt q.2 = (.line line, asked) →
        (stepCourse line asked.env).trace = before ++ event :: later →
        asked.console.Takes before →
        (asked.console.after before).refusal? event = some (stump, error) →
        (run settings).result w = .error error) ∧
      (∀ error asked, Environment.ask settings.prompt q.2 = (.failed error, asked) →
        ¬ asked.console.Takes [readComplaint] →
        (run settings).result w = .error (Output.refusedWrite .err)) ∧
      ∀ s, Environment.promptStream q.2.env = some s → s ≠ .err →
        PromptRefused settings.prompt s q.2.console →
        let complaints :=
          List.replicate (max 1 settings.maxReadFailures.toNat - q.1.toNat) readComplaint
        ((run settings).worldAfter w).env = q.2.env ∧
          q.2.console.Idle ((run settings).worldAfter w).console ∧
          (q.2.console.Takes complaints → (run settings).result w = .ok .readFailures) ∧
          (¬ q.2.console.Takes complaints →
            (run settings).result w = .error (Output.refusedWrite .err)) := by
  refine ⟨fun line asked before event later stump error hask hcourse htaken hrefused => ?_,
    fun error asked hask hrefused => run_of_complaintRefused hreach hask hrefused,
    fun s hstream hs hrefused => ?_⟩
  · exact run_of_stepRefused hreach hask hcourse htaken hrefused
  · have hcomplains := run_of_promptRefused hreach hstream hs hrefused
    rw [(run_of_reaches hreach).1, (run_of_reaches hreach).2]
    exact ⟨hcomplains.env, hcomplains.idle, hcomplains.exhausted, hcomplains.refused⟩

/-- A session that shows its prompts on a standard output with little room. -/
def cramped (room : Nat) : World (PlainReader × ChildTable) :=
  ⟨(⟨[.data (Text.encode "\nhelp\n")], .out⟩, ChildTable.standard),
    { Console.fresh .off with out := ⟨some room, none⟩ }⟩

theorem takes_complaints_of_unlimited {c : Console} (h : c.err = .unlimited) (n : Nat) :
    c.Takes (List.replicate n readComplaint) :=
  Console.takes_of_isOn (s := .err) h readComplaint_isOn

theorem refusals_of_cramped :
    let q : UInt32 × World (PlainReader × ChildTable) :=
      (0, ⟨(⟨[.data (Text.encode "help\n")], .out⟩, ChildTable.standard),
        ((cramped 0).console.record (.wrote .out (Text.encode "% "))).recordAll
          [.flushed .out, .flushed .out]⟩)
    Reaches ⟨"% ", 2⟩ (0, cramped 2) q ∧ PromptRefused "% " .out q.2.console ∧
      ((run ⟨"% ", 2⟩).worldAfter (cramped 2)).env = q.2.env ∧
      (run ⟨"% ", 2⟩).result (cramped 2) = .ok .readFailures := by
  intro q
  have hgoes : GoesOn ⟨"% ", 2⟩ (0, cramped 2) q := by rfl
  have hreach : Reaches ⟨"% ", 2⟩ (0, cramped 2) q := .single hgoes
  have hrefused : PromptRefused "% " .out q.2.console := fun htakes => by
    cases (Console.takes_cons.mp htakes).1
  obtain ⟨henv, _, hexhausted, _⟩ := (refusals_of_session hreach).2.2 .out rfl (by decide) hrefused
  exact ⟨hreach, hrefused, henv, hexhausted (takes_complaints_of_unlimited rfl 2)⟩

/-- A session that cannot show a single prompt ends well. -/
theorem ok_without_prompts :
    PromptRefused "% " .out (cramped 0).console ∧
      (run ⟨"% ", 2⟩).result (cramped 0) = .ok .readFailures ∧
      (run ⟨"% ", 2⟩).trace (cramped 0) =
        [.wrote .out [], readComplaint, .wrote .out [], readComplaint] := by
  refine ⟨fun htakes => ?_, ?_, ?_⟩
  · cases (Console.takes_cons.mp htakes).1
  · unfold Action.result run
    rw [runFrom_of_again (by rfl), runFrom_of_done (by rfl)]
  · unfold Action.trace Action.worldAfter run
    rw [runFrom_of_again (by rfl), runFrom_of_done (by rfl)]
    rfl

end Session

end RestrictedShell
