import RestrictedShell.Proofs.Source.Decoding

namespace RestrictedShell

instance Console.decidableTakes (c : Console) : (trace : Trace) → Decidable (c.Takes trace)
  | [] => .isTrue c.takes_nil
  | event :: trace =>
      have := decidableTakes (c.after [event]) trace
      decidable_of_iff _ Console.takes_cons.symm

instance (prompt : String) (s : Stream) (c : Console) :
    Decidable (Session.PromptRefused prompt s c) :=
  inferInstanceAs (Decidable (¬ _))

namespace Environment

variable {ε : Type} [Environment ε]

def askAll : List String → World ε → World ε
  | [], w => w
  | prompt :: prompts, w => askAll prompts (ask prompt w).2

end Environment

namespace PlainReader

open Session Text

variable {κ κ' : Type} [Launcher κ] [Launcher κ']

/-- What those of some requests get whose prompts are shown. -/
def askShown : List String → World (PlainReader × κ) → List Reading
  | [], _ => []
  | prompt :: prompts, w =>
      let asked := Environment.ask prompt w
      if PromptRefused prompt w.env.1.prompts w.console then askShown prompts asked.2
      else asked.1 :: askShown prompts asked.2

section

variable (prompt : String) (r : PlainReader) (k : κ) {c : Console}

theorem ask_of_writeRefused (h : ¬ c.Takes [.wrote r.prompts (encode prompt)]) :
    ∃ part, part <+: encode prompt ∧
      Environment.ask prompt ⟨(r, k), c⟩ = (.failed (.input (Output.refusedWrite r.prompts)),
        ⟨(r, k), c.after [.wrote r.prompts part]⟩) := by
  obtain ⟨part, hrefused⟩ := Console.exists_refusal?_wrote h
  refine ⟨part, ?_, ?_⟩
  · have hpart := (Trace.stump_of_refusal? hrefused).2 r.prompts
    simpa [Trace.written] using hpart
  · have hcourse : (askCourse prompt (r, k)).trace =
        [] ++ .wrote r.prompts (encode prompt) :: [.flushed r.prompts] := trace_askCourse rfl prompt
    refine ask_of_refusal (w := ⟨(r, k), c⟩) hcourse (Console.takes_nil c) ?_
    rwa [Console.after_nil]

theorem ask_of_flushRefused (hwrite : c.Takes [.wrote r.prompts (encode prompt)])
    (hflush : ¬ (c.after [.wrote r.prompts (encode prompt)]).Takes [.flushed r.prompts]) :
    Environment.ask prompt ⟨(r, k), c⟩ = (.failed (.input (Output.refusedFlush r.prompts)),
      ⟨(r, k), c.after [.wrote r.prompts (encode prompt)]⟩) := by
  have hcourse : (askCourse prompt (r, k)).trace =
      [.wrote r.prompts (encode prompt)] ++ .flushed r.prompts :: [] := trace_askCourse rfl prompt
  exact ask_of_refusal (w := ⟨(r, k), c⟩) hcourse hwrite (Console.refusal?_flushed hflush)

end

theorem exists_ask_of_promptRefused {prompt : String} {w : World (PlainReader × κ)}
    (h : PromptRefused prompt w.env.1.prompts w.console) :
    ∃ seen error, Environment.ask prompt w =
      (.failed (.input error), ⟨w.env, w.console.after seen⟩) := by
  have hstream : Environment.promptStream w.env = some w.env.1.prompts := rfl
  rw [PromptRefused, ← trace_askCourse hstream] at h
  obtain ⟨s, seen, error, _, hask, _⟩ := exists_ask_of_not_takes h
  exact ⟨seen, error, hask⟩

theorem console_ask {prompt : String} {r r' : PlainReader} (k : κ) (k' : κ') (c : Console)
    (h : r'.prompts = r.prompts) :
    (Environment.ask prompt ⟨(r', k'), c⟩).2.console =
      (Environment.ask prompt ⟨(r, k), c⟩).2.console := by
  have hstream : Environment.promptStream (r, k) = some r.prompts := rfl
  have hstream' : Environment.promptStream (r', k') = some r.prompts := congrArg some h
  unfold Environment.ask
  simp only [hstream, hstream']
  cases (do Output.writeText r.prompts prompt; Output.flush r.prompts : Output Unit) c <;> rfl

theorem askShown_eq_readings (prompts : List String) (r : PlainReader) (k : κ) (c : Console) :
    let answers := askShown prompts ⟨(r, k), c⟩
    answers = LineSource.readings answers.length r ∧
      (Environment.askAll prompts ⟨(r, k), c⟩).env =
        (LineSource.after r answers.length, k) := by
  induction prompts generalizing r c with
  | nil => exact ⟨rfl, rfl⟩
  | cons prompt prompts ih =>
      unfold askShown Environment.askAll
      by_cases hrefused : PromptRefused prompt r.prompts c
      · simp only [if_pos hrefused]
        obtain ⟨seen, error, hask⟩ :=
          exists_ask_of_promptRefused (w := ⟨(r, k), c⟩) hrefused
        rw [hask]
        exact ih r (c.after seen)
      · have hask := ask_of_shown prompt r k (not_not.mp hrefused)
        obtain ⟨hanswers, henv⟩ := ih (LineSource.next r).2
          (c.after [.wrote r.prompts (encode prompt), .flushed r.prompts])
        simp only [if_neg hrefused, hask]
        refine ⟨congrArg (_ :: ·) hanswers, ?_⟩
        rw [henv, LineSource.after_next]
        rfl

/-- A request whose prompt is refused, in part or in whole or when it is flushed, fails with the
error of the refusal as a failure of the input, and takes nothing from the input. A request whose
prompt is shown takes what the next reading is made of, and what goes out before that does not
depend on the input. So the requests whose prompts are shown get, one after another, what as many
requests get whose prompts are never refused. -/
theorem refused_prompts_take_nothing (r : PlainReader) (k : κ) (c : Console) :
    (∀ prompt,
      let written : Event := .wrote r.prompts (encode prompt)
      let flushed : Event := .flushed r.prompts
      (¬ c.Takes [written] → ∃ part, part <+: encode prompt ∧
        Environment.ask prompt ⟨(r, k), c⟩ = (.failed (.input (Output.refusedWrite r.prompts)),
          ⟨(r, k), c.after [.wrote r.prompts part]⟩)) ∧
        (c.Takes [written] → ¬ (c.after [written]).Takes [flushed] →
          Environment.ask prompt ⟨(r, k), c⟩ = (.failed (.input (Output.refusedFlush r.prompts)),
            ⟨(r, k), c.after [written]⟩)) ∧
        (c.Takes [written, flushed] →
          Environment.ask prompt ⟨(r, k), c⟩ = ((LineSource.next r).1,
            ⟨((LineSource.next r).2, k), c.after [written, flushed]⟩)) ∧
        ∀ (r' : PlainReader) (k' : κ'), r'.prompts = r.prompts →
          (Environment.ask prompt ⟨(r', k'), c⟩).2.console =
            (Environment.ask prompt ⟨(r, k), c⟩).2.console) ∧
      ∀ prompts,
        let answers := askShown prompts ⟨(r, k), c⟩
        (Environment.askAll prompts ⟨(r, k), c⟩).env = (LineSource.after r answers.length, k) ∧
          ∀ (prompts' : List String) (k' : κ') (c' : Console),
            prompts'.length = answers.length → c'.allowance r.prompts = .unlimited →
            Environment.askEach prompts' ⟨(r, k'), c'⟩ = answers := by
  refine ⟨fun prompt => ⟨?_, ?_, ?_, ?_⟩, fun prompts => ?_⟩
  · exact ask_of_writeRefused prompt r k
  · exact ask_of_flushRefused prompt r k
  · exact ask_of_shown prompt r k
  · intro r' k' hprompts
    exact console_ask k k' c hprompts
  · obtain ⟨hanswers, henv⟩ := askShown_eq_readings prompts r k c
    refine ⟨henv, fun prompts' k' c' hlength hshown => ?_⟩
    rw [askEach_of_unlimited prompts' r k' hshown, hlength]
    exact hanswers.symm

/-- A stream that has no room for a long prompt may still have some for a short one. -/
example :
    askShown ["% ", "more? ", "", "% ", ""] ⟨(⟨[.data (encode "a\nb"), .eof, .data (encode "c\n")],
        .prompt⟩, ChildTable.standard), { Console.fresh .off with prompt := ⟨some 3, none⟩ }⟩ =
      [.line (encode "a"), .line (encode "b"), .line (encode "c")] := by
  decide

end PlainReader

end RestrictedShell
