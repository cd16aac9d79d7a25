import RestrictedShell.Proofs.Source.Portions

namespace RestrictedShell

namespace Session

section

variable {ε : Type} [Environment ε]

/-- The world after `n` sessions, each of which begins where the one before it ended. -/
def afterRuns (settings : Settings) : Nat → World ε → World ε
  | 0, w => w
  | n + 1, w => (run settings).worldAfter (afterRuns settings n w)

/-- All that happens in the first `n` of these sessions. -/
def told (settings : Settings) (n : Nat) (w : World ε) : Trace :=
  (List.range n).flatMap fun i => (run settings).trace (afterRuns settings i w)

/-- The answers that the source gives to the first `n` of these sessions. -/
def given (settings : Settings) (n : Nat) (w : World ε) : List Reading :=
  (List.range n).flatMap fun i => answers settings 0 (afterRuns settings i w)

end

section

variable {σ σ' κ : Type} [LineSource σ] [LineSource σ'] [Launcher κ]

theorem advances_run (settings : Settings) (w : World (σ × κ)) :
    w.Advances (answers settings 0 w) ((run settings).trace w) ((run settings).worldAfter w) := by
  obtain ⟨seen, hrun⟩ := exists_advances_runFrom settings 0 w
  have hrun' : w.Advances (answers settings 0 w) seen ((run settings).worldAfter w) := hrun
  rw [Action.trace_of_advances hrun']
  exact hrun'.visible

theorem advances_afterRuns (settings : Settings) (n : Nat) (w : World (σ × κ)) :
    w.Advances (given settings n w) (told settings n w) (afterRuns settings n w) := by
  induction n with
  | zero => exact World.advances_refl w
  | succ n ih =>
      rw [given, told, List.range_succ, List.flatMap_append, List.flatMap_append,
        List.flatMap_singleton, List.flatMap_singleton]
      exact ih.trans (advances_run settings _)

theorem run_congr (settings : Settings) {w : World (σ × κ)} {w' : World (σ' × κ)}
    (h : w.Like w') :
    answers settings 0 w = answers settings 0 w' ∧
      (run settings).result w = (run settings).result w' ∧
      (run settings).trace w = (run settings).trace w' := by
  obtain ⟨hanswers, hresult, seen, hw, hw'⟩ := abreast_runFrom settings 0 h
  have htrace : (run settings).trace w = _ := Action.trace_of_advances hw
  have htrace' : (run settings).trace w' = _ := Action.trace_of_advances hw'
  have hfilter : w.console.filter = w'.console.filter := by
    change w.console.clear.filter = w'.console.clear.filter
    rw [h.alike.2]
  exact ⟨hanswers, hresult, by rw [htrace, htrace', hfilter]⟩

/-- Session number `n` of several, counted from 0, and those before it. -/
structure Succeeds {ι : Type} (content : σ → List ι) (read : List ι → Reading × List ι)
    (settings : Settings) (w : World (σ × κ)) (n : Nat) : Prop where
  /-- The sessions before it have taken their answers from the input, one after another. -/
  before : LineSource.Consumed read (content w.env.1) (given settings n w)
    (content (afterRuns settings n w).env.1)
  /-- It takes its own answers from what they have left. -/
  own : LineSource.Consumed read (content (afterRuns settings n w).env.1)
    (answers settings 0 (afterRuns settings n w)) (content (afterRuns settings (n + 1) w).env.1)
  launcher : (afterRuns settings n w).env.2 = Launcher.following w.env.2 (told settings n w)
  console : (afterRuns settings n w).console = w.console.after (told settings n w)
  /-- A first session on what they have left does the same. -/
  first : ∀ s c, content s = content (afterRuns settings n w).env.1 →
    LineSource.promptStream s = LineSource.promptStream w.env.1 →
    c.clear = (w.console.after (told settings n w)).clear →
    let rest : World (σ × κ) := ⟨(s, Launcher.following w.env.2 (told settings n w)), c⟩
    answers settings 0 (afterRuns settings n w) = answers settings 0 rest ∧
      (run settings).result (afterRuns settings n w) = (run settings).result rest ∧
      (run settings).trace (afterRuns settings n w) = (run settings).trace rest

theorem succeeds {ι : Type} {content : σ → List ι} {read : List ι → Reading × List ι}
    (h : LineSource.ReadsFrom content read) (settings : Settings) (w : World (σ × κ)) (n : Nat) :
    Succeeds content read settings w n where
  before := h.consumed (advances_afterRuns settings n w).source
  own := h.consumed (advances_run settings (afterRuns settings n w)).source
  launcher := (advances_afterRuns settings n w).launcher
  console := (advances_afterRuns settings n w).console
  first s c hcontent hprompt hlimits := by
    obtain ⟨hsource, hlauncher, hconsole⟩ := advances_afterRuns settings n w
    refine run_congr settings ⟨h.same hcontent.symm ?_, hlauncher, ?_⟩
    · rw [h.promptStream_yields hsource, hprompt]
    · rw [hconsole, hlimits]

/-- Sessions follow each other on one source without reading ahead or twice: every one of them is
like a first session on the readings, or on the bytes, that those before it have left, with the
launcher after their launches and on the limits that are left. -/
theorem runs_succeed (settings : Settings) (k : κ) (c : Console) (n : Nat) :
    (∀ s : Script, Succeeds Script.readings Script.decode settings ⟨(s, k), c⟩ n) ∧
      ∀ r : PlainReader, Succeeds (fun r : PlainReader => PlainReader.items r.input)
        (PlainReader.decode []) settings ⟨(r, k), c⟩ n :=
  ⟨fun _ => succeeds Script.readsFrom settings _ n,
    fun _ => succeeds PlainReader.readsFrom settings _ n⟩

end

end Session

end RestrictedShell
