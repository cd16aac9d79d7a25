import RestrictedShell.Proofs.Session.Fragments
import RestrictedShell.Proofs.Source.Prompts

namespace RestrictedShell

namespace PlainReader

theorem length_decode_lt {input : List Item} (h : (decode [] input).1 ≠ .endOfInput) :
    (decode [] input).2.length < input.length := by
  generalize hanswer : decode [] input = answer at h ⊢
  have hdecoded := decoded [] input
  rw [hanswer] at hdecoded
  cases hdecoded with
  | newline hfree =>
      simp only [List.length_append, List.length_cons]
      omega
  | eof hfree =>
      simp only [List.length_append, List.length_cons]
      omega
  | failure hfree =>
      simp only [List.length_append, List.length_cons]
      omega
  | @exhausted raw hfree =>
      have hne : raw ≠ [] := by
        rintro rfl
        exact h rfl
      rw [List.length_map]
      exact List.length_pos_iff.mpr hne

theorem length_next_lt {r : PlainReader} (h : (LineSource.next r).1 ≠ .endOfInput) :
    (items (LineSource.next r).2.input).length < (items r.input).length := by
  obtain ⟨hanswer, hrest⟩ := next_eq r
  rw [hanswer] at h
  rw [hrest]
  exact length_decode_lt h

end PlainReader

namespace Session

open PlainReader

/-- `Lasts settings n failures w result`: after this many failures in a row, a session in the world
`w` asks for a line `n` more times and ends with this result. -/
inductive Lasts {ε : Type} [Environment ε] (settings : Settings) :
    Nat → UInt32 → World ε → EStateM.Result IoError (World ε) Ending → Prop
  | last {failures : UInt32} {w : World ε} {result : EStateM.Result IoError (World ε) Ending}
      (hturn : turn settings failures w = .done result) : Lasts settings 1 failures w result
  | more {n : Nat} {failures failures' : UInt32} {w w' : World ε}
      {result : EStateM.Result IoError (World ε) Ending}
      (hturn : turn settings failures w = .again failures' w')
      (hrest : Lasts settings n failures' w' result) : Lasts settings (n + 1) failures w result

theorem world_of_complain {ε : Type} {error : ReadError} {failures : UInt32} {w w' : World ε}
    (h : complain error failures w = .ok () w') :
    w' = ⟨w.env, w.console.after (complaint error failures)⟩ := by
  have htaken : w.console.Takes [readComplaint] := by
    by_contra hnot
    obtain ⟨part, hrun⟩ := exists_complain_of_not_takes error failures hnot
    rw [hrun] at h
    cases h
  rw [complain_of_takes error failures htaken] at h
  cases h
  rfl

variable {κ : Type} [Launcher κ] {settings : Settings} {failures failures' : UInt32}
  {w w' : World (PlainReader × κ)}

/-- What one more turn costs: some of the input, or else, with the prompt refused for good, one of
the failures that the settings allow. -/
theorem cost_of_again (h : turn settings failures w = .again failures' w') :
    ¬ PromptRefused settings.prompt w.env.1.prompts w.console ∧
        (items w'.env.1.input).length < (items w.env.1.input).length ∨
      PromptRefused settings.prompt w'.env.1.prompts w'.console ∧ w'.env.1 = w.env.1 ∧
        failures' = failures + 1 := by
  rcases again_cases h with ⟨line, asked, hask, hstep, _⟩ | ⟨error, asked, hask, hrun, hcount, _⟩
  · left
    constructor
    · intro hrefused
      obtain ⟨seen, error, hfailed⟩ := exists_ask_of_promptRefused hrefused
      rw [hask] at hfailed
      cases hfailed
    · obtain ⟨hnext, henv⟩ := next_of_ask_line hask
      rw [fst_of_step_ok hstep, henv]
      apply length_next_lt
      intro hend
      cases hnext.symm.trans hend
  · obtain rfl := world_of_complain hrun
    by_cases hrefused : PromptRefused settings.prompt w.env.1.prompts w.console
    · right
      obtain ⟨seen, error', hfailed⟩ := exists_ask_of_promptRefused hrefused
      rw [hask] at hfailed
      cases hfailed
      exact ⟨Console.not_takes_after (Console.not_takes_after hrefused _) _, rfl, hcount⟩
    · left
      have hshown := ask_of_shown settings.prompt w.env.1 w.env.2 (not_not.mp hrefused)
      obtain ⟨hanswer, rfl⟩ := Prod.mk.inj (hask.symm.trans hshown)
      refine ⟨hrefused, length_next_lt ?_⟩
      rw [← hanswer]
      intro hend
      cases hend

theorem exists_lasts (settings : Settings) (failures : UInt32) (w : World (PlainReader × κ))
    (hless : failures.toNat < max 1 settings.maxReadFailures.toNat) :
    ∃ n, Lasts settings n failures w (runFrom settings failures w) ∧
      n ≤ (items w.env.1.input).length + max 1 settings.maxReadFailures.toNat ∧
      (PromptRefused settings.prompt w.env.1.prompts w.console →
        failures.toNat + n ≤ max 1 settings.maxReadFailures.toNat) := by
  induction failures, w using @runFrom.induct (PlainReader × κ) _ settings with
  | case1 failures w result hturn =>
      refine ⟨1, ?_, by omega, fun _ => by omega⟩
      rw [runFrom_of_done hturn]
      exact .last hturn
  | case2 failures w failures' w' hturn ih =>
      obtain ⟨n, hlasts, hbound, hrow⟩ := ih (failures_lt_of_again hturn)
      refine ⟨n + 1, ?_, ?_⟩
      · rw [runFrom_of_again hturn]
        exact .more hturn hlasts
      · rcases cost_of_again hturn with ⟨hshown, hused⟩ | ⟨hrefused, _, rfl⟩
        · exact ⟨by omega, fun hrefused => absurd hrefused hshown⟩
        · have hsucc := toNat_succ hless
          have hleft := hrow hrefused
          exact ⟨by omega, fun _ => by omega⟩

/-- A session that reads its input from pieces ends, and it asks for a line at most once for every
byte, end and failure of the input, and then as often as reads in a row may fail. -/
theorem session_ends (settings : Settings) (r : PlainReader) (k : κ) (c : Console) :
    ∃ n, Lasts settings n 0 ⟨(r, k), c⟩ (run settings ⟨(r, k), c⟩) ∧
      n ≤ (items r.input).length + max 1 settings.maxReadFailures.toNat := by
  have hless : (0 : UInt32).toNat < max 1 settings.maxReadFailures.toNat := by
    rw [UInt32.toNat_zero]
    omega
  obtain ⟨n, hlasts, hbound, _⟩ := exists_lasts settings 0 ⟨(r, k), c⟩ hless
  exact ⟨n, hlasts, hbound⟩

end Session

end RestrictedShell
