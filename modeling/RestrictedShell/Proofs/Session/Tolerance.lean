import RestrictedShell.Proofs.Session.Advance

namespace RestrictedShell

namespace Session

section

variable {ε : Type} [Environment ε] {prompt : String} {limit limit' : UInt32}

/-- The end of a session whose input keeps failing. -/
def gaveUp (w : World ε) : EStateM.Result IoError (World ε) Ending :=
  .ok .readFailures { w with console := w.console.log .inputKeepsFailing }

theorem turn_of_le (h : limit ≤ limit') (failures : UInt32) (w : World ε) :
    turn ⟨prompt, limit⟩ failures w = turn ⟨prompt, limit'⟩ failures w ∨
      limit ≤ failures + 1 ∧ ∃ w', turn ⟨prompt, limit⟩ failures w = .done (gaveUp w') ∧
        turn ⟨prompt, limit'⟩ failures w = .again (failures + 1) w' := by
  rcases hask : Environment.ask prompt w with ⟨line | _ | error, asked⟩ <;>
    simp only [turn, hask, true_or]
  unfold afterFailure
  cases complain error (failures + 1) asked with
  | error failure w' => exact .inl rfl
  | ok u w' =>
      dsimp only
      by_cases hlow : limit ≤ failures + 1
      · by_cases hhigh : limit' ≤ failures + 1
        · exact .inl (by rw [if_pos hlow, if_pos hhigh])
        · exact .inr ⟨hlow, w', by rw [if_pos hlow]; rfl, by rw [if_neg hhigh]⟩
      · have hhigh : ¬ limit' ≤ failures + 1 := fun hle => hlow (UInt32.le_trans h hle)
        exact .inl (by rw [if_neg hlow, if_neg hhigh])

/-- With a higher limit a session is the same, or it goes on where it would have given up: after
a row of just as many failed reads as the lower limit allows. -/
theorem exists_point_of_le (h : limit ≤ limit') (failures : UInt32) (w : World ε)
    (hfailures : failures.toNat < max 1 limit.toNat) :
    runFrom ⟨prompt, limit⟩ failures w = runFrom ⟨prompt, limit'⟩ failures w ∨
      ∃ q, Reaches ⟨prompt, limit'⟩ (failures, w) q ∧ q.1.toNat = max 1 limit.toNat ∧
        runFrom ⟨prompt, limit⟩ failures w = gaveUp q.2 := by
  induction failures, w using @runFrom.induct ε _ ⟨prompt, limit⟩ with
  | case1 failures w result hturn =>
      rw [runFrom_of_done hturn]
      rcases turn_of_le h failures w with hsame | ⟨hlimit, w', hdone, hagain⟩
      · exact .inl (runFrom_of_done (hsame.symm.trans hturn)).symm
      · obtain rfl : result = gaveUp w' := by simpa [hturn] using hdone
        have hcount : (failures + 1).toNat = failures.toNat + 1 :=
          @toNat_succ ⟨prompt, limit⟩ failures hfailures
        have hgoes : GoesOn ⟨prompt, limit'⟩ (failures, w) (failures + 1, w') := hagain
        rw [UInt32.le_iff_toNat_le, hcount] at hlimit
        exact .inr ⟨(failures + 1, w'), .single hgoes, by rw [hcount]; omega, rfl⟩
  | case2 failures w failures' w' hturn ih =>
      rw [runFrom_of_again hturn]
      rcases turn_of_le h failures w with hsame | ⟨_, _, hdone, _⟩
      · have hturn' := hsame.symm.trans hturn
        have hgoes : GoesOn ⟨prompt, limit'⟩ (failures, w) (failures', w') := hturn'
        rw [runFrom_of_again hturn']
        rcases ih (failures_lt_of_again hturn) with hrest | ⟨q, hreach, hrest⟩
        · exact .inl hrest
        · exact .inr ⟨q, .head hgoes hreach, hrest⟩
      · rw [hturn] at hdone
        cases hdone

end

section

variable {σ κ : Type} [LineSource σ] [Launcher κ]

theorem Reaches.exists_advances {settings : Settings} {p q : UInt32 × World (σ × κ)}
    (h : Reaches settings p q) : ∃ given seen, p.2.Advances given seen q.2 := by
  induction h with
  | refl => exact ⟨[], [], World.advances_refl _⟩
  | @tail q r _ hturn ih =>
      obtain ⟨given, seen, hreached⟩ := ih
      obtain ⟨later, hlater⟩ := exists_advances_turn settings q.1 q.2
      have hworld : (turn settings q.1 q.2).world = r.2 := by
        rw [show turn settings q.1 q.2 = .again r.1 r.2 from hturn]
        rfl
      rw [hworld] at hlater
      exact ⟨_, _, hreached.trans hlater⟩

/-- What a session does is where another one begins that tolerates more failed reads in a row. Both
are the same unless the first gives up, and a limit of 0 acts like 1. -/
theorem run_of_le (prompt : String) {limit limit' : UInt32} (h : limit ≤ limit')
    (w : World (σ × κ)) :
    (∃ common, common <+: (run ⟨prompt, limit'⟩).trace w ∧
        ((run ⟨prompt, limit⟩).trace w = common ∨
          (run ⟨prompt, limit⟩).result w = .ok .readFailures ∧
            (run ⟨prompt, limit⟩).trace w =
              common ++ Trace.visible w.console.filter [.logged .inputKeepsFailing])) ∧
      ((run ⟨prompt, limit⟩).result w ≠ .ok .readFailures →
        run ⟨prompt, limit⟩ w = run ⟨prompt, limit'⟩ w) ∧
      run ⟨prompt, 0⟩ w = run ⟨prompt, 1⟩ w := by
  have hzero : ∀ limit : UInt32, (0 : UInt32).toNat < max 1 limit.toNat := fun limit =>
    Nat.lt_of_lt_of_le Nat.zero_lt_one (Nat.le_max_left _ _)
  have hone : run ⟨prompt, 0⟩ w = run ⟨prompt, 1⟩ w := by
    refine (exists_point_of_le (by decide) 0 w (hzero 0)).resolve_right ?_
    rintro ⟨q, hreach, hcount, _⟩
    -- A session with the limit 1 does not come to a point behind a failed read.
    have hless := hreach.failures_lt (hzero 1)
    rw [hcount] at hless
    exact Nat.lt_irrefl 1 hless
  rcases exists_point_of_le h 0 w (hzero limit) with hsame | ⟨q, hreach, _, hgaveUp⟩
  · have hrun : run ⟨prompt, limit⟩ w = run ⟨prompt, limit'⟩ w := hsame
    have htrace : (run ⟨prompt, limit⟩).trace w = (run ⟨prompt, limit'⟩).trace w := by
      unfold Action.trace Action.worldAfter
      rw [hrun]
    exact ⟨⟨_, htrace ▸ List.prefix_rfl, .inl rfl⟩, fun _ => hrun, hone⟩
  · obtain ⟨given, seen, hreached⟩ := hreach.exists_advances
    obtain ⟨later, hlater⟩ := exists_advances_runFrom ⟨prompt, limit'⟩ q.1 q.2
    rw [← (run_of_reaches hreach).2] at hlater
    have hworld : (run ⟨prompt, limit⟩).worldAfter w =
        { q.2 with console := q.2.console.log .inputKeepsFailing } := by
      unfold Action.worldAfter run
      rw [hgaveUp]
      rfl
    have hended := hreached.trans (World.advances_log q.2 .inputKeepsFailing)
    rw [← hworld] at hended
    have hresult : (run ⟨prompt, limit⟩).result w = .ok .readFailures := by
      unfold Action.result run
      rw [hgaveUp]
      rfl
    refine ⟨⟨seen.visible w.console.filter, ?_, .inr ⟨hresult, ?_⟩⟩,
      fun hother => absurd hresult hother, hone⟩
    · rw [Action.trace_of_advances (hreached.trans hlater), Trace.visible_append]
      exact List.prefix_append _ _
    · rw [Action.trace_of_advances hended, Trace.visible_append]

end

theorem run_of_le_one_two :
    let w : World (Script × ChildTable) :=
      ⟨(⟨[.failed (.input (.plain .other)), .line (Text.encode "termina")]⟩, ChildTable.standard),
        Console.fresh .off⟩
    (1 : UInt32) ≤ 2 ∧ (run ⟨"% ", 1⟩).result w = .ok .readFailures ∧
      (run ⟨"% ", 2⟩).result w = .ok .quit ∧
      (∃ common, common <+: (run ⟨"% ", 2⟩).trace w ∧
        ((run ⟨"% ", 1⟩).trace w = common ∨ (run ⟨"% ", 1⟩).result w = .ok .readFailures ∧
          (run ⟨"% ", 1⟩).trace w =
            common ++ Trace.visible w.console.filter [.logged .inputKeepsFailing])) ∧
      run ⟨"% ", 0⟩ w = run ⟨"% ", 1⟩ w := by
  intro w
  have hone : (run ⟨"% ", 1⟩).result w = .ok .readFailures := by
    unfold Action.result run
    rw [runFrom_of_done (by rfl)]
  have htwo : (run ⟨"% ", 2⟩).result w = .ok .quit := by
    unfold Action.result run
    rw [runFrom_of_again (by rfl), runFrom_of_done (by rfl)]
  obtain ⟨hcommon, _, hzero⟩ := run_of_le "% " (show (1 : UInt32) ≤ 2 by decide) w
  exact ⟨by decide, hone, htwo, hcommon, hzero⟩

end Session

end RestrictedShell
