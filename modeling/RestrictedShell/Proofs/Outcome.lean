import RestrictedShell.Proofs.Session.Refusal
import RestrictedShell.Proofs.Session.Stopping

namespace RestrictedShell

namespace WaitStatus

theorem toNat_ending (s : WaitStatus) : s.ending.toNat = s.toNat % 128 := by
  rw [ending, UInt32.toNat_and]
  exact Nat.and_two_pow_sub_one_eq_mod s.toNat 7

theorem toNat_detail (s : WaitStatus) : s.detail.toNat = s.toNat / 256 % 256 := by
  have hshift : s.toNat >>> ((8 : UInt32).toNat % 32) = s.toNat / 256 :=
    Nat.shiftRight_eq_div_pow s.toNat 8
  rw [detail, UInt32.toNat_and, UInt32.toNat_shiftRight, hshift]
  exact Nat.and_two_pow_sub_one_eq_mod (s.toNat / 256) 8

theorem toNat_toUInt32 (raw : Int32) : (raw.toUInt32.toNat : Int) = raw.toInt % 0x100000000 := by
  have hbits : raw.toBitVec.toNat = raw.toUInt32.toNat := rfl
  have hless := raw.toUInt32.toNat_lt
  rw [← Int32.toInt_toBitVec, BitVec.toInt_eq_toNat_cond, hbits]
  split <;> omega

theorem toInt_toInt32 {n : UInt32} (h : n.toNat < 0x80000000) : n.toInt32.toInt = n.toNat := by
  have hbits : n.toInt32.toBitVec.toNat = n.toNat := rfl
  rw [← Int32.toInt_toBitVec, BitVec.toInt_eq_toNat_of_lt (by omega), hbits]

theorem toInt32_eq_iff {m : UInt32} {n : Int32} (h : m.toNat < 0x80000000) :
    m.toInt32 = n ↔ n.toInt = m.toNat := by
  rw [← toInt_toInt32 h, Int32.toInt_inj, eq_comm]

end WaitStatus

namespace Outcome

variable {s : WaitStatus}

theorem ofStatus_cases (s : WaitStatus) :
    (s.toNat % 128 = 0 ∧ ofStatus s = .exited s.detail.toInt32) ∨
      (1 ≤ s.toNat % 128 ∧ s.toNat % 128 ≤ 126 ∧ ofStatus s = .signaled s.ending.toInt32) ∨
      (s.toNat % 128 = 127 ∧ ofStatus s = .lost ("unrecognized status " ++ s.describe)) := by
  have hending := s.toNat_ending
  have hmod : s.toNat % 128 < 128 := Nat.mod_lt _ (by decide)
  unfold ofStatus
  by_cases hzero : s.ending = 0
  · rw [if_pos hzero]
    rw [hzero] at hending
    exact .inl ⟨hending.symm, rfl⟩
  · have hpos : s.ending.toNat ≠ 0 := fun h => hzero (UInt32.toNat_inj.mp h)
    rw [if_neg hzero]
    by_cases hsignal : s.ending ≤ 126
    · rw [if_pos hsignal]
      rw [UInt32.le_iff_toNat_le] at hsignal
      have hbound : (126 : UInt32).toNat = 126 := rfl
      exact .inr (.inl ⟨by omega, by omega, rfl⟩)
    · rw [if_neg hsignal]
      rw [UInt32.le_iff_toNat_le] at hsignal
      have hbound : (126 : UInt32).toNat = 126 := rfl
      exact .inr (.inr ⟨by omega, rfl⟩)

theorem ofStatus_eq_exited_iff {n : Int32} :
    ofStatus s = .exited n ↔ s.toNat % 128 = 0 ∧ n.toInt = (s.toNat / 256 % 256 : Nat) := by
  have hdetail : s.detail.toNat < 0x80000000 := by
    rw [s.toNat_detail]
    omega
  rw [← s.toNat_detail, ← WaitStatus.toInt32_eq_iff hdetail]
  rcases ofStatus_cases s with ⟨hmod, h⟩ | ⟨hlow, hhigh, h⟩ | ⟨hmod, h⟩
  · simp [h, hmod]
  · simp only [h, reduceCtorEq, false_iff, not_and]
    omega
  · simp [h, hmod]

theorem ofStatus_eq_signaled_iff {n : Int32} :
    ofStatus s = .signaled n ↔
      1 ≤ s.toNat % 128 ∧ s.toNat % 128 ≤ 126 ∧ n.toInt = (s.toNat % 128 : Nat) := by
  have hending : s.ending.toNat < 0x80000000 := by
    rw [s.toNat_ending]
    omega
  rcases ofStatus_cases s with ⟨hmod, h⟩ | ⟨hlow, hhigh, h⟩ | ⟨hmod, h⟩
  · simp [h, hmod]
  · rw [h, signaled.injEq, WaitStatus.toInt32_eq_iff hending, s.toNat_ending]
    exact ⟨fun hn => ⟨hlow, hhigh, hn⟩, fun hn => hn.2.2⟩
  · simp [h, hmod]

theorem exists_ofStatus_eq_lost_iff :
    (∃ reason, ofStatus s = .lost reason) ↔ s.toNat % 128 = 127 := by
  rcases ofStatus_cases s with ⟨hmod, h⟩ | ⟨hlow, hhigh, h⟩ | ⟨hmod, h⟩
  · simp [h, hmod]
  · simp only [h, reduceCtorEq, exists_false, false_iff]
    omega
  · simp [h, hmod]

end Outcome

section Reported

variable {name : String} {outcome : Outcome} {c c' : Console}

theorem report_of_takes (h : c.Takes (outcome.reported name)) :
    report name outcome c = .ok () (c.after (outcome.reported name)) := by
  have htaken : c.Takes (Course.still () (outcome.reported name)).trace := by
    rwa [Course.trace_still]
  have hrun := follows_report name outcome () c
  rw [Action.bind_ok (Action.enact_of_takes htaken), Course.trace_still] at hrun
  unfold Output.act at hrun
  cases hreport : report name outcome c with
  | ok u c' =>
      simp only [hreport] at hrun
      cases hrun
      rfl
  | error error c' =>
      simp only [hreport] at hrun
      cases hrun

theorem takes_of_report {u : Unit} (h : report name outcome c = .ok u c') :
    c.Takes (outcome.reported name) := by
  rcases Console.takes_or_refuses c (outcome.reported name) with
    htaken | ⟨before, event, later, stump, error, hsplit, hbefore, hrefused⟩
  · exact htaken
  · have htrace : (Course.still () (outcome.reported name)).trace = before ++ event :: later := by
      rwa [Course.trace_still]
    have hrun := follows_report name outcome () c
    rw [Action.bind_error (Action.enact_of_refusal (w := ⟨(), c⟩) htrace hbefore hrefused)] at hrun
    unfold Output.act at hrun
    simp only [h] at hrun
    cases hrun

theorem takes_reported (name : String) (outcome : Outcome) (h : c.out = .unlimited) :
    c.Takes (outcome.reported name) := by
  have hfree : ∀ trace, (c.after trace).allowance .out = .unlimited := by
    intro trace
    rw [Console.allowance_after, Console.allowance, h]
    rfl
  have hwrote : ∀ trace bytes, (c.after trace).refusal? (.wrote .out bytes) = none := by
    intro trace bytes
    rw [Console.refusal?, hfree]
    rfl
  have hflushed : ∀ trace, (c.after trace).refusal? (.flushed .out) = none := by
    intro trace
    rw [Console.refusal?, hfree]
    rfl
  cases outcome with
  | exited code =>
      refine Console.takes_cons.mpr ⟨rfl, Console.takes_cons.mpr ⟨hwrote _ _, ?_⟩⟩
      rw [← Console.after_append, Console.takes_singleton]
      exact hflushed _
  | signaled signal => exact Console.takes_singleton.mpr rfl
  | lost reason => exact Console.takes_singleton.mpr rfl

end Reported

theorem deeds_reported (name : String) (outcome : Outcome) :
    Trace.deeds (outcome.reported name) = match outcome with
      | .exited code => [.wrote .out (Text.encode (completionLine name code)), .flushed .out]
      | _ => [] := by
  cases outcome <;> rfl

theorem exists_deeds_of_report {name : String} {outcome : Outcome} {c c' : Console} {u : Unit}
    (h : report name outcome c = .ok u c') :
    ∃ seen, c'.history = c.history ++ seen ∧ seen.deeds = Trace.deeds (outcome.reported name) := by
  rw [report_of_takes (takes_of_report h)] at h
  obtain rfl : c.after (outcome.reported name) = c' := (EStateM.Result.ok.inj h).2
  exact ⟨_, Console.history_after c _, Trace.deeds_visible _ _⟩

theorem Outcome.ofStatus_of_code (n : UInt8) :
    ofStatus (256 * n.toUInt32) = .exited n.toUInt32.toInt32 := by
  have hless := n.toNat_lt
  have hbyte : n.toUInt32.toNat = n.toNat := UInt8.toNat_toUInt32 n
  have hstatus : (256 * n.toUInt32).toNat = 256 * n.toNat := by
    have hfactor : (256 : UInt32).toNat = 256 := rfl
    rw [UInt32.toNat_mul, hbyte, hfactor]
    omega
  rw [ofStatus_eq_exited_iff, hstatus, WaitStatus.toInt_toInt32 (by omega), hbyte]
  omega

/-- A status whose low seven bits are zero comes from a child that exited, and the code is what the
eight bits from bit 8 come to. Low bits from 1 to 126 are the signal that killed the child, and with
127 nothing is known of its end. Only the first is reported, by one line and a flush of the standard
output. -/
theorem status_reported (raw : Int32) (name : String) (c : Console) :
    let outcome := Outcome.ofStatus raw.toUInt32
    let ending := raw.toInt % 128
    let code := raw.toInt / 256 % 256
    (∀ n : Int32, outcome = .exited n ↔ ending = 0 ∧ n.toInt = code) ∧
      (0 ≤ code ∧ code ≤ 255) ∧
      (∀ n : Int32, outcome = .signaled n ↔ 1 ≤ ending ∧ ending ≤ 126 ∧ n.toInt = ending) ∧
      ((∃ reason, outcome = .lost reason) ↔ ending = 127) ∧
      (∀ n : UInt8, Outcome.ofStatus (256 * n.toUInt32) = .exited n.toUInt32.toInt32) ∧
      (∀ c', report name outcome c = .ok () c' → ∃ seen, c'.history = c.history ++ seen ∧
        seen.deeds =
          if ending = 0 then
            [.wrote .out (Text.encode
              (name ++ " finished with code " ++ toString code ++ "\n")), .flushed .out]
          else []) ∧
      ∃ c', report name outcome { c with out := .unlimited } = .ok () c' := by
  intro outcome ending code
  have hraw := WaitStatus.toNat_toUInt32 raw
  have hending : ((raw.toUInt32.toNat % 128 : Nat) : Int) = ending := by omega
  have hcode : ((raw.toUInt32.toNat / 256 % 256 : Nat) : Int) = code := by omega
  have hexited : ∀ n : Int32, outcome = .exited n ↔ ending = 0 ∧ n.toInt = code := by
    intro n
    rw [Outcome.ofStatus_eq_exited_iff, hcode]
    omega
  have hsignaled : ∀ n : Int32, outcome = .signaled n ↔
      1 ≤ ending ∧ ending ≤ 126 ∧ n.toInt = ending := by
    intro n
    rw [Outcome.ofStatus_eq_signaled_iff, hending]
    omega
  have hlost : (∃ reason, outcome = .lost reason) ↔ ending = 127 := by
    rw [Outcome.exists_ofStatus_eq_lost_iff]
    omega
  refine ⟨hexited, by omega, hsignaled, hlost, Outcome.ofStatus_of_code, fun c' hreport => ?_,
    _, report_of_takes (takes_reported name outcome rfl)⟩
  obtain ⟨seen, hhistory, hseen⟩ := exists_deeds_of_report hreport
  refine ⟨seen, hhistory, ?_⟩
  rw [hseen, deeds_reported]
  cases houtcome : outcome with
  | exited n =>
      obtain ⟨hzero, hn⟩ := (hexited n).mp houtcome
      rw [if_pos hzero, ← hn]
      rfl
  | signaled n =>
      obtain ⟨hlow, _, _⟩ := (hsignaled n).mp houtcome
      rw [if_neg (by omega)]
  | lost reason =>
      have hunknown := hlost.mp ⟨reason, houtcome⟩
      rw [if_neg (by omega)]

end RestrictedShell
