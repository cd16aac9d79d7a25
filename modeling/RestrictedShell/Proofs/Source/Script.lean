import RestrictedShell.Proofs.Session.Run
import RestrictedShell.Source.Script

namespace RestrictedShell

namespace Script

/-- The answer to request number `k`, counted from 0. -/
def reading (s : Script) (k : Nat) : Reading :=
  s.readings[k]?.getD .endOfInput

theorem reading_succ (s : Script) (k : Nat) :
    s.reading (k + 1) = (⟨s.readings.tail⟩ : Script).reading k := by
  simp only [reading, List.getElem?_tail]

theorem getElem?_eq_of_reading {s : Script} {k : Nat} {line : Bytes}
    (h : s.reading k = .line line) : s.readings[k]? = some (.line line) := by
  unfold reading at h
  cases hget : s.readings[k]? with
  | none => simp [hget] at h
  | some reading => simpa [hget] using h

variable {κ : Type} [Launcher κ]

theorem next_eq (e : Script × κ) :
    Environment.next e = (e.1.reading 0, (⟨e.1.readings.tail⟩, e.2)) := by
  obtain ⟨⟨readings⟩, k⟩ := e
  cases readings <;> rfl

theorem reading_next (e : Script × κ) : (Environment.next e).1 = e.1.reading 0 := by
  rw [next_eq]

theorem fst_next (e : Script × κ) : (Environment.next e).2.1 = ⟨e.1.readings.tail⟩ := by
  rw [next_eq]

theorem heard (c : Console) : Session.Heard (Script × κ) c :=
  .inl fun _ => rfl

theorem trace_turn (prompt : String) (e : Script × κ) (course : Course (Script × κ)) :
    (Session.askCourse prompt e ++ course).trace = .asked (Text.encode prompt) :: course.trace :=
  rfl

end Script

end RestrictedShell
