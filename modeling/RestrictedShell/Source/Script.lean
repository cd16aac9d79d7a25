import RestrictedShell.Session.Environment
/-!
A source whose answers are written down beforehand.
-/

namespace RestrictedShell

/-- The answers of a source, in order. After the last, the input is at its end for good. -/
structure Script where
  readings : List Reading
deriving DecidableEq, Repr

namespace Script

def next : Script → Reading × Script
  | ⟨[]⟩ => (.endOfInput, ⟨[]⟩)
  | ⟨reading :: rest⟩ => (reading, ⟨rest⟩)

instance : LineSource Script where
  promptStream _ := none
  next := next
  pending s := s.readings.length
  pending_next_le := by
    rintro ⟨_ | ⟨reading, rest⟩⟩ <;> simp [next]
  pending_next_line := by
    rintro ⟨_ | ⟨reading, rest⟩⟩ line h
    · cases h
    · simp [next]

end Script

end RestrictedShell
