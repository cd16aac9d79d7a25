import RestrictedShell.Signal
/-!
How a child ended, read off the 32-bit status that a Linux system hands to the waiting parent: the
low seven bits are zero for an exit, and the code stands in the eight bits from bit 8; from 1 to 126
they are the signal that killed the child.
-/

namespace RestrictedShell

/-- How a child ended. -/
inductive Outcome where
  | exited (code : Int32)
  | signaled (signal : Int32)
  | lost (reason : String)
deriving DecidableEq, Repr

/-- A raw wait status. -/
abbrev WaitStatus := UInt32

namespace WaitStatus

/-- The low seven bits: zero for an exit, 127 for a child that has not ended. -/
def ending (s : WaitStatus) : UInt32 :=
  s &&& 0x7F

/-- The eight bits above the lowest eight: an exit code, or the signal that stopped a child. -/
def detail (s : WaitStatus) : UInt32 :=
  (s >>> 8) &&& 0xFF

/-- A number in base sixteen, behind the mark `0x`. -/
def hexadecimal (n : Nat) : String :=
  "0x" ++ String.ofList (Nat.toDigits 16 n)

/-- What is said of a status that is neither an exit nor a death by signal. -/
def describe (s : WaitStatus) : String :=
  if s &&& 0xFF = 0x7F then
    let number := s.detail.toNat
    "stopped (not terminated) by signal: " ++ number.repr ++
      match Signal.name? number with
      | some name => " (" ++ name ++ ")"
      | none => ""
  else if s = 0xFFFF then "continued (WIFCONTINUED)"
  else
    "unrecognised wait status: " ++ toString s.toInt32.toInt ++ " " ++ hexadecimal s.toNat

end WaitStatus

namespace Outcome

def ofStatus (s : WaitStatus) : Outcome :=
  if s.ending = 0 then exited s.detail.toInt32
  else if s.ending ≤ 126 then signaled s.ending.toInt32
  else lost ("unrecognized status " ++ s.describe)

def describe : Outcome → String
  | exited code => "exited with code " ++ toString code.toInt
  | signaled signal => "killed by signal " ++ toString signal.toInt
  | lost reason => "status unavailable: " ++ reason

end Outcome

end RestrictedShell
