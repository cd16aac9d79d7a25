/-!
Reading a count: decimal digits, behind at most one plus sign, below 2^32. The digits are read from
the left, and the first thing that is wrong decides which error it is.
-/

namespace RestrictedShell.Options

inductive CountError where
  | empty
  | invalidDigit
  | tooLarge
deriving DecidableEq, Repr

def CountError.message : CountError → String
  | empty => "cannot parse integer from empty string"
  | invalidDigit => "invalid digit found in string"
  | tooLarge => "number too large to fit in target type"

/-- Reads the digits that follow a number read so far. -/
def readDigits (n : Nat) : List Char → Except CountError Nat
  | [] => .ok n
  | c :: rest =>
      if c.isDigit then
        let next := n * 10 + (c.toNat - 48)
        if next < 2 ^ 32 then readDigits next rest else .error .tooLarge
      else .error .invalidDigit

def readCount (text : String) : Except CountError UInt32 :=
  let digits := match text.toList with
    | '+' :: rest => rest
    | chars => chars
  if text = "" then .error .empty
  else if digits = [] then .error .invalidDigit
  else (readDigits 0 digits).map UInt32.ofNat

end RestrictedShell.Options
