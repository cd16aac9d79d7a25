import RestrictedShell.Host.Utility.Basic
/-!
Amounts: whole numbers that programs take, with letters behind them that multiply.
-/

namespace RestrictedShell.Host.Utility

def isDigit (b : UInt8) : Bool :=
  0x30 ≤ b && b ≤ 0x39

def isSpace (b : UInt8) : Bool :=
  b == 0x20 || (0x09 ≤ b && b ≤ 0x0D)

/-- The number that some digits write. -/
def decimalValue (digits : Bytes) : Nat :=
  digits.foldl (fun n b => n * 10 + (b.toNat - 48)) 0

/-- The number that a text of digits writes. -/
def numberOf? (text : Bytes) : Option Nat :=
  if text ≠ [] && text.all isDigit then some (decimalValue text) else none

namespace Amount

/-- What is wrong with an amount. -/
inductive Flaw where
  | invalid
  | tooLarge
deriving DecidableEq, Repr

/-- The powers that letters stand for. -/
def powers : List (Char × Nat) :=
  [('k', 1), ('K', 1), ('m', 2), ('M', 2), ('G', 3), ('T', 4), ('P', 5), ('E', 6), ('Z', 7), ('Y', 8),
    ('R', 9), ('Q', 10)]

/-- The largest amount. -/
def greatest : Nat := 18446744073709551615

/-- The factor that the letters behind a number stand for. Powers are of 1024, unless a `B` behind them
says 1000. -/
def factor? (letters : Bytes) : Option Nat :=
  match letters with
  | [] => some 1
  | [0x62] => some 512
  | letter :: rest =>
      match powers.find? fun p => charByte p.1 == letter with
      | none => none
      | some (_, n) =>
          if rest = [] || rest = ascii "iB" then some (Nat.pow 1024 n)
          else if rest = ascii "B" then some (Nat.pow 1000 n)
          else none

/-- Reads an amount. Letters without a number stand for one of them. -/
def read (text : Bytes) : Except Flaw Nat :=
  let text := text.dropWhile isSpace
  let text := match text with
    | 0x2B :: rest => rest
    | text => text
  let digits := text.takeWhile isDigit
  let letters := text.drop digits.length
  if digits = [] && letters = [] then .error .invalid
  else match factor? letters with
    | none => .error .invalid
    | some factor =>
        let n := (if digits = [] then 1 else decimalValue digits) * factor
        if greatest < n then .error .tooLarge else .ok n

/-- Reads an amount, or complains about it. -/
def demand (self : Bytes) (what : String) (text : Bytes) : System (Option Nat) := do
  match read text with
  | .ok n => pure (some n)
  | .error flaw =>
      complain self (ascii ("invalid " ++ what ++ ": ") ++ QuotedName.inText text ++
        ascii (if flaw = .tooLarge then ": Value too large for defined data type" else ""))
      pure none

end Amount

end RestrictedShell.Host.Utility
