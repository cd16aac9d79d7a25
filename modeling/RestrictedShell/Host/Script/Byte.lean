import RestrictedShell.Text
/-!
The bytes of a script by the parts they play: digits, letters of names, and blanks.
-/

namespace RestrictedShell.Host.Script

/-- The byte of an ASCII character. -/
def byte (c : Char) : UInt8 :=
  c.toNat.toUInt8

def isDigit (b : UInt8) : Bool :=
  byte '0' ≤ b && b ≤ byte '9'

/-- May a name begin with this byte? -/
def isNameStart (b : UInt8) : Bool :=
  (byte 'a' ≤ b && b ≤ byte 'z') || (byte 'A' ≤ b && b ≤ byte 'Z') || b == byte '_'

def isNameByte (b : UInt8) : Bool :=
  isNameStart b || isDigit b

def isName : Bytes → Bool
  | [] => false
  | b :: rest => isNameStart b && rest.all isNameByte

/-- Does it name a parameter by itself, without being a letter? -/
def isSpecialName (b : UInt8) : Bool :=
  isDigit b || (Text.encode "@*#?$!-").contains b

def isBlank (b : UInt8) : Bool :=
  b == byte ' ' || b == byte '\t'

/-- Is it one of the blanks that numbers may have around them? -/
def isSpace (b : UInt8) : Bool :=
  isBlank b || (0x0A ≤ b && b ≤ 0x0D)

/-- The number that some decimal digits write. -/
def decimalValue (digits : Bytes) : Nat :=
  digits.foldl (fun n d => n * 10 + (d.toNat - 48)) 0

/-- The bytes of a text. -/
abbrev ascii (text : String) : Bytes :=
  Text.encode text

/-- A number in base ten. -/
def decimalBytes (n : Int) : Bytes :=
  Text.encode (toString n)

end RestrictedShell.Host.Script
