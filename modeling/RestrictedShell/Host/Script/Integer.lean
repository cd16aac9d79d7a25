import RestrictedShell.Host.Script.Byte
/-!
Whole numbers as they are written in scripts: in base ten, in base eight behind a zero, and in base
sixteen behind `0x`. A number beyond 64 bits becomes the nearest of those.
-/

namespace RestrictedShell.Host.Script.Integer

/-- The value of a digit in a base up to sixteen. -/
def digit? (base : Nat) (b : UInt8) : Option Nat :=
  let value := if isDigit b then b.toNat - 48
    else if byte 'a' ≤ b && b ≤ byte 'f' then b.toNat - 87
    else if byte 'A' ≤ b && b ≤ byte 'F' then b.toNat - 55
    else 16
  if value < base then some value else none

def isHexDigit (b : UInt8) : Bool :=
  (digit? 16 b).isSome

/-- The number that a run of digits writes. -/
def value (base : Nat) (digits : Bytes) : Nat :=
  digits.foldl (fun n b => n * base + (digit? base b).getD 0) 0

/-- The longest run of digits that a text begins with, as a number, and what stands behind it. The base
is told by how it begins, or is ten if `anyBase` is false. -/
def magnitude? (anyBase : Bool) (text : Bytes) : Option (Nat × Bytes) :=
  let run (base : Nat) (text : Bytes) : Option (Nat × Bytes) :=
    let digits := text.takeWhile fun b => (digit? base b).isSome
    if digits = [] then none else some (value base digits, text.drop digits.length)
  if !anyBase then run 10 text
  else match text with
    | 0x30 :: x :: d :: rest =>
        if (x == byte 'x' || x == byte 'X') && isHexDigit d then run 16 (d :: rest) else run 8 text
    | 0x30 :: _ => run 8 text
    | _ => run 10 text

/-- A number read from the beginning of a text, and how the text goes on. -/
structure Reading where
  negative : Bool
  magnitude : Nat
  rest : Bytes
deriving DecidableEq, Repr

/-- Reads a number with a sign and blanks in front. `none` if there is none. -/
def read? (anyBase : Bool) (text : Bytes) : Option Reading :=
  let unsigned (negative : Bool) (text : Bytes) : Option Reading :=
    (magnitude? anyBase text).map fun m => ⟨negative, m.1, m.2⟩
  match text.dropWhile isSpace with
  | 0x2D :: rest => unsigned true rest
  | 0x2B :: rest => unsigned false rest
  | rest => unsigned false rest

def least : Int := -9223372036854775808

def greatest : Int := 9223372036854775807

namespace Reading

def value (r : Reading) : Int :=
  if r.negative then -(r.magnitude : Int) else r.magnitude

/-- Does it take no more than 64 bits? -/
def fits (r : Reading) : Bool :=
  least ≤ r.value && r.value ≤ greatest

/-- The value, or the nearest that takes 64 bits. -/
def clamped (r : Reading) : Int :=
  max least (min greatest r.value)

end Reading

/-- The number that all of a text writes, blanks around it allowed. -/
def whole? (anyBase : Bool) (text : Bytes) : Option Int :=
  match read? anyBase text with
  | some r => if r.fits && r.rest.all isSpace then some r.value else none
  | none => none

end RestrictedShell.Host.Script.Integer
