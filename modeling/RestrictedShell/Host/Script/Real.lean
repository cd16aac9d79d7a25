import RestrictedShell.Host.Script.Integer
/-!
Numbers with a fraction: read into the nearest value with 53 significant bits, and written with as many
decimals as asked for, rounded to the nearest from the exact value, to the even digit from the middle.
-/

namespace RestrictedShell.Host.Script

/-- A number `mantissa * 2 ^ exponent`, a sum beyond all numbers, or none at all, with its sign. -/
inductive Real where
  | finite (negative : Bool) (mantissa : Nat) (exponent : Int)
  | infinite (negative : Bool)
  | undefined (negative : Bool)
deriving DecidableEq, Repr

namespace Real

/-- A quotient rounded to the nearest whole number, from the middle to the even one. -/
def roundQuotient (n d : Nat) : Nat :=
  let q := n / d
  let twice := 2 * (n % d)
  if d < twice || (twice == d && q % 2 == 1) then q + 1 else q

/-- A fraction `n / d` times a power of a base, as a fraction. -/
def scaled (n d base : Nat) (exponent : Int) : Nat × Nat :=
  match exponent with
  | .ofNat e => (n * Nat.pow base e, d)
  | .negSucc e => (n, d * Nat.pow base (e + 1))

/-- The least power of two that a value may be a multiple of. -/
def leastExponent : Int := -1074

def greatestExponent : Int := 971

/-- The value nearest to a fraction, and whether it lies out of range. -/
def nearest (negative : Bool) (n d : Nat) : Real × Bool :=
  if n = 0 then (.finite negative 0 0, false)
  else
    let guess : Int := (Nat.log2 n : Int) - (Nat.log2 d : Int) - 53
    let rounded (e : Int) : Nat :=
      let f := scaled n d 2 (-e)
      roundQuotient f.1 f.2
    let whole (e : Int) : Nat :=
      let f := scaled n d 2 (-e)
      f.1 / f.2
    let e := max leastExponent (if whole guess < 9007199254740992 then guess else guess + 1)
    let m := rounded e
    let (m, e) := if m = 9007199254740992 then (4503599627370496, e + 1) else (m, e)
    if greatestExponent < e then (.infinite negative, true)
    else (.finite negative m e, m < 4503599627370496)

/-- The letters of a word, whatever their case, and what stands behind them. -/
def word? (word : String) (text : Bytes) : Option Bytes :=
  let lower (b : UInt8) : UInt8 := if byte 'A' ≤ b && b ≤ byte 'Z' then b + 32 else b
  let size := word.length
  if (text.take size).map lower = ascii word then some (text.drop size) else none

/-- The exponent that a text begins with, behind one of two letters. Without digits there is none. -/
def exponent (letter : Char) (text : Bytes) : Int × Bytes :=
  match text with
  | b :: rest =>
      if b == byte letter || b == byte letter.toUpper then
        let (negative, digits) := match rest with
          | 0x2D :: rest => (true, rest)
          | 0x2B :: rest => (false, rest)
          | rest => (false, rest)
        let run := digits.takeWhile isDigit
        if run = [] then (0, text)
        else
          let n : Int := min (decimalValue run) 100000
          (if negative then -n else n, digits.drop run.length)
      else (0, text)
  | [] => (0, text)

/-- Reads digits in a base with at most one point between them: their value without the point, how many
stand behind it, and what follows. -/
def digits? (base : Nat) (text : Bytes) : Option (Nat × Nat × Bytes) :=
  let run (text : Bytes) : Bytes := text.takeWhile fun b => (Integer.digit? base b).isSome
  let first := run text
  let rest := text.drop first.length
  match rest with
  | 0x2E :: behind =>
      let second := run behind
      if first = [] && second = [] then none
      else some (Integer.value base (first ++ second), second.length, behind.drop second.length)
  | _ => if first = [] then none else some (Integer.value base first, 0, rest)

/-- Reads a number from the beginning of a text, blanks in front of it passed over: its value, whether it
lies out of range, and what stands behind it. -/
def read? (text : Bytes) : Option (Real × Bool × Bytes) :=
  let text := text.dropWhile isSpace
  let (negative, text) := match text with
    | 0x2D :: rest => (true, rest)
    | 0x2B :: rest => (false, rest)
    | rest => (false, rest)
  let decimal : Option (Real × Bool × Bytes) :=
    (digits? 10 text).map fun (n, places, rest) =>
      let (e, rest) := exponent 'e' rest
      let f := scaled n 1 10 (e - places)
      let (value, beyond) := nearest negative f.1 f.2
      (value, beyond, rest)
  match word? "infinity" text, word? "inf" text, word? "nan" text with
  | some rest, _, _ | none, some rest, _ => some (.infinite negative, false, rest)
  | _, _, some rest => some (.undefined negative, false, rest)
  | _, _, _ =>
      match text with
      | 0x30 :: x :: rest =>
          if x == byte 'x' || x == byte 'X' then
            match digits? 16 rest with
            | some (n, places, rest) =>
                let (e, rest) := exponent 'p' rest
                let f := scaled n 1 2 (e - 4 * places)
                let (value, beyond) := nearest negative f.1 f.2
                some (value, beyond, rest)
            | none => decimal
          else decimal
      | _ => decimal

/-- The digits of a number in base ten, at least so many. -/
def padded (size n : Nat) : Bytes :=
  let digits := decimalBytes n
  List.replicate (size - digits.length) (byte '0') ++ digits

/-- Puts a point in front of the last so many digits. -/
def pointed (places : Nat) (point : Bool) (digits : Bytes) : Bytes :=
  let whole := digits.take (digits.length - places)
  whole ++ (if 0 < places || point then [byte '.'] else []) ++ digits.drop whole.length

/-- A finite value with so many decimals. -/
def fixed (m : Nat) (e : Int) (places : Nat) (point : Bool) : Bytes :=
  let f := scaled (m * Nat.pow 10 places) 1 2 e
  pointed places point (padded (places + 1) (roundQuotient f.1 f.2))

/-- The digits of a value, one more than `places`, and the power of ten of the first of them. -/
def scientificDigits (m : Nat) (e : Int) (places : Nat) : Nat × Int :=
  if m = 0 then (0, 0)
  else
    let f := scaled m 1 2 e
    let rounded (k : Int) : Nat :=
      let g := scaled f.1 f.2 10 (places - k)
      roundQuotient g.1 g.2
    let isBelow (k : Int) : Bool :=
      let g := scaled f.1 f.2 10 (-k)
      g.1 < g.2
    let guess : Int := ((Nat.log2 f.1 : Int) - (Nat.log2 f.2 : Int)) * 30103 / 100000 + 2
    let k := (List.range 6).foldl (fun k _ => if isBelow k then k - 1 else k) guess
    let n := rounded k
    if n = Nat.pow 10 (places + 1) then (Nat.pow 10 places, k + 1) else (n, k)

/-- An exponent of ten with its sign and at least two digits. -/
def exponentText (letter : Char) (k : Int) : Bytes :=
  [byte letter, if k < 0 then byte '-' else byte '+'] ++ padded 2 k.natAbs

def scientific (letter : Char) (m : Nat) (e : Int) (places : Nat) (point : Bool) : Bytes :=
  let (n, k) := scientificDigits m e places
  pointed places point (padded (places + 1) n) ++ exponentText letter k

/-- Drops zeros at the end of the decimals, and the point if it is last then. -/
def withoutZeros (text : Bytes) : Bytes :=
  if text.contains (byte '.') then
    let kept := text.reverse.dropWhile (· == byte '0')
    (if kept.head? == some (byte '.') then kept.tail else kept).reverse
  else text

/-- A value with so many significant digits, with an exponent only where that is shorter. -/
def general (letter : Char) (m : Nat) (e : Int) (digits : Nat) (keepsZeros : Bool) : Bytes :=
  let digits := max digits 1
  let (n, k) := scientificDigits m e (digits - 1)
  let strip (text : Bytes) : Bytes := if keepsZeros then text else withoutZeros text
  if -4 ≤ k && k < digits then strip (fixed m e (digits - 1 - k).toNat keepsZeros)
  else
    strip (pointed (digits - 1) keepsZeros (padded digits n)) ++ exponentText letter k

/-- A value in base sixteen: the digits behind the point, as many as are needed or asked for, and the
power of two. -/
def hexadecimal (upper : Bool) (m : Nat) (e : Int) (places? : Option Nat) (point : Bool) : Bytes :=
  let size := Nat.log2 m
  let (fraction, k) : Nat × Int :=
    if m = 0 then (0, 0)
    else if 52 ≤ size then (m, e + 52) else (m * Nat.pow 2 (52 - size), e + size)
  let (lead, fraction) := (fraction / 4503599627370496, fraction % 4503599627370496)
  let (lead, places, fraction) := match places? with
    | some places =>
        if 13 ≤ places then (lead, places, fraction * Nat.pow 16 (places - 13))
        else
          let n := roundQuotient (lead * 4503599627370496 + fraction) (Nat.pow 16 (13 - places))
          (n / Nat.pow 16 places, places, n % Nat.pow 16 places)
    | none =>
        let zeros := ((List.range 14).reverse.find? fun z => fraction % Nat.pow 16 z = 0).getD 0
        (lead, 13 - zeros, fraction / Nat.pow 16 zeros)
  let digit (n : Nat) : UInt8 := (if n < 10 then 48 + n else (if upper then 55 else 87) + n).toUInt8
  let digits := (List.range places).reverse.map fun i => digit (fraction / Nat.pow 16 i % 16)
  ascii (if upper then "0X" else "0x") ++ decimalBytes lead ++
    (if digits ≠ [] || point then [byte '.'] else []) ++ digits ++
    [byte (if upper then 'P' else 'p'), if k < 0 then byte '-' else byte '+'] ++
    decimalBytes k.natAbs

def isNegative : Real → Bool
  | .finite negative .. | .infinite negative | .undefined negative => negative

/-- The value without its sign as one of the letters `aefg` asks for, or the same in capitals; the
precision is six unless it is given. -/
def write (letter : Char) (precision? : Option Nat) (alternate : Bool) (r : Real) : Bytes :=
  let places := precision?.getD 6
  let cased (text : String) : Bytes := ascii (if letter.isUpper then text.toUpper else text)
  match r with
  | .infinite _ => cased "inf"
  | .undefined _ => cased "nan"
  | .finite _ m e =>
      match letter.toLower with
      | 'f' => fixed m e places alternate
      | 'e' => scientific letter m e places alternate
      | 'g' => general (if letter.isUpper then 'E' else 'e') m e places alternate
      | _ => hexadecimal letter.isUpper m e precision? alternate

end Real

end RestrictedShell.Host.Script
