import RestrictedShell.Host.Script.Real
import RestrictedShell.Host.Script.State
/-!
Escaped bytes and formats: `echo` prints the first, `printf` both. A format is used again as long as it
has used up some arguments and there are more.
-/

namespace RestrictedShell.Host.Script.Format

def isOctal (b : UInt8) : Bool :=
  byte '0' ≤ b && b ≤ byte '7'

/-- The byte that an escape stands for, given what follows its backslash, and what stands behind it. A
backslash before anything unknown stands for itself. -/
def escape (text : Bytes) : UInt8 × Bytes :=
  match text with
  | [] => (byte '\\', [])
  | b :: rest =>
      let simple : List (Char × UInt8) :=
        [('\\', byte '\\'), ('a', 7), ('b', 8), ('e', 27), ('f', 12), ('n', 10), ('r', 13),
          ('t', 9), ('v', 11)]
      if isOctal b then
        let digits := (text.take 3).takeWhile isOctal
        ((Integer.value 8 digits).toUInt8, text.drop digits.length)
      else match simple.find? fun entry => byte entry.1 == b with
        | some entry => (entry.2, rest)
        | none => (byte '\\', text)

/-- A text with its escapes replaced, and whether one of them stops all output. A number may have one
more zero in front. The fuel bounds the length. -/
def unescape (fuel : Nat) (text : Bytes) : Bytes × Bool :=
  match fuel, text with
  | 0, _ | _, [] => ([], false)
  | fuel + 1, b :: rest =>
      if b == byte '\\' then
        match rest with
        | 0x63 :: _ => ([], true)
        | _ =>
            let rest := match rest with
              | 0x30 :: d :: more => if isOctal d then d :: more else rest
              | _ => rest
            let (b, rest) := escape rest
            let (text, stops) := unescape fuel rest
            (b :: text, stops)
      else
        let (text, stops) := unescape fuel rest
        (b :: text, stops)

/-- A text with its escapes replaced, and whether one of them stops all output. -/
def plain (text : Bytes) : Bytes × Bool :=
  unescape (text.length + 1) text

/-- How a value is set: at the left, with its sign, in the other form, with zeros; its width and
precision. -/
structure Layout where
  left : Bool
  plus : Bool
  space : Bool
  alternate : Bool
  zero : Bool
  width : Nat
  precision? : Option Nat

namespace Layout

/-- Fills a text up to the width, on the side where it belongs. -/
def fill (l : Layout) (text : Bytes) : Bytes :=
  let blanks := List.replicate (l.width - text.length) (byte ' ')
  if l.left then text ++ blanks else blanks ++ text

/-- Fills a number up to the width. Zeros go between what stands in front and its digits. -/
def fillNumber (l : Layout) (zeros : Bool) (front digits : Bytes) : Bytes :=
  if zeros && l.zero && !l.left then
    front ++ List.replicate (l.width - front.length - digits.length) (byte '0') ++ digits
  else l.fill (front ++ digits)

def sign (l : Layout) (negative : Bool) : Bytes :=
  if negative then [byte '-']
  else if l.plus then [byte '+']
  else if l.space then [byte ' ']
  else []

/-- The digits of a number, as many as the precision asks for. -/
def digits (l : Layout) (base : Nat) (n : Nat) : Bytes :=
  let digits := if n = 0 then (if l.precision? = some 0 then [] else [byte '0'])
    else ascii (String.ofList (Nat.toDigits base n))
  List.replicate (l.precision?.getD 1 - digits.length) (byte '0') ++ digits

def signed (l : Layout) (n : Int) : Bytes :=
  l.fillNumber l.precision?.isNone (l.sign (n < 0)) (l.digits 10 n.natAbs)

def unsigned (l : Layout) (letter : UInt8) (n : Nat) : Bytes :=
  let upper (b : UInt8) : UInt8 := if byte 'a' ≤ b && b ≤ byte 'f' then b - 32 else b
  if letter == byte 'o' then
    let digits := l.digits 8 n
    let digits := if l.alternate && digits.head? != some (byte '0') then byte '0' :: digits
      else digits
    l.fillNumber l.precision?.isNone [] digits
  else if letter == byte 'u' then l.fillNumber l.precision?.isNone [] (l.digits 10 n)
  else
    let digits := l.digits 16 n
    let front := if l.alternate && n ≠ 0 then [byte '0', letter] else []
    l.fillNumber l.precision?.isNone front
      (if letter == byte 'X' then digits.map upper else digits)

def real (l : Layout) (letter : UInt8) (r : Real) : Bytes :=
  let c := Char.ofNat letter.toNat
  let zeros := match r with
    | .finite .. => true
    | _ => false
  let text := r.write c l.precision? l.alternate
  let sign := l.sign r.isNegative
  if zeros && c.toLower == 'a' then l.fillNumber true (sign ++ text.take 2) (text.drop 2)
  else l.fillNumber zeros sign text

def text (l : Layout) (bytes : Bytes) : Bytes :=
  l.fill (match l.precision? with
    | some n => bytes.take n
    | none => bytes)

end Layout

/-- The arguments that are left, and whether one of them was no number. -/
structure Supply where
  arguments : List Bytes
  misfit : Bool

abbrev Printing := StateT Supply Run

/-- Takes the next argument, if there is one. -/
def next? : Printing (Option Bytes) := do
  let s ← get
  set { s with arguments := s.arguments.tail }
  pure s.arguments.head?

/-- Complains about what stands behind a number, or about its size. -/
def check (argument : Bytes) (rest? : Option Bytes) (fits : Bool) : Printing Unit := do
  let complain (message : String) : Printing Unit := do
    Run.warn (argument ++ ascii (": " ++ message))
    modify fun s => { s with misfit := true }
  match rest? with
  | none => if argument ≠ [] then complain "expected numeric value"
  | some [] => if !fits then complain "Numerical result out of range"
  | some _ => complain "not completely converted"

/-- Is the argument a byte behind a quote? -/
def quoted? (argument : Bytes) : Option Nat :=
  match argument with
  | b :: rest =>
      if b == byte '\x22' || b == byte '\x27' then some (rest.head?.getD 0).toNat else none
  | [] => none

/-- The number that the next argument writes. -/
def integer (signed : Bool) : Printing Int := do
  match ← next? with
  | none => pure 0
  | some argument =>
      match quoted? argument with
      | some n => pure n
      | none =>
          match Integer.read? true argument with
          | none =>
              check argument none true
              pure 0
          | some r =>
              if signed then
                check argument (some r.rest) r.fits
                pure r.clamped
              else
                let fits := r.magnitude < 18446744073709551616
                check argument (some r.rest) fits
                pure (if !fits then 18446744073709551615 else r.value % 18446744073709551616)

def realNumber : Printing Real := do
  let zero : Real := .finite false 0 0
  match ← next? with
  | none => pure zero
  | some argument =>
      match quoted? argument with
      | some n => pure (.finite false n 0)
      | none =>
          match Real.read? argument with
          | none =>
              check argument none true
              pure zero
          | some (r, beyond, rest) =>
              check argument (some rest) !beyond
              pure r

/-- A number of at most 32 bits, as it comes out of a larger one. -/
def narrow (n : Int) : Int :=
  (Int32.ofInt n).toInt

/-- What one directive prints, and whether all output stops there. -/
def value (l : Layout) (letter : UInt8) (directive : Bytes) : Printing (Bytes × Bool) := do
  let among (letters : String) : Bool := (ascii letters).contains letter
  if among "b" then
    let (text, stops) := plain ((← next?).getD [])
    pure (l.text text, stops)
  else if among "c" then
    pure (l.fill [((← next?).bind List.head?).getD 0], false)
  else if among "s" then pure (l.text ((← next?).getD []), false)
  else if among "di" then pure (l.signed (← integer true), false)
  else if among "ouxX" then pure (l.unsigned letter (← integer false).toNat, false)
  else if among "aAeEfFgG" then pure (l.real letter (← realNumber), false)
  else Run.fail (directive ++ ascii ": invalid directive")

/-- Reads a directive behind its percent sign and prints its value; gives what stands behind it, if the
output goes on. -/
def directive (format : Bytes) : Printing (Option Bytes) := do
  let flags := format.takeWhile fun b => (ascii "#-+ 0").contains b
  let has (c : Char) : Bool := flags.contains (byte c)
  let isMeasure (b : UInt8) : Bool := isDigit b || b == byte '*'
  /- A width or precision, given by an argument or by digits. -/
  let measure (text : Bytes) : Printing (Int × Bytes) := do
    match text with
    | 0x2A :: rest => pure (narrow (← integer true), rest)
    | _ =>
        let digits := text.takeWhile isMeasure
        pure ((decimalValue (digits.takeWhile isDigit) : Int), text.drop digits.length)
  let (width, rest) ← measure (format.drop flags.length)
  let (precision?, rest) ← match rest with
    | 0x2E :: rest => do
        let (precision, rest) ← measure rest
        pure (if precision < 0 then none else some precision.toNat, rest)
    | rest => pure (none, rest)
  match rest with
  | [] => Run.fail (ascii "missing format character")
  | letter :: rest =>
      let l : Layout :=
        ⟨has '-' || width < 0, has '+', has ' ', has '#', has '0', width.natAbs, precision?⟩
      let written := byte '%' :: format.take (format.length - rest.length)
      let (text, stops) ← value l letter written
      Run.print text
      pure (if stops then none else some rest)

/-- Prints a format once. Tells whether the output goes on behind it. -/
def once (fuel : Nat) (format : Bytes) : Printing Bool := do
  match fuel, format with
  | 0, _ | _, [] => pure true
  | fuel + 1, b :: rest =>
      if b == byte '\\' then
        let (b, rest) := escape rest
        Run.print [b]
        once fuel rest
      else if b == byte '%' then
        match rest with
        | 0x25 :: rest =>
            Run.print [b]
            once fuel rest
        | _ =>
            match ← directive rest with
            | some rest => once fuel rest
            | none => pure false
      else
        Run.print [b]
        once fuel rest

/-- Prints a format as often as the arguments ask for, at most `fuel` times more. -/
def again (fuel : Nat) (format : Bytes) : Printing Unit := do
  let before := (← get).arguments.length
  let goesOn ← once (format.length + 1) format
  let left := (← get).arguments.length
  match fuel with
  | 0 => pure ()
  | fuel + 1 => if goesOn && left ≠ 0 && left < before then again fuel format

/-- Prints arguments by a format. Tells whether they all fit it. -/
def run (format : Bytes) (arguments : List Bytes) : Run Bool := do
  let ((), supply) ← (again arguments.length format).run ⟨arguments, false⟩
  pure !supply.misfit

end RestrictedShell.Host.Script.Format
