import RestrictedShell.Host.Utility.Expression
/-!
Programs that count and reckon: rows of numbers, and values of expressions given word by word.
-/

namespace RestrictedShell.Host.Utility

namespace Row

/-- A number with a fixed count of decimals: `value` counts units of the last of them. -/
structure Fixed where
  value : Int
  decimals : Nat
deriving DecidableEq, Repr

/-- Reads a number. -/
def Fixed.ofText? (text : Bytes) : Option Fixed :=
  let (negative, rest) := match text.dropWhile isSpace with
    | 0x2D :: rest => (true, rest)
    | 0x2B :: rest => (false, rest)
    | rest => (false, rest)
  let whole := rest.takeWhile isDigit
  let (fraction, rest) := match rest.drop whole.length with
    | 0x2E :: rest => (rest.takeWhile isDigit, rest.dropWhile isDigit)
    | rest => ([], rest)
  if whole = [] && fraction = [] then none
  else
    let n : Int := decimalValue (whole ++ fraction)
    let n := if negative then -n else n
    match rest with
    | [] => some ⟨n, fraction.length⟩
    | e :: exponent =>
        if e = 0x65 || e = 0x45 then
          let (down, digits) := match exponent with
            | 0x2D :: digits => (true, digits)
            | 0x2B :: digits => (false, digits)
            | digits => (false, digits)
          match numberOf? digits with
          | none => none
          | some k =>
              if down then some ⟨n, fraction.length + k⟩
              else if fraction.length ≤ k then some ⟨n * Nat.pow 10 (k - fraction.length), 0⟩
              else some ⟨n, fraction.length - k⟩
        else none

/-- The same number with more decimals. -/
def Fixed.scaled (f : Fixed) (decimals : Nat) : Int :=
  f.value * Nat.pow 10 (decimals - f.decimals)

/-- Writes a count of units of the last of some decimals. -/
def written (decimals width : Nat) (value : Int) : Bytes :=
  let digits := Nat.toDigits 10 value.natAbs
  let digits := List.replicate (decimals + 1 - digits.length) '0' ++ digits
  let whole := digits.take (digits.length - decimals)
  let fraction := digits.drop (digits.length - decimals)
  let sign := if value < 0 then ['-'] else []
  let size := sign.length + whole.length + (if decimals = 0 then 0 else decimals + 1)
  ascii (String.ofList (sign ++ List.replicate (width - size) '0' ++ whole ++
    if decimals = 0 then [] else '.' :: fraction))

/-- The longest row that is written. -/
def maxLength : Nat := 1000000

end Row

open Row in
/-- Prints a row of numbers. -/
def seq : Program := coded fun self args => do
  /- Options come before the first number, be it negative. -/
  let isNumber (arg : Bytes) : Bool := match arg with
    | 0x2D :: b :: _ => b = 0x2E || isDigit b
    | _ => false
  let known : List Switch :=
    [.both 'w' "equal-width", .valued 's' "separator", .valued 'f' "format"]
  let rec split (pending : Bool) : List Bytes → List Bytes × List Bytes
    | [] => ([], [])
    | arg :: rest =>
        if pending then
          let (options, operands) := split false rest
          (arg :: options, operands)
        else if isNumber arg || arg.head? ≠ some 0x2D || arg.length = 1 then ([], arg :: rest)
        else
          let waits := arg = ascii "-s" || arg = ascii "-f" || arg = ascii "-ws" || arg = ascii "-wf"
          if arg = ascii "--" then ([], rest)
          else
            let long := arg.take 2 = ascii "--" && !arg.contains 0x3D && arg.take 3 ≠ ascii "--e"
            let (options, operands) := split (waits || long) rest
            (arg :: options, operands)
  let (options, operands) := split false args
  withOptions known 1 self options fun given extra => do
    let operands := extra ++ operands
    let invalid (text : Bytes) : System Nat := do
      complain self (ascii "invalid floating point argument: " ++ QuotedName.inText text)
      pointToHelp self
      pure 1
    if operands = [] then return ← missingOperand self "operand" none
    if let some extra := operands[3]? then return ← extraOperand self extra
    let mut numbers : List Fixed := []
    for text in operands do
      match Fixed.ofText? text with
      | some f => numbers := numbers ++ [f]
      | none => return ← invalid text
    let one : Fixed := ⟨1, 0⟩
    let (first, step, last) := match numbers with
      | [last] => (one, one, last)
      | [first, last] => (first, one, last)
      | first :: step :: last :: _ => (first, step, last)
      | [] => (one, one, one)
    if step.value = 0 then
      complain self (ascii "invalid Zero increment value: " ++
        QuotedName.inText ((operands[1]?).getD []))
      pointToHelp self
      return 1
    let decimals := max first.decimals step.decimals
    let scale := max decimals last.decimals
    let start := first.scaled scale
    let stop := last.scaled scale
    let by_ := step.scaled scale
    let count := if (0 < by_ && stop < start) || (by_ < 0 && start < stop) then 0
      else ((stop - start).natAbs / by_.natAbs) + 1
    let count := min count maxLength
    let unit := Nat.pow 10 (scale - decimals)
    let value (k : Nat) : Int := (start + by_ * k).tdiv unit
    let width := if has given 'w' then
        max (written decimals 0 (value 0)).length (written decimals 0 (value (count - 1))).length
      else 0
    let texts := (List.range count).map fun k => written decimals width (value k)
    let separator := (value? given 's').getD [Text.newline]
    if texts ≠ [] then System.write 1 (separator.intercalate texts ++ [Text.newline])
    pure 0

namespace Reckoning

/-- Why an expression has no value. -/
inductive Flaw where
  | missingAfter (word : Bytes)
  | unexpected (word : Bytes)
  | unclosed (word : Bytes)
  | notInteger
  | divisionByZero
  | expression (flaw : Expression.Flaw)
deriving DecidableEq, Repr

def Flaw.message : Flaw → Bytes
  | .missingAfter word => ascii "syntax error: missing argument after " ++ QuotedName.inText word
  | .unexpected word => ascii "syntax error: unexpected argument " ++ QuotedName.inText word
  | .unclosed word => ascii "syntax error: expecting ')' after " ++ QuotedName.inText word
  | .notInteger => ascii "non-integer argument"
  | .divisionByZero => ascii "division by zero"
  | .expression flaw => ascii flaw.message

/-- The whole number that a value writes. -/
def integer? (value : Bytes) : Option Int :=
  match value with
  | 0x2D :: digits => (numberOf? digits).map fun n => -(n : Int)
  | digits => (numberOf? digits).map fun n => (n : Int)

def ofInt (n : Int) : Bytes := ascii (toString n)

def ofBool (b : Bool) : Bytes := ascii (if b then "1" else "0")

/-- Does a value count as nothing? -/
def isNull (value : Bytes) : Bool :=
  value = [] || integer? value = some 0

/-- Does a value match an expression at its beginning? The value of its first group, or the length of the
match. -/
def matched (value pattern : Bytes) : Except Flaw Bytes :=
  match Expression.ofText ⟨false, false⟩ pattern with
  | .error flaw => .error (.expression flaw)
  | .ok (e, groups) =>
      match Expression.matchAt? e ⟨value.toArray, true⟩ 0 with
      | none => .ok (if groups = 0 then ascii "0" else [])
      | some f =>
          if groups = 0 then .ok (ofInt f.stop)
          else match f.groups.find? fun g => g.1 = 1 with
            | some (_, start, stop) => .ok ((value.drop start).take (stop - start))
            | none => .ok []

/-- The operators by how tightly they bind, the loosest first. -/
def levels : List (List String) :=
  [["|"], ["&"], ["<", "<=", "=", "==", "!=", ">=", ">"], ["+", "-"], ["*", "/", "%"], [":"]]

def apply (operator : String) (a b : Bytes) : Except Flaw Bytes :=
  let reckon (f : Int → Int → Except Flaw Int) : Except Flaw Bytes :=
    match integer? a, integer? b with
    | some x, some y => (f x y).map ofInt
    | _, _ => .error .notInteger
  let order : Ordering :=
    match integer? a, integer? b with
    | some x, some y => compare x y
    | _, _ => if a = b then .eq else if a < b then .lt else .gt
  match operator with
  | "|" => .ok (if !isNull a then a else if !isNull b then b else ascii "0")
  | "&" => .ok (if isNull a || isNull b then ascii "0" else a)
  | "<" => .ok (ofBool (order = .lt))
  | "<=" => .ok (ofBool (order != .gt))
  | "=" | "==" => .ok (ofBool (order = .eq))
  | "!=" => .ok (ofBool (order != .eq))
  | ">=" => .ok (ofBool (order != .lt))
  | ">" => .ok (ofBool (order = .gt))
  | "+" => reckon fun x y => .ok (x + y)
  | "-" => reckon fun x y => .ok (x - y)
  | "*" => reckon fun x y => .ok (x * y)
  | "/" => reckon fun x y => if y = 0 then .error .divisionByZero else .ok (x.tdiv y)
  | "%" => reckon fun x y => if y = 0 then .error .divisionByZero else .ok (x.tmod y)
  | _ => matched a b

/-- Words that are left, and the last word before them. -/
abbrev Rest := List Bytes × Bytes

mutual

/-- The value of an expression of some levels. The fuel bounds the number of steps. -/
def level (fuel : Nat) (levels : List (List String)) (rest : Rest) : Except Flaw (Bytes × Rest) :=
  match fuel, levels with
  | 0, _ => .error .notInteger
  | fuel + 1, [] => primary fuel rest
  | fuel + 1, operators :: tighter => do
      let (value, rest) ← level fuel tighter rest
      chain fuel operators tighter value rest

/-- Goes on with operators of one level. -/
def chain (fuel : Nat) (operators : List String) (tighter : List (List String)) (value : Bytes)
    (rest : Rest) : Except Flaw (Bytes × Rest) :=
  match fuel, rest.1 with
  | fuel + 1, word :: more =>
      match operators.find? fun o => ascii o == word with
      | none => .ok (value, rest)
      | some operator => do
          let (other, rest) ← level fuel tighter (more, word)
          let value ← apply operator value other
          chain fuel operators tighter value rest
  | _, _ => .ok (value, rest)

/-- The value of a word, of a function of words, or of what stands in parentheses. -/
def primary (fuel : Nat) (rest : Rest) : Except Flaw (Bytes × Rest) :=
  match fuel, rest with
  | 0, _ => .error .notInteger
  | _, ([], before) => .error (.missingAfter before)
  | fuel + 1, (word :: more, _) =>
      let argument (rest : Rest) : Except Flaw (Bytes × Rest) := primary fuel rest
      if word = ascii "(" then do
        let (value, rest) ← level fuel levels (more, word)
        match rest.1 with
        | close :: after =>
            if close = ascii ")" then .ok (value, (after, close))
            else .error (.unclosed rest.2)
        | [] => .error (.unclosed rest.2)
      else if word = ascii ")" then .error (.unexpected word)
      else if word = ascii "+" then
        match more with
        | [] => .error (.missingAfter word)
        | quoted :: after => .ok (quoted, (after, quoted))
      else if word = ascii "length" then do
        let (value, rest) ← argument (more, word)
        .ok (ofInt value.length, rest)
      else if word = ascii "match" then do
        let (value, rest) ← argument (more, word)
        let (pattern, rest) ← argument rest
        .ok (← matched value pattern, rest)
      else if word = ascii "index" then do
        let (value, rest) ← argument (more, word)
        let (wanted, rest) ← argument rest
        let before := (value.takeWhile fun b => !wanted.contains b).length
        .ok (ofInt (if before = value.length then 0 else before + 1), rest)
      else if word = ascii "substr" then do
        let (value, rest) ← argument (more, word)
        let (start, rest) ← argument rest
        let (size, rest) ← argument rest
        match integer? start, integer? size with
        | some start, some size =>
            .ok (if start ≤ 0 || size ≤ 0 then []
              else (value.drop (start.toNat - 1)).take size.toNat, rest)
        | _, _ => .ok ([], rest)
      else .ok (word, (more, word))

end

end Reckoning

open Reckoning in
/-- Prints the value of an expression. -/
def expr : Program := coded fun self args => do
  let args := if args.head? = some (ascii "--") then args.tail else args
  if args = [] then
    complain self (ascii "missing operand")
    pointToHelp self
    return 2
  match level (16 * args.length + 32) levels (args, []) with
  | .error flaw =>
      complain self flaw.message
      pure 2
  | .ok (_, (word :: _, _)) =>
      complain self (Flaw.message (.unexpected word))
      pure 2
  | .ok (value, _) =>
      System.write 1 (value ++ [Text.newline])
      pure (if isNull value then 1 else 0)

end RestrictedShell.Host.Utility
