import RestrictedShell.Host.Utility.Amount
import RestrictedShell.Host.Utility.Place
/-!
Programs that print what they are given, or a part of it: words, names, numbers, variables.
-/

namespace RestrictedShell.Host.Utility

namespace Words

/-- The byte that some digits stand for, of at most `count` digits in a base, and what stands behind
them. -/
def numbered (base count : Nat) (text : Bytes) : Option (UInt8 × Bytes) :=
  let value? (b : UInt8) : Option Nat :=
    let n := if isDigit b then b.toNat - 48
      else if 0x61 ≤ b && b ≤ 0x66 then b.toNat - 87
      else if 0x41 ≤ b && b ≤ 0x46 then b.toNat - 55
      else 16
    if n < base then some n else none
  let digits := (text.take count).takeWhile fun b => (value? b).isSome
  if digits = [] then none
  else some ((digits.foldl (fun n b => n * base + (value? b).getD 0) 0).toUInt8,
    text.drop digits.length)

/-- A text with its escapes replaced, and whether one of them stops all output. The fuel bounds the
length. -/
def unescape (fuel : Nat) (text : Bytes) : Bytes × Bool :=
  let simple : List (Char × UInt8) :=
    [('\\', 0x5C), ('a', 7), ('b', 8), ('e', 27), ('f', 12), ('n', 10), ('r', 13), ('t', 9),
      ('v', 11)]
  match fuel, text with
  | 0, _ | _, [] => ([], false)
  | fuel + 1, 0x5C :: c :: rest =>
      let goOn (bytes : Bytes) (rest : Bytes) : Bytes × Bool :=
        let (text, stops) := unescape fuel rest
        (bytes ++ text, stops)
      if c = charByte 'c' then ([], true)
      else match simple.find? fun e => charByte e.1 == c with
        | some (_, b) => goOn [b] rest
        | none =>
            if c = charByte '0' then
              match numbered 8 3 rest with
              | some (b, rest) => goOn [b] rest
              | none => goOn [0] rest
            else if 0x31 ≤ c && c ≤ 0x37 then
              match numbered 8 3 (c :: rest) with
              | some (b, rest) => goOn [b] rest
              | none => goOn [] rest
            else if c = charByte 'x' then
              match numbered 16 2 rest with
              | some (b, rest) => goOn [b] rest
              | none => goOn [0x5C, c] rest
            else goOn [0x5C, c] rest
  | fuel + 1, b :: rest =>
      let (text, stops) := unescape fuel rest
      (b :: text, stops)

/-- The letters of an option for `echo`, if an argument is one. -/
def echoLetters? (arg : Bytes) : Option Bytes :=
  match arg with
  | 0x2D :: b :: rest =>
      if (b :: rest).all fun b => (ascii "neE").contains b then some (b :: rest) else none
  | _ => none

end Words

/-- Prints its arguments. -/
def echo : Program := coded fun _ args => do
  let options := (args.map Words.echoLetters?).takeWhile Option.isSome
  let letters := options.flatMap fun o => o.getD []
  let words := args.drop options.length
  let escapes := (letters.filter fun b => b ≠ charByte 'n').getLast? = some (charByte 'e')
  let text := ([0x20] : Bytes).intercalate words
  let (text, stops) := if escapes then Words.unescape (text.length + 1) text else (text, false)
  let ends := letters.contains (charByte 'n') || stops
  System.write 1 (text ++ if ends then [] else [Text.newline])
  pure 0

/-- Prints its arguments again and again, until nobody wants more. -/
def yes : Program := coded fun self args =>
  withOptions [] 1 self args fun _ operands => do
    let words := if operands = [] then [ascii "y"] else operands
    let line := ([0x20] : Bytes).intercalate words ++ [Text.newline]
    let block := (List.replicate (8192 / line.length + 1) line).flatten
    for _ in List.range (Process.pipeCapacity / 4096) do
      if !(← put block) then break
    pure 1

/-- Prints the last name of each path. -/
def basename : Program := coded fun self args => do
  let known : List Switch :=
    [.both 'a' "multiple", .valued 's' "suffix", .both 'z' "zero"]
  withChecked known true 1 (fun _ => pure none) self args fun given operands => do
    let strip (suffix path : Bytes) : Bytes :=
      let name := Path.lastName path
      if suffix ≠ [] && name.length > suffix.length && suffix.isSuffixOf name then
        name.take (name.length - suffix.length)
      else name
    let ends : Bytes := if has given 'z' then [0] else [Text.newline]
    match operands with
    | [] => missingOperand self "operand" none
    | path :: others =>
        if has given 'a' || has given 's' then
          for path in operands do
            System.write 1 (strip ((value? given 's').getD []) path ++ ends)
          pure 0
        else match others with
          | _ :: extra :: _ => extraOperand self extra
          | _ =>
              System.write 1 (strip (others.head?.getD []) path ++ ends)
              pure 0

/-- Prints each path without its last name. -/
def dirname : Program := coded fun self args =>
  withOptions [.both 'z' "zero"] 1 self args fun given operands => do
    if operands = [] then missingOperand self "operand" none
    else
      for path in operands do
        System.write 1 (Path.parent path ++ if has given 'z' then [0] else [Text.newline])
      pure 0

/-- The path of a place. -/
def pathOf (place : Location) : Bytes :=
  if place = [] then [slash] else place.flatMap (slash :: ·)

/-- Prints where the process is. -/
def pwd : Program := coded fun self args =>
  withOptions [.both 'L' "logical", .both 'P' "physical"] 1 self args fun given operands => do
    if operands ≠ [] then complain self (ascii "ignoring non-option arguments")
    let p ← get
    let known := if last? given ['L', 'P'] = some 'L' then p.environment.lookup (ascii "PWD") else none
    let fits := known.filter fun path =>
      path.head? = some slash &&
        (match p.files.resolve true [] path with
          | .ok place => place = p.dir
          | .error _ => false)
    System.write 1 (fits.getD (pathOf p.dir) ++ [Text.newline])
    pure 0

/-- Prints variables. -/
def printenv : Program := coded fun self args =>
  withChecked [.both '0' "null"] true 2 (fun _ => pure none) self args fun given operands => do
    let p ← get
    let ends : Bytes := if has given '0' then [0] else [Text.newline]
    if operands = [] then
      for (name, value) in p.environment do
        System.write 1 (name ++ 0x3D :: value ++ ends)
      pure 0
    else forEach operands fun name => do
      match p.environment.lookup name with
      | some value =>
          System.write 1 (value ++ ends)
          pure true
      | none => pure false

namespace Environment

def switches : List Switch :=
  [.both 'i' "ignore-environment", .both '0' "null", .valued 'u' "unset", .valued 'C' "chdir",
    .valued 'S' "split-string", .both 'v' "debug"]

/-- Gives a variable a value. -/
def put (environment : List (Bytes × Bytes)) (name value : Bytes) : List (Bytes × Bytes) :=
  if (environment.lookup name).isSome then
    environment.map fun v => if v.1 = name then (name, value) else v
  else environment ++ [(name, value)]

end Environment

/-- Changes variables, and then prints them or becomes another program. -/
def env : Program := fun self args => do
  let (given, operands?) := readOptions Environment.switches true (args.length + 1) args
  match operands? with
  | .error misuse => pure (.exited (← refuse self 125 misuse))
  | .ok operands =>
      let (clears, operands) := match operands with
        | [0x2D] :: rest => (true, rest)
        | _ => (false, operands)
      let operands := ((values given 'S').flatMap fun text =>
        (text.splitOnP isSpace).filter (· ≠ [])) ++ operands
      let p ← get
      let start := if clears || has given 'i' then [] else p.environment
      let start := (values given 'u').foldl (fun e name => e.filter fun v => v.1 ≠ name) start
      let isAssignment (word : Bytes) : Bool := word.contains 0x3D
      let environment := (operands.takeWhile isAssignment).foldl (fun e word =>
        let name := word.takeWhile (· != 0x3D)
        Environment.put e name (word.drop (name.length + 1))) start
      let command := operands.dropWhile isAssignment
      modify fun p => { p with environment }
      if let some dir := value? given 'C' then
        if command = [] then
          complain self (ascii "must specify command with --chdir (-C)")
          pointToHelp self
          return .exited 125
        match p.files.find p.dir dir with
        | .ok (place, .directory) => modify fun p => { p with dir := place }
        | r =>
            let e := match r with
              | .error e => e
              | .ok _ => Errno.notADirectory
            complain self (ascii "cannot change directory to " ++ QuotedName.always dir ++ ascii ": " ++
              reason e)
            return .exited 125
      if command = [] then
        let ends : Bytes := if has given '0' then [0] else [Text.newline]
        for (name, value) in environment do
          System.write 1 (name ++ 0x3D :: value ++ ends)
        pure (.exited 0)
      else pure (.becomes command)

/-- Lets time pass. -/
def sleep : Program := coded fun self args =>
  withOptions [] 1 self args fun _ operands => do
    let interval? (text : Bytes) : Option Nat :=
      let whole := text.takeWhile isDigit
      let rest := text.drop whole.length
      let (fraction, unit) := match rest with
        | 0x2E :: rest =>
            let digits := rest.takeWhile isDigit
            (digits, rest.drop digits.length)
        | rest => ([], rest)
      if whole = [] && fraction = [] then
        if text = ascii "infinity" || text = ascii "inf" then some 1000000000000 else none
      else
        let factor? := match unit with
          | [] | [0x73] => some 1
          | [0x6D] => some 60
          | [0x68] => some 3600
          | [0x64] => some 86400
          | _ => none
        factor?.map fun factor =>
          (decimalValue whole * 1000000 +
            decimalValue ((fraction ++ List.replicate 6 0x30).take 6)) * factor
    if operands = [] then missingOperand self "operand" none
    else
      let mut total := 0
      let mut ok := true
      for text in operands do
        match interval? text with
        | some n => total := total + n
        | none =>
            complain self (ascii "invalid time interval " ++ QuotedName.inText text)
            ok := false
      if !ok then
        pointToHelp self
        pure 1
      else
        modify fun p => { p with clock := p.clock + total }
        pure 0

/-- Copies the standard input to the standard output and to files. -/
def tee : Program := coded fun self args =>
  withOptions [.both 'a' "append", .both 'i' "ignore-interrupts", .letter 'p',
    ⟨'o', false, some "output-error", .optional⟩] 1 self args fun given operands => do
    let mut code := 0
    let mut outputs : List Nat := []
    for operand in operands do
      match ← System.openPath operand (if has given 'a' then .append else .overwrite) with
      | .ok index => outputs := outputs ++ [index]
      | .error e =>
          complain self (QuotedName.ifNeeded operand ++ ascii ": " ++ reason e)
          code := 1
    match ← System.readAll 0 with
    | .error e =>
        complain self (ascii "read error: " ++ reason e)
        pure 1
    | .ok bytes =>
        System.write 1 bytes
        for index in outputs do
          modify fun p => (p.writeTo index bytes).2
        pure code

end RestrictedShell.Host.Utility
