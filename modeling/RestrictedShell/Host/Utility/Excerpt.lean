import RestrictedShell.Host.Utility.Amount
/-!
Showing the beginning or the end of files, counted in lines or in bytes.
-/

namespace RestrictedShell.Host.Utility

/-- Whether names of files are shown above what comes from them. -/
inductive Heading where
  | several
  | always
  | never
deriving DecidableEq, Repr

/-- Which part of a text is to be shown: the first or the last so many units, or all but those. -/
structure Part where
  count : Nat
  byLines : Bool
  others : Bool
  lineEnd : UInt8
  heading : Heading
deriving DecidableEq, Repr

namespace Part

/-- Ten lines. -/
def usual : Part := ⟨10, true, false, Text.newline, .several⟩

/-- Splits a text into lines, each with the byte that ends it. -/
def pieces (p : Part) (text : Bytes) : List Bytes :=
  let (last, whole) := text.foldr (fun b (acc : Bytes × List Bytes) =>
    if b == p.lineEnd then ([b], if acc.1 = [] then acc.2 else acc.1 :: acc.2)
    else (b :: acc.1, acc.2)) ([], [])
  if last = [] then whole else last :: whole

/-- The first part of a text. -/
def first (p : Part) (text : Bytes) : Bytes :=
  if p.byLines then
    let pieces := p.pieces text
    (pieces.take (if p.others then pieces.length - p.count else p.count)).flatten
  else text.take (if p.others then text.length - p.count else p.count)

/-- The last part of a text. -/
def last (p : Part) (text : Bytes) : Bytes :=
  if p.byLines then
    let pieces := p.pieces text
    (pieces.drop (if p.others then p.count else pieces.length - p.count)).flatten
  else text.drop (if p.others then p.count else text.length - p.count)

/-- The unit in which a part is counted. -/
def units (byLines : Bool) : String :=
  if byLines then "number of lines" else "number of bytes"

/-- Takes an option that only says how the part is shown. -/
def plainOption (p : Part) (key : Char) : Part :=
  match key with
  | 'q' => { p with heading := .never }
  | 'v' => { p with heading := .always }
  | 'z' => { p with lineEnd := 0 }
  | _ => p

/-- Takes the options of a program. A count is read by `count`, which complains if it is none; a digit is
no option. -/
def ofOptions (p : Part) (given : List Given) (count : Part → Bool → Bytes → System (Option Part))
    (onDigit : Char → System Unit) : System (Option Part) := do
  let mut part := some p
  for g in given do
    if let some now := part then
      match g.key with
      | 'n' => part ← count now true (g.value?.getD [])
      | 'c' => part ← count now false (g.value?.getD [])
      | key =>
          if key.isDigit then
            onDigit key
            part := none
          else part := some (now.plainOption key)
  pure part

def switches : List Switch :=
  [.valued 'c' "bytes", .valued 'n' "lines", .named 'p' "-presume-input-pipe", .both 'q' "quiet",
    ⟨'q', false, some "silent", .nothing⟩, .both 'v' "verbose", .both 'z' "zero-terminated"] ++
    ("0123456789".toList.map fun d => Switch.letter d)

/-- The line above what comes from a file. -/
def headline (isFirst : Bool) (operand : Bytes) : Bytes :=
  let name := if isInput operand then ascii "standard input" else operand
  (if isFirst then [] else [Text.newline]) ++ ascii "==> " ++ name ++ ascii " <==\n"

/-- Is there to be a line above what comes from each of some files? -/
def hasHeadlines (p : Part) (operands : List Bytes) : Bool :=
  match p.heading with
  | .always => true
  | .never => false
  | .several => 1 < operands.length

/-- The name of an operand in a complaint. -/
def spoken (operand : Bytes) : Bytes :=
  if isInput operand then ascii "'standard input'" else QuotedName.always operand

/-- Complains if the standard input was to be read and there is none. -/
def closing (self : Bytes) (operands : List Bytes) (code : Nat) : System Nat := do
  if ((← get).openFile? 0).isNone && operands.any isInput then
    complain self (ascii "-: " ++ reason .badDescriptor)
    pure 1
  else pure code

/-- Shows a part of each operand. `body` takes what it shows from a descriptor. -/
def present (p : Part) (self : Bytes) (operands : List Bytes) (noInput : String)
    (body : Nat → System (Except Errno Unit)) : System Nat := do
  let mut code := 0
  let mut isFirst := true
  let operands := orInput operands
  for operand in operands do
    match ← openOperand operand with
    | .error e =>
        if isInput operand then
          complain self (ascii (noInput ++ " 'standard input': ") ++ reason e)
        else
          complain self (ascii "cannot open " ++ spoken operand ++ ascii " for reading: " ++ reason e)
        code := 1
    | .ok fd =>
        if p.hasHeadlines operands then System.write 1 (headline isFirst operand)
        isFirst := false
        if let .error e := ← body fd then
          complain self (ascii "error reading " ++ spoken operand ++ ascii ": " ++ reason e)
          code := 1
        closeOperand fd
  closing self operands code

end Part

namespace Head

/-- Reads a count; all but so many are shown behind a dash. -/
def count (self : Bytes) (p : Part) (byLines : Bool) (text : Bytes) : System (Option Part) := do
  let (others, text) := match text with
    | 0x2D :: rest => (true, rest)
    | text => (false, text)
  let n? ← Amount.demand self (Part.units byLines) text
  pure (n?.map fun n => { p with count := n, byLines, others })

/-- Reads the letters behind the count in an argument that begins with one, and the letter that
multiplies it. -/
def letters (p : Part) (factor : Bytes) : Bytes → Except UInt8 (Part × Bytes)
  | [] => .ok (p, factor)
  | b :: rest =>
      match Char.ofNat b.toNat with
      | 'c' => letters { p with byLines := false } [] rest
      | 'b' | 'k' | 'm' => letters { p with byLines := false } [b] rest
      | 'l' => letters { p with byLines := true } factor rest
      | 'q' => letters (p.plainOption 'q') factor rest
      | 'v' => letters (p.plainOption 'v') factor rest
      | 'z' => letters (p.plainOption 'z') factor rest
      | _ => .error b

def badLetter (self : Bytes) (b : UInt8) : System Unit := do
  complain self (ascii "invalid trailing option -- " ++ [b])
  pointToHelp self

/-- Takes a count that stands by itself as the first argument. -/
def ofFirst (self : Bytes) (args : List Bytes) : System (Option (Part × List Bytes)) := do
  match args with
  | (0x2D :: d :: rest) :: later =>
      if isDigit d then
        let digits := d :: rest.takeWhile isDigit
        match letters .usual [] (rest.dropWhile isDigit) with
        | .error b =>
            badLetter self b
            pure none
        | .ok (p, factor) =>
            let n? ← Amount.demand self (Part.units p.byLines) (digits ++ factor)
            pure (n?.map fun n => ({ p with count := n }, later))
      else pure (some (.usual, args))
  | _ => pure (some (.usual, args))

/-- How much is read at once. -/
def blockSize : Nat := 8192

/-- Shows the first part of what a descriptor gives. What is read beyond it is given back, if that is
possible. -/
def body (p : Part) (fd : Nat) : System (Except Errno Unit) := do
  let process ← get
  let wanted := if p.byLines || p.others then 0 else p.count
  match process.upcoming fd wanted with
  | .error e => pure (if p.count = 0 && !p.others then .ok () else .error e)
  | .ok bytes =>
      let shown := p.first bytes
      System.write 1 shown
      let blocks := (shown.length + blockSize - 1) / blockSize * blockSize
      let used := if process.isSeekable fd || (!p.byLines && !p.others) then shown.length
        else if p.others then bytes.length
        else if p.count = 0 then 0
        else min bytes.length blocks
      modify (Process.consume fd used)
      pure (.ok ())

end Head

/-- Shows the first part of files. -/
def head : Program := coded fun self args => do
  match ← Head.ofFirst self args with
  | none => pure 1
  | some (p, args) =>
      let (given, operands?) := readOptions Part.switches false (args.length + 1) args
      match ← p.ofOptions given (Head.count self) (fun d => Head.badLetter self (charByte d)),
          operands? with
      | none, _ => pure 1
      | some _, .error misuse => refuse self 1 misuse
      | some p, .ok operands => p.present self operands "error reading" (Head.body p)

namespace Tail

/-- Reads a count; everything from that unit on is shown behind a plus. -/
def count (self : Bytes) (p : Part) (byLines : Bool) (text : Bytes) : System (Option Part) := do
  let (others, text) := match text with
    | 0x2B :: _ => (true, text)
    | 0x2D :: rest => (p.others, rest)
    | text => (p.others, text)
  let n? ← Amount.demand self (Part.units byLines) text
  pure (n?.map fun n => { p with count := n, byLines, others })

/-- Takes a count that stands by itself as the first argument, if at most one operand follows. -/
def ofFirst? (args : List Bytes) : Option (Part × List Bytes) := do
  let (first, later) ← match args with
    | first :: later => some (first, later)
    | [] => none
  let isAlone := match later with
    | [] => true
    | [operand] => operand = ascii "--" || !([0x2D].isPrefixOf operand && 1 < operand.length)
    | [dashes, _] => dashes = ascii "--"
    | _ => false
  if !isAlone then none
  else do
    let (others, rest) ← match first with
      | 0x2B :: rest => some (true, rest)
      | 0x2D :: rest => if rest = [] || rest = ascii "c" then none else some (false, rest)
      | _ => none
    let digits := rest.takeWhile isDigit
    let (byLines, factor) ← match rest.drop digits.length with
      | [] | [0x6C] => some (true, 1)
      | [0x63] => some (false, 1)
      | [0x62] => some (false, 512)
      | _ => none
    let count := if digits = [] then 10 * factor else decimalValue digits * factor
    some ({ Part.usual with count, byLines, others }, later)

/-- Shows the last part of what a descriptor gives. -/
def body (p : Part) (fd : Nat) : System (Except Errno Unit) := do
  match ← System.readAll fd with
  | .error e => pure (.error e)
  | .ok bytes =>
      System.write 1 (p.last bytes)
      pure (.ok ())

def switches : List Switch :=
  Part.switches ++ [⟨'f', true, some "follow", .optional⟩, .letter 'F', .named 'R' "retry",
    .valued 's' "sleep-interval", ⟨'P', false, some "pid", .value⟩]

def badContext (self : Bytes) (d : Char) : System Unit :=
  complain self (ascii "option used in invalid context -- " ++ [charByte d])

end Tail

/-- Shows the last part of files. -/
def tail : Program := coded fun self args => do
  let (p, args) := (Tail.ofFirst? args).getD (.usual, args)
  let (given, operands?) := readOptions Tail.switches false (args.length + 1) args
  match ← p.ofOptions given (Tail.count self) (Tail.badContext self), operands? with
  | none, _ => pure 1
  | some _, .error misuse => refuse self 1 misuse
  | some p, .ok operands =>
      let p := if p.others then { p with count := p.count - 1 } else p
      p.present self operands "cannot fstat" (Tail.body p)

end RestrictedShell.Host.Utility
