import RestrictedShell.Host.Utility.Basic
/-!
Copying files to the output, one after another, with what is asked for made visible: line numbers, ends
of lines, tabs, and bytes that cannot be printed.
-/

namespace RestrictedShell.Host.Utility

/-- What is to be shown of a text. -/
structure Showing where
  numbers : Bool
  skipsBlank : Bool
  squeezes : Bool
  ends : Bool
  tabs : Bool
  control : Bool
deriving DecidableEq, Repr

namespace Showing

/-- Is a text copied as it is? -/
def isPlain (s : Showing) : Bool :=
  !(s.numbers || s.squeezes || s.ends || s.tabs || s.control)

/-- A byte as it is shown: control bytes behind a caret, and those beyond ASCII behind `M-`. -/
def visible (b : UInt8) : Bytes :=
  let low (b : UInt8) : Bytes :=
    if b < 0x20 then [0x5E, b + 0x40]
    else if b = 0x7F then ascii "^?"
    else [b]
  if b < 0x80 then low b else ascii "M-" ++ low (b - 0x80)

/-- How far a text has come: the number of lines, whether a line has begun, how many blank ones there were
before it, and whether a carriage return is held back. -/
structure Progress where
  line : Nat
  inLine : Bool
  blanks : Nat
  held : Bool
deriving DecidableEq, Repr

def start : Progress := ⟨0, false, 0, false⟩

/-- Numbers the next line. -/
def number (p : Progress) : Progress × Bytes :=
  ({ p with line := p.line + 1 }, right 6 (p.line + 1) ++ [0x09])

/-- What is shown for one more byte. -/
def step (s : Showing) (p : Progress) (b : UInt8) : Progress × Bytes :=
  let held : Bytes := if p.held then [Text.carriageReturn] else []
  if b = Text.newline then
    let front : Bytes := if p.held then ascii "^M" else []
    let finish (p : Progress) (shown : Bytes) : Progress × Bytes :=
      ({ p with inLine := false, held := false },
        front ++ shown ++ (if s.ends then [0x24] else []) ++ [b])
    if p.inLine then finish { p with blanks := 0 } []
    else if s.squeezes && 1 ≤ p.blanks then (p, [])
    else
      let p := { p with blanks := p.blanks + 1 }
      if s.numbers && !s.skipsBlank then
        let (p, shown) := number p
        finish p shown
      else finish p []
  else
    let (p, shown) := if s.numbers && !p.inLine then number p else (p, [])
    let p := { p with inLine := true }
    if b = Text.carriageReturn && s.ends && !s.control then
      ({ p with held := true }, held ++ shown)
    else
      let text := if b = 0x09 then (if s.tabs then ascii "^I" else [b])
        else if s.control then visible b
        else [b]
      ({ p with held := false }, held ++ shown ++ text)

/-- What is shown for a text. -/
def run (s : Showing) (p : Progress) (text : Bytes) : Progress × Bytes :=
  let (p, shown) := text.foldl (fun (acc : Progress × List Bytes) b =>
    let (p, bytes) := step s acc.1 b
    (p, bytes :: acc.2)) (p, [])
  (p, shown.reverse.flatten)

end Showing

/-- Would copying this open file to the standard output never come to an end? -/
def feedsItself (p : Process) (fd : Nat) : Bool :=
  match p.openFile? 1, p.openFile? fd with
  | some (_, ⟨.file out _ _, _, _⟩), some (_, ⟨.file number position _, _, _⟩) =>
      out == number && position < (p.files.bytes number).length
  | _, _ => false

def catSwitches : List Switch :=
  [.both 'b' "number-nonblank", .both 'n' "number", .both 's' "squeeze-blank",
    .both 'v' "show-nonprinting", .both 'E' "show-ends", .both 'T' "show-tabs",
    .both 'A' "show-all", .letter 'e', .letter 't', .letter 'u']

/-- Copies files to the standard output, one after another. -/
def cat : Program := coded fun self args =>
  withOptions catSwitches 1 self args fun given operands => do
    let any (keys : List Char) : Bool := keys.any (has given ·)
    let showing : Showing := {
      numbers := any ['n', 'b']
      skipsBlank := any ['b']
      squeezes := any ['s']
      ends := any ['A', 'e', 'E']
      tabs := any ['A', 't', 'T']
      control := any ['A', 'e', 't', 'v'] }
    if ((← get).openFile? 1).isNone then
      complain self (ascii "standard output: " ++ reason .badDescriptor)
      return 1
    let mut code := 0
    let mut progress := Showing.start
    for operand in orInput operands do
      let failed (what : Bytes) : System Unit :=
        complain self (QuotedName.ifNeeded operand ++ ascii ": " ++ what)
      match ← openOperand operand with
      | .error e =>
          failed (reason e)
          code := 1
      | .ok fd =>
          if feedsItself (← get) fd then
            failed (ascii "input file is output file")
            code := 1
          else
            match ← System.readAll fd with
            | .error e =>
                failed (reason e)
                code := 1
            | .ok bytes =>
                let shown ← if showing.isPlain then pure bytes
                  else do
                    let (next, shown) := showing.run progress bytes
                    progress := next
                    pure shown
                if !(← put shown) then return 1
          closeOperand fd
    if progress.held then System.write 1 [Text.carriageReturn]
    if ((← get).openFile? 0).isNone && (orInput operands).any isInput then
      complain self (ascii "closing standard input: " ++ reason .badDescriptor)
      code := 1
    pure code

/-- Copies files to the standard output, the last line of each first. -/
def tac : Program := coded fun self args =>
  withOptions [.both 'b' "before", .both 'r' "regex", .valued 's' "separator"] 1 self args
    fun _ operands => forEach (orInput operands) fun operand => do
      match ← openOperand operand with
      | .error e =>
          complain self (ascii "failed to open " ++ QuotedName.always operand ++
            ascii " for reading: " ++ reason e)
          pure false
      | .ok fd =>
          let bytes ← System.readAll fd
          closeOperand fd
          match bytes with
          | .ok bytes =>
              System.write 1 (linesOf bytes).reverse.flatten
              pure true
          | .error e =>
              complain self (QuotedName.ifNeeded operand ++ ascii ": read error: " ++ reason e)
              pure false

end RestrictedShell.Host.Utility
