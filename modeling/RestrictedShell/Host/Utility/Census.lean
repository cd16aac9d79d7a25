import RestrictedShell.Host.Utility.Basic
/-!
Counting the lines, words, characters and bytes of files, and the length of their longest lines.
-/

namespace RestrictedShell.Host.Utility

/-- What was counted in a text. -/
structure Census where
  lines : Nat
  words : Nat
  bytes : Nat
  longest : Nat
deriving DecidableEq, Repr

namespace Census

def zero : Census := ⟨0, 0, 0, 0⟩

/-- Puts the counts of two texts together. -/
def add (a b : Census) : Census :=
  ⟨a.lines + b.lines, a.words + b.words, a.bytes + b.bytes, max a.longest b.longest⟩

/-- The counts of what stands before a place in a text, whether a word has begun there, and the column. -/
structure Progress where
  counts : Census
  inWord : Bool
  column : Nat

/-- Counts one more byte. A word begins with a byte that can be printed. -/
def step (p : Progress) (b : UInt8) : Progress :=
  let c := { p.counts with bytes := p.counts.bytes + 1 }
  let parted : Census := { c with words := c.words + if p.inWord then 1 else 0 }
  match b with
  | 0x0A => ⟨{ parted with lines := c.lines + 1, longest := max c.longest p.column }, false, 0⟩
  | 0x0C | 0x0D => ⟨{ parted with longest := max c.longest p.column }, false, 0⟩
  | 0x09 => ⟨parted, false, p.column + 8 - p.column % 8⟩
  | 0x20 => ⟨parted, false, p.column + 1⟩
  | 0x0B => ⟨parted, false, p.column⟩
  | b => if 0x20 < b && b < 0x7F then ⟨c, true, p.column + 1⟩ else ⟨c, p.inWord, p.column⟩

def ofText (text : Bytes) : Census :=
  let p := text.foldl step ⟨zero, false, 0⟩
  { p.counts with
    words := p.counts.words + (if p.inWord then 1 else 0)
    longest := max p.counts.longest p.column }

end Census

namespace Census

/-- Which counts are shown. -/
structure Columns where
  lines : Bool
  words : Bool
  chars : Bool
  bytes : Bool
  longest : Bool
deriving DecidableEq, Repr

/-- The columns asked for; lines, words and bytes if none are. -/
def Columns.ofOptions (given : List Given) : Columns :=
  let c : Columns :=
    ⟨has given 'l', has given 'w', has given 'm', has given 'c', has given 'L'⟩
  if c = ⟨false, false, false, false, false⟩ then ⟨true, true, false, true, false⟩ else c

/-- The counts that are shown, in their order. -/
def Columns.select (c : Columns) (counts : Census) : List Nat :=
  (if c.lines then [counts.lines] else []) ++ (if c.words then [counts.words] else []) ++
    (if c.chars then [counts.bytes] else []) ++ (if c.bytes then [counts.bytes] else []) ++
    (if c.longest then [counts.longest] else [])

/-- The size of a regular file that an operand names; `none` for anything else that there is. -/
def sizeOf (p : Process) (operand : Bytes) : Except Errno (Option Nat) :=
  if isInput operand then
    match p.openFile? 0 with
    | none => .error .badDescriptor
    | some (_, ⟨.file number _ _, _, _⟩) => .ok (some (p.files.bytes number).length)
    | some (_, ⟨.source rest true, _, _⟩) => .ok (some rest.length)
    | some _ => .ok none
  else match p.files.find p.dir operand with
    | .error e => .error e
    | .ok (_, .file number) => .ok (some (p.files.bytes number).length)
    | .ok (_, .device (.descriptor fd)) =>
        match p.openFile? fd with
        | some (_, ⟨.file number _ _, _, _⟩) => .ok (some (p.files.bytes number).length)
        | some _ => .ok none
        | none => .error .noSuchFile
    | .ok _ => .ok none

/-- How wide the columns are: as the total size of regular files asks for, and seven for anything else,
unless only one number is shown, or the first operand cannot be looked at. -/
def width (p : Process) (columns : Nat) (operands : List Bytes) : Nat :=
  if operands.length = 1 && columns = 1 then 1
  else
    let sizes := operands.map (sizeOf p)
    match sizes with
    | [] => 1
    | _ =>
        let total := sizes.foldl (fun n size => n + (size.toOption.bind id).getD 0) 0
        let unusual := sizes.any fun size => size.toOption = some none
        max total.repr.length (if unusual then 7 else 1)

/-- One row: the counts that are shown, and a name. -/
def row (c : Columns) (width : Nat) (counts : Census) (name : Option Bytes) : Bytes :=
  let cells := (c.select counts).map (right width)
  [0x20].intercalate cells ++ (match name with
    | some name => 0x20 :: name
    | none => []) ++ [Text.newline]

def switches : List Switch :=
  [.both 'c' "bytes", .both 'm' "chars", .both 'l' "lines", .both 'w' "words",
    .both 'L' "max-line-length", .named 'D' "debug", ⟨'F', false, some "files0-from", .value⟩,
    ⟨'T', false, some "total", .value⟩]

/-- When a total is shown. -/
def totals : List (List String) :=
  [["auto"], ["always"], ["only"], ["never"]]

end Census

/-- Counts what is in files. -/
def wc : Program := coded fun self args =>
  withChecked Census.switches false 1 (fun g => do
      if g.key = 'T' then
        let chosen ← chooseAmong self "total" Census.totals (g.value?.getD [])
        pure (if chosen.isSome then none else some 1)
      else pure none) self args
    fun given operands => do
      let columns := Census.Columns.ofOptions given
      let total := match value? given 'T' with
        | none => "auto"
        | some word => ((Census.totals.find? fun w => w.any fun w => word.isPrefixOf (ascii w)).bind
            List.head?).getD "auto"
      let rowsShown := total ≠ "only"
      let shown := orInput operands
      let process ← get
      let width := if rowsShown then
          Census.width process (columns.select .zero).length shown
        else 1
      let mut code := 0
      let mut sum := Census.zero
      for operand in shown do
        let finish (counts : Census) : System Unit := do
          if rowsShown then
            System.write 1 (Census.row columns width counts (if operands = [] then none else some operand))
            settle
        if operand = [] then
          complain self (ascii "invalid zero-length file name")
          code := 1
        else
          let name := if isInput operand && operands = [] then ascii "'standard input'"
            else QuotedName.ifNeeded operand
          match ← openOperand operand with
          | .error e =>
              complain self (name ++ ascii ": " ++ reason e)
              if isInput operand then finish .zero
              code := 1
          | .ok fd =>
              match ← System.readAll fd with
              | .error e =>
                  complain self (name ++ ascii ": " ++ reason e)
                  finish .zero
                  code := 1
              | .ok bytes =>
                  let counts := Census.ofText bytes
                  sum := sum.add counts
                  finish counts
              closeOperand fd
      let wanted := total = "always" || total = "only" || total = "auto" && 1 < shown.length
      if wanted then
        System.write 1 (Census.row columns width sum (if rowsShown then some (ascii "total") else none))
        settle
      if ((← get).openFile? 0).isNone && shown.any isInput then
        complain self (ascii "-: " ++ reason .badDescriptor)
        code := 1
      pure code

end RestrictedShell.Host.Utility
