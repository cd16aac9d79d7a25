import RestrictedShell.Host.Utility.Expression
import RestrictedShell.Host.Utility.Place
/-!
Editing a stream of lines by a script: every line is changed by all commands whose addresses choose it,
and then printed.
-/

namespace RestrictedShell.Host.Utility

namespace Editing

/-- What chooses a line. An expression that is left out is the last one used. -/
inductive Address where
  | line (n : Nat)
  | last
  | every (first step : Nat)
  | found (e : Option Expression)
  | more (n : Nat)
  | upToMultiple (n : Nat)
deriving DecidableEq, Repr

/-- How case is changed in what is put in. -/
inductive Case where
  | upper
  | lower
  | upperNext
  | lowerNext
  | plain
deriving DecidableEq, Repr

/-- A part of what is put in for a match. -/
inductive Piece where
  | byte (b : UInt8)
  | group (n : Nat)
  | case (c : Case)
deriving DecidableEq, Repr

/-- What a command does. Blocks and jumps know the index they lead to. -/
inductive Action where
  | block (stop : Nat)
  | blockEnd
  | label (name : Bytes)
  | jump (letter : UInt8) (name : Bytes)
  | substitute (e : Option Expression) (pieces : List Piece) (nth : Nat) (all prints : Bool)
      (file : Option Bytes)
  | exchange (pairs : List (UInt8 × UInt8))
  | text (letter : UInt8) (text : Bytes)
  | file (letter : UInt8) (path : Bytes)
  | quit (silent : Bool) (code : Nat)
  | simple (letter : UInt8)
deriving DecidableEq, Repr

structure Command where
  first : Option Address
  second : Option Address
  negated : Bool
  action : Action
deriving DecidableEq, Repr

/-- A script that is being read: what is left of it, how much was read, the commands so far, and the blocks
that are open. -/
structure Source where
  rest : Bytes
  place : Nat
  commands : Array Command
  opened : List Nat

/-- Reading a part of a script fails with a place in it and a message. -/
abbrev Reading := StateT Source (Except (Nat × Bytes))

def bad {α : Type} (message : String) : Reading α := do
  throw ((← get).place, ascii message)

def peek : Reading (Option UInt8) := do
  pure (← get).rest.head?

def next : Reading (Option UInt8) := do
  let s ← get
  match s.rest with
  | b :: rest =>
      set { s with rest, place := s.place + 1 }
      pure (some b)
  | [] => pure none

def takeWhile (holds : UInt8 → Bool) : Reading Bytes := do
  let s ← get
  let taken := s.rest.takeWhile holds
  set { s with rest := s.rest.drop taken.length, place := s.place + taken.length }
  pure taken

def isBlank (b : UInt8) : Bool := b == 0x20 || b == 0x09

/-- Reads up to a delimiter that no backslash stands before. A delimiter behind a backslash stands for
itself. The fuel bounds the length. -/
def delimited (fuel : Nat) (mark : UInt8) (inSet isPattern : Bool) : Reading (Option Bytes) := do
  match fuel with
  | 0 => pure none
  | fuel + 1 =>
      match ← next with
      | none => pure none
      | some b =>
          if b == mark && !inSet then pure (some [])
          else if b == 0x5C then
            match ← next with
            | none => pure none
            | some c =>
                let kept : Bytes :=
                  if c == mark then (if isPattern && mark == 0x7C then [c] else [c])
                  else [b, c]
                pure ((← delimited fuel mark inSet isPattern).map (kept ++ ·))
          else if b == Text.newline && isPattern then pure none
          else pure ((← delimited fuel mark false isPattern).map (b :: ·))

/-- Reads an expression. -/
def expression (extended anyCase : Bool) (text : Bytes) : Reading (Option Expression × Nat) := do
  if text = [] then pure (none, 0)
  else match Expression.ofText ⟨extended, anyCase⟩ text with
    | .ok (e, groups) => pure (some e, groups)
    | .error flaw => bad flaw.message

def number : Reading Nat := do
  pure (decimalValue (← takeWhile isDigit))

/-- Reads an address, if there is one. -/
def address (extended isSecond : Bool) : Reading (Option Address) := do
  match ← peek with
  | none => pure none
  | some b =>
      if isDigit b then
        let n ← number
        if !isSecond && (← peek) = some 0x7E then
          let _ ← next
          pure (some (.every n (← number)))
        else pure (some (.line n))
      else if b == 0x24 then
        let _ ← next
        pure (some .last)
      else if isSecond && (b == 0x2B || b == 0x7E) then
        let _ ← next
        let n ← number
        pure (some (if b == 0x2B then .more n else .upToMultiple n))
      else if b == 0x2F || b == 0x5C then
        let _ ← next
        let mark ← if b == 0x5C then (do pure ((← next).getD 0x2F)) else pure b
        match ← delimited ((← get).rest.length + 1) mark false true with
        | none => bad "unterminated address regex"
        | some text =>
            let letters ← takeWhile fun b => b == 0x49 || b == 0x4D
            let (e, _) ← expression extended (letters.contains 0x49) text
            pure (some (.found e))
      else pure none

/-- What is put in for a match, read from its text. The fuel bounds the length. -/
def pieces (fuel : Nat) (text : Bytes) : List Piece :=
  match fuel, text with
  | 0, _ | _, [] => []
  | fuel + 1, 0x5C :: c :: rest =>
      let piece : Piece :=
        if isDigit c then .group (c.toNat - 48)
        else match Char.ofNat c.toNat with
          | 'n' => .byte Text.newline
          | 't' => .byte 0x09
          | 'U' => .case .upper
          | 'L' => .case .lower
          | 'u' => .case .upperNext
          | 'l' => .case .lowerNext
          | 'E' => .case .plain
          | _ => .byte c
      piece :: pieces fuel rest
  | fuel + 1, 0x26 :: rest => .group 0 :: pieces fuel rest
  | fuel + 1, b :: rest => .byte b :: pieces fuel rest

/-- Skips blanks, newlines and semicolons between commands. -/
def skipBetween : Reading Unit := do
  let _ ← takeWhile fun b => isSpace b || b == 0x3B

/-- Comes to the end of a command. -/
def finish : Reading Unit := do
  let _ ← takeWhile isBlank
  match ← peek with
  | none => pure ()
  | some b =>
      if b == Text.newline || b == 0x3B then let _ ← next
      else if b == 0x7D || b == 0x23 then pure ()
      else
        let _ ← next
        bad "extra characters after command"

/-- Reads the rest of a line, of which backslashes may hide the end. The fuel bounds the length. -/
def lineOfText (fuel : Nat) : Reading Bytes := do
  match fuel with
  | 0 => pure []
  | fuel + 1 =>
      match ← next with
      | none => pure []
      | some b =>
          if b == Text.newline then pure []
          else if b == 0x5C then
            match ← next with
            | none => pure []
            | some c => pure (c :: (← lineOfText fuel))
          else pure (b :: (← lineOfText fuel))

/-- Reads what a command does. -/
def action (extended : Bool) (letter : UInt8) : Reading Action := do
  let length := (← get).rest.length + 1
  let name : Reading Bytes := do
    let _ ← takeWhile isBlank
    takeWhile fun b => b != Text.newline && b != 0x3B
  let path : Reading Bytes := do
    let _ ← takeWhile isBlank
    let path ← takeWhile (· != Text.newline)
    if path = [] then bad "missing filename in r/R/w/W commands" else pure path
  match Char.ofNat letter.toNat with
  | '\x7b' =>
      let s ← get
      set { s with opened := s.commands.size :: s.opened }
      pure (.block 0)
  | '\x7d' =>
      let s ← get
      match s.opened with
      | [] => bad "unexpected \x60\x7d\x27"
      | start :: opened =>
          let stop := s.commands.size
          set { s with
            opened
            commands := s.commands.modify start fun c => { c with action := .block stop } }
          finish
          pure .blockEnd
  | ':' =>
      let label ← name
      if label = [] then bad "\\\":\\\" lacks a label"
      pure (.label label)
  | 'b' | 't' | 'T' =>
      let _ ← takeWhile isBlank
      let label ← takeWhile fun b => b != Text.newline && b != 0x3B && b != 0x7D && !isBlank b
      finish
      pure (.jump letter label)
  | 's' =>
      let mark := (← next).getD 0x2F
      match ← delimited length mark false false, ← delimited length mark false false with
      | some pattern, some put =>
          let mut all := false
          let mut prints := false
          let mut anyCase := false
          let mut nth := 1
          let mut file : Option Bytes := none
          for _ in List.range length do
            match ← peek with
            | some 0x67 =>
                all := true
                let _ ← next
            | some 0x70 =>
                prints := true
                let _ ← next
            | some 0x69 | some 0x49 =>
                anyCase := true
                let _ ← next
            | some 0x6D | some 0x4D | some 0x65 =>
                let _ ← next
            | some 0x77 =>
                let _ ← next
                file := some (← path)
            | some b =>
                if isDigit b then
                  nth ← number
                  if nth = 0 then bad "number option to \x60s\x27 command may not be zero"
                else break
            | none => break
          match ← peek with
          | some b =>
              if !isSpace b && b != 0x3B && b != 0x7D && b != 0x23 then
                let _ ← next
                bad "unknown option to \x60s\x27"
          | none => pure ()
          if file.isNone then finish
          let (e, groups) ← expression extended anyCase pattern
          let parts := pieces (put.length + 1) put
          for p in parts do
            if let .group n := p then
              if groups < n && e.isSome then
                bad ("invalid reference \\" ++ n.repr ++ " on \x60s\x27 command's RHS")
          pure (.substitute e parts nth all prints file)
      | _, _ => bad "unterminated \x60s\x27 command"
  | 'y' =>
      let mark := (← next).getD 0x2F
      match ← delimited length mark false false, ← delimited length mark false false with
      | some source, some target =>
          let rec plain : Bytes → Bytes
            | 0x5C :: 0x6E :: rest => Text.newline :: plain rest
            | 0x5C :: c :: rest => c :: plain rest
            | b :: rest => b :: plain rest
            | [] => []
          let a := plain source
          let b := plain target
          if a.length ≠ b.length then bad "strings for \x60y\x27 command are different lengths"
          finish
          pure (.exchange (a.zip b))
      | _, _ => bad "unterminated \x60y\x27 command"
  | 'a' | 'i' | 'c' =>
      let _ ← takeWhile isBlank
      match ← peek with
      | none => bad "expected \\ after \x60a\x27, \x60c\x27 or \x60i\x27"
      | some 0x5C =>
          let _ ← next
          let _ ← takeWhile isBlank
          if (← peek) = some Text.newline then let _ ← next
          pure (.text letter ((← lineOfText length) ++ [Text.newline]))
      | some _ => pure (.text letter ((← lineOfText length) ++ [Text.newline]))
  | 'r' | 'w' => do pure (.file letter (← path))
  | 'q' | 'Q' =>
      let _ ← takeWhile isBlank
      let code ← number
      finish
      pure (.quit (letter == 0x51) code)
  | '=' | 'd' | 'D' | 'g' | 'G' | 'h' | 'H' | 'l' | 'n' | 'N' | 'p' | 'P' | 'x' | 'z' | 'F' =>
      finish
      pure (.simple letter)
  | c => bad ("unknown command: \x60" ++ String.singleton c ++ "\x27")

/-- Reads commands until the script ends. The fuel bounds their number. -/
def commands (extended : Bool) (fuel : Nat) : Reading Unit := do
  match fuel with
  | 0 => pure ()
  | fuel + 1 =>
      skipBetween
      match ← peek with
      | none => pure ()
      | some 0x23 =>
          let _ ← takeWhile (· != Text.newline)
          commands extended fuel
      | some _ =>
          let first ← address extended false
          let _ ← takeWhile isBlank
          let mut second : Option Address := none
          if first.isSome && (← peek) = some 0x2C then
            let _ ← next
            let _ ← takeWhile isBlank
            second ← address extended true
            if second.isNone then bad "unexpected \x60,\x27"
          let _ ← takeWhile isBlank
          let marks ← takeWhile fun b => b == 0x21 || isBlank b
          match ← next with
          | none => bad "missing command"
          | some letter =>
              let index := (← get).commands.size
              if letter == 0x7B then
                modify fun s => { s with
                  commands := s.commands.push ⟨first, second, marks.contains 0x21, .block 0⟩
                  opened := index :: s.opened }
              else
                let action ← action extended letter
                modify fun s => { s with
                  commands := s.commands.push ⟨first, second, marks.contains 0x21, action⟩ }
              commands extended fuel

/-- Reads a script. -/
def script (extended : Bool) (text : Bytes) : Except (Nat × Bytes) (Array Command) := do
  let ((), s) ← (commands extended (text.length + 1)).run ⟨text, 0, #[], []⟩
  if s.opened ≠ [] then throw (0, ascii "unmatched \x60\x7b\x27")
  else
    for c in s.commands do
      if let .jump _ name := c.action then
        let isThere := s.commands.any fun d => match d.action with
          | .label l => l = name
          | _ => false
        if name ≠ [] && !isThere then
          throw (0, ascii "can't find label for jump to \x60" ++ name ++ ascii "\x27")
    pure s.commands

/-- The lines to be edited, and what is known while that goes on: the line at hand and whether a newline
ends it, what is held, the number of the line, which ranges are open and up to which line, what comes
behind the line, whether something was replaced, and the expression last used. -/
structure State where
  lines : List (Bytes × Bool)
  space : Bytes
  ended : Bool
  held : Bytes
  number : Nat
  ranges : List (Nat × Option Nat)
  later : List (Bool × Bytes)
  replaced : Bool
  lastUsed : Option Expression
  output : List Bytes
  missing : Bool
  written : List (Bytes × Bytes)

abbrev Edit := StateT State System

/-- Prints a line. The last one of the input may have no newline. -/
def emit (lineEnd : UInt8) (text : Bytes) (ended : Bool) : Edit Unit :=
  modify fun s => { s with
    output := ((if s.missing then [lineEnd] else []) ++ text ++ (if ended then [lineEnd] else [])) ::
      s.output
    missing := !ended }

/-- Prints text as it is. -/
def emitText (lineEnd : UInt8) (text : Bytes) : Edit Unit :=
  if text = [] then pure ()
  else modify fun s => { s with
    output := ((if s.missing then [lineEnd] else []) ++ text) :: s.output
    missing := false }

/-- Is the expression found in the line? -/
def finds (e : Option Expression) : Edit Bool := do
  let s ← get
  match e.orElse fun _ => s.lastUsed with
  | none => pure false
  | some e =>
      set { s with lastUsed := some e }
      pure (Expression.find? e ⟨s.space.toArray, true⟩ (s.space.length + 2) 0).isSome

/-- Does a single address choose the line? -/
def chooses (a : Address) : Edit Bool := do
  let s ← get
  match a with
  | .line n => pure (s.number == n)
  | .last => pure s.lines.isEmpty
  | .every first step =>
      pure (if step = 0 then s.number == first
        else first ≤ s.number && (s.number - first) % step == 0)
  | .found e => finds e
  | .more _ | .upToMultiple _ => pure false

/-- Does a command choose the line? Ranges go on until their end. -/
def isChosen (index : Nat) (c : Command) : Edit Bool := do
  let holds ← match c.first, c.second with
    | none, _ => pure true
    | some a, none => chooses a
    | some a, some b => do
        let s ← get
        let close : Edit Unit := modify fun s => { s with ranges := s.ranges.filter fun r => r.1 ≠ index }
        let openUntil (stop : Option Nat) : Edit Unit :=
          modify fun s => { s with ranges := (index, stop) :: s.ranges.filter fun r => r.1 ≠ index }
        match s.ranges.lookup index with
        | some (some stop) =>
            if stop ≤ s.number then close
            pure (s.number ≤ stop)
        | some none => do
            if ← chooses b then close
            pure true
        | none => do
            let starts ← match a, b with
              | .line 0, .found e => do
                  if s.number = 1 then
                    if ← finds e then return true
                    openUntil none
                    return true
                  pure false
              | _, _ => chooses a
            if starts then
              match b with
              | .line n => if s.number < n then openUntil (some n)
              | .more n => if 0 < n then openUntil (some (s.number + n))
              | .upToMultiple n =>
                  if 0 < n && s.number % n ≠ 0 then openUntil (some ((s.number / n + 1) * n))
              | .last => if !s.lines.isEmpty then openUntil none
              | _ => openUntil none
            pure starts
  pure (holds != c.negated)

def upper (b : UInt8) : UInt8 := if Expression.isLower b then b - 32 else b
def lower (b : UInt8) : UInt8 := if Expression.isUpper b then b + 32 else b

/-- What is put in for a match. -/
def putIn (text : Array UInt8) (f : Expression.Found) (parts : List Piece) : Bytes :=
  let step (acc : Bytes × Case × Case) (p : Piece) : Bytes × Case × Case :=
    let (done, mode, once) := acc
    let add (bytes : Bytes) : Bytes × Case × Case :=
      match bytes with
      | [] => acc
      | b :: rest =>
          let change (c : Case) (b : UInt8) : UInt8 := match c with
            | .upper | .upperNext => upper b
            | .lower | .lowerNext => lower b
            | .plain => b
          let first := if once = .plain then change mode b else change once b
          (done ++ first :: rest.map (change mode), mode, .plain)
    match p with
    | .byte b => add [b]
    | .group 0 => add (text.extract f.start f.stop).toList
    | .group n =>
        match f.groups.find? fun g => g.1 = n with
        | some (_, start, stop) => add (text.extract start stop).toList
        | none => acc
    | .case .upperNext => (done, mode, .upperNext)
    | .case .lowerNext => (done, mode, .lowerNext)
    | .case c => (done, c, .plain)
  (parts.foldl step ([], .plain, .plain)).1

/-- Replaces matches in a text, from a place on. Tells whether there was any. The fuel bounds the number of
matches. -/
def replace (e : Expression) (parts : List Piece) (all : Bool) (text : Array UInt8)
    (fuel nth i : Nat) (before : Option Nat) : Bytes × Bool :=
  let rest (i : Nat) : Bytes := (text.extract i text.size).toList
  match fuel with
  | 0 => (rest i, false)
  | fuel + 1 =>
      match Expression.find? e ⟨text, true⟩ (text.size + 2) i with
      | none => (rest i, false)
      | some f =>
          let between := (text.extract i f.start).toList
          if f.start = f.stop && before = some f.start then
            /- An empty match behind another one does not count. -/
            match text[f.start]? with
            | none => (between, false)
            | some b =>
                let (more, found) := replace e parts all text fuel nth (f.start + 1) none
                (between ++ b :: more, found)
          else
            let step := if f.start = f.stop then
                match text[f.stop]? with
                | some b => ([b], f.stop + 1)
                | none => ([], f.stop + 1)
              else ([], f.stop)
            if nth ≤ 1 then
              let put := putIn text f parts
              if all && f.stop ≤ text.size then
                if text.size < step.2 then (between ++ put ++ step.1, true)
                else
                  let (more, _) := replace e parts all text fuel 1 step.2 (some f.stop)
                  (between ++ put ++ step.1 ++ more, true)
              else (between ++ put ++ rest f.stop, true)
            else
              let kept := (text.extract f.start f.stop).toList
              if text.size < step.2 then (between ++ kept, false)
              else
                let (more, found) := replace e parts all text fuel (nth - 1) step.2 (some f.stop)
                (between ++ kept ++ step.1 ++ more, found)

/-- A text as it is listed, with escapes, on lines of at most seventy characters. -/
def listed (text : Bytes) : Bytes :=
  let unit (b : UInt8) : Bytes :=
    if b == 0x5C then ascii "\\\\"
    else if QuotedName.isPrintable b then [b]
    else QuotedName.escape b
  let (line, _) := text.foldl (fun (acc : Bytes × Nat) b =>
    let u := unit b
    if 69 < acc.2 + u.length then (acc.1 ++ ascii "\\\n" ++ u, u.length)
    else (acc.1 ++ u, acc.2 + u.length)) ([], 0)
  line ++ ascii "$\n"

/-- How a line is left: it is printed or not, and the next one is taken, or the same again, or editing ends
with a code. -/
inductive Leaving where
  | done
  | dropped
  | again
  | stopped (code : Nat) (prints : Bool)

/-- How a script is carried out. -/
structure Manner where
  quiet : Bool
  lineEnd : UInt8

/-- Takes the next line. -/
def advance : Edit Bool := do
  let s ← get
  match s.lines with
  | [] => pure false
  | (text, ended) :: lines =>
      set { s with lines, space := text, ended, number := s.number + 1 }
      pure true

/-- Prints what comes behind the line. -/
def flushLater (m : Manner) : Edit Unit := do
  let s ← get
  set { s with later := [] }
  for (isFile, text) in s.later do
    if isFile then
      if let .ok bytes := ← (readOperand text : System _) then emitText m.lineEnd bytes
    else emitText m.lineEnd text

/-- Carries out commands from an index on. The fuel bounds their number. -/
def perform (m : Manner) (script : Array Command) (fuel index : Nat) : Edit Leaving := do
  match fuel with
  | 0 => pure (.stopped 4 false)
  | fuel + 1 =>
      match script[index]? with
      | none => pure .done
      | some c =>
          let goOn : Edit Leaving := perform m script fuel (index + 1)
          let jumpTo (name : Bytes) : Edit Leaving :=
            if name = [] then pure .done
            else
              let target := script.findIdx? fun d => match d.action with
                | .label l => l = name
                | _ => false
              perform m script fuel (target.getD script.size)
          if !(← isChosen index c) then
            match c.action with
            | .block stop => perform m script fuel stop
            | _ => goOn
          else
            match c.action with
            | .block _ | .blockEnd | .label _ => goOn
            | .jump letter name =>
                let replaced := (← get).replaced
                let jumps := letter == 0x62 || (replaced == (letter == 0x74))
                if letter != 0x62 then modify fun s => { s with replaced := false }
                if jumps then jumpTo name else goOn
            | .substitute e parts nth all prints file =>
                let s ← get
                match e.orElse fun _ => s.lastUsed with
                | none => goOn
                | some e =>
                    let (text, found) := replace e parts all s.space.toArray
                      (2 * s.space.length + 4) nth 0 none
                    set { s with lastUsed := some e }
                    if found then
                      modify fun s => { s with space := text, replaced := true }
                      if prints then emit m.lineEnd text (← get).ended
                      if let some path := file then
                        modify fun s => { s with
                          written := s.written ++ [(path, text ++ [Text.newline])] }
                    goOn
            | .exchange pairs =>
                modify fun s => { s with space := s.space.map fun b => (pairs.lookup b).getD b }
                goOn
            | .text letter text =>
                match Char.ofNat letter.toNat with
                | 'i' =>
                    emitText m.lineEnd text
                    goOn
                | 'a' =>
                    modify fun s => { s with later := s.later ++ [(false, text)] }
                    goOn
                | _ =>
                    let isOpen := ((← get).ranges.lookup index).isSome
                    if c.second.isNone || !isOpen || c.negated then emitText m.lineEnd text
                    pure .dropped
            | .file letter path =>
                if letter == 0x72 then
                  modify fun s => { s with later := s.later ++ [(true, path)] }
                else
                  modify fun s => { s with
                    written := s.written ++ [(path, s.space ++ [Text.newline])] }
                goOn
            | .quit silent code => pure (.stopped code !silent)
            | .simple letter =>
                let s ← get
                match Char.ofNat letter.toNat with
                | '=' =>
                    emitText m.lineEnd (ascii s.number.repr ++ [Text.newline])
                    goOn
                | 'd' => pure .dropped
                | 'D' =>
                    if s.space.contains Text.newline then
                      set { s with space := (s.space.dropWhile (· != Text.newline)).tail }
                      pure .again
                    else pure .dropped
                | 'g' =>
                    set { s with space := s.held }
                    goOn
                | 'G' =>
                    set { s with space := s.space ++ Text.newline :: s.held }
                    goOn
                | 'h' =>
                    set { s with held := s.space }
                    goOn
                | 'H' =>
                    set { s with held := s.held ++ Text.newline :: s.space }
                    goOn
                | 'x' =>
                    set { s with held := s.space, space := s.held }
                    goOn
                | 'z' =>
                    set { s with space := [] }
                    goOn
                | 'p' =>
                    emit m.lineEnd s.space s.ended
                    goOn
                | 'P' =>
                    emit m.lineEnd (s.space.takeWhile (· != Text.newline)) true
                    goOn
                | 'l' =>
                    emitText m.lineEnd (listed s.space)
                    goOn
                | 'F' =>
                    emitText m.lineEnd (ascii "-\n")
                    goOn
                | 'n' =>
                    if s.lines.isEmpty then pure (.stopped 0 true)
                    else
                      if !m.quiet then emit m.lineEnd s.space s.ended
                      flushLater m
                      let _ ← advance
                      goOn
                | 'N' =>
                    if s.lines.isEmpty then pure (.stopped 0 true)
                    else
                      flushLater m
                      let _ ← advance
                      modify fun t => { t with space := s.space ++ Text.newline :: t.space }
                      goOn
                | _ => goOn

/-- How many commands may be carried out for one line. -/
def patience : Nat := 100000

/-- Edits line after line. Gives the code if editing was ended. The fuel bounds the number of turns. -/
def turns (m : Manner) (script : Array Command) (fuel : Nat) (same : Bool) : Edit (Option Nat) := do
  match fuel with
  | 0 => pure none
  | fuel + 1 =>
      let there ← if same then pure true else advance
      if !there then pure none
      else
        modify fun s => { s with replaced := false }
        let leaving ← perform m script patience 0
        let s ← get
        let prints := match leaving with
          | .done => true
          | .stopped _ prints => prints
          | _ => false
        if prints && !m.quiet then emit m.lineEnd s.space s.ended
        flushLater m
        match leaving with
        | .stopped code _ => pure (some code)
        | .again => turns m script fuel true
        | _ => turns m script fuel false

def switches : List Switch :=
  [.both 'n' "quiet", ⟨'n', false, some "silent", .nothing⟩, .valued 'e' "expression",
    .valued 'f' "file", ⟨'i', true, some "in-place", .optional⟩, .both 'E' "regexp-extended",
    .letter 'r', .both 's' "separate", .both 'u' "unbuffered", .both 'z' "null-data",
    .valued 'l' "line-length", .named 'p' "posix", .named 'd' "debug", .named 'S' "sandbox",
    .named 'F' "follow-symlinks"]

end Editing

open Editing in
/-- Edits the lines of files by a script. -/
def sed : Program := coded fun self args => do
  let (given, operands?) := readOptions switches false (args.length + 1) args
  match operands? with
  | .error misuse =>
      complain self misuse.message
      pure 1
  | .ok operands =>
      let mut texts : List Bytes := []
      for g in given do
        if g.key = 'e' then texts := texts ++ [g.value?.getD []]
        if g.key = 'f' then
          match ← readOperand (g.value?.getD []) with
          | .ok bytes =>
              texts := texts ++ [if bytes.getLast? = some Text.newline then bytes.dropLast else bytes]
          | .error e =>
              complain self (ascii "couldn't open file " ++ g.value?.getD [] ++ ascii ": " ++ reason e)
              return 1
      let mut files := operands
      if texts = [] then
        match operands with
        | [] => return 1
        | text :: rest =>
            texts := [text]
            files := rest
      match script (has given 'E' || has given 'r') ([Text.newline].intercalate texts) with
      | .error (place, message) =>
          complain self (ascii ("-e expression #1, char " ++ place.repr ++ ": ") ++ message)
          pure 1
      | .ok commands =>
          let lineEnd : UInt8 := if has given 'z' then 0 else Text.newline
          let quiet := has given 'n' || (texts.head?.getD []).take 3 = ascii "#n\n"
          let m : Manner := ⟨quiet, lineEnd⟩
          let inPlace := has given 'i'
          let separate := inPlace || has given 's'
          let mut code := 0
          let mut batches : List (Option Bytes × List (Bytes × Bool)) := []
          for operand in orInput files do
            let isDir ← if isInput operand then pure false else isDirectory operand
            if isDir then
              complain self (if inPlace then
                  ascii "couldn't edit " ++ operand ++ ascii ": not a regular file"
                else ascii "couldn't read " ++ operand ++ ascii ": " ++ reason .isADirectory)
              code := if inPlace then 4 else 2
            else
              match ← readOperand operand with
              | .error e =>
                  complain self (ascii "can't read " ++ operand ++ ascii ": " ++ reason e)
                  code := 2
              | .ok bytes =>
                  let pieces := bytes.splitOn lineEnd
                  let count := pieces.length
                  let lines := (pieces.zipIdx.map fun e => (e.1, decide (e.2 + 1 < count))).filter
                    fun l => l.2 || l.1 ≠ []
                  batches := batches ++ [(some operand, lines)]
          let work := if separate then batches else [(none, batches.flatMap Prod.snd)]
          /- Of several files, only the last can end without a newline. -/
          let joined (lines : List (Bytes × Bool)) : List (Bytes × Bool) :=
            let count := lines.length
            lines.zipIdx.map fun e => (e.1.1, e.1.2 || decide (e.2 + 1 < count))
          let mut held : Bytes := []
          for (name, lines) in work do
            let lines := joined lines
            let start : State := {
              lines := lines
              space := []
              ended := true
              held := held
              number := 0
              ranges := []
              later := []
              replaced := false
              lastUsed := none
              output := []
              missing := false
              written := [] }
            let (result, s) ← (turns m commands (2 * lines.length + patience) false).run start
            held := s.held
            let text := s.output.reverse.flatten
            match inPlace, name with
            | true, some path =>
                if let .ok index := ← System.openPath path .overwrite then
                  let rest := if result.isSome then
                      s.lines.flatMap fun l => l.1 ++ if l.2 then [lineEnd] else []
                    else []
                  modify fun p => (p.writeTo index (text ++ rest)).2
            | _, _ => System.write 1 text
            for (path, _) in s.written do
              let bytes := (s.written.filter fun w => w.1 = path).flatMap Prod.snd
              if path = ascii "/dev/stdout" then System.write 1 bytes
              else if let .ok index := ← System.openPath path .overwrite then
                modify fun p => (p.writeTo index bytes).2
            if let some n := result then return n
          pure code

end RestrictedShell.Host.Utility
