import RestrictedShell.Host.Utility.Amount
/-!
Expressions that describe texts: bytes out of a set, one after another, repeated, one or the other, and
what a group has matched before. Of all matches at a place the longest counts.
-/

namespace RestrictedShell.Host.Utility

/-- A place in a text that an expression may ask for. -/
inductive Edge where
  | start
  | finish
  | word
  | inside
  | wordStart
  | wordEnd
deriving DecidableEq, Repr

/-- An expression. `set` has a bit for every byte. -/
inductive Expression where
  | empty
  | set (members : List UInt8)
  | edge (e : Edge)
  | both (first second : Expression)
  | either (first second : Expression)
  | repeated (inner : Expression) (least : Nat) (most : Option Nat)
  | group (number : Nat) (inner : Expression)
  | again (number : Nat)
deriving DecidableEq, Repr

namespace Expression

/-- What is wrong with a written expression. -/
inductive Flaw where
  | unmatchedParenthesis
  | unmatchedClosing
  | unmatchedBracket
  | unmatchedBrace
  | badCount
  | badReference
  | badRange
  | badClass
  | trailingBackslash
  | badRepetition
deriving DecidableEq, Repr

def Flaw.message : Flaw → String
  | .unmatchedParenthesis => "Unmatched ( or \\("
  | .unmatchedClosing => "Unmatched ) or \\)"
  | .unmatchedBracket => "Unmatched [, [^, [:, [., or [="
  | .unmatchedBrace => "Unmatched \x7b or \\\x7b"
  | .badCount => "Invalid content of \\\x7b\\\x7d"
  | .badReference => "Invalid back reference"
  | .badRange => "Invalid range end"
  | .badClass => "Invalid character class name"
  | .trailingBackslash => "Trailing backslash"
  | .badRepetition => "Invalid preceding regular expression"

def allBytes : List UInt8 :=
  (List.range 256).map Nat.toUInt8

def isUpper (b : UInt8) : Bool := 0x41 ≤ b && b ≤ 0x5A
def isLower (b : UInt8) : Bool := 0x61 ≤ b && b ≤ 0x7A
def isLetter (b : UInt8) : Bool := isUpper b || isLower b
def isVisible (b : UInt8) : Bool := 0x21 ≤ b && b ≤ 0x7E

/-- Is it a byte of words? -/
def isWordByte (b : UInt8) : Bool := isLetter b || isDigit b || b == 0x5F

/-- The classes of bytes that have names. -/
def classes : List (String × (UInt8 → Bool)) :=
  [("alnum", fun b => isLetter b || isDigit b), ("alpha", isLetter),
    ("blank", fun b => b == 0x20 || b == 0x09), ("cntrl", fun b => b < 0x20 || b == 0x7F),
    ("digit", isDigit), ("graph", isVisible), ("lower", isLower),
    ("print", fun b => isVisible b || b == 0x20),
    ("punct", fun b => isVisible b && !isLetter b && !isDigit b), ("space", isSpace),
    ("upper", isUpper),
    ("xdigit", fun b => isDigit b || (0x61 ≤ b && b ≤ 0x66) || (0x41 ≤ b && b ≤ 0x46))]

/-- The other case of a letter. -/
def otherCase (b : UInt8) : UInt8 :=
  if isUpper b then b + 32 else if isLower b then b - 32 else b

/-- How expressions are written: with bare operators or with backslashes before them, and whether case
counts. -/
structure Style where
  bare : Bool
  anyCase : Bool
deriving DecidableEq, Repr

/-- The members of a set in brackets, of which some are read, and what stands behind it. The fuel bounds
the length. -/
def members (fuel : Nat) (found : List UInt8) (first : Bool) (text : Bytes) :
    Except Flaw (List UInt8 × Bytes) :=
  match fuel, text with
  | 0, _ | _, [] => .error .unmatchedBracket
  | fuel + 1, b :: rest =>
      if b == 0x5D && !first then .ok (found, rest)
      else
        let single (b : UInt8) (rest : Bytes) : Except Flaw (List UInt8 × Bytes) :=
          match rest with
          | 0x2D :: high :: more =>
              if high == 0x5D then members fuel (b :: found) false rest
              else
                let high := if high == 0x5B && more.head? == some 0x2E then (more.drop 1).head?.getD high
                  else high
                if high < b then .error .badRange
                else members fuel (allBytes.filter (fun c => b ≤ c && c ≤ high) ++ found) false more
          | _ => members fuel (b :: found) false rest
        if b == 0x5B then
          match rest with
          | 0x3A :: more =>
              let name := more.takeWhile (· != 0x3A)
              match more.drop name.length with
              | 0x3A :: 0x5D :: after =>
                  match classes.find? fun c => ascii c.1 == name with
                  | some (_, holds) => members fuel (allBytes.filter holds ++ found) false after
                  | none => .error .badClass
              | _ => .error .unmatchedBracket
          | mark :: c :: end1 :: 0x5D :: after =>
              if (mark == 0x3D || mark == 0x2E) && mark == end1 then members fuel (c :: found) false after
              else single b rest
          | _ => single b rest
        else single b rest

/-- The counts between braces, and what stands behind the closing one. -/
def counts (bare : Bool) (text : Bytes) : Except Flaw ((Nat × Option Nat) × Bytes) :=
  let low := text.takeWhile isDigit
  let rest := text.drop low.length
  let (high?, rest) := match rest with
    | 0x2C :: rest =>
        let high := rest.takeWhile isDigit
        (if high = [] then none else some (decimalValue high), rest.drop high.length)
    | rest => (some (decimalValue low), rest)
  let finish (rest : Bytes) : Except Flaw ((Nat × Option Nat) × Bytes) :=
    if (high?.map fun h => decide (h < decimalValue low)).getD false then .error .badCount
    else .ok ((decimalValue low, high?), rest)
  match bare, rest with
  | true, 0x7D :: rest => finish rest
  | false, 0x5C :: 0x7D :: rest => finish rest
  | _, [] => .error .unmatchedBrace
  | _, _ => .error .badCount

/-- What an operator between or behind parts is. -/
inductive Operator where
  | opening
  | closing
  | or
  | star
  | plus
  | question
  | brace
deriving DecidableEq, Repr

/-- The operator that a text begins with, and what stands behind it. -/
def operator? (bare : Bool) (text : Bytes) : Option (Operator × Bytes) :=
  let named (c : UInt8) : Option Operator :=
    match Char.ofNat c.toNat with
    | '(' => some .opening
    | ')' => some .closing
    | '|' => some .or
    | '+' => some .plus
    | '?' => some .question
    | '\x7b' => some .brace
    | _ => none
  match text with
  | 0x2A :: rest => some (.star, rest)
  | 0x5C :: c :: rest => if bare then none else (named c).map (·, rest)
  | c :: rest => if bare then (named c).map (·, rest) else none
  | [] => none

/-- A part that is read, what stands behind it, and the number of groups so far. -/
structure Read where
  expression : Expression
  rest : Bytes
  groups : Nat

/-- One byte that stands for itself. -/
def literal (s : Style) (b : UInt8) : Expression :=
  .set (if s.anyCase then [b, otherCase b] else [b])

/-- The part behind a backslash that is no operator. -/
def escaped (s : Style) (groups : Nat) (c : UInt8) : Except Flaw Expression :=
  match Char.ofNat c.toNat with
  | 'w' => .ok (.set (allBytes.filter isWordByte))
  | 'W' => .ok (.set (allBytes.filter (!isWordByte ·)))
  | 's' => .ok (.set (allBytes.filter isSpace))
  | 'S' => .ok (.set (allBytes.filter (!isSpace ·)))
  | 'b' => .ok (.edge .word)
  | 'B' => .ok (.edge .inside)
  | '<' => .ok (.edge .wordStart)
  | '>' => .ok (.edge .wordEnd)
  | '\x60' => .ok (.edge .start)
  | '\x27' => .ok (.edge .finish)
  | 'n' => .ok (.set [Text.newline])
  | 't' => .ok (.set [0x09])
  | _ =>
      if 0x31 ≤ c && c ≤ 0x39 then
        if c.toNat - 48 ≤ groups then .ok (.again (c.toNat - 48)) else .error .badReference
      else .ok (literal s c)

mutual

/-- Reads alternatives. `depth` tells how many groups are open. The fuel bounds the length. -/
def alternatives (s : Style) (fuel depth groups : Nat) (text : Bytes) : Except Flaw Read :=
  match fuel with
  | 0 => .error .badRepetition
  | fuel + 1 => do
      let first ← sequence s fuel depth groups .empty true text
      match operator? s.bare first.rest with
      | some (.or, rest) => do
          let others ← alternatives s fuel depth first.groups rest
          .ok { others with expression := .either first.expression others.expression }
      | _ => .ok first

/-- Reads parts one after another, behind those that are read. -/
def sequence (s : Style) (fuel depth groups : Nat) (before : Expression) (atStart : Bool)
    (text : Bytes) : Except Flaw Read :=
  match fuel with
  | 0 => .error .badRepetition
  | fuel + 1 =>
      let goOn (part : Expression) (groups : Nat) (rest : Bytes) : Except Flaw Read := do
        let (part, rest) ← suffix s fuel part rest
        sequence s fuel depth groups (.both before part) false rest
      match operator? s.bare text with
      | some (.or, _) => .ok ⟨before, text, groups⟩
      | some (.closing, rest) =>
          if 0 < depth then .ok ⟨before, text, groups⟩
          else if s.bare then goOn (literal s 0x29) groups rest
          else .error .unmatchedClosing
      | some (.opening, rest) => do
          let number := groups + 1
          let inner ← alternatives s fuel (depth + 1) number rest
          match operator? s.bare inner.rest with
          | some (.closing, rest) => goOn (.group number inner.expression) inner.groups rest
          | _ => .error .unmatchedParenthesis
      | some (.star, rest) =>
          if s.bare then
            if atStart then sequence s fuel depth groups before true rest
            else goOn (literal s 0x2A) groups rest
          else goOn (literal s 0x2A) groups rest
      | some (_, rest) =>
          if s.bare then
            match text with
            | 0x7B :: _ => goOn (literal s 0x7B) groups rest
            | _ => if atStart then sequence s fuel depth groups before true rest
                else goOn (literal s (text.head?.getD 0)) groups rest
          else if text.take 2 = ascii "\\\x7b" then .error .badRepetition
          else goOn (literal s ((text.drop 1).head?.getD 0)) groups rest
      | none =>
          match text with
          | [] => .ok ⟨before, [], groups⟩
          | 0x5C :: [] => .error .trailingBackslash
          | 0x5C :: c :: rest => do
              let part ← escaped s groups c
              goOn part groups rest
          | 0x5B :: rest => do
              let (negated, rest) := match rest with
                | 0x5E :: rest => (true, rest)
                | rest => (false, rest)
              let (found, rest) ← members (rest.length + 1) [] true rest
              let found := if s.anyCase then found ++ found.map otherCase else found
              let found := if negated then allBytes.filter fun b => !found.contains b && b != Text.newline
                else found
              goOn (.set found) groups rest
          | 0x2E :: rest => goOn (.set (allBytes.filter (· != Text.newline))) groups rest
          | 0x5E :: rest =>
              if s.bare || atStart then
                if s.bare then goOn (.edge .start) groups rest
                else sequence s fuel depth groups (.both before (.edge .start)) true rest
              else goOn (literal s 0x5E) groups rest
          | 0x24 :: rest =>
              let ends := s.bare || rest = [] || (match operator? s.bare rest with
                | some (.closing, _) | some (.or, _) => true
                | _ => false)
              if ends then goOn (.edge .finish) groups rest else goOn (literal s 0x24) groups rest
          | b :: rest => goOn (literal s b) groups rest

/-- Reads how often a part is repeated. -/
def suffix (s : Style) (fuel : Nat) (part : Expression) (text : Bytes) :
    Except Flaw (Expression × Bytes) :=
  match fuel with
  | 0 => .error .badRepetition
  | fuel + 1 =>
      match operator? s.bare text with
      | some (.star, rest) => suffix s fuel (.repeated part 0 none) rest
      | some (.plus, rest) => suffix s fuel (.repeated part 1 none) rest
      | some (.question, rest) => suffix s fuel (.repeated part 0 (some 1)) rest
      | some (.brace, rest) =>
          match counts s.bare rest with
          | .ok ((least, most), rest) => suffix s fuel (.repeated part least most) rest
          | .error flaw => if s.bare then .ok (part, text) else .error flaw
      | _ => .ok (part, text)

end

/-- Reads an expression, and tells how many groups it has. -/
def ofText (s : Style) (text : Bytes) : Except Flaw (Expression × Nat) := do
  let read ← alternatives s (4 * text.length + 8) 0 0 text
  if read.rest = [] then .ok (read.expression, read.groups) else .error .unmatchedClosing

/-- What the groups have matched, by number. -/
abbrev Groups := List (Nat × Nat × Nat)

/-- A text to be searched. -/
structure Subject where
  text : Array UInt8
  isStart : Bool

def Subject.byte? (t : Subject) (i : Nat) : Option UInt8 := t.text[i]?

def Subject.isWordAt (t : Subject) (i : Nat) : Bool := ((t.byte? i).map isWordByte).getD false

def Subject.hasEdge (t : Subject) (e : Edge) (i : Nat) : Bool :=
  let before := 0 < i && t.isWordAt (i - 1)
  let after := t.isWordAt i
  match e with
  | .start => i = 0 && t.isStart
  | .finish => i = t.text.size
  | .word => before != after
  | .inside => before == after
  | .wordStart => !before && after
  | .wordEnd => before && !after

/-- All ends of matches that begin at a place, the preferred first, with what the groups match. The fuel
bounds the number of repetitions. -/
def ends (t : Subject) (fuel : Nat) (e : Expression) (i : Nat) (groups : Groups) :
    List (Nat × Groups) :=
  match e with
  | .empty => [(i, groups)]
  | .set found =>
      match t.byte? i with
      | some b => if found.contains b then [(i + 1, groups)] else []
      | none => []
  | .edge place => if t.hasEdge place i then [(i, groups)] else []
  | .both a b => ((ends t fuel a i groups).flatMap fun r => ends t fuel b r.1 r.2)
  | .either a b => ends t fuel a i groups ++ ends t fuel b i groups
  | .group n inner =>
      (ends t fuel inner i groups).map fun r => (r.1, (n, i, r.1) :: r.2.filter fun g => g.1 ≠ n)
  | .again n =>
      match groups.find? fun g => g.1 = n with
      | some (_, start, stop) =>
          let piece := t.text.extract start stop
          if t.text.extract i (i + piece.size) = piece then [(i + piece.size, groups)] else []
      | none => []
  | .repeated inner least most =>
      let rec go (fuel done i : Nat) (groups : Groups) : List (Nat × Groups) :=
        let here := if least ≤ done then [(i, groups)] else []
        match fuel with
        | 0 => here
        | fuel + 1 =>
            if (most.map fun m => decide (m ≤ done)).getD false then here
            else
              ((ends t (fuel + 1) inner i groups).flatMap fun r =>
                if r.1 = i && least ≤ done then [] else go fuel (done + 1) r.1 r.2) ++ here
      go fuel 0 i groups

/-- A match: where it begins and ends, and what the groups match. -/
structure Found where
  start : Nat
  stop : Nat
  groups : Groups

/-- The longest match that begins at a place. -/
def matchAt? (e : Expression) (t : Subject) (i : Nat) : Option Found :=
  (ends t (t.text.size + 2) e i []).foldl (fun best r =>
    match best with
    | none => some ⟨i, r.1, r.2⟩
    | some f => if f.stop < r.1 then some ⟨i, r.1, r.2⟩ else some f) none

/-- The first match that begins at a place or behind it. The fuel bounds the places. -/
def find? (e : Expression) (t : Subject) (fuel i : Nat) : Option Found :=
  match fuel with
  | 0 => none
  | fuel + 1 =>
      if t.text.size < i then none
      else match matchAt? e t i with
        | some f => some f
        | none => find? e t fuel (i + 1)

end Expression

end RestrictedShell.Host.Utility
