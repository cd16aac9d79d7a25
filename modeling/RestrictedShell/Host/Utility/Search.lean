import RestrictedShell.Host.Utility.Expression
import RestrictedShell.Host.Utility.Place
/-!
Searching files for lines that an expression describes.
-/

namespace RestrictedShell.Host.Utility

namespace Search

/-- How expressions are written. -/
inductive Writing where
  | plain
  | basic
  | extended
deriving DecidableEq, Repr

/-- Which lines are searched for, and what is shown of them. -/
structure Manner where
  inverted : Bool
  words : Bool
  wholeLines : Bool
  counts : Bool
  names : Option Bool
  numbers : Bool
  offsets : Bool
  parts : Bool
  quiet : Bool
  silent : Bool
  asText : Bool
  most : Option Nat
  before : Nat
  after : Nat
  withNames : Bool
  tab : Bool
  zero : Bool
deriving DecidableEq, Repr

def switches : List Switch :=
  [.valued 'A' "after-context", .valued 'B' "before-context", .valued 'C' "context",
    .both 'E' "extended-regexp", .both 'F' "fixed-strings", .both 'G' "basic-regexp",
    .both 'P' "perl-regexp", .both 'H' "with-filename", .both 'I' "", .both 'L' "files-without-match",
    .both 'R' "dereference-recursive", .both 'T' "initial-tab", .both 'U' "binary",
    .both 'Z' "null", .both 'a' "text", .both 'b' "byte-offset", .both 'c' "count",
    .valued 'd' "directories", .valued 'e' "regexp", .valued 'f' "file", .both 'h' "no-filename",
    .both 'i' "ignore-case", .letter 'y', .both 'l' "files-with-matches", .valued 'm' "max-count",
    .both 'n' "line-number", .both 'o' "only-matching", .both 'q' "quiet",
    ⟨'q', false, some "silent", .nothing⟩, .both 'r' "recursive", .both 's' "no-messages",
    .both 'v' "invert-match", .both 'w' "word-regexp", .both 'x' "line-regexp",
    .both 'z' "null-data", ⟨'1', false, some "color", .optional⟩,
    ⟨'1', false, some "colour", .optional⟩, ⟨'2', false, some "include", .value⟩,
    ⟨'3', false, some "exclude", .value⟩, ⟨'4', false, some "label", .value⟩,
    .named '5' "line-buffered", .named '6' "no-ignore-case"]

def showUse (self : Bytes) : System Nat := do
  System.write 2 (ascii "Usage: " ++ self ++ ascii " [OPTION]... PATTERNS [FILE]...\n")
  pointToHelp self
  pure 2

/-- A text in which every byte stands for itself. -/
def verbatim (anyCase : Bool) (text : Bytes) : Expression :=
  text.foldr (fun b rest => .both (Expression.literal ⟨false, anyCase⟩ b) rest) .empty

/-- The match that counts at a place: a word, or a whole line, if that is asked for. -/
def hitAt? (m : Manner) (e : Expression) (t : Expression.Subject) (i : Nat) :
    Option (Nat × Nat) :=
  let all := Expression.ends t (t.text.size + 2) e i []
  let fits (stop : Nat) : Bool :=
    (!m.wholeLines || (i = 0 && stop = t.text.size)) &&
      (!m.words || (!(0 < i && t.isWordAt (i - 1)) && !t.isWordAt stop))
  let stops := (all.map Prod.fst).filter fits
  match stops with
  | [] => none
  | first :: others => some (i, others.foldl max first)

/-- The first hit at a place or behind it. -/
def hit? (m : Manner) (es : List Expression) (t : Expression.Subject) (fuel i : Nat) :
    Option (Nat × Nat) :=
  match fuel with
  | 0 => none
  | fuel + 1 =>
      if t.text.size < i then none
      else
        let hits := es.filterMap fun e => hitAt? m e t i
        match hits with
        | first :: others => some (others.foldl (fun a b => if a.2 < b.2 then b else a) first)
        | [] => hit? m es t fuel (i + 1)

/-- All hits in a line that are not empty, from a place on. -/
def hits (m : Manner) (es : List Expression) (t : Expression.Subject) (fuel i : Nat) :
    List (Nat × Nat) :=
  match fuel with
  | 0 => []
  | fuel + 1 =>
      match hit? m es t (t.text.size + 2) i with
      | none => []
      | some (start, stop) =>
          if stop = start then hits m es t fuel (start + 1)
          else (start, stop) :: hits m es t fuel stop

/-- A line of a file: its number, where it begins, and what is in it. -/
structure Line where
  number : Nat
  offset : Nat
  text : Bytes

def linesOf (m : Manner) (bytes : Bytes) : List Line :=
  let lineEnd : UInt8 := if m.zero then 0 else Text.newline
  let pieces := bytes.splitOn lineEnd
  let pieces := if pieces.getLast? = some [] then pieces.dropLast else pieces
  (pieces.foldl (fun (acc : List Line × Nat × Nat) text =>
    (⟨acc.2.1, acc.2.2, text⟩ :: acc.1, acc.2.1 + 1, acc.2.2 + text.length + 1)) ([], 1, 0)).1.reverse

/-- What stands in front of a line that is shown. -/
def label (m : Manner) (name : Bytes) (mark : UInt8) (l : Line) (offset : Nat) : Bytes :=
  (if m.withNames then name ++ [mark] else []) ++
    (if m.numbers then ascii l.number.repr ++ [mark] else []) ++
    (if m.offsets then ascii (l.offset + offset).repr ++ [mark] else []) ++
    (if m.tab then [0x09] else [])

/-- Searches a text. Tells whether anything was found. -/
def inText (m : Manner) (self : Bytes) (es : List Expression) (name bytes : Bytes) :
    System Bool := do
  let lineEnd : UInt8 := if m.zero then 0 else Text.newline
  let lines := linesOf m bytes
  let subject (l : Line) : Expression.Subject := ⟨l.text.toArray, true⟩
  let isHit (l : Line) : Bool := (hit? m es (subject l) (l.text.length + 2) 0).isSome != m.inverted
  let found := lines.filter isHit
  let found := match m.most with
    | some n => found.take n
    | none => found
  let isBinary := !m.asText && !m.zero && bytes.contains 0
  if m.quiet then pure (found ≠ [] |> decide)
  else if let some listed := m.names then
    let holds := decide (found ≠ []) == listed
    if holds then System.write 1 (name ++ [Text.newline])
    pure holds
  else if m.counts then
    System.write 1 ((if m.withNames then name ++ [0x3A] else []) ++ ascii found.length.repr ++
      [Text.newline])
    pure (found ≠ [] |> decide)
  else if isBinary && found ≠ [] then
    complain self (name ++ ascii ": binary file matches")
    pure true
  else
    let numbers := found.map Line.number
    let mut last := 0
    for l in lines do
      let isFound := numbers.contains l.number
      let near := isFound || numbers.any fun n =>
        (n < l.number && l.number ≤ n + m.after) || (l.number < n && n ≤ l.number + m.before)
      if near then
        if (0 < m.before || 0 < m.after) && last ≠ 0 && last + 1 < l.number then
          System.write 1 (ascii "--\n")
        last := l.number
        let mark : UInt8 := if isFound then 0x3A else 0x2D
        if m.parts then
          if isFound && !m.inverted then
            for (start, stop) in hits m es (subject l) (l.text.length + 2) 0 do
              System.write 1 (label m name mark l start ++
                (l.text.drop start).take (stop - start) ++ [lineEnd])
        else System.write 1 (label m name mark l 0 ++ l.text ++ [lineEnd])
    pure (found ≠ [] |> decide)

/-- The files below a path. The fuel bounds the depth. -/
def below (fuel : Nat) (path : Bytes) : System (List Bytes) := do
  match ← lookAt path with
  | .ok (place, .directory) =>
      match fuel with
      | 0 => pure []
      | fuel + 1 =>
          let mut all := []
          for name in (← get).files.children place do
            all := all ++ (← below fuel (Path.join path name))
          pure all
  | _ => pure [path]

end Search

open Search in
/-- Searches files. `written` is how expressions are written unless an option says otherwise. -/
def searching (written : Search.Writing) : Program := coded fun self args => do
  let (given, operands?) := readOptions switches false (args.length + 1) args
  match operands? with
  | .error misuse =>
      complain self misuse.message
      showUse self
  | .ok operands =>
      let any (keys : List Char) : Bool := keys.any (has given ·)
      let mut texts := (values given 'e').flatMap (·.splitOn Text.newline)
      for path in values given 'f' do
        match ← readOperand path with
        | .ok bytes =>
            let lines := bytes.splitOn Text.newline
            texts := texts ++ (if lines.getLast? = some [] then lines.dropLast else lines)
        | .error e =>
            complain self (path ++ ascii ": " ++ reason e)
            return 2
      let mut operands := operands
      if !any ['e', 'f'] then
        match operands with
        | [] => return ← showUse self
        | text :: rest =>
            texts := text.splitOn Text.newline
            operands := rest
      let written := match last? given ['E', 'F', 'G', 'P'] with
        | some 'E' | some 'P' => Search.Writing.extended
        | some 'F' => .plain
        | some _ => .basic
        | none => written
      let anyCase := match last? given ['i', 'y', '6'] with
        | some '6' | none => false
        | some _ => true
      let mut expressions : List Expression := []
      for text in texts do
        match written with
        | .plain => expressions := expressions ++ [verbatim anyCase text]
        | _ =>
            match Expression.ofText ⟨written = .extended, anyCase⟩ text with
            | .ok (e, _) => expressions := expressions ++ [e]
            | .error flaw =>
                complain self (ascii flaw.message)
                return 2
      let count? (key : Char) : Option Nat := (value? given key).bind numberOf?
      for key in ['A', 'B', 'C'] do
        if let some text := value? given key then
          if (numberOf? text).isNone then
            complain self (text ++ ascii ": invalid context length argument")
            return 2
      if let some text := value? given 'm' then
        if (numberOf? text).isNone then
          complain self (ascii "invalid max count")
          return 2
      let recursive := any ['r', 'R'] || value? given 'd' = some (ascii "recurse")
      let bareTree := recursive && operands = []
      let mut paths := if operands = [] then (if recursive then [ascii "."] else [[0x2D]]) else operands
      let several := 1 < paths.length
      if recursive then
        let depth := (← get).files.entries.length
        let mut all := []
        for path in paths do
          all := all ++ (← if isInput path then pure [path] else below depth path)
        paths := if bareTree then all.map (·.drop 2) else all
      let m : Manner := {
        inverted := has given 'v'
        words := has given 'w'
        wholeLines := has given 'x'
        counts := has given 'c'
        names := match last? given ['l', 'L'] with
          | some 'l' => some true
          | some _ => some false
          | none => none
        numbers := has given 'n'
        offsets := has given 'b'
        parts := has given 'o'
        quiet := has given 'q'
        silent := has given 's'
        asText := has given 'a'
        most := count? 'm'
        before := ((count? 'B').orElse fun _ => count? 'C').getD 0
        after := ((count? 'A').orElse fun _ => count? 'C').getD 0
        withNames := match last? given ['H', 'h'] with
          | some 'H' => true
          | some _ => false
          | none => several || recursive
        tab := has given 'T'
        zero := has given 'z' }
      let mut found := false
      let mut failed := false
      for path in paths do
        let name := if isInput path then ascii "(standard input)" else path
        let isDir ← if isInput path then pure false else isDirectory path
        if isDir && value? given 'd' = some (ascii "skip") then pure ()
        else
          match ← readOperand path with
          | .error e =>
              if !m.silent then complain self (name ++ ascii ": " ++ reason e)
              failed := true
          | .ok bytes =>
              if ← inText m self expressions name bytes then found := true
              if found && m.quiet then return 0
      pure (if failed then 2 else if found then 0 else 1)

def grep : Program := searching .basic

end RestrictedShell.Host.Utility
