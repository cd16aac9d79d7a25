import RestrictedShell.Host.Script.Syntax
/-!
A script on its way from bytes to statements: the text that is left, the token under way, and what has
been announced to follow the current line. An alias puts its text in front of what is left.
-/

namespace RestrictedShell.Host.Script

/-- A script that cannot be read: where, and what is wrong. -/
structure SyntaxError where
  line : Nat
  message : String
deriving DecidableEq, Repr

/-- The smallest part of a script that has a meaning by itself. -/
inductive Token where
  | finish
  | newline
  | word
  | redirection
  | operator (text : String)
  | reserved (text : String)
deriving DecidableEq, Repr

namespace Token

/-- How a token is named when it was not expected. -/
def describe : Token → String
  | finish => "end of file"
  | newline => "newline"
  | word => "word"
  | redirection => "redirection"
  | operator text | reserved text => "\"" ++ text ++ "\""

/-- The words that have a meaning of their own where a statement may begin. -/
def reservedWords : List String :=
  ["!", "case", "do", "done", "elif", "else", "esac", "fi", "for", "if", "in", "then", "until",
    "while", "\x7b", "\x7d"]

/-- Does it end the statements of a body? -/
def endsBody : Token → Bool
  | finish => true
  | operator text => text == ";;" || text == ")"
  | reserved text => ["do", "done", "elif", "else", "esac", "fi", "then", "\x7d"].contains text
  | _ => false

end Token

/-- What the next word may turn out to be, or how it is read: newlines in front of it are passed over,
it may be reserved or an alias, and in an end mark nothing is replaced. -/
structure Checks where
  newlines : Bool
  reserved : Bool
  aliases : Bool
  endMark : Bool
deriving DecidableEq, Repr

namespace Checks

def nothing : Checks := ⟨false, false, false, false⟩
def statement : Checks := ⟨false, true, true, false⟩
def laterStatement : Checks := ⟨true, true, true, false⟩
def pattern : Checks := ⟨true, true, false, false⟩
def argument : Checks := ⟨false, false, true, false⟩
def mark : Checks := ⟨false, false, false, true⟩

def union (a b : Checks) : Checks :=
  ⟨a.newlines || b.newlines, a.reserved || b.reserved, a.aliases || b.aliases,
    a.endMark || b.endMark⟩

end Checks

/-- A text that is being read: that of an alias, or the script itself. -/
structure Layer where
  rest : Bytes
  aliasName : Option Bytes
  taken : Option UInt8
deriving DecidableEq, Repr

/-- What a redirection does, before its target is read. -/
inductive Redirecting where
  | file (fd : Nat) (mode : OpenMode)
  | descriptor (fd : Nat)
  | document (fd : Nat) (dropsTabs : Bool)
deriving DecidableEq, Repr

/-- A text that is to follow the current line, up to its end mark. -/
structure Announced where
  number : Nat
  mark : Bytes
  dropsTabs : Bool
  expands : Bool
deriving DecidableEq, Repr

/-- The state of reading. `word` and `quoted` belong to the last word, `redirecting` to the last
redirection; with `again` the last token is still to be taken. -/
structure Reader where
  layers : List Layer
  line : Nat
  aliases : List (Bytes × Bytes)
  checks : Checks
  token : Token
  again : Bool
  word : Word
  quoted : Bool
  redirecting : Redirecting
  announced : List Announced
  documents : Array Word
deriving DecidableEq, Repr

abbrev Read := StateT Reader (Except SyntaxError)

/-- What stands at one place of a script: a byte, the end of an alias, or the end of all. -/
inductive Glyph where
  | byte (b : UInt8)
  | seam
  | finish
deriving DecidableEq, Repr

namespace Reader

/-- A reader at the beginning of a text. `documents` are those of the script so far. -/
def start (text : Bytes) (line : Nat) (aliases : List (Bytes × Bytes)) (documents : Array Word) :
    Reader where
  layers := [⟨text, none, none⟩]
  line := line
  aliases := aliases
  checks := .nothing
  token := .newline
  again := false
  word := .done
  quoted := false
  redirecting := .descriptor 0
  announced := []
  documents := documents

def fail {α : Type} (message : String) : Read α := do
  throw ⟨(← get).line, message⟩

/-- Leaves the texts of aliases that are used up and end in a blank. The word after such an alias
may be an alias as well. -/
def settle (layers : List Layer) (passed : Bool) : List Layer × Bool :=
  match layers with
  | ⟨[], some name, taken⟩ :: outer =>
      if (taken.map isBlank).getD true then settle outer true
      else (⟨[], some name, taken⟩ :: outer, passed)
  | layers => (layers, passed)

/-- Passes over newlines that are escaped, and counts them. -/
def dropJoins (count : Nat) : Bytes → Bytes × Nat
  | 0x5C :: 0x0A :: rest => dropJoins (count + 1) rest
  | rest => (rest, count)

/-- The next glyph, just as it is written. -/
def peekRaw : Read Glyph := do
  let r ← get
  let (layers, passed) := settle r.layers false
  if passed then
    set { r with layers, checks := { r.checks with aliases := true } }
  match layers with
  | [] => pure .finish
  | layer :: _ =>
      match layer.rest, layer.aliasName with
      | b :: _, _ => pure (.byte b)
      | [], some _ => pure .seam
      | [], none => pure .finish

/-- The next glyph behind any escaped newlines. -/
def peek : Read Glyph := do
  match ← peekRaw with
  | .byte 0x5C =>
      modify fun r =>
        match r.layers with
        | layer :: outer =>
            let (rest, count) := dropJoins 0 layer.rest
            { r with layers := { layer with rest } :: outer, line := r.line + count }
        | [] => r
      peekRaw
  | glyph => pure glyph

/-- Takes the next glyph. -/
def skip : Read Unit := do
  modify fun r =>
    match r.layers with
    | layer :: outer =>
        match layer.rest with
        | b :: rest => { r with layers := { layer with rest, taken := some b } :: outer }
        | [] => if layer.aliasName.isSome then { r with layers := outer } else r
    | [] => r

def countLine : Read Unit :=
  modify fun r => { r with line := r.line + 1 }

/-- Is the next glyph this byte? -/
def isNext (b : UInt8) : Read Bool := do
  pure ((← peek) == .byte b)

/-- Takes the next glyph if it is this byte. -/
def accept (b : UInt8) : Read Bool := do
  if ← isNext b then
    skip
    pure true
  else pure false

/-- Takes the longest run of bytes of a kind. The fuel bounds its length. -/
def takeRun (kind : UInt8 → Bool) (fuel : Nat) (taken : Bytes) : Read Bytes := do
  match fuel with
  | 0 => pure taken.reverse
  | fuel + 1 =>
      match ← peek with
      | .byte b =>
          if kind b then
            skip
            takeRun kind fuel (b :: taken)
          else pure taken.reverse
      | _ => pure taken.reverse

/-- How many glyphs may be left at most, aliases apart. -/
def size (r : Reader) : Nat :=
  r.layers.foldl (fun n layer => n + layer.rest.length) 0

/-- Is the alias under way? Its text does not call it again. -/
def isUnderWay (r : Reader) (name : Bytes) : Bool :=
  r.layers.any fun layer => layer.aliasName == some name

/-- Puts the text of an alias in front of what is left. -/
def push (name text : Bytes) : Read Unit :=
  modify fun r => { r with layers := Layer.mk text (some name) none :: r.layers }

/-- Keeps the last token to be taken again. -/
def putBack : Read Unit :=
  modify fun r => { r with again := true }

def check (checks : Checks) : Read Unit :=
  modify fun r => { r with checks }

/-- Fails because of the last token. -/
def unexpected {α : Type} (expecting : Option Token) : Read α := do
  let hint := match expecting with
    | some token => " (expecting " ++ token.describe ++ ")"
    | none => ""
  fail ((← get).token.describe ++ " unexpected" ++ hint)

/-- Announces a text behind the current line and gives its number. -/
def announce (mark : Bytes) (dropsTabs expands : Bool) : Read Nat := do
  let r ← get
  let number := r.documents.size
  set { r with
    documents := r.documents.push .done
    announced := r.announced ++ [Announced.mk number mark dropsTabs expands] }
  pure number

end Reader

end RestrictedShell.Host.Script
