import RestrictedShell.Host.Script.Reader.Word
/-!
How the statements of a script are read. A script is read one complete line at a time, as it is run
one line at a time.
-/

namespace RestrictedShell.Host.Script

namespace Reader

/-- The commands after which no function may be named. -/
def specialCommands : List Bytes :=
  [".", ":", "break", "continue", "eval", "exec", "exit", "export", "local", "readonly", "return",
    "set", "shift", "times", "trap", "unset"].map ascii

/-- Passes over the rest of a line. -/
def skipComment (fuel : Nat) : Read Unit := do
  match fuel with
  | 0 => pure ()
  | fuel + 1 =>
      match ← peekRaw with
      | .byte b =>
          if b == Text.newline then pure ()
          else
            skip
            skipComment fuel
      | .seam =>
          skip
          skipComment fuel
      | .finish => pure ()

/-- Reads the sign of a redirection, whose first byte is next. -/
def redirectionSign (given : Option Nat) : Read Redirecting := do
  if ← accept (byte '>') then
    let fd := given.getD 1
    if ← accept (byte '>') then pure (.file fd .append)
    else if ← accept (byte '|') then pure (.file fd .replace)
    else if ← accept (byte '&') then pure (.descriptor fd)
    else pure (.file fd .fresh)
  else
    skip
    let fd := given.getD 0
    if ← accept (byte '<') then pure (.document fd (← accept (byte '-')))
    else if ← accept (byte '&') then pure (.descriptor fd)
    else if ← accept (byte '>') then pure (.file fd .readWrite)
    else pure (.file fd .read)

/-- Reads a word, or a redirection, before which a digit may stand. -/
def wordToken (statements : Bool → Read Unit) (fuel : Nat) : Read Token := do
  let s ← scan statements none fuel (Scan.start .plain)
  let word ← closed s false
  let redirects := !s.quoted && ((← isNext (byte '<')) || (← isNext (byte '>')))
  match redirects, word with
  | true, .done =>
      let redirecting ← redirectionSign none
      modify fun r => { r with redirecting }
      pure .redirection
  | true, .literal d false .done =>
      if isDigit d then
        let redirecting ← redirectionSign (some (decimalValue [d]))
        modify fun r => { r with redirecting }
        pure .redirection
      else
        modify fun r => { r with word, quoted := s.quoted }
        pure .word
  | _, _ =>
      modify fun r => { r with word, quoted := s.quoted }
      pure .word

/-- Reads the next token as it is written. -/
def plainToken (statements : Bool → Read Unit) (fuel : Nat) : Read Token := do
  match fuel with
  | 0 => pure .finish
  | fuel + 1 =>
      let operator (b : UInt8) (doubled : Option String) (single : String) : Read Token := do
        skip
        match doubled with
        | some text =>
            if ← accept b then pure (.operator text) else pure (.operator single)
        | none => pure (.operator single)
      match ← peek with
      | .finish => pure .finish
      | .seam =>
          skip
          plainToken statements fuel
      | .byte b =>
          if isBlank b then
            skip
            plainToken statements fuel
          else if b == byte '#' then
            skipComment fuel
            plainToken statements fuel
          else if b == Text.newline then
            skip
            countLine
            pure .newline
          else if b == byte '&' then operator b (some "&&") "&"
          else if b == byte '|' then operator b (some "||") "|"
          else if b == byte ';' then operator b (some ";;") ";"
          else if b == byte '(' then operator b none "("
          else if b == byte ')' then operator b none ")"
          else wordToken statements fuel

/-- The token that is kept to be taken again, or the next one. -/
def keptToken (statements : Bool → Read Unit) (fuel : Nat) : Read Token := do
  let r ← get
  if r.again then
    set { r with again := false }
    pure r.token
  else
    let token ← plainToken statements fuel
    modify fun r => { r with token }
    pure token

/-- Reads tokens until one is no newline. -/
def skipNewlines (statements : Bool → Read Unit) (fuel : Nat) (token : Token) : Read Token := do
  match fuel with
  | 0 => pure token
  | fuel + 1 =>
      if token == .newline then
        readAnnounced statements fuel
        skipNewlines statements fuel (← keptToken statements fuel)
      else pure token

/-- Takes the next token, under the checks that are asked for. -/
def next (statements : Bool → Read Unit) (fuel : Nat) (wanted : Checks) : Read Token := do
  match fuel with
  | 0 => pure .finish
  | fuel + 1 =>
      let token ← keptToken statements fuel
      let token ← if wanted.newlines then skipNewlines statements fuel token else pure token
      let r ← get
      let wanted := wanted.union r.checks
      set { r with checks := .nothing }
      let found (token : Token) : Read Token := do
        modify fun r => { r with token }
        pure token
      if token != .word || r.quoted then found token
      else match r.word.bare? with
        | none => found token
        | some name =>
            match Token.reservedWords.find? fun w => wanted.reserved && ascii w == name with
            | some w => found (.reserved w)
            | none =>
                match r.aliases.lookup name with
                | some text =>
                    if wanted.aliases && !r.isUnderWay name then
                      if text ≠ [] then push name text
                      next statements fuel wanted
                    else found token
                | none => found token

/-- Takes the next token under the checks that were set for it. -/
def nextToken (statements : Bool → Read Unit) (fuel : Nat) : Read Token := do
  next statements fuel (← get).checks

end Reader

open Reader

/-- Which statements a list may hold: those of one line; those up to a word or sign that ends them, at
least one; or those up to there, possibly none. -/
inductive Extent where
  | line
  | body
  | mayBeEmpty
deriving DecidableEq, Repr

namespace Grammar

/-- Reads the target of the redirection whose sign was read last. -/
def target (token : Read Token) : Read Redirection := do
  let redirecting := (← get).redirecting
  match redirecting with
  | .document .. => check .mark
  | _ => pure ()
  if (← token) != .word then unexpected none
  let r ← get
  match redirecting with
  | .file fd mode => pure (.toFile fd mode r.word)
  | .descriptor fd => pure (.toDescriptor fd r.word)
  | .document fd dropsTabs =>
      let expands := !r.quoted
      pure (.fromDocument fd (← announce r.word.literals dropsTabs expands) expands)

/-- Reads redirections as long as there are any. -/
def redirections (token : Read Token) (fuel : Nat) : Read (List Redirection) := do
  match fuel with
  | 0 => pure []
  | fuel + 1 =>
      if (← token) == .redirection then
        let first ← target token
        pure (first :: (← redirections token fuel))
      else
        putBack
        pure []

/-- Reads words as long as there are any. -/
def words (token : Read Token) (fuel : Nat) : Read (List Word) := do
  match fuel with
  | 0 => pure []
  | fuel + 1 =>
      if (← token) == .word then
        let word := (← get).word
        pure (word :: (← words token fuel))
      else pure []

/-- Reads the patterns of an arm, the first of which is the last token. -/
def patterns (token : Read Token) (fuel : Nat) : Read (List Word) := do
  match fuel with
  | 0 => pure []
  | fuel + 1 =>
      let word := (← get).word
      if (← token) == .operator "|" then
        let _ ← token
        pure (word :: (← patterns token fuel))
      else pure [word]

/-- A simple command under way. -/
structure Simple where
  line : Nat
  assignments : List Word
  words : List Word
  redirections : List Redirection

def Simple.statement (s : Simple) : Statement :=
  .simple s.line s.assignments.reverse s.words.reverse s.redirections.reverse

/-- Takes the next token, which has to be this one. -/
def expect (token : Read Token) (wanted : Token) : Read Unit := do
  if (← token) != wanted then unexpected (some wanted)

mutual

/-- Reads a list of statements. `none` stands for the end of the script where a line was asked for. -/
def list (extent : Extent) (fuel : Nat) : Read (Option Statement) := do
  match fuel with
  | 0 => fail "too much"
  | fuel + 1 => listFrom extent extent none fuel

/-- Goes on with a list of statements. `ends` tells whether it may end here. -/
def listFrom (extent ends : Extent) (taken : Option Statement) (fuel : Nat) :
    Read (Option Statement) := do
  match fuel with
  | 0 => fail "too much"
  | fuel + 1 =>
      let inLine := extent == .line
      check (if inLine then .statement else .laterStatement)
      let token ← nextToken (inner fuel) fuel
      if token == .newline then
        readAnnounced (inner fuel) fuel
        pure (some (taken.getD .nothing))
      else if token == .finish then
        readAnnounced (inner fuel) fuel
        putBack
        pure (if inLine then taken else some (taken.getD .nothing))
      else
        putBack
        if ends == .mayBeEmpty && token.endsBody then pure (some (taken.getD .nothing))
        else
          let one ← chain fuel
          let token ← nextToken (inner fuel) fuel
          let one := if token == .operator "&" then Statement.background one else one
          let taken := some (match taken with
            | some before => .sequence before one
            | none => one)
          let ends := if inLine then extent else .mayBeEmpty
          if token == .newline || token == .finish then
            putBack
            listFrom extent ends taken fuel
          else if token == .operator "&" || token == .operator ";" then
            listFrom extent ends taken fuel
          else if inLine then unexpected none
          else
            putBack
            pure taken

/-- Reads the statements of a command that stands inside a word. -/
def inner (fuel : Nat) (bracketed : Bool) : Read Unit := do
  match fuel with
  | 0 => fail "too much"
  | fuel + 1 =>
      modify fun r => { r with again := false }
      let _ ← list .mayBeEmpty fuel
      if bracketed then expect (nextToken (inner fuel) fuel) (.operator ")")
      readAnnounced (inner fuel) fuel

/-- Reads at least one statement. -/
def body (fuel : Nat) : Read Statement := do
  match fuel with
  | 0 => fail "too much"
  | fuel + 1 => pure ((← list .body fuel).getD .nothing)

/-- Reads pipelines joined by the operators for both and either. -/
def chain (fuel : Nat) : Read Statement := do
  match fuel with
  | 0 => fail "too much"
  | fuel + 1 => chainFrom (← pipeline fuel) fuel

def chainFrom (first : Statement) (fuel : Nat) : Read Statement := do
  match fuel with
  | 0 => fail "too much"
  | fuel + 1 =>
      let token ← nextToken (inner fuel) fuel
      if token == .operator "&&" then
        check .laterStatement
        chainFrom (.both first (← pipeline fuel)) fuel
      else if token == .operator "||" then
        check .laterStatement
        chainFrom (.either first (← pipeline fuel)) fuel
      else
        putBack
        pure first

def pipeline (fuel : Nat) : Read Statement := do
  match fuel with
  | 0 => fail "too much"
  | fuel + 1 =>
      let negated := (← nextToken (inner fuel) fuel) == .reserved "!"
      if negated then check .statement else putBack
      let first ← command fuel
      let rest ← stages fuel
      let whole := if rest = .nothing then first else .pipeline first rest
      pure (if negated then .negated whole else whole)

/-- Reads the further stages of a pipeline. -/
def stages (fuel : Nat) : Read Statement := do
  match fuel with
  | 0 => fail "too much"
  | fuel + 1 =>
      if (← nextToken (inner fuel) fuel) == .operator "|" then
        check .laterStatement
        let next ← command fuel
        pure (.pipeline next (← stages fuel))
      else
        putBack
        pure .nothing

/-- Reads what follows the test of a conditional, up to its closing word. -/
def branches (test : Statement) (fuel : Nat) : Read Statement := do
  match fuel with
  | 0 => fail "too much"
  | fuel + 1 =>
      let token := nextToken (inner fuel) fuel
      expect token (.reserved "then")
      let first ← body fuel
      let after ← token
      if after == .reserved "elif" then
        let second ← body fuel
        pure (.choose test first (← branches second fuel))
      else if after == .reserved "else" then
        pure (.choose test first (← body fuel))
      else
        putBack
        pure (.choose test first .nothing)

/-- Reads the arms of a selection and its closing word. -/
def arms (fuel : Nat) : Read Statement := do
  match fuel with
  | 0 => fail "too much"
  | fuel + 1 =>
      let token := nextToken (inner fuel) fuel
      check .pattern
      if (← token) == .reserved "esac" then pure .nothing
      else
        if (← get).token == .operator "(" then
          let _ ← token
        let choices ← patterns token fuel
        if (← get).token != .operator ")" then unexpected (some (.operator ")"))
        let inside := (← list .mayBeEmpty fuel).getD .nothing
        check .pattern
        let after ← token
        if after == .reserved "esac" then pure (.arm choices inside .nothing)
        else if after == .operator ";;" then pure (.arm choices inside (← arms fuel))
        else unexpected (some (.operator ";;"))

/-- Reads a loop over words, behind its first word. -/
def eachWord (line : Nat) (fuel : Nat) : Read Statement := do
  match fuel with
  | 0 => fail "too much"
  | fuel + 1 =>
      let token := nextToken (inner fuel) fuel
      let isWord := (← token) == .word
      let r ← get
      match r.word.bare?.filter fun name => isWord && !r.quoted && isName name with
      | none => fail "Bad for loop variable"
      | some name =>
          check .laterStatement
          let items ← if (← token) == .reserved "in" then do
              let items ← words token fuel
              let last := (← get).token
              if last != .newline && last != .operator ";" then unexpected none
              pure items
            else do
              if (← get).token != .operator ";" then putBack
              pure [Word.allArguments]
          check .laterStatement
          expect token (.reserved "do")
          let inside ← body fuel
          expect token (.reserved "done")
          pure (.each line name items inside)

/-- Reads a simple command, or the definition of a function. Assignments, and words that may be
aliases, come before the first word of another kind. -/
def simple (s : Simple) (fuel : Nat) : Read Statement := do
  match fuel with
  | 0 => fail "too much"
  | fuel + 1 =>
      let token := nextToken (inner fuel) fuel
      check (if s.words.isEmpty then .argument else .nothing)
      match ← token with
      | .word =>
          let word := (← get).word
          if s.words.isEmpty && word.assignedName?.isSome then
            simple { s with assignments := word :: s.assignments } fuel
          else simple { s with words := word :: s.words } fuel
      | .redirection =>
          let r ← target token
          simple { s with redirections := r :: s.redirections } fuel
      | .operator "(" =>
          match s.assignments, s.words, s.redirections with
          | [], [word], [] =>
              expect token (.operator ")")
              match word.bare?.filter fun name => isName name && !specialCommands.contains name with
              | none => fail "Bad function name"
              | some name =>
                  check .laterStatement
                  pure (.define name (← command fuel))
          | _, _, _ =>
              putBack
              pure s.statement
      | _ =>
          putBack
          pure s.statement

/-- Reads one statement with its redirections. -/
def command (fuel : Nat) : Read Statement := do
  match fuel with
  | 0 => fail "too much"
  | fuel + 1 =>
      let token := nextToken (inner fuel) fuel
      let line := (← get).line
      let redirected (inside : Statement) : Read Statement := do
        check .statement
        let rs ← redirections token fuel
        pure (match inside, rs with
          | inside, [] => inside
          | .subshell line body _, rs => .subshell line body rs
          | inside, rs => .redirected line inside rs)
      match ← token with
      | .reserved "if" =>
          let test ← body fuel
          let whole ← branches test fuel
          expect token (.reserved "fi")
          redirected whole
      | .reserved "while" =>
          let test ← body fuel
          expect token (.reserved "do")
          let inside ← body fuel
          expect token (.reserved "done")
          redirected (.repeat true test inside)
      | .reserved "until" =>
          let test ← body fuel
          expect token (.reserved "do")
          let inside ← body fuel
          expect token (.reserved "done")
          redirected (.repeat false test inside)
      | .reserved "for" => redirected (← eachWord line fuel)
      | .reserved "case" =>
          if (← token) != .word then unexpected (some .word)
          let subject := (← get).word
          check .laterStatement
          expect token (.reserved "in")
          redirected (.select line subject (← arms fuel))
      | .operator "(" =>
          let inside ← body fuel
          expect token (.operator ")")
          redirected (.subshell line inside [])
      | .reserved "\x7b" =>
          let inside ← body fuel
          expect token (.reserved "\x7d")
          redirected inside
      | .word | .redirection =>
          putBack
          simple ⟨(← get).line, [], [], []⟩ fuel
      | _ => unexpected none

end

/-- How deep statements may be nested and how long they may be, for a script of this size. -/
def fuelFor (r : Reader) : Nat :=
  16 * r.size + 65536

end Grammar

/-- Reads the statements of the next line, if there is one, and gives the reader behind it. -/
def Reader.readLine (r : Reader) : Except SyntaxError (Option Statement × Reader) :=
  Grammar.list .line (Grammar.fuelFor r)
    { r with again := false, checks := .nothing, announced := [] }

/-- Reads the statements of a command inside a word. -/
def Reader.readCommand (r : Reader) : Except SyntaxError (Option Statement × Reader) :=
  Grammar.list .mayBeEmpty (Grammar.fuelFor r) r

/-- Reads a text in which parameters, commands and sums are to be put in. -/
def Reader.readText (r : Reader) : Except SyntaxError (Word × Reader) :=
  let fuel := Grammar.fuelFor r
  (do closed (← scan (Grammar.inner fuel) (some ⟨0, [0], false, true⟩) fuel
    (Scan.start .double)) true : Read Word) r

end RestrictedShell.Host.Script
