import RestrictedShell.Host.Script.Reader
/-!
Reading one word, and the texts that follow a line: quotes, escapes, parameters, commands and sums.
Braces and brackets of substitutions may stand inside one another, each with its own rules for what is
special.
-/

namespace RestrictedShell.Host.Script

namespace Scan

/-- The rules for what is special: outside quotes, in double or single quotes, or in a sum. -/
inductive Mode where
  | plain
  | double
  | single
  | sum
deriving DecidableEq, Repr

/-- What a byte means under some rules. -/
inductive Role where
  | ordinary
  | escaped
  | newline
  | backslash
  | opensSingle
  | opensDouble
  | closesQuote
  | backquote
  | dollar
  | closesBrace
  | opensParen
  | closesParen
  | ends
deriving DecidableEq, Repr

/-- Bytes that would have a meaning in a pattern or for a home directory, if they were not quoted. -/
def patternBytes : Bytes :=
  ascii "!*?[=~:/-]"

/-- Bytes that are kept from any special meaning wherever they stand. -/
def isReserved (b : UInt8) : Bool :=
  0x81 ≤ b && b ≤ 0x88

def Mode.role (mode : Mode) (b : UInt8) : Role :=
  if b == Text.newline then .newline
  else if isReserved b then .escaped
  else match mode with
    | .single =>
        if b == byte '\x27' then .closesQuote
        else if b == byte '\\' || patternBytes.contains b then .escaped
        else .ordinary
    | _ =>
        if b == byte '\\' then .backslash
        else if b == byte '\x60' then .backquote
        else if b == byte '$' then .dollar
        else if b == byte '\x7d' then .closesBrace
        else match mode with
          | .plain =>
              if b == byte '\x27' then .opensSingle
              else if b == byte '\x22' then .opensDouble
              else if isBlank b || (ascii "<>();&|").contains b then .ends
              else .ordinary
          | .double =>
              if b == byte '\x22' then .closesQuote
              else if patternBytes.contains b then .escaped
              else .ordinary
          | _ =>
              if b == byte '(' then .opensParen
              else if b == byte ')' then .closesParen
              else .ordinary

/-- The rules in force, and how many braces and brackets are open under them. -/
structure Frame where
  mode : Mode
  doubled : Bool
  innerQuote : Bool
  pushed : Bool
  braces : Nat
  quotedBraces : Nat
  parens : Nat
deriving DecidableEq, Repr

def Frame.fresh (mode : Mode) (doubled pushed : Bool) : Frame :=
  ⟨mode, doubled, false, pushed, 0, 0, 0⟩

/-- A substitution that is not complete yet. -/
inductive Holder where
  | parameter (p : Parameter)
  | sum
deriving DecidableEq, Repr

end Scan

open Scan

/-- A word under way: its parts so far, last part first, inside the substitutions that are open. -/
structure Scan where
  frame : Frame
  outer : List Frame
  parts : Word
  holders : List (Holder × Word)
  quoted : Bool

namespace Scan

def start (mode : Mode) : Scan :=
  ⟨.fresh mode (mode == .double) false, [], .done, [], false⟩

def literal (s : Scan) (b : UInt8) (escaped : Bool) : Scan :=
  { s with parts := .literal b escaped s.parts }

def openHolder (s : Scan) (h : Holder) : Scan :=
  { s with parts := .done, holders := (h, s.parts) :: s.holders }

/-- Completes the innermost substitution. -/
def closeHolder (s : Scan) : Scan :=
  match s.holders with
  | (.parameter p, before) :: holders =>
      { s with parts := .parameter p s.parts.reverse before, holders }
  | (.sum, before) :: holders => { s with parts := .sum s.parts.reverse before, holders }
  | [] => s

def enter (s : Scan) (frame : Frame) : Scan :=
  { s with frame, outer := s.frame :: s.outer }

def leave (s : Scan) : Scan :=
  match s.outer with
  | frame :: outer => { s with frame, outer }
  | [] => s

/-- Opens or closes quotes. In a text that follows a line they leave no trace. -/
def toggleQuote (s : Scan) (inDocument : Bool) : Scan :=
  if inDocument then s else { s with parts := .quote s.parts }

/-- Passes a double quote, which inside braces counts towards what a brace means. -/
def toggleDouble (s : Scan) (inDocument : Bool) : Scan :=
  let s := if s.frame.braces = 0 then s
    else { s with frame := { s.frame with innerQuote := !s.frame.innerQuote } }
  s.toggleQuote inDocument

/-- The treatment that a sign behind a name asks for. -/
def treatment? : UInt8 → Option Treatment := fun b =>
  if b == byte '\x7d' then some .plain
  else if b == byte '-' then some .otherwise
  else if b == byte '+' then some .instead
  else if b == byte '?' then some .demand
  else if b == byte '=' then some .assign
  else none

/-- Opens the braces of a parameter whose operand goes on under the rules of `mode`. -/
def openBraces (s : Scan) (p : Parameter) (mode : Mode) : Scan :=
  let s := if mode != s.frame.mode || s.frame.innerQuote then
      s.enter (.fresh mode (mode != .plain) true)
    else s
  let frame := { s.frame with
    braces := s.frame.braces + 1
    quotedBraces := s.frame.quotedBraces + if s.frame.doubled then 1 else 0 }
  { s with frame }.openHolder (.parameter p)

/-- Passes a closing brace. -/
def closeBrace (s : Scan) : Scan :=
  if s.frame.innerQuote || s.frame.braces = 0 then s.literal (byte '\x7d') false
  else
    let braces := s.frame.braces - 1
    let s := s.closeHolder
    if braces = 0 && s.frame.pushed then s.leave
    else { s with frame := { s.frame with braces, quotedBraces := s.frame.quotedBraces - 1 } }

end Scan

namespace Reader

/-- The name of a parameter, and whether its length is asked for. Without braces a number has one
digit. Nothing is taken of what cannot be a name. -/
def parameterName (braced : Bool) (fuel : Nat) : Read (Option (Bytes × Bool)) := do
  let named (b : UInt8) (measured : Bool) : Read (Option (Bytes × Bool)) := do
    if isNameStart b then pure (some (← takeRun isNameByte fuel [], measured))
    else if braced then pure (some (← takeRun isDigit fuel [], measured))
    else
      skip
      pure (some ([b], measured))
  match ← peek with
  | .byte b =>
      if isNameStart b || isDigit b then named b false
      else if b == byte '\x7d' then pure none
      else
        skip
        let hash := braced && b == byte '#'
        match ← peek with
        | .byte c =>
            if hash && (isNameStart c || isDigit c) then named c true
            else if hash then
              let here ← get
              skip
              if c != byte '\x7d' && (← isNext (byte '\x7d')) then
                pure (if isSpecialName c then some ([c], true) else none)
              else
                set here
                pure (some ([b], false))
            else pure (if isSpecialName b then some ([b], false) else none)
        | _ => pure (if isSpecialName b then some ([b], false) else none)
  | _ => pure none

/-- Reads what stands behind the opening brace of a parameter, as far as its operand. -/
def bracedParameter (s : Scan) (fuel : Nat) : Read Scan := do
  let inner := if s.frame.mode == .sum then Mode.double else s.frame.mode
  match ← parameterName true fuel with
  | none => pure (s.openBraces ⟨[], .unknown, false⟩ inner)
  | some (name, true) =>
      let treatment := if ← isNext (byte '\x7d') then Treatment.length else .unknown
      pure (s.openBraces ⟨name, treatment, false⟩ inner)
  | some (name, false) =>
      let nonEmpty ← accept (byte ':')
      match ← peek with
      | .byte c =>
          if !nonEmpty && (c == byte '%' || c == byte '#') then
            skip
            let longest ← accept c
            let treatment := if c == byte '#' then Treatment.trimFront longest else .trimBack longest
            pure (s.openBraces ⟨name, treatment, false⟩ .plain)
          else
            skip
            let treatment := (Scan.treatment? c).getD .unknown
            if treatment == .plain && !nonEmpty then
              pure { s with parts := .parameter ⟨name, .plain, false⟩ .done s.parts }
            else pure (s.openBraces ⟨name, treatment, nonEmpty⟩ inner)
      | _ => pure (s.openBraces ⟨name, .unknown, false⟩ inner)

/-- Reads the statements of a command up to its bracket, and keeps them as they are written, with the
number of their first line. -/
def bracketedCommand (statements : Bool → Read Unit) : Read (Bytes × Nat) := do
  let before ← get
  set { before with announced := [] }
  statements true
  let after ← get
  let text := (before.layers.head?.map Layer.rest).getD []
  let rest := (after.layers.head?.map Layer.rest).getD []
  set { before with layers := after.layers, line := after.line }
  pure (text.take (text.length - rest.length - 1), before.line)

/-- Reads a command up to its backquote, with the escapes that only serve to get it there taken
away. -/
def backquotedText (doubled : Bool) (fuel : Nat) (taken : Bytes) : Read Bytes := do
  let unfinished : Read Bytes := fail "EOF in backquote substitution"
  match fuel with
  | 0 => unfinished
  | fuel + 1 =>
      match ← peek with
      | .byte b =>
          skip
          if b == byte '\x60' then pure taken.reverse
          else if b == byte '\\' then
            match ← peekRaw with
            | .byte c =>
                skip
                let drops := c == byte '\\' || c == byte '\x60' || c == byte '$' ||
                  (doubled && c == byte '\x22')
                backquotedText doubled fuel (if drops then c :: taken else c :: b :: taken)
            | _ => unfinished
          else
            if b == Text.newline then countLine
            backquotedText doubled fuel (b :: taken)
      | _ => unfinished

/-- Reads a command between backquotes. Its lines are counted from one. -/
def backquotedCommand (statements : Bool → Read Unit) (doubled : Bool) (fuel : Nat) :
    Read Bytes := do
  let source ← backquotedText doubled fuel []
  let outer ← get
  set (start source 1 outer.aliases outer.documents)
  statements false
  set outer
  pure source

/-- Reads what a dollar sign begins, the sign itself being taken. -/
def substitution (statements : Bool → Read Unit) (s : Scan) (fuel : Nat) : Read Scan := do
  let sign : Read Scan := pure (s.literal (byte '$') false)
  if (← get).checks.endMark then sign
  else match ← peek with
    | .byte b =>
        if b == byte '(' then
          skip
          if ← accept (byte '(') then
            pure ((s.enter (.fresh .sum true false)).openHolder .sum)
          else
            let (source, line) ← bracketedCommand statements
            pure { s with parts := .command source line s.parts }
        else if b == byte '\x7b' then
          skip
          bracedParameter s fuel
        else if isNameStart b || isSpecialName b then
          match ← parameterName false fuel with
          | some (name, _) =>
              pure { s with parts := .parameter ⟨name, .plain, false⟩ .done s.parts }
          | none => sign
        else sign
    | _ => sign

/-- Reads what a backslash escapes, the backslash itself being taken. -/
def escape (inDocument : Bool) (s : Scan) : Read Scan := do
  match ← peekRaw with
  | .byte c =>
      skip
      let frame := s.frame
      let keeps := frame.doubled && c != byte '\\' && c != byte '\x60' && c != byte '$' &&
        (c != byte '\x22' || (inDocument && frame.braces = 0)) &&
        (c != byte '\x7d' || frame.braces = 0)
      let s := if keeps then s.literal (byte '\\') true else s
      pure { s.literal c true with quoted := true }
  | _ => pure (s.literal (byte '\\') true)

/-- Passes over tabs. -/
def skipTabs (fuel : Nat) : Read Unit := do
  match fuel with
  | 0 => pure ()
  | fuel + 1 =>
      if (← peekRaw) == .byte (byte '\t') then
        skip
        skipTabs fuel

/-- Takes the line that begins here if it is the end mark of a text. -/
def acceptMark (a : Announced) (fuel : Nat) : Read Bool := do
  if a.dropsTabs then skipTabs fuel
  let r ← get
  match r.layers with
  | layer :: outer =>
      if a.mark.isPrefixOf layer.rest then
        match layer.rest.drop a.mark.length with
        | [] =>
            set { r with layers := { layer with rest := [] } :: outer, line := r.line + 1 }
            pure true
        | b :: rest =>
            if b == Text.newline then
              set { r with layers := { layer with rest } :: outer, line := r.line + 1 }
              pure true
            else pure false
      else pure false
  | [] => pure false

/-- Reads on to the end of a word, or of a text with an end mark. The statements of a command inside
are read by `statements`, up to their bracket if it is given `true`. -/
def scan (statements : Bool → Read Unit) (document : Option Announced) (fuel : Nat) (s : Scan) :
    Read Scan := do
  let inDocument := document.isSome
  match fuel with
  | 0 => fail "Unterminated quoted string"
  | fuel + 1 =>
      let glyph ← if s.frame.mode == .single then peekRaw else peek
      match glyph with
      | .finish => pure s
      | .seam =>
          if s.frame.mode == .plain && s.frame.braces = 0 then pure s
          else
            skip
            scan statements document fuel s
      | .byte b =>
          let go (s : Scan) : Read Scan := do
            skip
            scan statements document fuel s
          match s.frame.mode.role b with
          | .newline =>
              if s.frame.mode == .plain && s.frame.braces = 0 then pure s
              else
                skip
                countLine
                let s := s.literal b false
                match document with
                | some a =>
                    if s.frame.mode != .single then
                      let _ ← peek
                    if ← acceptMark a fuel then pure s else scan statements document fuel s
                | none => scan statements document fuel s
          | .ordinary => go (s.literal b false)
          | .escaped => go (s.literal b (!inDocument || s.frame.doubled))
          | .backslash =>
              skip
              scan statements document fuel (← escape inDocument s)
          | .opensSingle =>
              go ({ s with frame := { s.frame with mode := .single } }.toggleQuote inDocument)
          | .opensDouble =>
              go ({ s with frame := { s.frame with mode := .double, doubled := true } }.toggleDouble
                inDocument)
          | .closesQuote =>
              if inDocument && s.frame.braces = 0 then go (s.literal b false)
              else
                let s := if s.frame.quotedBraces = 0 then
                    { s with frame := { s.frame with mode := .plain, doubled := false } }
                  else s
                let s := { s with quoted := true }
                go (if b == byte '\x22' then s.toggleDouble inDocument else s.toggleQuote inDocument)
          | .dollar =>
              skip
              scan statements document fuel (← substitution statements s fuel)
          | .backquote =>
              skip
              if (← get).checks.endMark then
                scan statements document fuel (s.literal b false)
              else
                let source ← backquotedCommand statements s.frame.doubled fuel
                scan statements document fuel { s with parts := .command source 1 s.parts }
          | .closesBrace => go s.closeBrace
          | .opensParen =>
              go ({ s with frame := { s.frame with parens := s.frame.parens + 1 } }.literal b false)
          | .closesParen =>
              if 0 < s.frame.parens then
                go ({ s with frame := { s.frame with parens := s.frame.parens - 1 } }.literal b false)
              else
                skip
                if ← accept (byte ')') then
                  scan statements document fuel s.closeHolder.leave
                else scan statements document fuel (s.literal b false)
          | .ends => if s.frame.braces = 0 then pure s else go (s.literal b false)

/-- The word that a scan comes to, if everything in it was closed. -/
def closed (s : Scan) (inDocument : Bool) : Read Word := do
  if s.frame.mode == .sum then fail "Missing '))'"
  else if s.frame.mode != .plain && !inDocument then fail "Unterminated quoted string"
  else if s.frame.braces ≠ 0 then fail "Missing '\x7d'"
  else pure s.parts.reverse

/-- Reads the texts that were announced. -/
def readAnnounced (statements : Bool → Read Unit) (fuel : Nat) : Read Unit := do
  let announced := (← get).announced
  modify fun r => { r with announced := [] }
  for a in announced do
    let mode := if a.expands then Mode.double else .single
    if a.expands then
      let _ ← peek
    let word ← if ← acceptMark a fuel then pure .done
      else closed (← scan statements (some a) fuel (Scan.start mode)) true
    modify fun r => { r with documents := r.documents.setIfInBounds a.number word }

end Reader

end RestrictedShell.Host.Script
