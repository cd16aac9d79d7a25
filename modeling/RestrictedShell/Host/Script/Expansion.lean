import RestrictedShell.Host.Script.Arithmetic
import RestrictedShell.Host.Script.Paths
/-!
What words become: parameters, commands and sums are put in, values are cut into arguments, and
patterns are replaced by the paths that match them. How the commands in a word are carried out is a
parameter.
-/

namespace RestrictedShell.Host.Script

/-- How a word is taken: whether values in it may be cut, whether all of it counts as quoted, whether it
is the operand of a parameter, and whether it assigns something. -/
structure Manner where
  splits : Bool
  quoted : Bool
  operand : Bool
  assigns : Bool
deriving DecidableEq, Repr

namespace Manner

def argument : Manner := ⟨true, false, false, false⟩
def text : Manner := ⟨false, false, false, false⟩
def assignment : Manner := ⟨false, false, false, true⟩
def document : Manner := ⟨false, true, false, false⟩

end Manner

/-- Carries out a command, given as it is written with the number of its first line, and gives what it
prints. -/
abbrev Capture := Bytes → Nat → Run Bytes

abbrev Drafting := StateT Draft Run

namespace Expansion

/-- Adds the bytes of a value. Between quotes they have no special meaning. -/
def pushValue (quoted : Bool) (bytes : Bytes) : Drafting Unit :=
  modify fun d => { d with
    cells := bytes.foldl (fun cells b =>
      let escaped := quoted && ((Scan.Mode.double.role b == .escaped) || b == byte '\\')
      cells.push (.byte b escaped)) d.cells }

def place : Drafting Nat := do
  pure (← get).size

/-- Drops what was added from a place on, and gives its bytes. -/
def takeFrom (place : Nat) : Drafting Bytes := do
  let d ← get
  set ((d.takeBack place).unmark place)
  pure (d.bytesFrom place)

/-- What separates the arguments of the script where they all stand in one word; `some 0` keeps them
apart. -/
def separator? (s : Shell) (all : UInt8) (m : Manner) (quoted : Bool) : Option UInt8 :=
  if all == byte '@' && quoted && m.splits then some 0
  else match s.separators? with
    | none => some (byte ' ')
    | some separators => if m.splits && !quoted then some 0 else separators.head?

/-- The value of a parameter. -/
def value? (s : Shell) (name : Bytes) (m : Manner) (quoted : Bool) : Option Bytes :=
  match name with
  | [b] =>
      if b == byte '@' || b == byte '*' then
        some ((separator? s b m quoted).toList.intercalate s.arguments)
      else if b == byte '$' then some (decimalBytes s.root)
      else if b == byte '?' then some (decimalBytes s.status)
      else if b == byte '#' then some (decimalBytes s.arguments.length)
      else if b == byte '!' then s.lastJob.map fun n => decimalBytes n
      else if b == byte '-' then
        some (Setting.all.reverse.filterMap fun entry =>
          if s.has entry.1 then entry.2.2.map byte else none)
      else numbered b
  | [] => none
  | b :: _ => numbered b
where
  /-- A parameter that goes by a number, or a variable. -/
  numbered (b : UInt8) : Option Bytes :=
    if isDigit b then
      match decimalValue name with
      | 0 => some s.name
      | n + 1 => s.arguments[n]?
    else s.value? name

/-- Adds the value of a parameter, and gives its length. -/
def pushParameter (p : Parameter) (m : Manner) (quoted : Bool) : Drafting (Option Nat) := do
  let isLength := p.treatment == .length
  let whole : Manner := { m with splits := m.splits && !isLength }
  match value? (← getThe Shell) p.name whole (quoted || isLength) with
  | none => pure none
  | some bytes =>
      if p.treatment != .instead && p.treatment != .length then pushValue quoted bytes
      pure (some bytes.length)

/-- Fails because a parameter is not set. -/
def unset {α : Type} (p : Parameter) : Drafting α :=
  Run.fail (p.name ++ ascii ": parameter not set")

/-- What is left of a value when the part that matches a pattern is removed from one of its ends. -/
def trim (pattern : Pattern) (front longest : Bool) (value : Bytes) : Bytes :=
  let lengths := List.range (value.length + 1)
  let lengths := if longest then lengths.reverse else lengths
  if front then
    match lengths.find? fun n => pattern.accepts (value.take n) with
    | some n => value.drop n
    | none => value
  else
    match lengths.find? fun n => pattern.accepts (value.drop (value.length - n)) with
    | some n => value.take (value.length - n)
    | none => value

/-- The directory that a name behind a tilde stands for. -/
def homeOf (s : Shell) (name : Bytes) : Option Bytes :=
  if name = [] then s.value? (ascii "HOME")
  else if name = ascii "root" then some (ascii "/root")
  else none

/-- The name that follows a tilde, up to a slash or the end. -/
def tildeName? (assigns : Bool) : Word → Option Bytes
  | .done => some []
  | .literal b false rest =>
      if b == byte '/' || (assigns && b == byte ':') then some []
      else (tildeName? assigns rest).map (b :: ·)
  | _ => none

/-- Marks a literal stretch that ends here, where operands may be cut. -/
def endStretch (m : Manner) (inQuotes : Bool) (start : Nat) : Drafting Unit := do
  if m.operand && !m.quoted && !inQuotes && start < (← get).size then
    modify fun d => d.mark start false

/-- Where a word is being taken: between quotes, behind the equals sign of an assignment, where a tilde
may stand, and where the current literal stretch began. `skipped` literal bytes are already done. -/
structure Spot where
  inQuotes : Bool
  assigned : Bool
  tilde : Bool
  start : Nat
  skipped : Nat

def Spot.at (place : Nat) : Spot :=
  ⟨false, false, false, place, 0⟩

/-- Marks the value of a parameter as one that may be cut. -/
def markValue (p : Parameter) (quoted : Bool) (start : Nat) : Drafting Unit := do
  let apart := p.name = [byte '@'] && !(← getThe Shell).arguments.isEmpty
  if !quoted || apart then
    modify fun d => d.mark start quoted

/-- Replaces a value that begins at a place by what is left of it without a part that matches a
pattern. -/
def trimValue (front longest : Bool) (start : Nat) (pushPattern : Drafting Unit) :
    Drafting Unit := do
  let behind ← place
  pushPattern
  let d ← get
  let pattern := Draft.patternOf (d.cells.toList.drop behind)
  let value := (d.cells.extract start behind).toList
  let bytes := Draft.bytesOf value
  let kept := (trim pattern front longest bytes).length
  let value := if front then value.drop (bytes.length - kept) else value.take kept
  set (value.foldl Draft.push ((d.takeBack start).unmark start))

/-- Adds what a parameter becomes. `pushOperand` adds what its operand becomes, and `bare` tells that
nothing is written there. -/
def parameter (m : Manner) (quoted : Bool) (p : Parameter) (bare : Bool)
    (pushOperand : Manner → Drafting Unit) : Drafting Unit := do
  let start ← place
  let length? ← pushParameter p m quoted
  let absent := length?.isNone || (p.nonEmpty && length? == some 0)
  let refuse : Drafting Unit := do
    if absent && (← getThe Shell).has .nounset then unset p
  match p.treatment with
  | .unknown => Run.fail (ascii "Bad substitution")
  | .instead =>
      if absent then markValue p quoted start
      else pushOperand { m with quoted, operand := true }
  | .otherwise =>
      if absent then pushOperand { m with quoted, operand := true }
      else markValue p quoted start
  | .assign =>
      if absent then
        pushOperand .text
        Run.assignNamed p.name (some (← takeFrom start)) false false
        let _ ← pushParameter p m quoted
      markValue p quoted start
  | .demand =>
      if absent then
        pushOperand .text
        let message ← takeFrom start
        Run.fail (p.name ++ ascii ": " ++
          if !bare then message
          else if p.nonEmpty then ascii "parameter not set or null"
          else ascii "parameter not set")
      markValue p quoted start
  | .plain =>
      refuse
      markValue p quoted start
  | .length =>
      refuse
      pushValue quoted (decimalBytes (length?.getD 0))
      markValue p quoted start
  | .trimFront longest =>
      refuse
      if !absent then
        trimValue true longest start (pushOperand .text)
        markValue p quoted start
  | .trimBack longest =>
      refuse
      if !absent then
        trimValue false longest start (pushOperand .text)
        markValue p quoted start

/-- Adds what a word becomes. -/
def expand (capture : Capture) (m : Manner) (spot : Spot) : Word → Drafting Unit
  | .done => endStretch m spot.inQuotes spot.start
  | .literal b false rest => do
      if 0 < spot.skipped then
        expand capture m { spot with skipped := spot.skipped - 1 } rest
      else
        let name? := if spot.tilde && b == byte '~' then tildeName? m.assigns rest else none
        let s ← getThe Shell
        match name?.bind fun name => (homeOf s name).map (name.length, ·) with
        | some (skipped, home) =>
            pushValue true home
            expand capture m { spot with tilde := false, start := (← place), skipped } rest
        | none =>
            modify fun d => d.push (.byte b false)
            let equals := m.assigns && !spot.assigned && b == byte '='
            let tilde := equals || (m.assigns && b == byte ':')
            expand capture m { spot with tilde, assigned := spot.assigned || equals } rest
  | .literal b true rest => do
      endStretch m spot.inQuotes spot.start
      modify fun d => d.push (.byte b true)
      expand capture m { spot with tilde := false, start := (← place) } rest
  | .quote (.parameter p operand (.quote rest)) => do
      endStretch m spot.inQuotes spot.start
      let pushOperand (m : Manner) : Drafting Unit := do
        expand capture m { Spot.at (← place) with tilde := true } operand
      if p.name == [byte '@'] && p.treatment == .plain && !spot.inQuotes then
        parameter m true p true pushOperand
      else
        modify fun d => d.push .quote
        parameter m (m.quoted || !spot.inQuotes) p (operand == .done) pushOperand
        modify fun d => d.push .quote
      expand capture m { spot with tilde := false, start := (← place) } rest
  | .quote rest => do
      endStretch m spot.inQuotes spot.start
      modify fun d => d.push .quote
      expand capture m
        { spot with inQuotes := !spot.inQuotes, tilde := false, start := (← place) } rest
  | .parameter p operand rest => do
      endStretch m spot.inQuotes spot.start
      let pushOperand (m : Manner) : Drafting Unit := do
        expand capture m { Spot.at (← place) with tilde := true } operand
      parameter m (m.quoted || spot.inQuotes) p (operand == .done) pushOperand
      expand capture m { spot with tilde := false, start := (← place) } rest
  | .command source line rest => do
      endStretch m spot.inQuotes spot.start
      let quoted := m.quoted || spot.inQuotes
      let here ← place
      let printed ← capture source line
      let kept := (printed.filter (· != 0)).reverse.dropWhile (· == Text.newline)
      pushValue quoted kept.reverse
      if !quoted then
        modify fun d => d.mark here false
      expand capture m { spot with tilde := false, start := (← place) } rest
  | .sum expression rest => do
      endStretch m spot.inQuotes spot.start
      let quoted := m.quoted || spot.inQuotes
      let here ← place
      expand capture .text (.at here) expression
      let text ← takeFrom here
      pushValue quoted (decimalBytes (← Arithmetic.eval text))
      if !quoted then
        modify fun d => d.mark here false
      expand capture m { spot with tilde := false, start := (← place) } rest

/-- What becomes of a whole word before it is cut. -/
def draft (capture : Capture) (m : Manner) (w : Word) : Run Draft := do
  let ((), d) ← (expand capture m { Spot.at 0 with tilde := !m.quoted } w).run .empty
  pure d

/-- The one text that a word becomes. -/
def text (capture : Capture) (m : Manner) (w : Word) : Run Bytes := do
  pure (← draft capture m w).bytes

/-- The pattern that a word becomes. -/
def pattern (capture : Capture) (w : Word) : Run Pattern := do
  pure (Draft.patternOf (← draft capture .text w).cells.toList)

/-- The arguments that a word becomes. -/
def fields (capture : Capture) (w : Word) : Run (List Bytes) := do
  let d ← draft capture .argument w
  let s ← get
  let pieces := d.cut (s.separators?.getD Shell.usualSeparators) none
  pure (pieces.flatMap fun cells =>
    let paths := if s.has .noglob then []
      else Paths.matching s.process.files s.process.dir (Draft.patternOf cells)
    if paths = [] then [Draft.bytesOf cells] else paths)

end Expansion

end RestrictedShell.Host.Script
