import RestrictedShell.Log.Entry
import RestrictedShell.Text.Alphanumeric
import RestrictedShell.Text.Blank
/-!
One directive of a log filter: `warn`, `shell`, `shell=warn`, `shell[span{field=value}]=warn`, or a
part of the last. What is read is what the parts say; whether an entry is shown is left to the
filter.
-/

namespace RestrictedShell.Log

/-- A field that an entry must have, and the value it must have there, if one is given. -/
structure FieldTest where
  name : String
  value : Option String
deriving DecidableEq, Repr

/-- Shows entries up to `level` if they are about a part of the program whose name begins with
`target`, happen within `span`, and pass the tests on their fields. What is absent does not
restrict; without a level nothing is shown. -/
structure Directive where
  target : Option String
  span : Option String
  fields : List FieldTest
  level : Option Level
deriving DecidableEq, Repr

/-- Why a text is not a directive. -/
inductive DirectiveError where
  | form
  | level
deriving DecidableEq, Repr

namespace DirectiveError

def levelMessage : String :=
  "error parsing level filter: expected one of \"off\", \"error\", \"warn\", \"info\", \"debug\", " ++
    "\"trace\", or a number 0-5"

/-- The error as it is reported, with its cause where it has one. -/
def message : DirectiveError → String
  | form => "invalid filter directive"
  | level => levelMessage ++ "\n\nCaused by:\n    " ++ levelMessage

end DirectiveError

namespace Directive

/-- Restricts nothing and shows everything. -/
def everything : Directive := ⟨none, none, [], some .trace⟩

/-- A decimal number with at most one plus sign in front. -/
def number? (text : String) : Option Nat :=
  let digits := match text.toList with
    | '+' :: rest => rest
    | cs => cs
  if digits ≠ [] ∧ digits.all Char.isDigit then
    some (digits.foldl (fun n c => n * 10 + (c.toNat - 48)) 0)
  else none

/-- The levels by name and by digit, `off` and `0` included. The outer `none` means that the text is
no level. -/
def levelOfText? (text : String) : Option (Option Level) :=
  let names := ("off", none) :: Level.all.map fun l => (l.label.trimAscii.toString.toLower, some l)
  match number? text with
  | some 0 => some none
  | some n => (Level.all.find? fun l => l.verbosity == n).map some
  | none => if text = "" then some (some .error) else names.lookup text.toLower

/-- The level behind `=`. Nothing there stands for all levels. -/
def levelPart (text : String) : Except DirectiveError (Option Level) :=
  if text = "" then .ok (some .trace)
  else match levelOfText? text with
    | some level => .ok level
    | none => .error .level

/-- A directive without marks: a level, or a target of which everything is shown. -/
def ofWord (word : String) : Directive :=
  match levelOfText? word with
  | some level => { everything with level := level }
  | none => { everything with target := some word }

/-- A test on a field: a name, and a value behind `=`, which ends at a second `=`. -/
def fieldPart (text : String) : Except DirectiveError FieldTest :=
  match text.splitOn "=" with
  | name :: value :: _ => .ok ⟨name, some value⟩
  | [_] | [] => if text = "" then .error .form else .ok ⟨text, none⟩

/-- The part of a directive that is being read, and the place where it begins. -/
inductive Part where
  | start
  | word (first : Nat)
  | span (first : Nat)
  | field (first : Nat)
  | fields
  | closed
  | level (first : Nat)
deriving DecidableEq, Repr

/-- May a directive begin with this character? -/
def isStart (c : Char) : Bool :=
  c == '-' || c == ':' || c == '_' || Text.isAlphanumeric c

/-- The bytes from one place to another, as text. -/
def slice (whole : Bytes) (first last : Nat) : Except DirectiveError String :=
  match Text.decode? ((whole.take last).drop first) with
  | some text => .ok text
  | none => .error .form

/-- Takes one character, which stands at the place `here`. -/
def step (whole : Bytes) (here : Nat) (c : Char) (d : Directive) :
    Part → Except DirectiveError (Part × Directive)
  | .start =>
      if c = '[' then .ok (.span (here + 1), d)
      else if isStart c then .ok (.word here, d)
      else .error .form
  | .word first =>
      if c = '=' then do
        pure (.level (here + 1), { d with target := some (← slice whole first here) })
      else if c = '[' then do
        pure (.span (here + 1), { d with target := some (← slice whole first here) })
      else .ok (.word first, d)
  | .span first =>
      if c = ']' then do
        pure (.closed, { d with span := some (← slice whole first here) })
      else if c = '\x7b' then do
        let name ← slice whole first here
        pure (.field (here + 1), { d with span := if name = "" then none else some name })
      else .ok (.span first, d)
  | .field first =>
      if c = '\x7d' then do
        let test ← fieldPart (← slice whole first here)
        pure (.fields, { d with fields := d.fields ++ [test] })
      else .ok (.field first, d)
  | .fields => if c = ']' then .ok (.closed, d) else .error .form
  | .closed => if c = '=' then .ok (.level (here + 1), d) else .error .form
  | .level first => .ok (.level first, d)

/-- What has been read at the end of the text. -/
def finish (whole : Bytes) (d : Directive) : Part → Except DirectiveError Directive
  | .word first => (slice whole first whole.length).map ofWord
  | .level first => do
      pure { d with level := ← levelPart (← slice whole first whole.length) }
  | .closed => .ok d
  | .start | .span _ | .field _ | .fields => .error .form

/-- Reads on at the place `here`. -/
def readFrom (whole : Bytes) (here : Nat) (part : Part) (d : Directive) :
    List Char → Except DirectiveError Directive
  | [] => finish whole d part
  | c :: rest =>
      match step whole here c d part with
      | .error e => .error e
      | .ok (part, d) => readFrom whole (here + c.utf8Size) part d rest

/-- The text without the blanks at both ends. -/
def trim (text : List Char) : List Char :=
  ((text.dropWhile Text.isBlank).reverse.dropWhile Text.isBlank).reverse

/-- Reads one directive. Blanks around it are passed over in looking for marks but are counted in
cutting the text, so that a blank in front moves every part by one place. -/
def ofText (text : String) : Except DirectiveError Directive :=
  readFrom (Text.encode text) 0 .start everything (trim text.toList)

/-- Does it restrict to a span or to the value of a field? What does can show no entry that stands
outside all spans, and here all do. -/
def isScoped (d : Directive) : Bool :=
  d.span.isSome || d.fields.any fun test => test.value.isSome

/-- Does it say anything about the entry? -/
def concerns (d : Directive) (e : Entry) : Bool :=
  !d.isScoped &&
    (d.target.all fun target => target.toList.isPrefixOf e.target.toList) &&
    d.fields.all fun test => e.fieldNames.contains test.name

/-- How far it restricts: by the length of its target first, then by the number of its tests. -/
def rank (d : Directive) : Nat × Nat :=
  (d.target.elim 0 fun target => target.utf8ByteSize + 1, d.fields.length)

/-- Does it go before another one, given earlier, where both have something to say? Equal targets and
tests replace what was given before; otherwise the later names in the order of text go first. -/
def overrides (later earlier : Directive) : Bool :=
  if later.rank = earlier.rank then
    !decide ((later.fields.map FieldTest.name) < (earlier.fields.map FieldTest.name))
  else
    decide (earlier.rank.1 < later.rank.1) ||
      (earlier.rank.1 == later.rank.1 && decide (earlier.rank.2 < later.rank.2))

end Directive

end RestrictedShell.Log
