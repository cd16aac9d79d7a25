import RestrictedShell.Host.Process
import RestrictedShell.Host.QuotedName
/-!
What the installed programs have in common: options, operands and complaints. An option goes by a
letter behind a dash, or by a name behind two dashes, of which as much has to be given as tells it from
all others.
-/

namespace RestrictedShell.Host.Utility

/-- How a program ends: with a code, or by becoming another program with these words. -/
inductive Ending where
  | exited (code : Nat)
  | becomes (argv : List Bytes)
deriving DecidableEq, Repr

/-- A program: the name it was called by, its arguments, and how it ends. -/
abbrev Program := Bytes → List Bytes → System Ending

/-- A program that ends with a code. -/
def coded (body : Bytes → List Bytes → System Nat) : Program := fun self args => do
  pure (.exited (← body self args))

/-- The bytes of a text. -/
abbrev ascii (text : String) : Bytes :=
  Text.encode text

/-- Hands on what is printed so far. If it could not be printed because there was no space, that is still
known in the end, but no longer why. -/
def settle : System Unit :=
  modify fun p => { p with trouble := if p.trouble = some .noSpace then some 0 else p.trouble }

/-- Writes a line to the error output, behind the program's name. -/
def complain (self : Bytes) (message : Bytes) : System Unit := do
  settle
  System.write 2 (self ++ ascii ": " ++ message ++ [Text.newline])

/-- The text of a failure. -/
def reason (e : Errno) : Bytes :=
  ascii (e.text.getD "Unknown error")

/-- Tells how to learn about the program's use. -/
def pointToHelp (self : Bytes) : System Unit :=
  System.write 2 (ascii "Try '" ++ self ++ ascii " --help' for more information.\n")

/-- Does an option take a value? One that may take it has it in the same word. -/
inductive Taking where
  | nothing
  | value
  | optional
deriving DecidableEq, Repr

/-- An option. Its key is the same for all ways to write it. -/
structure Switch where
  key : Char
  short : Bool
  long : Option String
  taking : Taking
deriving DecidableEq, Repr

namespace Switch

/-- An option without a value, with a letter and a name. -/
def both (key : Char) (name : String) : Switch := ⟨key, true, some name, .nothing⟩

/-- An option that only has a letter. -/
def letter (key : Char) : Switch := ⟨key, true, none, .nothing⟩

/-- An option that only has a name. -/
def named (key : Char) (name : String) : Switch := ⟨key, false, some name, .nothing⟩

/-- An option that takes a value. -/
def valued (key : Char) (name : String) : Switch := ⟨key, true, some name, .value⟩

end Switch

/-- An option that was given, with its value. -/
structure Given where
  key : Char
  value? : Option Bytes
deriving DecidableEq, Repr

/-- What is wrong with an option. -/
inductive Misuse where
  | unknownLetter (letter : UInt8)
  | missingLetterValue (letter : UInt8)
  | unknownName (word : Bytes)
  | ambiguous (word : Bytes) (names : List String)
  | missingNameValue (name : String)
  | needlessValue (name : String)
deriving DecidableEq, Repr

def Misuse.message : Misuse → Bytes
  | .unknownLetter letter => ascii "invalid option -- '" ++ [letter] ++ ascii "'"
  | .missingLetterValue letter => ascii "option requires an argument -- '" ++ [letter] ++ ascii "'"
  | .unknownName word => ascii "unrecognized option '" ++ word ++ ascii "'"
  | .ambiguous word names =>
      ascii "option '" ++ word ++ ascii "' is ambiguous; possibilities:" ++
        names.flatMap fun name => ascii (" '--" ++ name ++ "'")
  | .missingNameValue name => ascii ("option '--" ++ name ++ "' requires an argument")
  | .needlessValue name => ascii ("option '--" ++ name ++ "' doesn't allow an argument")

def charByte (c : Char) : UInt8 :=
  c.toNat.toUInt8

/-- Reads the letters of one argument behind its dash, as far as they are options. The value of the last
may be the next argument. -/
def readLetters (known : List Switch) (later : List Bytes) :
    Bytes → List Given × Except Misuse (List Bytes)
  | [] => ([], .ok later)
  | b :: rest =>
      match known.find? fun s => s.short && charByte s.key == b with
      | none => ([], .error (.unknownLetter b))
      | some s =>
          match s.taking with
          | .nothing =>
              let (given, later) := readLetters known later rest
              (⟨s.key, none⟩ :: given, later)
          | .optional => ([⟨s.key, if rest = [] then none else some rest⟩], .ok later)
          | .value =>
              if rest ≠ [] then ([⟨s.key, some rest⟩], .ok later)
              else match later with
                | value :: later => ([⟨s.key, some value⟩], .ok later)
                | [] => ([], .error (.missingLetterValue b))

/-- The options whose names begin with a text; one whose name is the text is meant alone. -/
def meant (known : List Switch) (text : Bytes) : List (String × Switch) :=
  let named := known.filterMap fun s => s.long.map (·, s)
  match named.find? fun entry => ascii entry.1 == text with
  | some entry => [entry]
  | none => named.filter fun entry => text.isPrefixOf (ascii entry.1)

/-- Reads an option given by its name. -/
def readName (known : List Switch) (word : Bytes) (later : List Bytes) :
    Except Misuse (Given × List Bytes) :=
  let name := (word.drop 2).takeWhile (· != 0x3D)
  let value? := ((word.drop 2).drop name.length).tail?
  let chosen (name : String) (s : Switch) : Except Misuse (Given × List Bytes) :=
    match s.taking, value?, later with
    | .nothing, none, _ => .ok (⟨s.key, none⟩, later)
    | .nothing, some _, _ => .error (.needlessValue name)
    | .optional, value?, _ | .value, some value?, _ => .ok (⟨s.key, value?⟩, later)
    | .value, none, value :: later => .ok (⟨s.key, some value⟩, later)
    | .value, none, [] => .error (.missingNameValue name)
  match meant known name with
  | [] => .error (.unknownName word)
  | [(name, s)] => chosen name s
  | (name, s) :: others =>
      if others.all fun o => o.2.key == s.key then chosen name s
      else .error (.ambiguous word (name :: others.map Prod.fst))

/-- Sorts arguments into options and operands, as far as the options are known. Two dashes end the
options; so does the first operand if `stops`. The fuel bounds the number of arguments. -/
def readOptions (known : List Switch) (stops : Bool) (fuel : Nat) (args : List Bytes) :
    List Given × Except Misuse (List Bytes) :=
  match fuel, args with
  | 0, _ | _, [] => ([], .ok args)
  | fuel + 1, arg :: later =>
      match arg with
      | [0x2D, 0x2D] => ([], .ok later)
      | 0x2D :: 0x2D :: _ =>
          match readName known arg later with
          | .error misuse => ([], .error misuse)
          | .ok (given, later) =>
              let (more, operands) := readOptions known stops fuel later
              (given :: more, operands)
      | 0x2D :: b :: rest =>
          match readLetters known later (b :: rest) with
          | (given, .error misuse) => (given, .error misuse)
          | (given, .ok later) =>
              let (more, operands) := readOptions known stops fuel later
              (given ++ more, operands)
      | _ =>
          if stops then ([], .ok args)
          else
            let (given, operands) := readOptions known stops fuel later
            (given, operands.map (arg :: ·))

/-- Complains about an option and ends with `code`. -/
def refuse (self : Bytes) (code : Nat) (misuse : Misuse) : System Nat := do
  complain self misuse.message
  pointToHelp self
  pure code

/-- Runs a program on its options and operands, after a look at every option in turn. The first thing that
is wrong with one ends it: a complaint by `check`, which tells the code to end with, or an option that
there is not. -/
def withChecked (known : List Switch) (stops : Bool) (code : Nat)
    (check : Given → System (Option Nat)) (self : Bytes) (args : List Bytes)
    (body : List Given → List Bytes → System Nat) : System Nat := do
  let (given, operands?) := readOptions known stops (args.length + 1) args
  let mut trouble : Option Nat := none
  for g in given do
    if trouble.isNone then trouble ← check g
  match trouble, operands? with
  | some code, _ => pure code
  | none, .error misuse => refuse self code misuse
  | none, .ok operands => body given operands

/-- Runs a program on its options and operands, or complains about them and ends with `code`. -/
def withOptions (known : List Switch) (code : Nat) (self : Bytes) (args : List Bytes)
    (body : List Given → List Bytes → System Nat) : System Nat :=
  withChecked known false code (fun _ => pure none) self args body

def has (given : List Given) (key : Char) : Bool :=
  given.any fun g => g.key == key

/-- The value of an option; the last one counts. -/
def value? (given : List Given) (key : Char) : Option Bytes :=
  (given.filter fun g => g.key == key).getLast?.bind Given.value?

/-- All values of an option. -/
def values (given : List Given) (key : Char) : List Bytes :=
  (given.filter fun g => g.key == key).filterMap Given.value?

/-- The last of some options that was given. -/
def last? (given : List Given) (keys : List Char) : Option Char :=
  ((given.filter fun g => keys.contains g.key).getLast?).map Given.key

/-- Does every operand in turn, and ends with 1 if any of them failed. -/
def forEach (operands : List Bytes) (body : Bytes → System Bool) : System Nat := do
  let mut code := 0
  for operand in operands do
    if !(← body operand) then code := 1
  pure code

/-- Says that something cannot be done to a file. -/
def cannot (self : Bytes) (verb : String) (path : Bytes) (e : Errno) : System Bool := do
  complain self (ascii ("cannot " ++ verb ++ " ") ++ QuotedName.always path ++ ascii ": " ++ reason e)
  pure false

/-- Says that an operand is missing, maybe behind another. -/
def missingOperand (self : Bytes) (what : String) (after : Option Bytes) : System Nat := do
  let tail := match after with
    | some operand => ascii " after " ++ QuotedName.always operand
    | none => []
  complain self (ascii ("missing " ++ what) ++ tail)
  pointToHelp self
  pure 1

/-- Complains about an operand for which there is no use. -/
def extraOperand (self : Bytes) (operand : Bytes) : System Nat := do
  complain self (ascii "extra operand " ++ QuotedName.inText operand)
  pointToHelp self
  pure 1

/-- The lines of a text, each with its newline if it has one. -/
def linesOf (bytes : Bytes) : List Bytes :=
  let cut := bytes.foldr (fun b (acc : Bytes × List Bytes) =>
    if b == Text.newline then ([b], if acc.1 = [] then acc.2 else acc.1 :: acc.2)
    else (b :: acc.1, acc.2)) ([], [])
  if cut.1 = [] then cut.2 else cut.1 :: cut.2

/-- A number, with blanks in front up to a width. -/
def right (width : Nat) (n : Nat) : Bytes :=
  let digits := ascii n.repr
  List.replicate (width - digits.length) 0x20 ++ digits

/-- Does an operand name the standard input? -/
def isInput (operand : Bytes) : Bool :=
  operand = [0x2D]

/-- Opens an operand for reading, a single dash being the standard input, and gives the descriptor to
read from. -/
def openOperand (operand : Bytes) : System (Except Errno Nat) := do
  if isInput operand then
    if ((← get).openFile? 0).isSome then pure (.ok 0) else pure (.error .badDescriptor)
  else
    match ← System.openPath operand .read with
    | .error e => pure (.error e)
    | .ok index =>
        let fd := 3 + (← get).descriptors.foldl (fun n d => max n d.1) 0
        modify fun p => p.attach fd index
        pure (.ok fd)

/-- Closes what `openOperand` opened. -/
def closeOperand (fd : Nat) : System Unit :=
  if fd = 0 then pure () else modify fun p => p.detach fd

/-- Prints, and tells whether that was possible. -/
def put (bytes : Bytes) : System Bool := do
  System.write 1 bytes
  pure (← get).trouble.isNone

/-- The standard input in the stead of no operands. -/
def orInput (operands : List Bytes) : List Bytes :=
  if operands = [] then [[0x2D]] else operands

/-- Finds the one of some groups of words that a value means; it may be cut short. Complains if there is
none, or more than one. -/
def chooseAmong (self : Bytes) (option : String) (groups : List (List String)) (value : Bytes) :
    System (Option String) := do
  let fitting := groups.filter fun words => words.any fun w => value.isPrefixOf (ascii w)
  let exact := groups.filter fun words => words.any fun w => ascii w == value
  match exact, fitting with
  | words :: _, _ | [], [words] => pure words.head?
  | [], _ =>
      complain self (ascii (if fitting = [] then "invalid" else "ambiguous") ++ ascii " argument " ++
        QuotedName.inText value ++ ascii (" for '--" ++ option ++ "'"))
      System.write 2 (ascii "Valid arguments are:\n")
      for words in groups do
        System.write 2 (ascii ("  - " ++ ", ".intercalate (words.map fun w => "'" ++ w ++ "'") ++ "\n"))
      pointToHelp self
      pure none

/-- Everything in a file, or everything left in the standard input for a single dash. -/
def readOperand (operand : Bytes) : System (Except Errno Bytes) := do
  match ← openOperand operand with
  | .error e => pure (.error e)
  | .ok fd =>
      let bytes ← System.readAll fd
      closeOperand fd
      pure bytes

end RestrictedShell.Host.Utility
