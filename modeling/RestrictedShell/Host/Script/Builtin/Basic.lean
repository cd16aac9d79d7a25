import RestrictedShell.Host.Script.State
/-!
What the commands that a shell carries out itself have in common: options, and texts in quotes.
-/

namespace RestrictedShell.Host.Script

/-- A command of the shell: its arguments, and the status it ends with. -/
abbrev Builtin := List Bytes → Run Nat

namespace Builtin

/-- An option by its letter, with its value if it takes one. -/
abbrev Choice := UInt8 × Bytes

/-- Which letters are options, and which of those take a value. -/
structure Letters where
  plain : String
  valued : String

/-- Reads the letters of one argument. The last of them may take its value from the next argument. -/
def letters (known : Letters) (later : List Bytes) : Bytes → Run (List Choice × List Bytes)
  | [] => pure ([], later)
  | b :: rest => do
      if (ascii known.plain).contains b then
        let (choices, later) ← letters known later rest
        pure ((b, []) :: choices, later)
      else if (ascii known.valued).contains b then
        match rest, later with
        | [], value :: later => pure ([(b, value)], later)
        | [], [] => Run.fail (ascii "No arg for -" ++ [b] ++ ascii " option")
        | value, later => pure ([(b, value)], later)
      else Run.fail (ascii "Illegal option -" ++ [b])

/-- Reads the options at the beginning of some arguments; two dashes end them. The fuel bounds the number
of arguments. -/
def choices (known : Letters) (fuel : Nat) (args : List Bytes) :
    Run (List Choice × List Bytes) := do
  match fuel, args with
  | fuel + 1, (0x2D :: b :: rest) :: later =>
      if b :: rest = ascii "-" then pure ([], later)
      else
        let (first, later) ← letters known later (b :: rest)
        let (more, later) ← choices known fuel later
        pure (first ++ more, later)
  | _, _ => pure ([], args)

/-- The options of a command and the arguments behind them. -/
def options (known : Letters) (args : List Bytes) : Run (List Choice × List Bytes) :=
  choices known (args.length + 1) args

def noLetters : Letters := ⟨"", ""⟩

/-- The arguments behind two dashes, for a command without options. -/
def operands (args : List Bytes) : Run (List Bytes) := do
  pure (← options noLetters args).2

def isChosen (chosen : List Choice) (letter : Char) : Bool :=
  chosen.any fun c => c.1 == byte letter

/-- A text in quotes, as a script would have to write it. Single quotes in it stand in double quotes. The
fuel bounds the number of parts. -/
def quote (fuel : Nat) (text : Bytes) : Bytes :=
  let single : UInt8 := byte '\x27'
  let head := text.takeWhile (· != single)
  let rest := text.drop head.length
  let first := single :: head ++ [single]
  match fuel, rest with
  | 0, _ | _, [] => first
  | fuel + 1, rest =>
      let marks := rest.takeWhile (· == single)
      let after := rest.drop marks.length
      let both := first ++ [byte '\x22'] ++ marks ++ [byte '\x22']
      if after = [] then both else both ++ quote fuel after

/-- A text in quotes. -/
def quoted (text : Bytes) : Bytes :=
  quote text.length text

/-- A name and a value, if a word assigns one. -/
def assignment (word : Bytes) : Bytes × Option Bytes :=
  let name := word.takeWhile (· != byte '=')
  (name, (word.drop name.length).tail? )

def printLine (line : Bytes) : Run Unit :=
  Run.print (line ++ [Text.newline])

/-- Writes a line to the error output, without the name of the script. -/
def report (message : Bytes) : Run Unit := do
  let _ ← Run.write 2 (message ++ [Text.newline])

end Builtin

end RestrictedShell.Host.Script
