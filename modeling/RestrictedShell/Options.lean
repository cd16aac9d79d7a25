import RestrictedShell.Options.Count
import RestrictedShell.Settings
/-!
The options of the program. Arguments are read from the left and the first error ends the reading.
An option that takes a value takes the next argument whatever it looks like, and takes it once.
-/

namespace RestrictedShell

/-- What the arguments chose. -/
structure Options where
  prompt : String
  commandsDir : String
  plain : Bool
  maxReadFailures : UInt32
  log : String
deriving DecidableEq, Repr

namespace Options

/-- The settings of the session; at least one failing read is allowed for. -/
def settings (o : Options) : Settings :=
  ⟨o.prompt, max o.maxReadFailures 1⟩

/-- An option that takes a value. -/
inductive Valued where
  | prompt
  | commandsDir
  | maxReadFailures
  | log
deriving DecidableEq, Repr

namespace Valued

def all : List Valued :=
  [prompt, commandsDir, maxReadFailures, log]

def flag : Valued → String
  | prompt => "--prompt"
  | commandsDir => "--commands-dir"
  | maxReadFailures => "--max-read-failures"
  | log => "--log"

def ofFlag? (arg : String) : Option Valued :=
  all.find? fun o => o.flag == arg

end Valued

/-- What is wrong with the value of an option. -/
inductive ValueError where
  | duplicate
  | count (error : CountError)
deriving DecidableEq, Repr

def ValueError.message : ValueError → String
  | duplicate => "duplicate values provided"
  | count error => error.message

/-- Why the arguments were refused. -/
inductive Refusal where
  | unrecognized (arg : String)
  | missingValue (option : Valued)
  | badValue (option : Valued) (value : String) (error : ValueError)
  | trailingAfterHelp
deriving DecidableEq, Repr

def Refusal.message : Refusal → String
  | unrecognized arg => "Unrecognized argument: " ++ arg ++ "\n"
  | missingValue option => "No value provided for option '" ++ option.flag ++ "'.\n"
  | badValue option value error =>
      "Error parsing option '" ++ option.flag ++ "' with value '" ++ value ++ "': " ++
        error.message ++ "\n"
  | trailingAfterHelp => "Trailing arguments are not allowed after `help`."

/-- The options read so far, and whether the explanation was asked for. -/
structure Given where
  prompt : Option String
  commandsDir : Option String
  plain : Bool
  maxReadFailures : Option UInt32
  log : Option String
  help : Bool
deriving DecidableEq, Repr

namespace Given

def nothing : Given :=
  ⟨none, none, false, none, none, false⟩

/-- Stores a value where none was stored before. -/
def once {α : Type} (stored : Option α) (value : Except ValueError α) :
    Except ValueError (Option α) :=
  match stored with
  | some _ => .error .duplicate
  | none => value.map some

def set (g : Given) (option : Valued) (value : String) : Except ValueError Given :=
  match option with
  | .prompt => (once g.prompt (.ok value)).map fun v => { g with prompt := v }
  | .commandsDir => (once g.commandsDir (.ok value)).map fun v => { g with commandsDir := v }
  | .maxReadFailures =>
      (once g.maxReadFailures ((readCount value).mapError .count)).map fun v =>
        { g with maxReadFailures := v }
  | .log => (once g.log (.ok value)).map fun v => { g with log := v }

/-- The options as given, with the standard value for each that was not. -/
def complete (g : Given) : Options where
  prompt := g.prompt.getD Settings.defaultPrompt
  commandsDir := g.commandsDir.getD "."
  plain := g.plain
  maxReadFailures := g.maxReadFailures.getD Settings.defaultMaxReadFailures
  log := g.log.getD "error"

end Given

/-- Reads the arguments after those already read. -/
def scan (g : Given) : List String → Except Refusal Given
  | [] => .ok g
  | arg :: rest =>
      if arg = "--help" ∨ arg = "help" then scan { g with help := true } rest
      else if arg = "--" then
        match rest with
        | [] => .ok g
        | extra :: _ => .error (.unrecognized extra)
      else if arg.toList.head? = some '-' then
        if g.help then .error .trailingAfterHelp
        else if arg = "--plain" then scan { g with plain := true } rest
        else match Valued.ofFlag? arg with
          | none => .error (.unrecognized arg)
          | some option =>
              match rest with
              | [] => .error (.missingValue option)
              | value :: rest =>
                  match g.set option value with
                  | .error error => .error (.badValue option value error)
                  | .ok g => scan g rest
      else .error (.unrecognized arg)

/-- What the arguments ask for. -/
inductive Request where
  | help
  | run (options : Options)
deriving DecidableEq, Repr

def parse (args : List String) : Except Refusal Request :=
  (scan .nothing args).map fun g => if g.help then .help else .run g.complete

end Options

end RestrictedShell
