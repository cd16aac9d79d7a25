import RestrictedShell.IoError
import RestrictedShell.Outcome
/-!
The account that a session keeps of itself: what can be logged, at which level, about which part of
the program, and the one line of text that an entry becomes.
-/

namespace RestrictedShell.Log

inductive Level where
  | error
  | warn
  | info
  | debug
  | trace
deriving DecidableEq, Repr

namespace Level

/-- How much is logged at this level, from 1 for errors alone. -/
def verbosity : Level → Nat
  | error => 1
  | warn => 2
  | info => 3
  | debug => 4
  | trace => 5

def all : List Level :=
  [error, warn, info, debug, trace]

/-- The name in capitals, padded on the left to five columns. -/
def label : Level → String
  | error => "ERROR"
  | warn => " WARN"
  | info => " INFO"
  | debug => "DEBUG"
  | trace => "TRACE"

end Level

/-- Something that happened in a session. -/
inductive Entry where
  | dispatching
  | quitRequested
  | endOfInput
  | readFailed (error : ReadError) (failures : UInt32)
  | inputKeepsFailing
  | spawnFailed (error : SpawnError)
  | commandFinished (command : String) (code : Int32)
  | noCompletionReport (command : String) (outcome : Outcome)
  | spawning (path : Bytes)
  | executableUnusable (path : Bytes) (error : IoError)
deriving DecidableEq, Repr

/-- A value that belongs to an entry: a word shown in quotes, a text shown as it is, or a number. -/
inductive Value where
  | word (t : String)
  | text (t : String)
  | number (n : Int)
deriving DecidableEq, Repr

def Value.render : Value → String
  | .word t => "\"" ++ t ++ "\""
  | .text t => t
  | .number n => toString n

namespace Entry

def level : Entry → Level
  | dispatching | quitRequested | endOfInput | commandFinished .. | spawning ..
  | executableUnusable .. => .debug
  | readFailed .. | inputKeepsFailing | spawnFailed .. | noCompletionReport .. => .warn

/-- The part of the program that speaks. -/
def target : Entry → String
  | dispatching | quitRequested | endOfInput | readFailed .. | inputKeepsFailing
  | spawnFailed .. => "utility_shell::interpreter"
  | commandFinished .. | noCompletionReport .. => "utility_shell::report"
  | spawning .. | executableUnusable .. => "utility_shell::launcher"

def message : Entry → String
  | dispatching => "dispatching"
  | quitRequested => "quit requested"
  | endOfInput => "end of input"
  | readFailed .. => "failed to read command"
  | inputKeepsFailing => "input keeps failing, ending session"
  | spawnFailed .. => "spawn failed"
  | commandFinished .. => "command finished"
  | noCompletionReport .. => "no completion report"
  | spawning .. => "spawning"
  | executableUnusable .. => "executable unusable"

/-- The values of an entry under their names, in the order in which they are shown. -/
def fields : Entry → List (String × Value)
  | dispatching | quitRequested | endOfInput | inputKeepsFailing => []
  | readFailed error failures => [("error", .text error.message), ("failures", .number failures.toNat)]
  | spawnFailed error => [("error", .text error.message)]
  | commandFinished command code => [("command", .word command), ("code", .number code.toInt)]
  | noCompletionReport command outcome =>
      [("command", .word command), ("outcome", .text outcome.describe)]
  | spawning path => [("path", .text (Text.lossy path))]
  | executableUnusable path error =>
      [("path", .text (Text.lossy path)), ("error", .text error.message)]

/-- The names under which a field of the entry can be asked for. What a line was found to ask for
and the arguments of a child have names too, but a log shows these two as debugging dumps of the
data, and `fields` and `render` leave the dumps out. -/
def fieldNames (e : Entry) : List String :=
  let dumped := match e with
    | dispatching => ["dispatch"]
    | spawning _ => ["args"]
    | _ => []
  "message" :: dumped ++ e.fields.map Prod.fst

/-- The entry as one line, without a time and without the dumps that `fields` leaves out. -/
def render (e : Entry) : String :=
  let fields := e.fields.map fun field => " " ++ field.1 ++ "=" ++ field.2.render
  e.level.label ++ " " ++ e.target ++ ": " ++ e.message ++ String.join fields ++ "\n"

end Entry

end RestrictedShell.Log
