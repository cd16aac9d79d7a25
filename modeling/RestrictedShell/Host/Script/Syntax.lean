import RestrictedShell.Host.Script.Byte
/-!
What a script is made of: words with quotes and substitutions, redirections, and statements.
-/

namespace RestrictedShell.Host.Script

/-- What is done with the value of a parameter. `unknown` is something that does not exist. -/
inductive Treatment where
  | plain
  | length
  | otherwise
  | instead
  | assign
  | demand
  | trimFront (longest : Bool)
  | trimBack (longest : Bool)
  | unknown
deriving DecidableEq, Repr

/-- A parameter in a word. With `nonEmpty` an empty value counts as none. -/
structure Parameter where
  name : Bytes
  treatment : Treatment
  nonEmpty : Bool
deriving DecidableEq, Repr

/-- A word, one part in front of the rest. A byte that is escaped has lost any special meaning;
`quote` is where quotes are opened or closed. A command is kept as it is written, with the number of
its first line. -/
inductive Word where
  | done
  | literal (b : UInt8) (escaped : Bool) (rest : Word)
  | quote (rest : Word)
  | parameter (p : Parameter) (operand rest : Word)
  | command (source : Bytes) (line : Nat) (rest : Word)
  | sum (expression rest : Word)
deriving DecidableEq, Repr

namespace Word

/-- Puts the parts of a word, last part first, in front of another. -/
def reverseOnto : Word → Word → Word
  | .done, w => w
  | .literal b escaped rest, w => reverseOnto rest (.literal b escaped w)
  | .quote rest, w => reverseOnto rest (.quote w)
  | .parameter p operand rest, w => reverseOnto rest (.parameter p operand w)
  | .command source line rest, w => reverseOnto rest (.command source line w)
  | .sum expression rest, w => reverseOnto rest (.sum expression w)

def reverse (w : Word) : Word :=
  w.reverseOnto .done

/-- The bytes of a word in which nothing is quoted, escaped or replaced. -/
def bare? : Word → Option Bytes
  | .done => some []
  | .literal b false rest => (bare? rest).map (b :: ·)
  | _ => none

/-- The bytes of a word without its quotes, as far as they are literal. -/
def literals : Word → Bytes
  | .done => []
  | .literal b _ rest => b :: literals rest
  | .quote rest | .parameter _ _ rest | .command _ _ rest | .sum _ rest => literals rest

/-- The name in front of an equals sign at the start of a word, if it is one. -/
def assignedName? (w : Word) : Option Bytes :=
  go [] w
where
  /-- Goes on behind the bytes of the name, last byte first. -/
  go (name : Bytes) : Word → Option Bytes
    | .literal b false rest =>
        if isNameByte b && !(name.isEmpty && isDigit b) then go (b :: name) rest
        else if b == byte '=' && !name.isEmpty then some name.reverse
        else none
    | _ => none

/-- All arguments of the script, each a word of its own. -/
def allArguments : Word :=
  .quote (.parameter ⟨[byte '@'], .plain, false⟩ .done (.quote .done))

end Word

/-- How a file is opened by a redirection. `fresh` may replace a file only where the script has not
forbidden it. -/
inductive OpenMode where
  | read
  | fresh
  | replace
  | append
  | readWrite
deriving DecidableEq, Repr

inductive Redirection where
  | toFile (fd : Nat) (mode : OpenMode) (path : Word)
  | toDescriptor (fd : Nat) (source : Word)
  | fromDocument (fd : Nat) (document : Nat) (expands : Bool)
deriving DecidableEq, Repr

/-- A statement of a script. The arms of a selection are statements themselves, each holding the
next one; so are the stages of a pipeline, behind the last of which there is nothing. -/
inductive Statement where
  | nothing
  | simple (line : Nat) (assignments words : List Word) (redirections : List Redirection)
  | pipeline (first rest : Statement)
  | negated (s : Statement)
  | both (first second : Statement)
  | either (first second : Statement)
  | sequence (first second : Statement)
  | background (s : Statement)
  | subshell (line : Nat) (body : Statement) (redirections : List Redirection)
  | redirected (line : Nat) (body : Statement) (redirections : List Redirection)
  | choose (test body other : Statement)
  | repeat (holds : Bool) (test body : Statement)
  | each (line : Nat) (name : Bytes) (words : List Word) (body : Statement)
  | select (line : Nat) (subject : Word) (arms : Statement)
  | arm (patterns : List Word) (body next : Statement)
  | define (name : Bytes) (body : Statement)
deriving DecidableEq, Repr

/-- The number of stages of a statement as a pipeline. -/
def Statement.stages : Statement → Nat
  | .pipeline _ rest => rest.stages + 1
  | .nothing => 0
  | _ => 1

end RestrictedShell.Host.Script
