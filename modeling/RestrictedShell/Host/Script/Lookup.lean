import RestrictedShell.Host.Image
import RestrictedShell.Host.Script.Builtin.Basic
/-!
What the name of a command stands for: a function, a command of the shell, or a program, which is
looked for along the search path.
-/

namespace RestrictedShell.Host.Script

/-- Commands of the shell that are no special ones. -/
def ordinaryCommands : List Bytes :=
  ["[", "alias", "bg", "cd", "chdir", "command", "echo", "false", "fg", "getopts", "hash", "jobs",
    "kill", "printf", "pwd", "read", "test", "true", "type", "ulimit", "umask", "unalias",
    "wait"].map ascii

/-- What a name stands for. A program comes with the paths at which it may be, the first of them being
there. -/
inductive Found where
  | builtin (special : Bool)
  | function (body : Statement)
  | program (paths : List Bytes)
  | missing (reason : Errno)

namespace Found

/-- The paths at which a program may be found along a search path. -/
def candidates (search name : Bytes) : List Bytes :=
  (search.splitOn (byte ':')).map fun dir => if dir = [] then name else dir ++ byte '/' :: name

/-- Looks for a program along a search path. The first plain file counts, whether it may be run or
not. -/
def along (p : Process) (search name : Bytes) : Found :=
  let isFile (path : Bytes) : Bool :=
    match p.files.find p.dir path with
    | .ok (_, .file _) | .ok (_, .program _) => true
    | _ => false
  let paths := candidates search name
  match paths.dropWhile fun path => !isFile path with
  | [] =>
      let failure (path : Bytes) : Option Errno :=
        match p.files.find p.dir path with
        | .ok _ => some .accessDenied
        | .error e => if e = .noSuchFile ∨ e = .notADirectory then none else some e
      .missing (((paths.filterMap failure).getLast?).getD .noSuchFile)
  | found => .program found

/-- The search path of a script. -/
def searchPath (s : Shell) : Bytes :=
  (s.value? (ascii "PATH")).getD []

/-- The search path with which all standard programs are found. -/
def standardPath : Bytes :=
  ascii "/usr/local/sbin:/usr/local/bin:/usr/sbin:/usr/bin:/sbin:/bin"

/-- What a name stands for. With `plain` functions do not count. -/
def ofName (s : Shell) (plain : Bool) (search name : Bytes) : Found :=
  if name.contains (byte '/') then .program [name]
  else match (if plain then none else s.functions.lookup name) with
    | some body => .function body
    | none =>
        if Reader.specialCommands.contains name then .builtin true
        else if ordinaryCommands.contains name then .builtin false
        else along s.process search name

/-- The text of a failure to find or run a program. -/
def reason (e : Errno) : Bytes :=
  if e = .noSuchFile ∨ e = .notADirectory then ascii "not found"
  else ascii (e.text.getD "Unknown error")

/-- Remembers where a program was found along the script's own search path. -/
def remember (name : Bytes) : Found → Run Unit
  | .program (path :: _) => do
      if !name.contains (byte '/') && ((← get).hashed.lookup name).isNone then
        modify fun s => { s with hashed := s.hashed ++ [(name, path)] }
  | _ => pure ()

end Found

namespace Builtin

/-- Tells what a name stands for: in a sentence, or just what to write instead of it. -/
def describe (search? : Option Bytes) (verbose : Bool) (name : Bytes) : Run Nat := do
  let s ← get
  let say (sentence : String) (brief : Bytes) : Run Nat := do
    printLine (if verbose then name ++ ascii sentence else brief)
    pure 0
  if Token.reservedWords.any fun w => ascii w = name then say " is a shell keyword" name
  else match s.aliases.lookup name with
    | some text =>
        printLine (if verbose then name ++ ascii " is an alias for " ++ text
          else ascii "alias " ++ name ++ byte '=' :: quoted text)
        pure 0
    | none =>
        let tracked := if search?.isNone then s.hashed.lookup name else none
        let missing : Run Nat := do
          if verbose then printLine (name ++ ascii ": not found")
          pure 127
        let program (path : Bytes) (isTracked : Bool) : Run Nat := do
          printLine (if verbose then
              name ++ ascii (if isTracked then " is a tracked alias for " else " is ") ++ path
            else path)
          pure 0
        match Found.ofName s search?.isSome (search?.getD (Found.searchPath s)) name with
        | .function _ => say " is a shell function" name
        | .builtin special =>
            say (if special then " is a special shell builtin" else " is a shell builtin") name
        | .program paths =>
            let path := paths.head?.getD name
            if name.contains (byte '/') then
              match s.process.files.find s.process.dir name with
              | .ok _ => program name false
              | .error _ => missing
            else
              if search?.isNone then Found.remember name (.program paths)
              program path tracked.isSome
        | .missing _ => missing

def type : Builtin := fun args => do
  let mut status := 0
  for name in args do
    status := status ||| (← describe none true name)
  pure status

/-- Only tells what a command stands for, if options ask for that. -/
def command : Builtin := fun args => do
  let (chosen, names) ← options ⟨"pvV", ""⟩ args
  let verbose := isChosen chosen 'V'
  match names with
  | name :: _ =>
      if verbose || isChosen chosen 'v' then
        describe (if isChosen chosen 'p' then some Found.standardPath else none) verbose name
      else pure 0
  | [] => pure 0

def hash : Builtin := fun args => do
  let (chosen, names) ← options ⟨"r", ""⟩ args
  let mut status := 0
  if isChosen chosen 'r' then modify fun s => { s with hashed := [] }
  else if names = [] then
    let bucket (name : Bytes) : Nat :=
      (((name.head?.getD 0).toNat <<< 4) + name.foldl (fun n b => n + b.toNat) 0) % 32768 % 31
    for entry in (← get).hashed.mergeSort fun a b => bucket a.1 ≤ bucket b.1 do
      printLine entry.2
  else
    for name in names do
      modify fun s => { s with hashed := s.hashed.filter fun h => h.1 ≠ name }
      let s ← get
      match Found.ofName s false (Found.searchPath s) name with
      | .missing e =>
          Run.warn (name ++ ascii ": " ++ Found.reason e)
          status := 1
      | found => found.remember name
  pure status

end Builtin

end RestrictedShell.Host.Script
