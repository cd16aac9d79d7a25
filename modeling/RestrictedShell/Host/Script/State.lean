import RestrictedShell.Host.Process
import RestrictedShell.Host.Script.Grammar
import RestrictedShell.Host.Script.Integer
/-!
The state of a running script, and the ways in which it may stop short. A script that starts another
process goes on from its own state when that process has ended; only files, open files and the clock
are shared.
-/

namespace RestrictedShell.Host.Script

/-- What a script can switch on and off about itself. -/
inductive Setting where
  | errexit
  | noglob
  | ignoreeof
  | interactive
  | monitor
  | noexec
  | stdin
  | xtrace
  | verbose
  | vi
  | emacs
  | noclobber
  | allexport
  | notify
  | nounset
  | privileged
  | nolog
  | debug
deriving DecidableEq, Repr

namespace Setting

/-- All settings in the order in which they are listed, with their names and letters. -/
def all : List (Setting × String × Option Char) :=
  [(errexit, "errexit", some 'e'), (noglob, "noglob", some 'f'),
    (ignoreeof, "ignoreeof", some 'I'), (interactive, "interactive", some 'i'),
    (monitor, "monitor", some 'm'), (noexec, "noexec", some 'n'), (stdin, "stdin", some 's'),
    (xtrace, "xtrace", some 'x'), (verbose, "verbose", some 'v'), (vi, "vi", some 'V'),
    (emacs, "emacs", some 'E'), (noclobber, "noclobber", some 'C'),
    (allexport, "allexport", some 'a'), (notify, "notify", some 'b'),
    (nounset, "nounset", some 'u'), (privileged, "privileged", some 'p'),
    (nolog, "nolog", none), (debug, "debug", none)]

def ofLetter? (b : UInt8) : Option Setting :=
  (all.find? fun entry => entry.2.2.map byte == some b).map Prod.fst

def ofName? (name : Bytes) : Option Setting :=
  (all.find? fun entry => ascii entry.2.1 == name).map Prod.fst

end Setting

/-- A variable. One that is `fixed` is kept even if it has no value. -/
structure Variable where
  name : Bytes
  value? : Option Bytes
  exported : Bool
  readOnly : Bool
  fixed : Bool
deriving DecidableEq, Repr

/-- What was before something became local. -/
inductive Kept where
  | settings (on : List Setting)
  | missing (name : Bytes)
  | variable (v : Variable)
deriving DecidableEq, Repr

/-- Why a script does not go on with its next statement: it has failed, it has come to its end, it was
told to exit, a signal has killed it, or a function or a loop is left. -/
inductive Stop where
  | failed
  | ended
  | exit
  | killed (signal : Nat)
  | return (explicit : Bool)
  | leave (loops : Nat)
  | again (loops : Nat)
deriving DecidableEq, Repr

/-- How far a process in the background is: it has ended, and the script may have waited for that, or it
is still to run from a state `σ`. -/
inductive Progress (σ : Type) where
  | ended (outcome : Outcome) (awaited : Bool)
  | waiting (statement : Statement) (start : σ)

/-- A process in the background, its place in the table of jobs and the number of stages that it has as a
pipeline. -/
structure Job (σ : Type) where
  slot : Nat
  number : Nat
  stages : Nat
  progress : Progress σ

/-- Has the process ended, and has the script waited for that? -/
def Job.isOver {σ : Type} (j : Job σ) : Bool :=
  match j.progress with
  | .ended _ awaited => awaited
  | .waiting .. => false

/-- A shell in the middle of a script. `optionPlace` and `optionOffset` tell how far `getopts` has come,
`arrived` holds signals whose traps are still to be run, `saved` the status to be restored after a trap,
`calls` is the number of functions that call one another at the moment, `line` and `speaker` stand in front of complaints, `outbox` is what a command of the shell has printed,
last piece first, `reading` the line up to which the script has been read, and `limits` what was set by hand of what a
process may use up. -/
structure Shell where
  process : Process
  name : Bytes
  arguments : List Bytes
  optionPlace : Nat
  optionOffset : Option Nat
  bindings : List Variable
  frames : List (List Kept)
  functions : List (Bytes × Statement)
  aliases : List (Bytes × Bytes)
  hashed : List (Bytes × Bytes)
  traps : List (Nat × Bytes)
  arrived : List Nat
  settings : List Setting
  status : Nat
  substituted : Nat
  saved : Option Nat
  line : Nat
  speaker : Option Bytes
  documents : Array Word
  loops : Nat
  calls : Nat
  jobs : List (Job Shell)
  lastJob : Option Nat
  directory : Bytes
  root : Nat
  outbox : List Bytes
  reading : Nat
  isTracing : Bool
  limits : List (UInt8 × Option Nat)

/-- An action of a script. -/
abbrev Run := EStateM Stop Shell

namespace Shell

def has (s : Shell) (setting : Setting) : Bool :=
  s.settings.contains setting

def switch (s : Shell) (setting : Setting) (on : Bool) : Shell :=
  let others := s.settings.filter (· ≠ setting)
  { s with settings := if on then setting :: others else others }

def find? (s : Shell) (name : Bytes) : Option Variable :=
  s.bindings.find? fun v => v.name == name

def value? (s : Shell) (name : Bytes) : Option Bytes :=
  (s.find? name).bind Variable.value?

/-- Puts a variable in the stead of the one with its name, or behind all others. -/
def put (s : Shell) (v : Variable) : Shell :=
  { s with
    bindings := if (s.find? v.name).isSome then
        s.bindings.map fun w => if w.name == v.name then v else w
      else s.bindings ++ [v] }

def drop (s : Shell) (name : Bytes) : Shell :=
  { s with bindings := s.bindings.filter fun v => v.name ≠ name }

/-- Variables that scripts start with, apart from those handed to them. -/
def ownVariables : List Variable :=
  let fixed (name : String) (value? : Option String) : Variable :=
    ⟨ascii name, value?.map ascii, false, false, true⟩
  [fixed "OPTIND" (some "1"), fixed "PS4" (some "+ "), fixed "PS2" (some "> "),
    fixed "PS1" (some "# "), fixed "PATH" (some "/usr/local/sbin:/usr/local/bin:/usr/sbin:/usr/bin:/sbin:/bin"),
    fixed "MAILPATH" none, fixed "MAIL" none, fixed "IFS" (some " \t\n"), fixed "ATTY" none]

/-- Orders variables as they are handed on. -/
def bucket (name : Bytes) : Nat :=
  (((name.head?.getD 0).toNat <<< 4) + name.foldl (fun n b => n + b.toNat) 0) % 39

/-- The variables that a script hands to programs. -/
def environment (s : Shell) : List (Bytes × Bytes) :=
  let handed := s.bindings.filterMap fun v =>
    if v.exported then v.value?.map fun value => (v.name, value) else none
  handed.mergeSort fun a b => bucket a.1 ≤ bucket b.1

/-- Separators of the arguments that values are split into, if they are not set. -/
def usualSeparators : Bytes :=
  ascii " \t\n"

def separators? (s : Shell) : Option Bytes :=
  s.value? (ascii "IFS")

/-- A place written as a path. -/
def pathOf (place : Location) : Bytes :=
  if place = [] then [byte '/'] else place.flatMap (byte '/' :: ·)

/-- A shell on a process, before it has looked at what it was started with. -/
def start (process : Process) : Shell :=
  let handed := process.environment.filter fun v => isName v.1
  let given (s : Shell) (v : Bytes × Bytes) : Shell :=
    s.put ⟨v.1, some v.2, true, false, (s.find? v.1).any Variable.fixed⟩
  let plain (s : Shell) (name value : Bytes) : Shell :=
    let v := (s.find? name).getD ⟨name, none, false, false, false⟩
    s.put { v with value? := some value }
  let place := pathOf process.dir
  let inherited := (handed.lookup (ascii "PWD")).filter fun path =>
    path.head? == some (byte '/') &&
      (match process.files.resolve true [] path with
        | .ok found => found == process.dir
        | .error _ => false)
  let directory := inherited.getD place
  let blank : Shell := {
    process := process
    name := []
    arguments := []
    optionPlace := 1
    optionOffset := none
    bindings := ownVariables
    frames := []
    functions := []
    aliases := []
    hashed := []
    traps := []
    arrived := []
    settings := []
    status := 0
    substituted := 0
    saved := none
    line := 0
    speaker := none
    documents := #[]
    loops := 0
    calls := 0
    jobs := []
    lastJob := none
    directory := directory
    root := process.number
    outbox := []
    reading := 1
    isTracing := false
    limits := [] }
  let s := handed.foldl given blank
  let s := plain (plain (plain s (ascii "IFS") usualSeparators) (ascii "OPTIND") (ascii "1"))
    (ascii "PPID") (decimalBytes (process.parents.head?.getD 1))
  s.put ⟨ascii "PWD", some directory, true, false, false⟩

end Shell

namespace Run

/-- Does something to the process under the script. -/
def system {α : Type} (a : System α) : Run α := fun s =>
  let (value, process) := a.run s.process
  .ok value { s with process }

/-- The signal that comes when nobody reads what is written. -/
def pipeSignal : Nat := 13

/-- Writes to an open file, and tells why if that is not possible. Where nobody reads what is written,
the script is killed unless it has asked otherwise. -/
def writeTo (index : Option Nat) (bytes : Bytes) : Run (Option Errno) := do
  let s ← get
  match index with
  | none => pure (if bytes = [] then none else some .badDescriptor)
  | some index =>
      let (trouble, process) := s.process.writeTo index bytes
      set { s with process }
      if trouble = some .brokenPipe && !process.ignored.contains pipeSignal then
        match s.traps.lookup pipeSignal with
        | some (_ :: _) => modify fun s => { s with arrived := s.arrived ++ [pipeSignal] }
        | _ => throw (.killed pipeSignal)
      pure trouble

/-- Writes to a descriptor. -/
def write (fd : Nat) (bytes : Bytes) : Run (Option Errno) := do
  writeTo ((← get).process.descriptors.lookup fd) bytes

/-- Prints, when the command of the shell that is being carried out comes to its end. -/
def print (bytes : Bytes) : Run Unit :=
  modify fun s => { s with outbox := bytes :: s.outbox }

/-- Prints now what was printed so far. Tells whether that was possible. -/
def flush : Run Bool := do
  let bytes := (← get).outbox.reverse.flatten
  modify fun s => { s with outbox := [] }
  pure (← write 1 bytes).isNone

/-- Writes a message behind the name of the script, the number of the line, and the command of the
shell that has something to say. -/
def warn (message : Bytes) : Run Unit := do
  let s ← get
  let speaker := match s.speaker with
    | some name => name ++ ascii ": "
    | none => []
  let _ ← write 2 (s.name ++ ascii (": " ++ s.line.repr ++ ": ") ++ speaker ++ message ++
    [Text.newline])

/-- Complains and fails, as for a misuse of the language itself. -/
def fail {α : Type} (message : Bytes) : Run α := do
  modify fun s => { s with status := 2 }
  warn message
  throw .failed

def setStatus (code : Nat) : Run Unit :=
  modify fun s => { s with status := code }

/-- Gives the value of an action and what it came to; a stop is passed on after `after`. -/
def ensuring {α : Type} (a : Run α) (after : Shell → Shell) : Run α := fun s =>
  match a s with
  | .ok value t => .ok value (after t)
  | .error stop t => .error stop (after t)

/-- What an action comes to. -/
def attempt {α : Type} (a : Run α) : Run (Except Stop α) := fun s =>
  match a s with
  | .ok value t => .ok (.ok value) t
  | .error stop t => .ok (.error stop) t

/-- Takes how `getopts` goes on from the value of its variable. -/
def countFrom (n : Nat) : Run Unit :=
  modify fun s => { s with optionPlace := if n = 0 then 1 else n, optionOffset := none }

/-- Complains about a text that should be a number. -/
def illegalNumber {α : Type} (text : Bytes) : Run α :=
  fail (ascii "Illegal number: " ++ text)

/-- The count that an argument writes. -/
def count (text : Bytes) : Run Nat := do
  match Integer.whole? false text with
  | some n => if 0 ≤ n && n ≤ 2147483647 then pure n.toNat else illegalNumber text
  | none => illegalNumber text

/-- Gives a variable a value, or takes its value away. `exports` and `protects` mark it as well. -/
def assign (name : Bytes) (value? : Option Bytes) (exports protects : Bool) : Run Unit := do
  let s ← get
  let exports := exports || s.has .allexport
  match s.find? name with
  | some v =>
      if v.readOnly then fail (name ++ ascii ": is read only")
      if name == ascii "OPTIND" then
        if let some value := value? then
          countFrom (← count value)
      if name == ascii "PATH" then
        modify fun s => { s with hashed := [] }
      if value?.isNone && !exports && !protects && !v.fixed then
        modify fun s => s.drop name
      else
        modify fun s => s.put { v with
          value?
          exported := v.exported || exports
          readOnly := v.readOnly || protects }
  | none =>
      if value?.isSome || exports || protects then
        modify fun s => s.put ⟨name, value?, exports, protects, false⟩

/-- The same for a name that may not be one. -/
def assignNamed (name : Bytes) (value? : Option Bytes) (exports protects : Bool) : Run Unit := do
  if isName name then assign name value? exports protects
  else fail (name ++ ascii ": bad variable name")

/-- Puts back what was before something became local. -/
def putBack : Kept → Run Unit
  | .settings on => modify fun s => { s with settings := on }
  | .missing name => do
      if isName name then modify fun s => s.drop name
      else
        modify fun s => { s with speaker := none }
        fail (name ++ ascii ": bad variable name")
  | .variable v => modify fun s =>
      let s := if v.name == ascii "OPTIND" then
          match v.value?.bind (Integer.whole? false) with
          | some n => { s with optionPlace := if n ≤ 0 then 1 else n.toNat, optionOffset := none }
          | none => s
        else s
      s.put v

/-- Acts with a list of what becomes local in the meantime, and puts that back. -/
def withLocals {α : Type} (fresh : Bool) (a : Run α) : Run α :=
  if fresh then do
    modify fun s => { s with frames := [] :: s.frames }
    let result ← attempt a
    let frames := (← get).frames
    modify fun s => { s with frames := frames.tail }
    (frames.head?.getD []).forM putBack
    match result with
    | .ok value => pure value
    | .error stop => throw stop
  else a

/-- Makes something local: the settings for a dash, else a variable, which may be given a value. -/
def makeLocal (name : Bytes) (value? : Option Bytes) (exports : Bool) : Run Unit := do
  let s ← get
  let keep (kept : Kept) : Run Unit :=
    modify fun s => { s with
      frames := match s.frames with
        | frame :: outer => (kept :: frame) :: outer
        | [] => [] }
  if name = [byte '-'] && value?.isNone then keep (.settings s.settings)
  else match s.find? name with
    | none =>
        if !isName name && value?.isNone then fail (name ++ ascii ": bad variable name")
        let exported := exports || s.has .allexport
        modify fun s => s.put ⟨name, value?, exported, false, true⟩
        keep (.missing name)
    | some v =>
        modify fun s => s.put { v with fixed := true }
        if value?.isSome then assign name value? exports false
        keep (.variable v)

end Run

end RestrictedShell.Host.Script
