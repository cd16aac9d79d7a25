import RestrictedShell.Host.Script.Builtin.Place
import RestrictedShell.Host.Script.Builtin.Variables
import RestrictedShell.Host.Script.Children
import RestrictedShell.Host.Script.Format
import RestrictedShell.Host.Script.Redirect
import RestrictedShell.Host.Script.Test
import RestrictedShell.Host.Utility
/-!
What a script runs apart from the statement at hand: texts, commands inside words, programs, other
scripts, and processes in the background. How a statement is carried out is a parameter; all these lie
one level deeper than the statement that asks for them.
-/

namespace RestrictedShell.Host.Script

/-- Under which circumstances a statement is carried out: whether its status is tested, so that a failure
does not end the script, and whether the process ends with it. -/
structure Mode where
  tested : Bool
  exits : Bool
deriving DecidableEq, Repr

namespace Mode

def plain : Mode := ⟨false, false⟩
def test : Mode := ⟨true, false⟩
def last : Mode := ⟨false, true⟩

/-- The mode of a part behind which more is to come. -/
def inner (m : Mode) : Mode := { m with exits := false }

end Mode

/-- Carries out a statement. -/
abbrev Evaluate := Mode → Statement → Run Unit

namespace Running

/-- Reads and carries out lines until the text ends. Tells whether there was any statement. -/
def lines (deeper : Evaluate) (m : Mode) (fuel : Nat) (ran : Bool) (r : Reader) : Run Bool := do
  match fuel with
  | 0 => pure ran
  | fuel + 1 =>
      let s ← get
      match { r with aliases := s.aliases, documents := s.documents }.readLine with
      | .error e =>
          modify fun s => { s with line := e.line }
          Run.fail (ascii ("Syntax error: " ++ e.message))
      | .ok (none, _) => pure ran
      | .ok (some statement, after) =>
          modify fun s => { s with documents := after.documents, reading := after.line }
          if s.has .verbose then
            let rest (r : Reader) : Bytes := r.layers.flatMap Layer.rest
            let _ ← Run.write 2 ((rest r).take ((rest r).length - (rest after).length))
          let atEnd := after.again && after.token == .finish
          deeper { m with exits := m.exits && atEnd } statement
          lines deeper m fuel (ran || statement != .nothing) after

/-- Reads and carries out a text whose first line has this number. Tells whether there was any
statement. -/
def text (deeper : Evaluate) (m : Mode) (source : Bytes) (line : Nat) : Run Bool := do
  let s ← get
  let reading := s.reading
  modify fun s => { s with reading := line }
  let ran ← lines deeper m (source.length + 1) false
    (Reader.start source line s.aliases s.documents)
  modify fun s => { s with reading }
  pure ran

/-- Runs the traps of the signals that have come, in the order of their numbers. The status stays what it
was, unless a trap returns another. -/
def runTraps (deeper : Evaluate) : Run Unit := do
  let s ← get
  if s.arrived ≠ [] then
    let before := s.saved
    let status := before.getD s.status
    modify fun s => { s with saved := some status, arrived := [] }
    for signal in s.arrived.mergeSort (· ≤ ·) do
      if let some action := (← get).traps.lookup signal then
        match ← Run.attempt (text deeper .plain action 1) with
        | .ok _ => Run.setStatus status
        | .error (.return explicit) =>
            if !explicit then Run.setStatus status
            modify fun s => { s with saved := before }
            throw (.return explicit)
        | .error stop => throw stop
    modify fun s => { s with saved := before }

/-- Carries out the last of a process and what it does in the end. -/
def toEnd (deeper : Evaluate) (body : Run Unit) : Run Outcome := do
  let result ← Run.attempt body
  let result ← match result with
    | .error (.killed _) => pure result
    | result => do
        let _ ← Run.flush
        pure result
  match result with
  | .error (.killed signal) => pure (signaled signal)
  | result =>
      if let .error .exit := result then
        modify fun s => { s with status := s.saved.getD s.status }
      let s ← get
      match s.traps.lookup 0 with
      | none => pure (exited s.status)
      | some action =>
          modify fun s => { s with
            saved := some s.status
            traps := s.traps.filter fun t => t.1 ≠ 0
            loops := 0
            frames := [] }
          match ← Run.attempt (text deeper .plain action 1) with
          | .error (.killed signal) => pure (signaled signal)
          | .error .failed | .error .ended => pure (exited (← get).status)
          | _ => pure (exited ((← get).saved.getD s.status))

/-- Carries out a command inside a word, and gives what it prints. -/
def capture (deeper : Evaluate) : Capture := fun source line => do
  let s ← get
  match (Reader.start source line s.aliases s.documents).readCommand with
  | .error e =>
      modify fun s => { s with line := e.line }
      Run.fail (ascii ("Syntax error: " ++ e.message))
  | .ok (statement, after) =>
      modify fun s => { s with documents := after.documents }
      match statement with
      | none | some .nothing => pure []
      | some statement =>
          let (index, p) := s.process.addOpen ⟨.pipe [] 0, false, true⟩
          Run.system (set p)
          let outcome ← Run.inChild (toEnd deeper do
            Pointing.attach 1 index
            deeper .last statement)
          let status ← Run.settle outcome
          modify fun s => { s with substituted := status }
          match (← get).process.opened[index]?.map OpenFile.target with
          | some (.pipe pieces _) => pure pieces.reverse.flatten
          | _ => pure []

/-- What a text named in a script is run as. -/
inductive Source where
  | text (text : Bytes)
  | file (path : Bytes)
  | input
deriving DecidableEq, Repr

/-- How a shell is started: what it runs, under which name, and with which arguments. -/
structure Start where
  source : Source
  name : Bytes
  arguments : List Bytes
deriving DecidableEq, Repr

/-- Reads the letters of one argument that a shell is started with. Tells whether a text to run comes
next. -/
def startLetters (on : Bool) (hasText : Bool) (later : List Bytes) :
    Bytes → Run (Bool × List Bytes)
  | [] => pure (hasText, later)
  | b :: rest => do
      if b == byte 'c' then startLetters on true later rest
      else if b == byte 'l' then startLetters on hasText later rest
      else
        let later ← Builtin.switchLetters on later [b]
        startLetters on hasText later rest

/-- Reads the options that a shell is started with. The fuel bounds the number of words. -/
def startOptions (fuel : Nat) (hasText : Bool) (words : List Bytes) :
    Run (Bool × List Bytes) := do
  match fuel, words with
  | fuel + 1, (0x2D :: letters) :: later =>
      if letters = [] || letters = ascii "-" then pure (hasText, later)
      else
        let (hasText, later) ← startLetters true hasText later letters
        startOptions fuel hasText later
  | fuel + 1, (0x2B :: letters) :: later =>
      let (hasText, later) ← startLetters false hasText later letters
      startOptions fuel hasText later
  | _, words => pure (hasText, words)

/-- Reads the words that a shell is started with, its own name apart. -/
def startOf (self : Bytes) (words : List Bytes) : Run Start := do
  let (hasText, rest) ← startOptions (words.length + 1) false words
  let _ ← Run.flush
  match hasText, rest with
  | true, [] => Run.fail (ascii "-c requires an argument")
  | true, [text] => pure ⟨.text text, self, []⟩
  | true, text :: name :: arguments => pure ⟨.text text, name, arguments⟩
  | false, [] =>
      modify fun s => s.switch .stdin true
      pure ⟨.input, self, []⟩
  | false, first :: arguments =>
      if (← get).has .stdin then pure ⟨.input, self, first :: arguments⟩
      else pure ⟨.file first, first, arguments⟩

/-- A shell from its start to its end, given the words it is started with. -/
def shell (deeper : Evaluate) (argv : List Bytes) : Run Outcome := do
  let self := argv.head?.getD []
  modify fun s => { s with name := self }
  toEnd deeper do
    let start ← startOf self argv.tail
    match start.source with
    | .text source =>
        modify fun s => { s with name := start.name, arguments := start.arguments }
        let _ ← text deeper .last source 1
        if (← get).has .stdin then
          let bytes := (← Run.system (System.readAll 0)).toOption.getD []
          let _ ← text deeper .plain bytes 1
    | .file path =>
        match ← Run.system (System.openPath path .read) with
        | .error e => Pointing.cannot false path e
        | .ok index =>
            modify fun s => { s with name := start.name, arguments := start.arguments }
            let p := (← get).process.attach 10 index
            let bytes := (p.available 10).toOption.getD []
            let _ ← text deeper .plain bytes 1
    | .input =>
        modify fun s => { s with arguments := start.arguments }
        let bytes := (← Run.system (System.readAll 0)).toOption.getD []
        let _ ← text deeper .plain bytes 1

/-- Loads the first program that can be loaded, of those that may be at some paths. A file that is no
program is one for the shell. -/
def load (p : Process) (argv : List Bytes) : List Bytes → Errno → Except Errno Loaded
  | [], e => .error e
  | path :: rest, e =>
      match Loaded.exec p.files p.dir path argv with
      | .ok loaded => .ok loaded
      | .error f =>
          if f = .badExecutableFormat then .ok ⟨.shell, ascii "/bin/sh" :: path :: argv.tail⟩
          else if rest = [] && e = .noSuchFile then .error f
          else load p argv rest (if f = .noSuchFile ∨ f = .notADirectory then e else f)

/-- Runs a program in the place of the script. The fuel bounds how often it becomes another. -/
def execute (deeper : Evaluate) (fuel : Nat) (loaded : Loaded) : Run Outcome := do
  match loaded.image with
  | .shell => fun s =>
      let process := { s.process with environment := s.environment }
      match shell deeper loaded.argv (Shell.start process) with
      | .ok outcome t => .ok outcome { s with process := t.process }
      | .error stop t => .ok (outcomeOf t stop) { s with process := t.process }
  | .utility name =>
      let self := loaded.argv.head?.getD []
      match Utility.named? name with
      | none => pure (exited 0)
      | some program =>
          modify fun s => { s with process := { s.process with
            environment := s.environment, trouble := none } }
          let ending ← Run.system (program self loaded.argv.tail)
          let trouble ← Run.system System.takeTrouble
          match trouble, ending with
          | some e, _ =>
              if e = .brokenPipe && !(← get).process.ignored.contains Run.pipeSignal then
                pure (signaled Run.pipeSignal)
              else
                Run.system (Utility.complain self
                  (ascii "write error" ++ if e = 0 then [] else ascii ": " ++ Utility.reason e))
                pure (exited 1)
          | none, .exited code => pure (exited code)
          | none, .becomes argv =>
              let name := argv.head?.getD []
              let p := (← get).process
              let search := (p.environment.lookup (ascii "PATH")).getD Found.standardPath
              let paths := if name.contains (byte '/') then [name]
                else Found.candidates search name
              match fuel, load p argv paths .noSuchFile with
              | fuel + 1, .ok loaded => do
                  modify fun s => { s with
                    bindings := p.environment.map fun v => ⟨v.1, some v.2, true, false, false⟩ }
                  execute deeper fuel loaded
              | 0, .ok _ => pure (exited 126)
              | _, .error e =>
                  Run.system (Utility.complain self
                    (QuotedName.always name ++ ascii ": " ++ Utility.reason e))
                  pure (exited (if e = .noSuchFile then 127 else 126))

/-- How often a program may become another. -/
def maxChanges : Nat := 16

/-- Says why no program could be run, and gives the status for that. -/
def refuse (name : Bytes) (e : Errno) : Run Nat := do
  Run.warn (name ++ ascii ": " ++ Found.reason e)
  let missing := e = .noSuchFile || e = .notADirectory || e = .linkLoop || e = .nameTooLong
  pure (if missing then 127 else 126)

/-- Becomes a program that may be at some paths. -/
def become (deeper : Evaluate) (paths argv : List Bytes) : Run Unit := do
  let p := (← get).process
  match load p argv paths .noSuchFile with
  | .ok loaded =>
      modify fun s => { s with traps := s.traps.filter fun t => t.2 = [] }
      match ← execute deeper maxChanges loaded with
      | .signaled signal => throw (.killed signal.toInt.toNat)
      | outcome =>
          Run.setStatus (statusOf outcome)
          throw .ended
  | .error e =>
      Run.setStatus (← refuse (argv.head?.getD []) e)
      throw .ended

/-- Lets a process in the background run, to its end. -/
def runJob (deeper : Evaluate) (job : Job Shell) : Run (Job Shell) :=
  match job.progress with
  | .ended .. => pure job
  | .waiting statement start => fun s =>
      let start := { start with process := { (start.joined s.process).process with
        clock := start.process.clock } }
      let body : Run Outcome := toEnd deeper (deeper .last statement)
      let after (outcome : Outcome) (t : Shell) : EStateM.Result Stop Shell (Job Shell) :=
        .ok { job with progress := .ended outcome false } (s.joined t.process)
      match body start with
      | .ok outcome t => after outcome t
      | .error stop t => after (outcomeOf t stop) t

/-- Lets the processes in the background run that have a number. Time passes until all of them have
ended. -/
def runJobs (deeper : Evaluate) (chosen : Nat → Bool) : Run Unit := do
  let before := (← get).process.clock
  for job in (← get).jobs do
    if chosen job.number then
      let now := (← get).process.clock
      let after ← runJob deeper job
      modify fun s => { s with
        process := { s.process with clock := max now s.process.clock }
        jobs := s.jobs.map fun (j : Job Shell) => if j.number = job.number then after else j }
  modify fun s => { s with process := { s.process with clock := max before s.process.clock } }
  Run.receiveMail

/-- Lets those processes in the background run that have ended by now. -/
def catchUp (deeper : Evaluate) : Run Unit := do
  for job in (← get).jobs do
    if let .waiting .. := job.progress then
      let s ← get
      match runJob deeper job s with
      | .ok after t =>
          if t.process.clock ≤ s.process.clock then
            set { t with
              process := { t.process with clock := s.process.clock }
              jobs := t.jobs.map fun (j : Job Shell) => if j.number = job.number then after else j }
            Run.receiveMail
      | .error .. => pure ()

/-- Starts a process in the background and goes on. -/
def background (statement : Statement) : Run Unit := do
  modify fun s => s.clearing
  let s ← get
  let child := s.forked
  let (index, p) := child.process.addOpen ⟨.device .null, true, false⟩
  let p := p.attach 0 index
  let start := { child with process := { p with ignored := [2, 3] ++ p.ignored } }
  let number := child.process.number
  let job : Job Shell := ⟨s.freeSlot, number, statement.stages, .waiting statement start⟩
  set { s with
    process := { s.process with nextNumber := p.nextNumber, opened := p.opened }
    jobs := s.jobs ++ [job]
    lastJob := some number }

end Running

end RestrictedShell.Host.Script
