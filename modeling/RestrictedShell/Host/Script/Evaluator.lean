import RestrictedShell.Host.Script.Builtin.Place
import RestrictedShell.Host.Script.Builtin.Variables
import RestrictedShell.Host.Script.Running
/-!
Carrying out statements. What is nested in a statement is carried out along with it; functions, commands
inside words, and texts that a script runs lie one level deeper, and how many levels there may be is
bounded.
-/

namespace RestrictedShell.Host.Script

namespace Builtin

def echo : Builtin := fun args => do
  let (newline, words) := match args with
    | [0x2D, 0x6E] :: rest => (false, rest)
    | _ => (true, args)
  let (text, stops) := Format.plain ((([byte ' '] : Bytes).intercalate words))
  Run.print (text ++ if newline && !stops then [Text.newline] else [])
  pure 0

def printf : Builtin := fun args => do
  match ← operands args with
  | [] => Run.fail (ascii "usage: printf format [arg ...]")
  | format :: arguments => do
      pure (if ← Format.run format arguments then 0 else 1)

/-- Tests a condition; a name in brackets wants its closing bracket. -/
def test (bracket : Bool) : Builtin := fun args => do
  if bracket && (args.getLast?.bind List.head?) ≠ some (byte ']') then Run.fail (ascii "missing ]")
  match Test.eval (← get).process (if bracket then args.dropLast else args) with
  | .ok holds => pure (if holds then 0 else 1)
  | .error message => Run.fail message

/-- Runs its arguments, put together, as a text. -/
def eval (deeper : Evaluate) (m : Mode) : Builtin := fun args => do
  let source := ([byte ' '] : Bytes).intercalate args
  let ran ← Running.text deeper m.inner source 1
  let status := (← get).status
  pure (if ran then status else 0)

/-- The file that a text is to be read from. -/
def textFile (s : Shell) (path : Bytes) : Option Bytes :=
  if path.contains (byte '/') then some path
  else (Found.candidates (Found.searchPath s) path).find? fun path =>
    match s.process.files.find s.process.dir path with
    | .ok (_, .file _) => true
    | _ => false

/-- Runs the text in a file. -/
def dot (deeper : Evaluate) : Builtin := fun args => do
  match ← operands args with
  | [] => pure 0
  | name :: _ =>
      match textFile (← get) name with
      | none => Run.fail (name ++ ascii ": not found")
      | some path =>
          match ← Run.system (System.openPath path .read) with
          | .error e => Pointing.cannot false path e
          | .ok index =>
              modify fun s => { s with speaker := some path }
              let p := (← get).process.attach 10 index
              let bytes := (p.available 10).toOption.getD []
              match ← Run.attempt (Running.text deeper .plain bytes 1) with
              | .ok ran =>
                  let status := (← get).status
                  pure (if ran then status else 0)
              | .error (.return _) => pure (← get).status
              | .error stop => throw stop

/-- Becomes a program, if one is named. -/
def exec (deeper : Evaluate) : Builtin := fun args => do
  match ← operands args with
  | [] => pure 0
  | name :: rest => do
      let s ← get
      let paths := if name.contains (byte '/') then [name]
        else Found.candidates (Found.searchPath s) name
      Running.become deeper paths (name :: rest)
      pure 0

def exit : Builtin := fun args => do
  if let text :: _ := args then
    let code ← Run.count text
    modify fun s => { s with saved := some code }
  throw .exit

def return_ : Builtin := fun args => do
  match args with
  | text :: _ => do
      Run.setStatus (← Run.count text)
      throw (.return true)
  | [] => throw (.return false)

/-- Leaves loops, or goes on with the next turn of one. -/
def leave (stop : Nat → Stop) : Builtin := fun args => do
  let n ← match args with
    | text :: _ => do
        let n ← Run.count text
        if n = 0 then Run.illegalNumber text else pure n
    | [] => pure 1
  let n := min n (← get).loops
  Run.setStatus 0
  if 0 < n then throw (stop n) else pure 0

/-- The job that a word names. -/
def jobOf (word : Bytes) : Run (Job Shell) := do
  let jobs := (← get).jobs
  let found (job? : Option (Job Shell)) (failure : Bytes) : Run (Job Shell) :=
    match job? with
    | some job => pure job
    | none => Run.fail failure
  let unknown := ascii "No such job: " ++ word
  match word with
  | 0x25 :: rest =>
      if rest = [] || rest = ascii "+" || rest = ascii "%" then
        found jobs.getLast? (ascii "No current job")
      else if rest = ascii "-" then found jobs.dropLast.getLast? (ascii "No previous job")
      else if rest.all isDigit then
        found (jobs.find? fun j => j.slot + 1 = decimalValue rest) unknown
      else found none unknown
  | _ => found none unknown

/-- Notes that the script has waited for the end of jobs. -/
def noteAwaited (chosen : Nat → Bool) : Run Unit :=
  modify fun s => { s with
    jobs := s.jobs.map fun (j : Job Shell) => match j.progress with
      | .ended outcome _ => if chosen j.number then { j with progress := .ended outcome true } else j
      | .waiting .. => j }

/-- Waits for processes in the background, and gives the status of the last one named that there is. A
signal with a trap ends the waiting. -/
def wait (deeper : Evaluate) : Builtin := fun args => do
  let args ← operands args
  let interrupted : Run (Option Nat) := do
    pure (((← get).arrived.mergeSort (· ≤ ·)).head?.map (128 + ·))
  if args = [] then
    Running.runJobs deeper fun _ => true
    noteAwaited fun _ => true
    pure ((← interrupted).getD 0)
  else
    let mut status := 127
    for word in args do
      let number ← if word.head? = some (byte '%') then pure (← jobOf word).number else Run.count word
      Running.runJobs deeper (· = number)
      if let some job := (← get).jobs.find? fun j => j.number = number then
        if let .ended outcome awaited := job.progress then
          if !awaited then
            if let .signaled signal := outcome then
              if let some text := notice? signal.toInt.toNat then
                let _ ← Run.write 2 text
          noteAwaited (· = number)
          status := statusOf outcome
      if let some other := ← interrupted then
        status := other
    pure status

/-- Lists the processes in the background, the newest first. Those that have ended are forgotten. -/
def jobs : Builtin := fun args => do
  let (chosen, _) ← options ⟨"lp", ""⟩ args
  let jobs := (← get).jobs.reverse
  if isChosen chosen 'p' then
    for job in jobs do
      printLine (decimalBytes job.number)
  else
    let mut newer := 0
    for job in jobs do
      let sign := if newer = 0 then "+" else if newer = 1 then "-" else " "
      let number := if isChosen chosen 'l' then job.number.repr ++ " " else ""
      let state := match job.progress with
        | .waiting .. => "Running"
        | .ended (.exited code) _ => if code = 0 then "Done" else "Done(" ++ code.toInt.repr ++ ")"
        | .ended (.signaled signal) _ => (Signal.description? signal.toInt.toNat).getD ""
        | .ended (.lost _) _ => ""
      let text := "[" ++ (job.slot + 1).repr ++ "] " ++ sign ++ " " ++ number ++ state
      printLine (ascii (text ++ String.ofList (List.replicate (33 - text.length) ' ') ++
        String.join (List.replicate (job.stages - 1) " | ")))
      if let .waiting .. := job.progress then newer := newer + 1
    modify fun s => { s with
      jobs := s.jobs.filter fun j => match j.progress with
        | .ended .. => false
        | .waiting .. => true }
  pure 0

/-- Would take a job up again, if the script controlled its jobs. -/
def resume : Builtin := fun args => do
  let _ ← jobOf (args.head?.getD [byte '%'])
  Run.fail (ascii "job " ++ args.head?.getD (ascii "(null)") ++ ascii " not created under job control")

/-- Sends a signal to a process. Tells whether there is one with that number. -/
def send (signal number : Nat) : Run Bool := do
  let s ← get
  if number = s.process.number || number = 0 then
    Run.receive signal
    pure true
  else if s.process.parents.contains number then
    if signal ≠ 0 then
      Run.system (modify fun p => { p with mail := p.mail ++ [(number, signal)] })
    pure true
  else match s.jobs.find? fun j => j.number = number with
    | some ⟨_, _, _, .waiting _ start⟩ =>
        let survives := signal ≠ killSignal && (signal = 0 || harmless.contains signal ||
          start.process.ignored.contains signal)
        if !survives then
          modify fun s => { s with
            jobs := s.jobs.map fun (j : Job Shell) =>
              if j.number = number then { j with progress := .ended (signaled signal) false } else j }
        pure true
    | some job => pure !job.isOver
    | none => pure false

def kill : Builtin := fun args => do
  match ← sending args with
  | .names numbers =>
      printNames numbers
      pure 0
  | .to signal targets =>
      let mut status := 0
      for target in targets do
        let found ← match target with
          | 0x25 :: _ => do
              let _ ← jobOf target
              pure false
          | 0x2D :: rest => do
              let _ ← Run.count rest
              pure false
          | _ => do send signal (← Run.count target)
        if !found then
          Run.warn (ascii "No such process\n")
          status := 1
      pure status

/-- The command of the shell with a name. -/
def named? (deeper : Evaluate) (m : Mode) (name : Bytes) : Option Builtin :=
  match Text.lossy name with
  | ":" | "true" => some fun _ => pure 0
  | "false" => some fun _ => pure 1
  | "." => some (dot deeper)
  | "[" => some (test true)
  | "alias" => some defineAlias
  | "bg" | "fg" => some resume
  | "break" => some (leave .leave)
  | "cd" | "chdir" => some cd
  | "command" => some command
  | "continue" => some (leave .again)
  | "echo" => some echo
  | "eval" => some (eval deeper m)
  | "exec" => some (exec deeper)
  | "exit" => some exit
  | "export" => some (mark "export" true false)
  | "getopts" => some getopts
  | "hash" => some hash
  | "jobs" => some jobs
  | "kill" => some kill
  | "local" => some makeLocal
  | "printf" => some printf
  | "pwd" => some pwd
  | "read" => some read
  | "readonly" => some (mark "readonly" false true)
  | "return" => some return_
  | "set" => some set
  | "shift" => some shift
  | "test" => some (test false)
  | "times" => some times
  | "trap" => some trap
  | "type" => some type
  | "ulimit" => some ulimit
  | "umask" => some umask
  | "unalias" => some unalias
  | "unset" => some unset
  | "wait" => some (wait deeper)
  | _ => none

/-- Do arguments of the command that assign something count as assignments? -/
def assigns (name : Bytes) : Bool :=
  ["alias", "export", "local", "readonly"].any fun n => ascii n = name

/-- Carries out a command of the shell. What it prints comes out when it ends. A failure of a special
one ends the script. -/
def perform (special : Bool) (self : Bytes) (body : Run Nat) : Run Unit := do
  let speaker := (← get).speaker
  modify fun s => { s with speaker := if self = [] then none else some self }
  match ← Run.attempt body with
  | .ok status =>
      if ← Run.flush then Run.setStatus status
      else
        Run.warn (self ++ ascii ": I/O error")
        Run.setStatus (status ||| 1)
      modify fun s => { s with speaker }
  | .error stop =>
      if let .killed _ := stop then throw stop
      let _ ← Run.flush
      modify fun s => { s with speaker }
      if stop ≠ .failed || special then throw stop

end Builtin

/-- The arguments of a command, as far as its words are expanded, and the other words. -/
structure Unfolding where
  args : List Bytes
  rest : List Word

namespace Unfolding

/-- Expands words until there are so many arguments, if there can be. -/
def reach (capture : Capture) (count : Nat) (args : List Bytes) : List Word → Run Unfolding
  | [] => pure ⟨args, []⟩
  | word :: rest => do
      if count ≤ args.length then pure ⟨args, word :: rest⟩
      else reach capture count (args ++ (← Expansion.fields capture word)) rest

/-- Sees to it that there is an argument at a position, if there can be. -/
def at_ (capture : Capture) (position : Nat) (u : Unfolding) : Run (Option Bytes × Unfolding) := do
  let u ← reach capture (position + 1) u.args u.rest
  pure (u.args[position]?, u)

/-- Passes the options of the command that takes another as its argument: whether the standard search
path is asked for, and where the other command begins. `none` if there is none. -/
def passOptions (capture : Capture) (fuel position : Nat) (standard : Bool) (u : Unfolding) :
    Run (Bool × Option Nat × Unfolding) := do
  let (arg?, u) ← u.at_ capture position
  match fuel, arg? with
  | fuel + 1, some (0x2D :: b :: letters) =>
      if b :: letters = ascii "-" then
        let (next?, u) ← u.at_ capture (position + 1)
        pure (standard, next?.map fun _ => position + 1, u)
      else if (b :: letters).all (· == byte 'p') then
        passOptions capture fuel (position + 1) true u
      else pure (standard, none, u)
  | _, some _ => pure (standard, some position, u)
  | _, none => pure (standard, none, u)

end Unfolding

/-- A command whose words are expanded: all arguments, where the command itself begins among them, how it
is found, and whether the first command named is a special one of the shell. -/
structure Prepared where
  args : List Bytes
  position : Nat
  plain : Bool
  search? : Option Bytes
  special : Bool

namespace Prepared

/-- The command with its arguments. -/
def argv (c : Prepared) : List Bytes :=
  c.args.drop c.position

def name (c : Prepared) : Bytes :=
  c.argv.head?.getD []

def found (c : Prepared) (s : Shell) : Found :=
  Found.ofName s c.plain (c.search?.getD (Found.searchPath s)) c.name

/-- Expands the words behind a command. Behind commands that assign, they may be assignments. -/
def finish (capture : Capture) (c : Prepared) (assigns : Bool) (rest : List Word) :
    Run Prepared := do
  let mut args := c.args
  for word in rest do
    if assigns && word.assignedName?.isSome then
      args := args ++ [← Expansion.text capture .assignment word]
    else args := args ++ (← Expansion.fields capture word)
  pure { c with args }

/-- Expands the words of a command, which begins at a position. It may only say how another command is to
be found. The fuel bounds how many of that kind there are. -/
def ofWords (capture : Capture) (fuel : Nat) (c : Prepared) (first : Bool) (rest : List Word) :
    Run Prepared := do
  let s ← get
  match c.found s with
  | .builtin special =>
      let c := if first then { c with special } else c
      let finish (c : Prepared) (rest : List Word) : Run Prepared :=
        c.finish capture (Builtin.assigns c.name) rest
      match fuel with
      | fuel + 1 =>
          if c.name = ascii "command" then
            let (standard, inner, u) ← Unfolding.passOptions capture
              (c.args.length + rest.length + 1) (c.position + 1) false ⟨c.args, rest⟩
            match inner with
            | some position =>
                ofWords capture fuel { c with
                  args := u.args
                  position
                  plain := true
                  search? := if standard then some Found.standardPath else c.search? } false u.rest
            | none => finish { c with args := u.args } u.rest
          else finish c rest
      | 0 => finish c rest
  | _ => c.finish capture false rest

end Prepared

namespace Evaluator

/-- The signal for a process that uses too much time. -/
def timeSignal : Nat := 24

/-- How often a loop may be repeated. -/
def patience : Nat := 1000000

/-- Writes a command on the open file for errors, as it was before the command's own redirections. -/
def trace (deeper : Evaluate) (errors : Option Nat) (words : List Bytes) : Run Unit := do
  let s ← get
  if s.has .xtrace && !s.isTracing then
    modify fun s => { s with isTracing := true }
    let source := (s.value? (ascii "PS4")).getD []
    let mark ← match (Reader.start source s.line s.aliases s.documents).readText with
      | .ok (word, after) => do
          modify fun s => { s with documents := after.documents }
          Expansion.text (Running.capture deeper) .document word
      | .error _ => pure source
    modify fun s => { s with isTracing := false }
    let _ ← Run.writeTo errors (mark ++ ([byte ' '] : Bytes).intercalate words ++ [Text.newline])

/-- How many functions may call one another. -/
def maxCalls : Nat := 1000

/-- Calls a function. -/
def call (deeper : Evaluate) (m : Mode) (body : Statement) (args : List Bytes) : Run Unit := do
  let before ← get
  if before.calls = maxCalls then
    Run.fail (ascii ("Maximum function recursion depth (" ++ maxCalls.repr ++ ") reached"))
  modify fun s => { s with
    arguments := args, optionPlace := 1, optionOffset := none, loops := 0, calls := s.calls + 1 }
  let result ← Run.attempt (deeper m.inner body)
  modify fun s => { s with
    arguments := before.arguments
    optionPlace := before.optionPlace
    optionOffset := before.optionOffset
    loops := before.loops
    calls := before.calls }
  match result with
  | .ok () | .error (.return _) => pure ()
  | .error stop => throw stop

/-- Runs a program, in a process of its own unless this one ends with it. -/
def external (deeper : Evaluate) (m : Mode) (paths argv : List Bytes) : Run Unit := do
  let s ← get
  if m.exits && !s.hasTraps then Running.become deeper paths argv
  else
    let outcome ← Run.inChild do
      match Running.load (← get).process argv paths .noSuchFile with
      | .ok loaded => Running.execute deeper Running.maxChanges loaded
      | .error e => pure (exited (← Running.refuse (argv.head?.getD []) e))
    Run.setStatus (← Run.settle outcome)
    if s.process.clock < (← get).process.clock then Running.catchUp deeper

/-- Carries out a command whose words are expanded, and whose assignments and redirections are done. -/
def perform (deeper : Evaluate) (m : Mode) (c : Prepared) : Run Unit := do
  let s ← get
  if c.argv = [] then
    Run.setStatus s.substituted
  else
    let found := c.found s
    match found with
    | .missing e =>
        Run.warn (c.name ++ ascii ": " ++ Found.reason e)
        Run.setStatus 127
    | .function body => call deeper m body c.argv.tail
    | .builtin _ =>
        match Builtin.named? deeper m c.name with
        | some body => Builtin.perform c.special c.name (body c.argv.tail)
        | none => Run.setStatus 0
    | .program paths =>
        if c.search?.isNone then found.remember c.name
        external deeper m paths c.argv

/-- Carries out a simple command: its words are expanded, then its redirections, then its
assignments. -/
def simple (deeper : Evaluate) (m : Mode) (line : Nat) (assignments words : List Word)
    (redirections : List Redirection) : Run Unit := do
  let capture := Running.capture deeper
  modify fun s => { s with line, substituted := 0 }
  let u ← Unfolding.reach capture 1 [] words
  let blank : Prepared := ⟨u.args, 0, false, none, false⟩
  let c ← if u.args = [] then pure blank
    else Prepared.ofWords capture (words.length + u.args.length) blank true u.rest
  let isLocal := c.argv ≠ [] && !c.special
  let exports := c.special && c.name = ascii "exec" && 1 < c.argv.length
  Run.withLocals isLocal do
    let before ← get
    let errors := before.process.descriptors.lookup 2
    let pointings ← redirections.mapM (Pointing.ofRedirection capture)
    let body : Run Unit := do
      if !(← Run.redirect capture pointings) then
        Run.setStatus 2
        if c.special then throw .failed
      else
        let mut assigned : List Bytes := []
        for word in assignments do
          let text ← Expansion.text capture .assignment word
          let (name, value?) := Builtin.assignment text
          if isLocal then Run.makeLocal name value? true
          else Run.assign name value? exports false
          assigned := assigned ++ [text]
        trace deeper errors (assigned ++ c.args)
        perform deeper m c
    let keeps := c.special && c.name = ascii "exec"
    if keeps then body
    else Run.ensuring body (Run.restoring before (pointings.map Pointing.fd))

/-- What a loop does when its test or its body stops short: it goes on, it is left, or the stop concerns
more than this loop. -/
def turn (result : Except Stop Unit) : Run Bool := do
  match result with
  | .ok () => pure true
  | .error (.leave n) => if n ≤ 1 then pure false else throw (.leave (n - 1))
  | .error (.again n) => if n ≤ 1 then pure true else throw (.again (n - 1))
  | .error stop => throw stop

/-- Repeats a body as long as the status of a test is what it should be. `last` is the status of the last
turn, and the fuel bounds the number of turns. -/
def turns (holds : Bool) (test body : Run Unit) (fuel last : Nat) : Run Unit := do
  match fuel with
  | 0 => throw (.killed timeSignal)
  | fuel + 1 =>
      match ← Run.attempt test with
      | .ok () =>
          if ((← get).status == 0) == holds then
            if ← turn (← Run.attempt body) then turns holds test body fuel (← get).status
          else Run.setStatus last
      | .error stop =>
          if stop = .return false then Run.setStatus last
          if ← turn (.error stop) then turns holds test body fuel last
          else Run.setStatus last

/-- Carries out a body for each item, as the value of a variable. -/
def eachTurn (name : Bytes) (body : Run Unit) : List Bytes → Run Unit
  | [] => pure ()
  | item :: rest => do
      Run.assign name (some item) false false
      if ← turn (← Run.attempt body) then eachTurn name body rest

/-- Acts inside one more loop. -/
def inLoop (a : Run Unit) : Run Unit := do
  let loops := (← get).loops
  modify fun s => { s with loops := loops + 1 }
  Run.ensuring a fun s => { s with loops }

/-- Does a pattern match the text? -/
def anyMatches (capture : Capture) (text : Bytes) : List Word → Run Bool
  | [] => pure false
  | word :: rest => do
      if (← Expansion.pattern capture word).accepts text then pure true
      else anyMatches capture text rest

/-- What follows a statement: signals are dealt with, a failure may end the script, and so may the mode.
-/
def conclude (deeper : Evaluate) (m : Mode) (checked : Bool) : Run Unit := do
  Running.runTraps deeper
  let s ← get
  if checked && !m.tested && s.status ≠ 0 && s.has .errexit then throw .ended
  if m.exits then throw .ended

/-- Carries out a stage of a pipeline in a process of its own, to its end. -/
def stage (deeper : Evaluate) (input : Option Nat) (body : Run Unit) : Run Outcome :=
  Run.inChild (Running.toEnd deeper do
    if let some index := input then Pointing.attach 0 index
    body)

/-- Carries out a stage whose output is for the next one, and gives the open file to read it from. -/
def feeding (deeper : Evaluate) (input : Option Nat) (body : Run Unit) : Run Nat := do
  let (index, p) := (← get).process.addOpen ⟨.pipe [] 0, false, true⟩
  Run.system (set p)
  let outcome ← stage deeper input do
    Pointing.attach 1 index
    body
  if let .signaled signal := outcome then
    if let some text := notice? signal.toInt.toNat then
      let _ ← Run.write 2 text
  let bytes := match (← get).process.opened[index]?.map OpenFile.target with
    | some (.pipe pieces _) => pieces.reverse.flatten
    | _ => []
  let (index, p) := (← get).process.addOpen ⟨.source bytes false, true, false⟩
  Run.system (set p)
  pure index

mutual

/-- Carries out a statement. -/
def evaluate (deeper : Evaluate) (m : Mode) (statement : Statement) : Run Unit := do
  let capture := Running.capture deeper
  if (← get).has .noexec then conclude deeper m false
  else
    Running.runTraps deeper
    match statement with
    | .nothing => conclude deeper m false
    | .simple line assignments words redirections =>
        simple deeper m line assignments words redirections
        conclude deeper m true
    | .negated inner =>
        let result ← Run.attempt (evaluate deeper .test inner)
        let negate : Run Unit := modify fun s => { s with status := if s.status = 0 then 1 else 0 }
        match result with
        | .ok () =>
            negate
            conclude deeper m false
        | .error (.return explicit) =>
            negate
            throw (.return explicit)
        | .error stop => throw stop
    | .both first second =>
        evaluate deeper .test first
        if (← get).status = 0 then evaluate deeper m second else conclude deeper m false
    | .either first second =>
        evaluate deeper .test first
        if (← get).status ≠ 0 then evaluate deeper m second else conclude deeper m false
    | .sequence first second =>
        evaluate deeper m.inner first
        evaluate deeper m second
    | .background inner =>
        Running.background inner
        Run.setStatus 0
        conclude deeper m true
    | .subshell line body redirections =>
        modify fun s => { s with line }
        let pointings ← redirections.mapM (Pointing.ofRedirection capture)
        let inside (m : Mode) : Run Unit := do
          pointings.forM (Pointing.apply capture)
          evaluate deeper { m with exits := true } body
          throw .ended
        if m.exits && !(← get).hasTraps then inside m
        else
          let outcome ← Run.inChild (Running.toEnd deeper (inside m))
          Run.setStatus (← Run.settle outcome)
          conclude deeper m true
    | .redirected line body redirections =>
        modify fun s => { s with line }
        let pointings ← redirections.mapM (Pointing.ofRedirection capture)
        let before ← get
        let inside : Run Unit := do
          if ← Run.redirect capture pointings then evaluate deeper m.inner body
          else Run.setStatus 2
        Run.ensuring inside (Run.restoring before (pointings.map Pointing.fd))
        conclude deeper m false
    | .choose test body other =>
        evaluate deeper .test test
        if (← get).status = 0 then evaluate deeper m body
        else
          if other = .nothing then Run.setStatus 0
          evaluate deeper m other
    | .repeat holds test body =>
        inLoop (turns holds (evaluate deeper .test test) (evaluate deeper m.inner body) patience 0)
        conclude deeper m false
    | .each line name words body =>
        modify fun s => { s with line }
        let mut items := []
        for word in words do
          items := items ++ (← Expansion.fields capture word)
        if items = [] then Run.setStatus 0
        inLoop (eachTurn name (evaluate deeper m.inner body) items)
        conclude deeper m false
    | .select line subject arms =>
        modify fun s => { s with line }
        let text ← Expansion.text capture .text subject
        choose deeper m text arms
        conclude deeper m false
    | .arm _ _ _ => pure ()
    | .define name body =>
        modify fun s => { s with
          functions := (name, body) :: s.functions.filter fun f => f.1 ≠ name
          status := 0 }
        conclude deeper m false
    | .pipeline first rest =>
        let outcome ← if rest = .nothing then
            stage deeper none (evaluate deeper { m with exits := true } first)
          else do
            let index ← feeding deeper none (evaluate deeper { m with exits := true } first)
            stages deeper m index rest
        Run.setStatus (← Run.settle outcome)
        conclude deeper m true

/-- Carries out the first arm that has a pattern for the text. -/
def choose (deeper : Evaluate) (m : Mode) (text : Bytes) (arms : Statement) : Run Unit := do
  match arms with
  | .arm patterns body next =>
      if ← anyMatches (Running.capture deeper) text patterns then
        if body = .nothing then Run.setStatus 0
        evaluate deeper m body
      else choose deeper m text next
  | _ => Run.setStatus 0

/-- Carries out further stages of a pipeline, each to its end, and gives how the last of them ends. -/
def stages (deeper : Evaluate) (m : Mode) (input : Nat) (rest : Statement) : Run Outcome := do
  match rest with
  | .pipeline last .nothing =>
      stage deeper (some input) (evaluate deeper { m with exits := true } last)
  | .pipeline next rest =>
      let index ← feeding deeper (some input) (evaluate deeper { m with exits := true } next)
      stages deeper m index rest
  | _ => pure (exited 0)

end

/-- How many levels deep a script may go before it has no more room. -/
def maxDepth : Nat := 4000

/-- The signal for a process that has no more room. -/
def roomSignal : Nat := 11

/-- Carries out statements at a level above which there are so many others. -/
def atDepth : Nat → Evaluate
  | 0 => fun _ _ => throw (.killed roomSignal)
  | depth + 1 => fun m statement => evaluate (atDepth depth) m statement

end Evaluator

/-- Runs a loaded program on a process. Gives how it ends, and the process it leaves. -/
def runLoaded (loaded : Loaded) (p : Process) : Outcome × Process :=
  let s := Shell.start p
  match Running.execute (Evaluator.atDepth Evaluator.maxDepth) Running.maxChanges loaded s with
  | .ok outcome t => (outcome, t.process)
  | .error stop t => (outcomeOf t stop, t.process)

end RestrictedShell.Host.Script
