import RestrictedShell.Host.Script.Builtin.Signals
import RestrictedShell.Host.Script.Lookup
import RestrictedShell.Outcome
/-!
A script and the processes it starts: what a child begins with, what is left of it when it has ended,
and the signals that pass between processes.
-/

namespace RestrictedShell.Host.Script

namespace Shell

/-- Has the script anything to do when some signal comes, or when it ends? -/
def hasTraps (s : Shell) : Bool :=
  s.traps.any fun t => t.2 ≠ []

/-- The first place in the table of jobs that is free. -/
def freeSlot (s : Shell) : Nat :=
  ((List.range s.jobs.length).find? fun k => s.jobs.all fun j => j.slot ≠ k).getD s.jobs.length

/-- A shell that is about to start a process: the process takes the first place in the table of jobs that
is free or whose job is over, and such a job is forgotten. -/
def clearing (s : Shell) : Shell :=
  match (List.range s.freeSlot).find? fun k => s.jobs.any fun j => j.slot = k && j.isOver with
  | some k => { s with jobs := s.jobs.filter fun j => j.slot ≠ k }
  | none => s

/-- A shell in a new process. What it would do when signals come is forgotten, unless it ignores
them. -/
def forked (s : Shell) : Shell :=
  let p := s.process
  { s with
    traps := s.traps.filter fun t => t.2 = []
    arrived := []
    jobs := []
    outbox := []
    settings := s.settings.filter (· ≠ .monitor)
    process := { p with
      number := p.nextNumber
      nextNumber := p.nextNumber + 1
      parents := p.number :: p.parents } }

/-- A shell after another process has run: of what that has done, only what it did to files and to open
files stays, and time has passed. -/
def joined (s : Shell) (after : Process) : Shell :=
  { s with process := { s.process with
      files := after.files
      opened := after.opened
      printed := after.printed
      nextNumber := after.nextNumber
      clock := after.clock
      mail := after.mail } }

end Shell

/-- What is said of a process that a signal has killed. An interrupt and a broken pipe go without
saying. -/
def notice? (signal : Nat) : Option Bytes :=
  if signal = 2 ∨ signal = 13 then none
  else (Signal.description? signal).map fun d => ascii (d ++ "\n")

/-- The signals that do nothing to a process unless it asks for them. -/
def harmless : List Nat := [17, 18, 23, 28]

/-- The signal by which a process is killed for sure. -/
def killSignal : Nat := 9

/-- The status that stands for the end of a process. -/
def statusOf : Outcome → Nat
  | .exited code => code.toInt.toNat
  | .signaled signal => 128 + signal.toInt.toNat
  | .lost _ => 127

def exited (code : Nat) : Outcome :=
  .exited (Int32.ofNat (code % 256))

def signaled (signal : Nat) : Outcome :=
  .signaled (Int32.ofNat signal)

/-- The end that a stop means for a process. -/
def outcomeOf (s : Shell) : Stop → Outcome
  | .killed signal => signaled signal
  | _ => exited s.status

namespace Run

/-- Takes a signal: it is ignored, kept until its trap is run, or kills the script. -/
def receive (signal : Nat) : Run Unit := do
  let s ← get
  if signal = killSignal then throw (.killed signal)
  match s.traps.lookup signal with
  | some (_ :: _) =>
      modify fun s => { s with arrived := signal :: s.arrived.filter (· ≠ signal) }
  | _ =>
      if signal ≠ 0 && !s.process.ignored.contains signal && !harmless.contains signal then
        throw (.killed signal)

/-- Takes the signals that other processes have sent to this one. -/
def receiveMail : Run Unit := do
  let s ← get
  let number := s.process.number
  let mine := s.process.mail.filter fun m => m.1 = number
  if mine ≠ [] then
    system (modify fun p => { p with mail := p.mail.filter fun m => m.1 ≠ number })
    for m in mine do
      receive m.2

/-- Says what has to be said of a process that has ended, and gives its status. -/
def settle (outcome : Outcome) : Run Nat := do
  if let .signaled signal := outcome then
    if let some text := notice? signal.toInt.toNat then
      let _ ← write 2 text
  receiveMail
  pure (statusOf outcome)

/-- Acts in a new process, to its end. -/
def inChild (a : Run Outcome) : Run Outcome := fun s =>
  let s := s.clearing
  match a s.forked with
  | .ok outcome t => .ok outcome (s.joined t.process)
  | .error stop t => .ok (outcomeOf t stop) (s.joined t.process)

end Run

end RestrictedShell.Host.Script
