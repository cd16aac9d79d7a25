import RestrictedShell.Host.Script.Builtin.Basic
import RestrictedShell.Signal
/-!
Signals as scripts name them, what a script does when they come, and how it sends them.
-/

namespace RestrictedShell.Host.Script.Builtin

/-- How many signals there are, counting the end of the script as one. -/
def signalCount : Nat := 65

/-- The name of a signal; one without a name goes by its number. -/
def signalName (n : Nat) : String :=
  let name? := if n = 0 then some "EXIT"
    else if n < Signal.firstRealTime then Signal.names[n - 1]?.filter (· ≠ "STKFLT")
    else Signal.realTimeNames[n - Signal.firstRealTime]?
  name?.getD n.repr

/-- A signal by its number. -/
def numberedSignal? (word : Bytes) : Option Nat :=
  if word ≠ [] && word.all isDigit && decimalValue word < signalCount then some (decimalValue word)
  else none

/-- A signal by its number or by its name, in any case. The end of the script counts as one if `least`
is zero. -/
def signal? (least : Nat) (word : Bytes) : Option Nat :=
  (numberedSignal? word).or
    ((List.range signalCount).find? fun n =>
      decide (least ≤ n) && (Text.lossy word).toUpper == (signalName n).toUpper)

/-- Tells a script, or the system, what to do when signals come. -/
def trap : Builtin := fun args => do
  let args ← operands args
  match args with
  | [] =>
      let traps := (← get).traps.mergeSort fun a b => a.1 ≤ b.1
      for (signal, action) in traps do
        printLine (ascii "trap -- " ++ quoted action ++ ascii (" " ++ signalName signal))
      pure 0
  | first :: rest =>
      let (action, signals) := if rest = [] || (numberedSignal? first).isSome then (none, args)
        else (if first = [byte '-'] then none else some first, rest)
      let mut status := 0
      for word in signals do
        if status = 0 then
          match signal? 0 word with
          | some signal =>
              modify fun s =>
                let others := s.traps.filter fun t => t.1 ≠ signal
                let ignored := s.process.ignored.filter (· ≠ signal)
                let ignored := if action = some [] then signal :: ignored else ignored
                { s with
                  traps := (action.map fun a => (signal, a)).toList ++ others
                  process := { s.process with ignored } }
          | none =>
              report (ascii "trap: " ++ word ++ ascii ": bad trap")
              status := 1
      pure status

/-- What a script asks for when it sends signals: a signal and where it goes, or names of signals. -/
inductive Sending where
  | to (signal : Nat) (targets : List Bytes)
  | names (numbers : List Bytes)

def killUsage : Bytes :=
  ascii "Usage: kill [-s sigspec | -signum | -sigspec] [pid | job]... or\nkill -l [exitstatus]"

/-- Reads what a script asks for. -/
def sending (args : List Bytes) : Run Sending := do
  if args = [] then Run.fail killUsage
  let direct := match args with
    | (0x2D :: word) :: rest => (signal? 1 word).map fun signal => (signal, rest)
    | _ => none
  let (signal?, lists, rest) ← match direct with
    | some (signal, rest) => pure (some signal, false, rest)
    | none => do
        let (chosen, rest) ← match args with
          | (0x2D :: _) :: _ => options ⟨"l", "s"⟩ args
          | _ => pure ([], args)
        let mut found : Option Nat := none
        for c in chosen do
          if c.1 == byte 's' then
            match signal? 1 c.2 with
            | some signal => found := some signal
            | none => Run.fail (ascii "invalid signal number or name: " ++ c.2)
        pure (found, isChosen chosen 'l', rest)
  let signal? := if !lists && signal?.isNone then some 15 else signal?
  if (signal?.isNone || rest = []) != lists then Run.fail killUsage
  match signal?, lists with
  | some signal, false => pure (.to signal rest)
  | _, _ => pure (.names rest)

/-- Prints the names of signals: of all, or of the one that killed a process with this status. -/
def printNames : List Bytes → Run Unit
  | [] => do
      printLine (ascii "0")
      for n in (List.range signalCount).tail do
        printLine (ascii (signalName n))
  | word :: _ => do
      let n ← Run.count word
      let n := if 128 < n then n - 128 else n
      if 0 < n && n < signalCount then printLine (ascii (signalName n))
      else Run.fail (ascii "invalid signal number or exit status: " ++ word)

end RestrictedShell.Host.Script.Builtin
