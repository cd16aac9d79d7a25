import RestrictedShell.Event
import RestrictedShell.Log.Filter
/-!
The output side of a session. Every stream has an allowance of bytes and of flushes; an operation
that the allowance does not cover fails, and what it achieved before it failed stays.
-/

namespace RestrictedShell

/-- How much a stream will still take; `none` stands for no limit. -/
structure Allowance where
  bytes : Option Nat
  flushes : Option Nat
deriving DecidableEq, Repr

def Allowance.unlimited : Allowance := ⟨none, none⟩

/-- The streams, the entries that are shown of the log, and all that has happened. -/
structure Console where
  out : Allowance
  err : Allowance
  prompt : Allowance
  filter : Log.Filter
  trace : Array Event
deriving DecidableEq, Repr

namespace Console

/-- A console that takes everything and has seen nothing. -/
def fresh (filter : Log.Filter) : Console :=
  ⟨.unlimited, .unlimited, .unlimited, filter, #[]⟩

def allowance (c : Console) : Stream → Allowance
  | .out => c.out
  | .err => c.err
  | .prompt => c.prompt

def setAllowance (c : Console) (a : Allowance) : Stream → Console
  | .out => { c with out := a }
  | .err => { c with err := a }
  | .prompt => { c with prompt := a }

def record (c : Console) (e : Event) : Console :=
  { c with trace := c.trace.push e }

def recordAll (c : Console) (es : List Event) : Console :=
  es.foldl record c

/-- Logs an entry, if it is shown. -/
def log (c : Console) (e : Log.Entry) : Console :=
  if c.filter.shows e then c.record (.logged e) else c

def logAll (c : Console) (es : List Log.Entry) : Console :=
  es.foldl log c

/-- The same console before anything happened on it. -/
def clear (c : Console) : Console :=
  { c with trace := #[] }

/-- Everything that happened, oldest first. -/
def history (c : Console) : Trace :=
  c.trace.toList

@[simp]
theorem history_record (c : Console) (e : Event) :
    (c.record e).history = c.history ++ [e] := by
  simp [record, history]

@[simp]
theorem history_setAllowance (c : Console) (a : Allowance) (s : Stream) :
    (c.setAllowance a s).history = c.history := by
  cases s <;> rfl

@[simp]
theorem allowance_setAllowance (c : Console) (a : Allowance) (s : Stream) :
    (c.setAllowance a s).allowance s = a := by
  cases s <;> rfl

end Console

/-- An action on the console. It may fail, and then leaves the console as it is at that point. -/
abbrev Output := EStateM IoError Console

namespace Output

def refusedWrite (s : Stream) : IoError :=
  .custom .brokenPipe (s.name ++ " write refused")

def refusedFlush (s : Stream) : IoError :=
  .custom .brokenPipe (s.name ++ " flush refused")

/-- Writes all bytes, or as many as the stream still takes. -/
def write (s : Stream) (bytes : Bytes) : Output Unit := fun c =>
  let a := c.allowance s
  match a.bytes with
  | none => .ok () (c.record (.wrote s bytes))
  | some left =>
      let c' := c.setAllowance { a with bytes := some (left - bytes.length) } s
      if bytes.length ≤ left then .ok () (c'.record (.wrote s bytes))
      else .error (refusedWrite s) (c'.record (.wrote s (bytes.take left)))

def writeText (s : Stream) (text : String) : Output Unit :=
  write s (Text.encode text)

/-- Flushes a stream. Every attempt counts against the allowance. -/
def flush (s : Stream) : Output Unit := fun c =>
  let a := c.allowance s
  match a.flushes with
  | none => .ok () (c.record (.flushed s))
  | some 0 => .error (refusedFlush s) c
  | some (left + 1) =>
      .ok () ((c.setAllowance { a with flushes := some left } s).record (.flushed s))

def log (e : Log.Entry) : Output Unit := fun c =>
  .ok () (c.log e)

def note (e : Event) : Output Unit := fun c =>
  .ok () (c.record e)

end Output

end RestrictedShell
