import RestrictedShell.Log.Entry
/-!
What can be seen of a session: an ordered record of the bytes and flushes that its streams took, the
lines it asked for, the children it started and waited for, and its log.
-/

namespace RestrictedShell

/-- The streams that a session writes to. The prompt has a stream of its own where it is not shown
on the standard output. -/
inductive Stream where
  | out
  | err
  | prompt
deriving DecidableEq, Repr

def Stream.name : Stream → String
  | .out => "out"
  | .err => "err"
  | .prompt => "prompt"

/-- One thing that happened. `childWrote` is output of a child itself, not of the session. -/
inductive Event where
  | wrote (stream : Stream) (bytes : Bytes)
  | flushed (stream : Stream)
  | asked (prompt : Bytes)
  | launched (argv : List Bytes)
  | waited (command : String)
  | logged (entry : Log.Entry)
  | childWrote (stream : Stream) (bytes : Bytes)
deriving DecidableEq, Repr

/-- What happened, oldest first. -/
abbrev Trace := List Event

namespace Trace

/-- Puts an event in front of a condensed trace and keeps it condensed. -/
def push : Event → Trace → Trace
  | .wrote _ [], trace => trace
  | .wrote s bytes, .wrote s' bytes' :: trace =>
      if s = s' then .wrote s (bytes ++ bytes') :: trace
      else .wrote s bytes :: .wrote s' bytes' :: trace
  | .flushed s, .flushed s' :: trace =>
      if s = s' then .flushed s :: trace else .flushed s :: .flushed s' :: trace
  | e, trace => e :: trace

/-- The trace with neighbouring writes to one stream joined, empty writes left out, and
neighbouring flushes of one stream shown once. -/
def condense (trace : Trace) : Trace :=
  trace.foldr push []

/-- The bytes that the children themselves wrote on a stream they inherit. -/
def fromChildren (trace : Trace) (stream : Stream) : Bytes :=
  trace.flatMap fun
    | .childWrote s bytes => if s = stream then bytes else []
    | _ => []

/-- What appears of an event outside the session, and where: what it or a child writes, and the log
on the error stream. -/
def shown : Event → Option (Stream × Bytes)
  | .wrote s bytes | .childWrote s bytes => some (s, bytes)
  | .logged entry => some (.err, Text.encode entry.render)
  | _ => none

/-- Everything that appears on a stream. -/
def transcript (trace : Trace) (stream : Stream) : Bytes :=
  (trace.filterMap shown).flatMap fun piece => if piece.1 = stream then piece.2 else []

/-- Everything that appears on any stream, in its order. -/
def mergedTranscript (trace : Trace) : Bytes :=
  (trace.filterMap shown).flatMap Prod.snd

end Trace

end RestrictedShell
