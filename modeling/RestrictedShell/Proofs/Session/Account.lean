import RestrictedShell.Proofs.Session.Attempts
import RestrictedShell.Proofs.Session.Logging

namespace RestrictedShell

def Event.logged? : Event → Option Log.Entry
  | .logged entry => some entry
  | _ => none

def Trace.entries (trace : Trace) : List Log.Entry :=
  trace.filterMap Event.logged?

namespace Log.Entry

def readError? : Entry → Option ReadError
  | readFailed error _ => some error
  | _ => none

/-- The entry tells what came of a launch. -/
def concludes : Entry → Bool
  | spawnFailed _ | commandFinished .. | noCompletionReport .. => true
  | _ => false

/-- The entry tells why a session ends. -/
def closes : Entry → Bool
  | quitRequested | endOfInput | inputKeepsFailing => true
  | _ => false

end Log.Entry

def Ending.entry : Ending → Log.Entry
  | .quit => .quitRequested
  | .endOfInput => .endOfInput
  | .readFailures => .inputKeepsFailing

def Attempt.told? (a : Attempt) : Option Log.Entry :=
  let name := a.invocation.command.name
  match a.result with
  | .ok (.ok (.exited code)) => some (.commandFinished name code)
  | .ok (.ok outcome) => some (.noCompletionReport name outcome)
  | .ok (.error error) => some (.spawnFailed error)
  | .error _ => none

namespace Trace

theorem entries_append (a b : Trace) : entries (a ++ b) = entries a ++ entries b :=
  List.filterMap_append

end Trace

namespace Launched

end Launched

namespace World

variable {σ κ : Type} [LineSource σ] [Launcher κ]

/-- `w.Accounted given seen w'`: from the one world to the other, the log has an entry for each line
and each failing read among the answers of the source, and for what came of each launch, and none
that ends the session. -/
structure Accounted (w : World (σ × κ)) (given : List Reading) (seen : Trace)
    (w' : World (σ × κ)) : Prop extends w.Advances given seen w' where
  asked : seen.countP Event.isAsked = given.length
  dispatched : seen.entries.count .dispatching = (given.filterMap Reading.line?).length
  failed : seen.entries.filterMap Log.Entry.readError? = given.filterMap Reading.error?
  launched : (w.attempts seen).map (fun a => a.invocation.argv) = seen.launches
  concluded : seen.entries.filter Log.Entry.concludes =
    (w.attempts seen).filterMap Attempt.told?
  unclosed : ∀ entry ∈ seen.entries, entry.closes = false

theorem Accounted.trans {w w' w'' : World (σ × κ)} {a b : List Reading} {t u : Trace}
    (h : w.Accounted a t w') (h' : w'.Accounted b u w'') : w.Accounted (a ++ b) (t ++ u) w'' where
  toAdvances := h.toAdvances.trans h'.toAdvances
  asked := by rw [List.countP_append, h.asked, h'.asked, List.length_append]
  dispatched := by
    rw [Trace.entries_append, List.count_append, h.dispatched, h'.dispatched,
      List.filterMap_append, List.length_append]
  failed := by
    rw [Trace.entries_append, List.filterMap_append, h.failed, h'.failed, List.filterMap_append]
  launched := by
    rw [h.toAdvances.attempts_append, List.map_append, h.launched, h'.launched,
      Trace.launches_append]
  concluded := by
    rw [Trace.entries_append, List.filter_append, h.concluded, h'.concluded,
      h.toAdvances.attempts_append, List.filterMap_append]
  unclosed entry hentry := by
    rw [Trace.entries_append] at hentry
    exact (List.mem_append.mp hentry).elim (h.unclosed entry) (h'.unclosed entry)

end World

namespace Action

variable {σ κ α β : Type} [LineSource σ] [Launcher κ]

end Action

namespace Session

section

variable {σ κ : Type} [LineSource σ] [Launcher κ]

end

section

variable {κ : Type} [Launcher κ] {settings : Settings} {failures : UInt32}

end

/-- The last entry of a session that ends in this way. -/
def closing : Except IoError Ending → Trace
  | .ok ending => [.logged ending.entry]
  | .error _ => []

end Session

end RestrictedShell
