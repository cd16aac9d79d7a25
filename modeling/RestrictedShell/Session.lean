import RestrictedShell.Report
import RestrictedShell.Session.Environment
import RestrictedShell.Settings
/-!
A session: reading a line, doing what it asks for, and going on. Only a failure of the session's
own output fails it; the input may fail as often in a row as the settings allow, and commands may
end as they like. One turn of the loop is a definition of its own, so that a session is the
repetition of turns, and turns use up either the supply of lines or the patience of the settings.
-/

namespace RestrictedShell

/-- Whether to go on after a line. -/
inductive Flow where
  | proceed
  | quit
deriving DecidableEq, Repr

/-- Why a session ended. -/
inductive Ending where
  | quit
  | endOfInput
  | readFailures
deriving DecidableEq, Repr

namespace Session

variable {ε : Type} [Environment ε]

/-- The list of commands, a line for each. -/
def helpText : String :=
  "Available commands:\n" ++ String.join (Command.all.map fun c => "- " ++ c.name ++ "\n")

def hintText : String :=
  "\nType 'help' to see the available commands\n"

/-- Runs a command. What was written before is flushed first, since the child shares the standard
output. -/
def runExternal (i : Invocation) : Action ε Unit := do
  (Output.flush .out).act
  match ← Environment.attempt i with
  | .ok outcome => (report i.command.name outcome).act
  | .error error =>
      (Output.log (.spawnFailed error)).act
      (Output.writeText .err ("error creating a new process: " ++ error.message ++ "\n")).act

/-- Does what a line asks for. Everything but the request to quit ends with a flush. A text of
several lines is written at once, not line by line: the stream takes and refuses the same bytes
either way, and no flush comes between the lines. -/
def respond : Dispatch → Action ε Flow
  | .quit => pure .quit
  | .blank => do
      (Output.flush .out).act
      pure .proceed
  | .help => do
      (Output.writeText .out helpText).act
      (Output.flush .out).act
      pure .proceed
  | .unrecognized name => do
      (Output.writeText .err ("command not recognized: " ++ name ++ "\n")).act
      (Output.writeText .out hintText).act
      (Output.flush .out).act
      pure .proceed
  | .external invocation => do
      runExternal invocation
      (Output.flush .out).act
      pure .proceed

/-- Handles one line, without its terminator. -/
def step (line : Bytes) : Action ε Flow := do
  (Output.log .dispatching).act
  respond (classify line)

theorem frugal_runExternal (i : Invocation) : Action.Frugal (runExternal i : Action ε Unit) := by
  refine Action.frugal_bind (Action.frugal_act _) fun _ => ?_
  refine Action.frugal_bind (Action.frugal_attempt i) fun result => ?_
  cases result with
  | ok outcome => exact Action.frugal_act _
  | error e => exact Action.frugal_bind (Action.frugal_act _) fun _ => Action.frugal_act _

theorem frugal_step (line : Bytes) : Action.Frugal (step line : Action ε Flow) := by
  have hflush : Action.Frugal (do (Output.flush .out).act; pure .proceed : Action ε Flow) :=
    Action.frugal_bind (Action.frugal_act _) fun _ => Action.frugal_pure _
  refine Action.frugal_bind (Action.frugal_act _) fun _ => ?_
  cases classify line with
  | quit => exact Action.frugal_pure _
  | blank => exact hflush
  | help => exact Action.frugal_bind (Action.frugal_act _) fun _ => hflush
  | unrecognized name =>
      exact Action.frugal_bind (Action.frugal_act _) fun _ =>
        Action.frugal_bind (Action.frugal_act _) fun _ => hflush
  | external invocation =>
      exact Action.frugal_bind (frugal_runExternal invocation) fun _ => hflush

/-- What is left to do after one turn: another one, with this many failures in a row so far, or
nothing. -/
inductive Turn (ε : Type) where
  | again (failures : UInt32) (world : World ε)
  | done (result : EStateM.Result IoError (World ε) Ending)

/-- Reports a failed read, which is this many failures in a row. -/
def complain (error : ReadError) (failures : UInt32) : Action ε Unit := do
  (Output.log (.readFailed error failures)).act
  (Output.writeText .err "error reading command\n").act

theorem frugal_complain (error : ReadError) (failures : UInt32) :
    Action.Frugal (complain error failures : Action ε Unit) :=
  Action.frugal_bind (Action.frugal_act _) fun _ => Action.frugal_act _

/-- The turn that follows a failed read, the failure included in the count. -/
def afterFailure (settings : Settings) (error : ReadError) (failures : UInt32) (w : World ε) :
    Turn ε :=
  match complain error failures w with
  | .error e w => .done (.error e w)
  | .ok _ w =>
      if settings.maxReadFailures ≤ failures then
        .done (.ok .readFailures { w with console := w.console.log .inputKeepsFailing })
      else .again failures w

theorem afterFailure_again {settings : Settings} {error : ReadError} {failures failures' : UInt32}
    {w w' : World ε} (h : afterFailure settings error failures w = .again failures' w') :
    failures' = failures ∧ ¬ settings.maxReadFailures ≤ failures ∧
      Environment.pending w'.env ≤ Environment.pending w.env := by
  have hkept := frugal_complain error failures w
  unfold Action.worldAfter at hkept
  unfold afterFailure at h
  cases hrun : complain error failures w with
  | error e w'' => simp [hrun] at h
  | ok _ w'' =>
      rw [hrun] at h hkept
      dsimp only at h hkept
      split at h
      · cases h
      · next hlimit =>
        cases h
        exact ⟨rfl, hlimit, hkept⟩

/-- Reads a line and does what it asks for. -/
def turn (settings : Settings) (failures : UInt32) (w : World ε) : Turn ε :=
  match Environment.ask settings.prompt w with
  | (.line line, w) =>
      match step line w with
      | .ok .proceed w => .again 0 w
      | .ok .quit w => .done (.ok .quit { w with console := w.console.log .quitRequested })
      | .error e w => .done (.error e w)
  | (.endOfInput, w) => .done (.ok .endOfInput { w with console := w.console.log .endOfInput })
  | (.failed error, w) => afterFailure settings error (failures + 1) w

/-- How many more failures in a row there may be. -/
def patience (settings : Settings) (failures : UInt32) : Nat :=
  (settings.maxReadFailures - 1 - failures).toNat

theorem patience_succ_lt {settings : Settings} {failures : UInt32}
    (h : ¬ settings.maxReadFailures ≤ failures + 1) :
    patience settings (failures + 1) < patience settings failures := by
  unfold patience
  generalize settings.maxReadFailures = limit at *
  have hlt : failures + 1 < limit := by
    rw [UInt32.lt_iff_toNat_lt]
    rw [UInt32.le_iff_toNat_le] at h
    omega
  rw [UInt32.lt_iff_toNat_lt] at hlt
  have hpos : 0 < limit.toNat := by omega
  have hlimit := limit.toNat_lt
  have hfailures := failures.toNat_lt
  simp only [UInt32.toNat_sub, UInt32.toNat_add, UInt32.toNat_one] at hlt ⊢
  omega

/-- Another turn comes only after the supply of lines, or else the patience, has become less. -/
theorem turn_again {settings : Settings} {failures failures' : UInt32} {w w' : World ε}
    (h : turn settings failures w = .again failures' w') :
    Environment.pending w'.env < Environment.pending w.env ∨
      (Environment.pending w'.env ≤ Environment.pending w.env ∧
        patience settings failures' < patience settings failures) := by
  have hle := Environment.pending_ask_le settings.prompt w
  have hlt := fun line => @Environment.pending_ask_line ε _ settings.prompt w line
  unfold turn at h
  revert h hle hlt
  rcases Environment.ask settings.prompt w with ⟨reading, asked⟩
  intro h hle hlt
  cases reading with
  | endOfInput => cases h
  | line bytes =>
      have hstep := frugal_step bytes asked
      unfold Action.worldAfter at hstep
      have hless := hlt bytes rfl
      dsimp only at h hless
      cases hrun : step bytes asked with
      | error e w'' => simp [hrun] at h
      | ok flow w'' =>
          rw [hrun] at h hstep
          cases flow with
          | quit => cases h
          | proceed =>
              cases h
              exact .inl (Nat.lt_of_le_of_lt hstep hless)
  | failed error =>
      obtain ⟨rfl, hlimit, hkept⟩ := afterFailure_again h
      exact .inr ⟨Nat.le_trans hkept hle, patience_succ_lt hlimit⟩

/-- Takes turns until nothing is left to do, after this many failures in a row. -/
def runFrom (settings : Settings) (failures : UInt32) (w : World ε) :
    EStateM.Result IoError (World ε) Ending :=
  match _h : turn settings failures w with
  | .done result => result
  | .again failures' w' => runFrom settings failures' w'
termination_by (Environment.pending w.env, patience settings failures)
decreasing_by
  rcases turn_again _h with hless | ⟨hle, hless⟩
  · exact Prod.Lex.left _ _ hless
  · rcases Nat.lt_or_eq_of_le hle with hlt | heq
    · exact Prod.Lex.left _ _ hlt
    · rw [heq]
      exact Prod.Lex.right _ hless

/-- A session from its first line to its last. -/
def run (settings : Settings) : Action ε Ending :=
  runFrom settings 0

end Session

end RestrictedShell
