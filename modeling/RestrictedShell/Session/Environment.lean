import RestrictedShell.Child
/-!
What a session runs in: a supply of lines and a way to start commands. The laws say that the supply
is finite: every line that is read uses some of it up, and nothing brings any back.
-/

namespace RestrictedShell

/-- The result of asking for a line. -/
inductive Reading where
  | line (bytes : Bytes)
  | endOfInput
  | failed (error : ReadError)
deriving DecidableEq, Repr

/-- A supply of lines. `promptStream` is where prompts are written before a line is taken; a source
without one shows the prompt by itself. `pending` bounds what is still to come. -/
class LineSource (σ : Type) where
  promptStream : σ → Option Stream
  next : σ → Reading × σ
  pending : σ → Nat
  pending_next_le : ∀ s, pending (next s).2 ≤ pending s
  pending_next_line : ∀ s line, (next s).1 = .line line → pending (next s).2 < pending s

/-- A way to start commands. -/
class Launcher (κ : Type) where
  launch : Invocation → κ → Launched × κ

/-- A supply of lines and a way to start commands that may share their state. -/
class Environment (ε : Type) where
  promptStream : ε → Option Stream
  next : ε → Reading × ε
  launch : Invocation → ε → Launched × ε
  pending : ε → Nat
  pending_next_le : ∀ e, pending (next e).2 ≤ pending e
  pending_next_line : ∀ e line, (next e).1 = .line line → pending (next e).2 < pending e
  pending_launch_le : ∀ i e, pending (launch i e).2 ≤ pending e

/-- A source and a launcher that share nothing. -/
instance {σ κ : Type} [LineSource σ] [Launcher κ] : Environment (σ × κ) where
  promptStream e := LineSource.promptStream e.1
  next e := ((LineSource.next e.1).1, (LineSource.next e.1).2, e.2)
  launch i e := ((Launcher.launch i e.2).1, e.1, (Launcher.launch i e.2).2)
  pending e := LineSource.pending e.1
  pending_next_le e := LineSource.pending_next_le e.1
  pending_next_line e := LineSource.pending_next_line e.1
  pending_launch_le _ _ := Nat.le_refl _

/-- An environment with the console of the session that runs in it. -/
structure World (ε : Type) where
  env : ε
  console : Console

/-- An action of a session. It may fail because an output stream does, and then leaves the world as
it is at that point. -/
abbrev Action (ε : Type) := EStateM IoError (World ε)

/-- An output action as an action of a session. -/
def Output.act {ε α : Type} (o : Output α) : Action ε α := fun w =>
  match o w.console with
  | .ok a c => .ok a { w with console := c }
  | .error e c => .error e { w with console := c }

namespace Environment

variable {ε : Type} [Environment ε]

/-- Takes the next line, with nothing to be seen of it on the console. -/
def take (c : Console) (e : ε) : Reading × World ε :=
  let answer := next e
  (answer.1, ⟨answer.2, c⟩)

/-- Shows the prompt and takes the next line. A prompt that cannot be shown is a failure of the
input, and takes nothing from it. -/
def ask (prompt : String) (w : World ε) : Reading × World ε :=
  match promptStream w.env with
  | none => take (w.console.record (.asked (Text.encode prompt))) w.env
  | some s =>
      match (do Output.writeText s prompt; Output.flush s : Output Unit) w.console with
      | .ok _ c => take c w.env
      | .error error c => (.failed (.input error), { w with console := c })

theorem pending_ask_le (prompt : String) (w : World ε) :
    pending (ask prompt w).2.env ≤ pending w.env := by
  unfold ask
  split
  · exact pending_next_le w.env
  · split
    · exact pending_next_le w.env
    · exact Nat.le_refl _

theorem pending_ask_line {prompt : String} {w : World ε} {line : Bytes}
    (h : (ask prompt w).1 = .line line) : pending (ask prompt w).2.env < pending w.env := by
  unfold ask at h ⊢
  split at h
  · exact pending_next_line w.env line h
  · split at h
    · exact pending_next_line w.env line h
    · cases h

/-- Starts a command and gives back its child, if the system created one. What the child writes
appears here, since nothing else happens before it is waited for. -/
def start (i : Invocation) : Action ε (Except SpawnError Child) := fun w =>
  let answer := launch i w.env
  let c := (w.console.record (.launched i.argv)).logAll answer.1.log
  .ok answer.1.result ⟨answer.2, c.recordAll answer.1.events⟩

/-- Starts a command and waits for it. -/
def attempt (i : Invocation) : Action ε (Except SpawnError Outcome) := do
  match ← start i with
  | .ok child =>
      let outcome ← (child.wait i.command).act
      pure (.ok outcome)
  | .error error => pure (.error error)

end Environment

namespace Action

variable {ε α β : Type} [Environment ε]

/-- The world that an action leaves behind, whether or not it failed. -/
def worldAfter (a : Action ε α) (w : World ε) : World ε :=
  match a w with
  | .ok _ w' => w'
  | .error _ w' => w'

/-- The action adds nothing to the supply of lines. -/
def Frugal (a : Action ε α) : Prop :=
  ∀ w, Environment.pending (a.worldAfter w).env ≤ Environment.pending w.env

theorem frugal_pure (a : α) : Frugal (pure a : Action ε α) :=
  fun _ => Nat.le_refl _

theorem frugal_bind {a : Action ε α} {f : α → Action ε β} (ha : Frugal a)
    (hf : ∀ x, Frugal (f x)) : Frugal (a >>= f) := by
  intro w
  have hfirst := ha w
  unfold worldAfter at hfirst ⊢
  change Environment.pending (match EStateM.bind a f w with
    | .ok _ w' => w'
    | .error _ w' => w' : World ε).env ≤ _
  unfold EStateM.bind
  cases hrun : a w with
  | ok x w' =>
      simp only [hrun] at hfirst ⊢
      exact Nat.le_trans (hf x w') hfirst
  | error e w' =>
      simpa only [hrun] using hfirst

theorem frugal_act (o : Output α) : Frugal (o.act : Action ε α) := by
  intro w
  unfold worldAfter Output.act
  cases o w.console <;> exact Nat.le_refl _

theorem frugal_start (i : Invocation) : Frugal (Environment.start i : Action ε _) := by
  intro w
  exact Environment.pending_launch_le i w.env

theorem frugal_attempt (i : Invocation) : Frugal (Environment.attempt i : Action ε _) := by
  refine frugal_bind (frugal_start i) fun started => ?_
  cases started with
  | ok child => exact frugal_bind (frugal_act _) fun _ => frugal_pure _
  | error e => exact frugal_pure _

end Action

end RestrictedShell
