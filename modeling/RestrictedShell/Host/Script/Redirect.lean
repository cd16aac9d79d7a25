import RestrictedShell.Host.Script.Expansion
/-!
Redirections: their words are expanded first, all of them, and then descriptors are pointed elsewhere
one after another, until one cannot be.
-/

namespace RestrictedShell.Host.Script

/-- A redirection whose words are expanded. A document is expanded when its turn comes. -/
inductive Pointing where
  | file (fd : Nat) (mode : OpenMode) (path : Bytes)
  | descriptor (fd : Nat) (source : Option Nat)
  | document (fd : Nat) (document : Nat) (expands : Bool)
deriving DecidableEq, Repr

namespace Pointing

def fd : Pointing → Nat
  | .file fd .. | .descriptor fd _ | .document fd .. => fd

/-- Expands the words of a redirection. -/
def ofRedirection (capture : Capture) : Redirection → Run Pointing
  | .toFile fd mode path => do
      pure (.file fd mode (← Expansion.text capture .text path))
  | .toDescriptor fd source => do
      match ← Expansion.fields capture source with
      | [] => Run.fail (ascii "redir error")
      | [0x2D] :: _ => pure (.descriptor fd none)
      | [d] :: _ =>
          if isDigit d then pure (.descriptor fd (some (decimalValue [d]))) else badNumber
      | _ => badNumber
  | .fromDocument fd number expands => pure (.document fd number expands)
where
  badNumber : Run Pointing := do
    modify fun s => { s with line := s.reading }
    Run.fail (ascii "Syntax error: Bad fd number")

/-- The text of a failure to open a file, or to make one. -/
def reason (creating : Bool) (e : Errno) : Bytes :=
  if e = .noSuchFile ∨ e = .notADirectory then
    ascii (if creating then "Directory nonexistent" else "No such file")
  else ascii (e.text.getD "Unknown error")

def cannot {α : Type} (creating : Bool) (path : Bytes) (e : Errno) : Run α :=
  Run.fail (ascii (if creating then "cannot create " else "cannot open ") ++ path ++ ascii ": " ++
    reason creating e)

/-- Makes a descriptor lead to an open file. -/
def attach (fd index : Nat) : Run Unit :=
  Run.system (modify fun p => p.attach fd index)

def openAt (fd : Nat) (path : Bytes) (access : Access) (creating : Bool) : Run Unit := do
  match ← Run.system (System.openPath path access) with
  | .ok index => attach fd index
  | .error e => cannot creating path e

/-- Points a descriptor elsewhere, or fails. -/
def apply (capture : Capture) : Pointing → Run Unit
  | .file fd mode path => do
      match mode with
      | .read => openAt fd path .read false
      | .replace => openAt fd path .overwrite true
      | .append => openAt fd path .append true
      | .readWrite => openAt fd path .readWrite true
      | .fresh =>
          let s ← get
          match s.has .noclobber, s.process.files.find s.process.dir path with
          | true, .ok (_, .file _) => cannot true path .fileExists
          | _, _ => openAt fd path .overwrite true
  | .descriptor fd none => Run.system (modify fun p => p.detach fd)
  | .descriptor fd (some source) => do
      if fd ≠ source then
        match (← get).process.descriptors.lookup source with
        | some index => attach fd index
        | none => Run.fail (decimalBytes source ++ ascii ": Bad file descriptor")
  | .document fd number expands => do
      let word := ((← get).documents[number]?).getD .done
      let bytes ← if expands then Expansion.text capture .document word
        else pure word.literals
      let (index, p) := (← get).process.addOpen ⟨.source bytes false, true, false⟩
      Run.system (set p)
      attach fd index

end Pointing

namespace Run

/-- Puts some descriptors back as they were in another state. -/
def restoring (before : Shell) (fds : List Nat) (s : Shell) : Shell :=
  let back (p : Process) (fd : Nat) : Process :=
    match before.process.descriptors.lookup fd with
    | some index => p.attach fd index
    | none => p.detach fd
  { s with process := fds.foldl back s.process }

/-- Points descriptors elsewhere. Tells whether all of that was possible. -/
def redirect (capture : Capture) (pointings : List Pointing) : Run Bool := do
  match ← attempt (pointings.forM (Pointing.apply capture)) with
  | .ok () => pure true
  | .error .failed => pure false
  | .error stop => throw stop

end Run

end RestrictedShell.Host.Script
