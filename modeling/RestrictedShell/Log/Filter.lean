import RestrictedShell.Log.Directive
/-!
Which entries are shown. A filter is a list of directives separated by commas; of the directives
that have something to say about an entry, the one that restricts most decides.
-/

namespace RestrictedShell.Log

structure Filter where
  directives : List Directive
deriving DecidableEq, Repr

namespace Filter

/-- Shows nothing. -/
def off : Filter := ⟨[]⟩

/-- Shows everything up to a level. -/
def upTo (level : Level) : Filter := ⟨[{ Directive.everything with level := some level }]⟩

/-- Reads a filter. Empty directives are passed over, and where no other is given only errors are
shown; one bad directive spoils the whole. -/
def ofText (text : String) : Except DirectiveError Filter := do
  match ← ((text.splitOn ",").filter (· ≠ "")).mapM Directive.ofText with
  | [] => pure (upTo .error)
  | directives => pure ⟨directives⟩

/-- The directive that decides about an entry. -/
def deciding? (f : Filter) (e : Entry) : Option Directive :=
  f.directives.foldl (fun best d =>
    if d.concerns e && best.all d.overrides then some d else best) none

/-- Is the entry shown? -/
def shows (f : Filter) (e : Entry) : Bool :=
  match (f.deciding? e).bind Directive.level with
  | some limit => e.level.verbosity ≤ limit.verbosity
  | none => false

end Filter

end RestrictedShell.Log
