import RestrictedShell.Session.Environment
import RestrictedShell.Text.Blank
import RestrictedShell.Text.Cluster
/-!
The line editor on a terminal: keys become a line, and lines that were accepted can be called back.
-/

namespace RestrictedShell.Editor

/-- The lines that can be called back, newest first. -/
abbrev History := List String

namespace History

/-- How many lines are kept. -/
def capacity : Nat := 100

/-- Keeps a line, unless it is blank or the newest already. -/
def add (h : History) (line : String) : History :=
  if line.toList.all Text.isBlank ∨ h.head? = some line then h
  else (line :: h).take capacity

end History

/-- Why the keys of one line came to an end. -/
inductive Gesture where
  | accept (line : List Char)
  | interrupt
  | eof
deriving DecidableEq, Repr

/-- A line, newest character first, without its last cluster. -/
def dropCluster (typed : List Char) : List Char :=
  (Text.clusters typed.reverse).dropLast.flatten.reverse

/-- Takes keys up to the end of a line. `typed` is the line so far, newest character first, and
`up` tells how many lines back in the history it was taken from. -/
def takeLine (h : History) (typed : List Char) (up : Nat) : List Char → Gesture × List Char
  | [] => (.eof, [])
  | '\x1b' :: '[' :: 'A' :: rest =>
      match h[up]? with
      | some line => takeLine h line.toList.reverse (up + 1) rest
      | none => takeLine h typed up rest
  | c :: rest =>
      if c = '\r' ∨ c = '\n' then (.accept typed.reverse, rest)
      else if c = '\x03' then (.interrupt, rest)
      else if c = '\x04' then
        if typed = [] then (.eof, rest) else takeLine h typed up rest
      else if c = '\x7f' ∨ c = '\x08' then takeLine h (dropCluster typed) up rest
      else if c.toNat < 0x20 then takeLine h typed up rest
      else takeLine h (c :: typed) up rest

theorem length_takeLine_le (h : History) (typed : List Char) (up : Nat) (keys : List Char) :
    (takeLine h typed up keys).2.length ≤ keys.length := by
  fun_induction takeLine h typed up keys <;> simp_all <;> omega

theorem length_takeLine_lt (h : History) (typed : List Char) (up : Nat) {keys : List Char}
    (hkeys : keys ≠ []) : (takeLine h typed up keys).2.length < keys.length := by
  have hle := length_takeLine_le h
  fun_cases takeLine h typed up keys <;> grind

/-- The editor, the keys typed ahead, and its history. -/
structure Typed where
  keys : List Char
  history : History
deriving DecidableEq, Repr

namespace Typed

/-- Types more keys. -/
def press (t : Typed) (keys : String) : Typed :=
  { t with keys := t.keys ++ keys.toList }

/-- Takes one line. An interrupt drops what was typed and stands for an empty line. -/
def next (t : Typed) : Reading × Typed :=
  match takeLine t.history [] 0 t.keys with
  | (.accept line, keys) =>
      let line := String.ofList line
      (.line (Text.encode line), ⟨keys, t.history.add line⟩)
  | (.interrupt, keys) => (.line [], ⟨keys, t.history⟩)
  | (.eof, keys) => (.endOfInput, ⟨keys, t.history⟩)

instance : LineSource Typed where
  promptStream _ := none
  next := next
  pending t := t.keys.length
  pending_next_le t := by
    have hle := length_takeLine_le t.history [] 0 t.keys
    unfold next
    revert hle
    rcases takeLine t.history [] 0 t.keys with ⟨_ | _ | _, keys⟩ <;> exact id
  pending_next_line t line hline := by
    by_cases hkeys : t.keys = []
    · simp [next, hkeys, takeLine] at hline
    · have hlt := length_takeLine_lt t.history [] 0 hkeys
      unfold next
      revert hlt
      rcases takeLine t.history [] 0 t.keys with ⟨_ | _ | _, keys⟩ <;> exact id

end Typed

end RestrictedShell.Editor
