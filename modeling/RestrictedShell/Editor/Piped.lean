import RestrictedShell.Session.Environment
import RestrictedShell.Text.Cluster
/-!
The line editor on input that is not a terminal. It shows no prompt, wants text in UTF-8, and lets
a backspace in the input take back the character before it.
-/

namespace RestrictedShell.Editor

/-- What is left of some clusters after the backspaces among them. `out` holds the bytes kept so
far, newest first, and `sizes` how many of them each cluster brought, newest first. A size is kept in
one byte, so that of a cluster of 256 bytes or more a backspace takes back only a part. -/
def applyBackspaces (out : Bytes) (sizes : List UInt8) : List (List Char) → Bytes
  | [] => out.reverse
  | cluster :: rest =>
      if cluster = ['\x08'] then
        applyBackspaces (out.drop ((sizes.head?.getD 0).toNat)) sizes.tail rest
      else
        let bytes := Text.encode (String.ofList cluster)
        applyBackspaces (bytes.reverse ++ out) (UInt8.ofNat bytes.length :: sizes) rest

/-- Removes the newline at the end, and a carriage return before it. A carriage return without a
newline stays. -/
def stripNewline (line : List Char) : List Char :=
  if line.getLast? = some '\n' then
    let line := line.dropLast
    if line.getLast? = some '\r' then line.dropLast else line
  else line

def notText : IoError :=
  .custom .invalidData "stream did not contain valid UTF-8"

/-- The reading for one line of input with its newline. -/
def readLine (line : Bytes) : Reading :=
  match Text.decode? line with
  | none => .failed (.editor (.io notText))
  | some text =>
      .line (applyBackspaces [] [] (Text.clusters (stripNewline text.toList)))

/-- The editor in front of the input that is left. -/
structure Piped where
  input : Bytes
deriving DecidableEq, Repr

namespace Piped

open Text

/-- Takes one line. A line that is not text is taken as well. -/
def next (p : Piped) : Reading × Piped :=
  if p.input = [] then (.endOfInput, p)
  else
    let head := p.input.takeWhile (· != newline)
    match p.input.dropWhile (· != newline) with
    | [] => (readLine head, ⟨[]⟩)
    | b :: rest => (readLine (head ++ [b]), ⟨rest⟩)

theorem length_next_lt {p : Piped} (h : p.input ≠ []) :
    (next p).2.input.length < p.input.length := by
  have hpos : 0 < p.input.length := List.length_pos_iff.mpr h
  have hle : (p.input.dropWhile (· != newline)).length ≤ p.input.length :=
    (List.dropWhile_sublist _).length_le
  unfold next
  rw [if_neg h]
  revert hle
  dsimp only
  cases p.input.dropWhile (· != newline) with
  | nil => exact fun _ => hpos
  | cons b rest =>
      intro hle
      simp only [List.length_cons] at hle
      dsimp only
      omega

instance : LineSource Piped where
  promptStream _ := none
  next := next
  pending p := p.input.length
  pending_next_le p := by
    by_cases h : p.input = []
    · simp [next, h]
    · exact Nat.le_of_lt (length_next_lt h)
  pending_next_line p line hline := by
    by_cases h : p.input = []
    · simp [next, h] at hline
    · exact length_next_lt h

end Piped

end RestrictedShell.Editor
