import RestrictedShell.Text
/-!
The words of a line: its maximal runs of bytes other than the five separators. The small lemmas say
how `words` grows at the front of a line, which is all that later proofs need of it.
-/

namespace RestrictedShell.Words

/-- Space, tab, newline, form feed and carriage return. Neither the vertical tab nor any byte
outside ASCII separates words. -/
def isSeparator (b : UInt8) : Bool :=
  b == 0x20 || b == 0x09 || b == 0x0A || b == 0x0C || b == 0x0D

/-- A word that is being read from the right, and the complete words after it. -/
structure Split where
  word : Bytes
  rest : List Bytes
deriving DecidableEq, Repr

/-- All words, the one being read included unless it is empty. -/
def Split.close (s : Split) : List Bytes :=
  if s.word = [] then s.rest else s.word :: s.rest

/-- Puts one more byte in front. -/
def Split.push (b : UInt8) (s : Split) : Split :=
  if isSeparator b then ⟨[], s.close⟩ else ⟨b :: s.word, s.rest⟩

/-- The line cut at its separators. -/
def split (line : Bytes) : Split :=
  line.foldr Split.push ⟨[], []⟩

@[simp]
theorem split_nil : split [] = ⟨[], []⟩ := rfl

@[simp]
theorem split_cons (b : UInt8) (line : Bytes) : split (b :: line) = (split line).push b := rfl

end Words

/-- The words of a line, in order, byte for byte. -/
def words (line : Bytes) : List Bytes :=
  (Words.split line).close

namespace Words

@[simp]
theorem words_nil : words [] = [] := rfl

theorem words_cons_separator {b : UInt8} (hb : isSeparator b = true) (line : Bytes) :
    words (b :: line) = words line := by
  simp [words, Split.push, Split.close, hb]

end Words

end RestrictedShell
