import RestrictedShell.Text.Cluster.Table
/-!
The characters of a text as a reader sees them: a letter with its accents, a syllable, a flag or a
joined picture is one cluster.
-/

namespace RestrictedShell.Text

/-- The parts of a syllable that is written as several characters. -/
inductive SyllablePart where
  | leading
  | vowel
  | trailing
  | unclosed
  | closed
deriving DecidableEq, Repr

/-- The part of a syllable that a character is. A precomposed Hangul syllable is closed if it has a
trailing consonant. The vowels of Kirat Rai join as those of Hangul do. -/
def syllablePart? (c : Char) : Option SyllablePart :=
  let n := c.toNat
  if (0x1100 ≤ n ∧ n ≤ 0x115F) ∨ (0xA960 ≤ n ∧ n ≤ 0xA97C) then some .leading
  else if (0x1160 ≤ n ∧ n ≤ 0x11A7) ∨ (0xD7B0 ≤ n ∧ n ≤ 0xD7C6) then some .vowel
  else if n = 0x16D63 ∨ (0x16D67 ≤ n ∧ n ≤ 0x16D6A) then some .vowel
  else if (0x11A8 ≤ n ∧ n ≤ 0x11FF) ∨ (0xD7CB ≤ n ∧ n ≤ 0xD7FB) then some .trailing
  else if 0xAC00 ≤ n ∧ n ≤ 0xD7A3 then
    some (if (n - 0xAC00) % 28 = 0 then .unclosed else .closed)
  else none

/-- May the second part follow the first within a syllable? -/
def SyllablePart.precedes : SyllablePart → SyllablePart → Bool
  | .leading, part => part ≠ .trailing
  | .vowel, part | .unclosed, part => part = .vowel ∨ part = .trailing
  | .trailing, part | .closed, part => part = .trailing

/-- Half of a flag. -/
def isRegional (c : Char) : Bool :=
  0x1F1E6 ≤ c.toNat && c.toNat ≤ 0x1F1FF

def zeroWidthJoiner : Char := '\u200D'

def zeroWidthNonJoiner : Char := '\u200C'

/-- Does a character always belong to the one before it? -/
def isMark (c : Char) : Bool :=
  c == zeroWidthJoiner || extendingMarks.has c || spacingMarks.has c

/-- May a character stand between the consonants of a conjunct? -/
def isConjunctMark (c : Char) : Bool :=
  c == zeroWidthJoiner || (c != zeroWidthNonJoiner && extendingMarks.has c)

/-- Does a cluster, newest character first, end in a picture with a joiner behind it? -/
def awaitsPicture : List Char → Bool
  | c :: before =>
      c == zeroWidthJoiner &&
        ((before.dropWhile extendingMarks.has).head?.map pictographs.has).getD false
  | [] => false

/-- Does a cluster, newest character first, end in a consonant that is tied to the next one? -/
def awaitsConsonant (cluster : List Char) : Bool :=
  (cluster.takeWhile isConjunctMark).any conjoiningMarks.has &&
    ((cluster.dropWhile isConjunctMark).head?.map conjoiningConsonants.has).getD false

/-- Does a cluster, newest character first, end in half a flag? -/
def awaitsRegional (cluster : List Char) : Bool :=
  (cluster.takeWhile isRegional).length % 2 == 1

/-- Does a character go on with a cluster, given newest character first? -/
def continuesCluster (cluster : List Char) (c : Char) : Bool :=
  match cluster with
  | [] => false
  | last :: _ =>
      if last == '\r' && c == '\n' then true
      else if controls.has last || controls.has c then false
      else
        isMark c || prependedSigns.has last ||
        (isRegional c && awaitsRegional cluster) ||
        (pictographs.has c && awaitsPicture cluster) ||
        (conjoiningConsonants.has c && awaitsConsonant cluster) ||
        ((syllablePart? last).bind fun first => (syllablePart? c).map first.precedes).getD false

/-- Splits a text behind a cluster that is under way, newest character first. -/
def clustersAfter (current : List Char) : List Char → List (List Char)
  | [] => [current.reverse]
  | c :: rest =>
      if continuesCluster current c then clustersAfter (c :: current) rest
      else current.reverse :: clustersAfter [c] rest

/-- The clusters of a text. -/
def clusters : List Char → List (List Char)
  | [] => []
  | c :: rest => clustersAfter [c] rest

end RestrictedShell.Text
