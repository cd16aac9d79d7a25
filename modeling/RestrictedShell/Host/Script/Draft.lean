import RestrictedShell.Host.Script.Pattern
/-!
What becomes of a word before it is cut into arguments: bytes that still know whether they were
escaped, the places where there were quotes, and the stretches that came from values and may be cut.
-/

namespace RestrictedShell.Host.Script

inductive Cell where
  | byte (b : UInt8) (escaped : Bool)
  | quote
deriving DecidableEq, Repr

/-- A stretch that may be cut; if it is `sealed`, only at the zero bytes between arguments. -/
structure Stretch where
  first : Nat
  last : Nat
  sealed : Bool
deriving DecidableEq, Repr

structure Draft where
  cells : Array Cell
  stretches : Array Stretch
deriving DecidableEq, Repr

namespace Draft

def empty : Draft := ⟨#[], #[]⟩

def size (d : Draft) : Nat := d.cells.size

def push (d : Draft) (c : Cell) : Draft :=
  { d with cells := d.cells.push c }

/-- Marks what was added from a place on as a stretch. -/
def mark (d : Draft) (first : Nat) (sealed : Bool) : Draft :=
  { d with stretches := d.stretches.push ⟨first, d.size, sealed⟩ }

/-- Forgets the stretches behind a place. -/
def unmark (d : Draft) (place : Nat) : Draft :=
  let cut (s : Stretch) : Stretch := { s with last := min s.last place }
  match d.stretches.toList with
  | [] => d
  | s :: rest =>
      if place < s.last then
        { d with stretches := if place < s.first then #[] else #[cut s] }
      else
        { d with stretches := (s :: (rest.takeWhile fun t => t.first < place).map cut).toArray }

/-- Takes back what was added from a place on. -/
def takeBack (d : Draft) (place : Nat) : Draft :=
  { d with cells := d.cells.shrink place }

/-- The bytes of some cells, without quotes. -/
def bytesOf (cells : List Cell) : Bytes :=
  cells.filterMap fun
    | .byte b _ => some b
    | .quote => none

/-- The bytes that were added from a place on. -/
def bytesFrom (d : Draft) (place : Nat) : Bytes :=
  bytesOf (d.cells.toList.drop place)

def bytes (d : Draft) : Bytes :=
  d.bytesFrom 0

/-- The pattern that some cells write. A backslash that came from a value takes the meaning from the
next byte, as one that is written does. -/
def patternOf (cells : List Cell) : Pattern :=
  go false cells
where
  /-- `bare` tells whether a backslash stands in front. -/
  go (bare : Bool) : List Cell → Pattern
    | [] => []
    | .quote :: rest => go false rest
    | .byte b escaped :: rest =>
        if escaped then (if bare then [b] else [0x5C, b]) ++ go false rest
        else b :: go (b == 0x5C) rest

/-- Bytes that count as blanks wherever they may cut at all. -/
def isBlankSeparator (b : UInt8) : Bool :=
  b == 0 || isBlank b || b == Text.newline

/-- A draft being cut. `start` is where the current piece begins, `spaced` tells whether a blank has
just ended one, `left` how many pieces may still come, and `cut` where the last piece ends if blanks
at its end are dropped. -/
structure Cutting where
  start : Nat
  spaced : Bool
  left : Option Nat
  cut : Option Nat
  pieces : List (Nat × Nat)

/-- Takes the byte at a place of a stretch. `strict` tells that blanks are no different from other
separators there. -/
def Cutting.step (separators : Bytes) (strict : Bool) (c : Cutting) (here : Nat) (b : UInt8) :
    Cutting :=
  let separates := b == 0 || separators.contains b
  let blank := separates && isBlankSeparator b
  match c.left with
  | some 0 =>
      if blank then { c with cut := some (c.cut.getD here) }
      else { c with cut := if separates && c.spaced then c.cut else none, spaced := false }
  | _ =>
      let skips := c.spaced
      let start := if skips then (if separates then here + 1 else here) else c.start
      if skips && blank then { c with start }
      else if skips || !separates then { c with start, spaced := false }
      else
        let spaced := if strict then c.spaced else blank
        if here = start && spaced then { c with start := here + 1, spaced := false }
        else match c.left with
          | some 1 => { c with spaced, left := some 0, cut := some here }
          | left =>
              { c with
                start := here + 1
                spaced
                left := left.map (· - 1)
                pieces := (start, here) :: c.pieces }

/-- Cuts along one stretch. -/
def Cutting.along (separators : Bytes) (cells : Array Cell) (afterSealed : Bool) (c : Cutting)
    (s : Stretch) : Cutting :=
  (List.range (s.last - s.first)).foldl (fun c k =>
    match cells[s.first + k]? with
    | some (.byte b _) =>
        c.step (if s.sealed then [] else separators) (afterSealed || s.sealed) (s.first + k) b
    | _ => c) { c with spaced := false }

/-- The pieces that a draft is cut into, at most `limit` of them. -/
def cut (separators : Bytes) (limit : Option Nat) (d : Draft) : List (List Cell) :=
  let (c, sealed) := d.stretches.foldl
    (fun (state : Cutting × Bool) s => (state.1.along separators d.cells state.2 s, s.sealed))
    (⟨0, false, limit, none, []⟩, false)
  let last := c.cut.getD d.size
  let pieces := if sealed || c.start < last then (c.start, last) :: c.pieces else c.pieces
  pieces.reverse.map fun p => (d.cells.extract p.1 p.2).toList

end Draft

end RestrictedShell.Host.Script
