import RestrictedShell.Host.Utility.Place
/-!
Listing files and what is in directories, by name.
-/

namespace RestrictedShell.Host.Utility

namespace Listing

/-- In which order names are listed. -/
inductive Order where
  | byName
  | bySize
  | byEnding
  | asTheyAre
deriving DecidableEq, Repr

/-- How names are laid out. -/
inductive Format where
  | lines
  | down
  | across
  | commas
deriving DecidableEq, Repr

/-- How names are quoted. -/
inductive Quoting where
  | plain
  | always
  | doubled
  | escaped
deriving DecidableEq, Repr

/-- How files are listed. -/
structure Manner where
  hidden : Bool
  dots : Bool
  directoriesThemselves : Bool
  reversed : Bool
  recursive : Bool
  marksAll : Bool
  marksDirectories : Bool
  marksRuns : Bool
  order : Order
  format : Format
  quoting : Quoting
  replaces : Bool
  follows : Bool
deriving DecidableEq, Repr

/-- Something to be listed. -/
structure Item where
  name : Bytes
  place : Location
  node : Node

def isLess (t : FileTree) (order : Order) (a b : Item) : Bool :=
  let byName := decide (a.name ≤ b.name)
  let ending (name : Bytes) : Bytes :=
    let tail := name.reverse.takeWhile (· != 0x2E)
    if tail.length = name.length then [] else (0x2E :: tail.reverse)
  let size (i : Item) : Nat := match i.node with
    | .file number => (t.bytes number).length
    | .link target => target.length
    | .directory => 4096
    | _ => 0
  match order with
  | .byName => byName
  | .asTheyAre => true
  | .bySize => size b < size a || (size a = size b && byName)
  | .byEnding =>
      let x := ending a.name
      let y := ending b.name
      if x = y then byName else decide (x ≤ y)

def sorted (t : FileTree) (m : Manner) (items : List Item) : List Item :=
  let items := if m.order = .asTheyAre then items else items.mergeSort (isLess t m.order)
  if m.reversed then items.reverse else items

/-- The name as it is shown. -/
def shownName (m : Manner) (name : Bytes) : Bytes :=
  let escaped (quote : Bool) : Bytes := name.flatMap fun b =>
    if b == 0x5C then [0x5C, b]
    else if quote && b == 0x22 then [0x5C, b]
    else if !quote && b == 0x20 then [0x5C, b]
    else if QuotedName.isPrintable b then [b]
    else QuotedName.escape b
  match m.quoting with
  | .plain => if m.replaces then name.map fun b => if QuotedName.isPrintable b then b else 0x3F else name
  | .always => QuotedName.always name
  | .doubled => 0x22 :: (escaped true ++ [0x22])
  | .escaped => escaped false

/-- The mark behind a name that tells what it is. -/
def mark (t : FileTree) (m : Manner) (i : Item) : Bytes :=
  match i.node with
  | .directory => if m.marksDirectories || m.marksAll then [slash] else []
  | .link _ => if m.marksAll then ascii "@" else []
  | .file number =>
      let runs := ((t.bodies[number]?).map FileBody.isExecutable).getD false
      if m.marksRuns && runs then ascii "*" else []
  | .program _ => if m.marksRuns then ascii "*" else []
  | .device _ => []

/-- The width of the screen. -/
def screen : Nat := 80

/-- Fills a name up to a column with tabs and blanks. -/
def indent (start stop : Nat) : Bytes :=
  let rec go (fuel column : Nat) : Bytes :=
    match fuel with
    | 0 => []
    | fuel + 1 =>
        if stop ≤ column then []
        else if (column + 1) / 8 < stop / 8 then 0x09 :: go fuel (column / 8 * 8 + 8)
        else 0x20 :: go fuel (column + 1)
  go (stop + 1) start

/-- Lays names out in columns, down or across. -/
def columns (down : Bool) (names : List Bytes) : Bytes :=
  let count := names.length
  let lengths := names.map List.length
  let widths (k : Nat) : List Nat :=
    let rows := (count + k - 1) / k
    (List.range k).map fun c =>
      let members := lengths.zipIdx.filter fun e =>
        (if down then e.2 / rows else e.2 % k) = c
      members.foldl (fun w e => max w (e.1 + if c + 1 = k then 0 else 2)) 0
  let most := max 1 (screen / 3)
  let fits (k : Nat) : Bool := (widths k).foldl (· + ·) 0 < screen
  let best := ((List.range (min most count)).reverse.map (· + 1)).find? fits |>.getD 1
  let rows := (count + best - 1) / best
  let w := widths best
  let rowOf (r : Nat) : Bytes :=
    let cells := (List.range best).filterMap fun c =>
      names[if down then c * rows + r else r * best + c]?.map (c, ·)
    let (text, _, _) := cells.foldl (fun (acc : Bytes × Nat × Nat) cell =>
      let start := (w.take cell.1).foldl (· + ·) 0
      (acc.1 ++ indent acc.2.1 start ++ cell.2, start + cell.2.length, 0)) ([], 0, 0)
    text ++ [Text.newline]
  (List.range rows).flatMap rowOf

/-- Separates names by commas. -/
def commas (names : List Bytes) : Bytes :=
  let (text, _) := names.zipIdx.foldl (fun (acc : Bytes × Nat) e =>
    if e.2 = 0 then (e.1, e.1.length)
    else if acc.2 + 2 + e.1.length < screen then (acc.1 ++ ascii ", " ++ e.1, acc.2 + 2 + e.1.length)
    else (acc.1 ++ ascii ",\n" ++ e.1, e.1.length)) ([], 0)
  if names = [] then [] else text ++ [Text.newline]

def lay (m : Manner) (names : List Bytes) : Bytes :=
  match m.format with
  | .lines => names.flatMap (· ++ [Text.newline])
  | .down => if names = [] then [] else columns true names
  | .across => if names = [] then [] else columns false names
  | .commas => commas names

def showItems (m : Manner) (items : List Item) : System Unit := do
  let t := (← get).files
  System.write 1 (lay m ((sorted t m items).map fun i => shownName m i.name ++ mark t m i))

/-- What is in a directory, as far as it is listed. -/
def inside (t : FileTree) (m : Manner) (place : Location) : List Item :=
  let names := (t.children place).filter fun n => m.hidden || n.head? ≠ some 0x2E
  let items := names.filterMap fun n => (t.node? (place ++ [n])).map fun node => ⟨n, place ++ [n], node⟩
  if m.dots then
    ⟨ascii ".", place, .directory⟩ :: ⟨ascii "..", place.dropLast, .directory⟩ :: items
  else items

/-- Lists directories, and all below them if asked for. The fuel bounds the depth. -/
def directories (m : Manner) (fuel : Nat) (titled isFirst : Bool) :
    List (Bytes × Location) → System Unit
  | [] => pure ()
  | (path, place) :: rest => do
      if titled then
        System.write 1 ((if isFirst then [] else [Text.newline]) ++ shownName m path ++ ascii ":\n")
      let t := (← get).files
      let items := inside t m place
      showItems m items
      if m.recursive then
        match fuel with
        | 0 => pure ()
        | fuel + 1 =>
            let below := (sorted t m items).filterMap fun i =>
              if i.node = .directory && !Path.isDots i.name then some (Path.join path i.name, i.place)
              else none
            directories m fuel true false below
      directories m fuel titled false rest

def switches : List Switch :=
  [.both 'a' "all", .both 'b' "escape", .both 'd' "directory", .both 'D' "dired",
    .both 'r' "reverse", .letter '1', .both 'p' "", .letter 'C', .letter 'x', .letter 'm',
    .letter 'S', .letter 'X', .letter 'U', .letter 'f', .letter 't', .letter 'u', .letter 'c',
    .letter 'l', .letter 'g', .letter 'o', .letter 'v', .both 'n' "numeric-uid-gid",
    .both 'G' "no-group", .both 'h' "human-readable", .both 'i' "inode", .both 'k' "kibibytes",
    .both 's' "size", .valued 'w' "width", .both 'A' "almost-all", .both 'B' "ignore-backups",
    ⟨'F', true, none, .nothing⟩, ⟨'2', false, some "classify", .optional⟩,
    .named '3' "file-type", .both 'H' "dereference-command-line", .both 'L' "dereference",
    .both 'N' "literal", .both 'q' "hide-control-chars", .both 'Q' "quote-name",
    .named '4' "show-control-chars", ⟨'5', false, some "color", .optional⟩,
    ⟨'6', false, some "format", .value⟩, ⟨'7', false, some "sort", .value⟩,
    .named '8' "group-directories-first", .both 'R' "recursive", .valued 'I' "ignore",
    ⟨'9', false, some "indicator-style", .value⟩, .both 'T' "tabsize", .both 'Z' "context"]

/-- The manner that options ask for. -/
def Manner.ofOptions (given : List Given) : Manner :=
  let any (keys : List Char) : Bool := keys.any (has given ·)
  let marking := last? given ['F', '2', '3', 'p']
  { hidden := any ['a', 'A', 'f']
    dots := match last? given ['a', 'A', 'f'] with
      | some 'a' | some 'f' => true
      | _ => false
    directoriesThemselves := has given 'd'
    reversed := has given 'r'
    recursive := has given 'R' && !has given 'd'
    marksAll := marking = some 'F' || marking = some '2' || marking = some '3'
    marksDirectories := marking.isSome
    marksRuns := marking = some 'F' || marking = some '2'
    order := match last? given ['S', 'X', 'U', 'f'] with
      | some 'S' => .bySize
      | some 'X' => .byEnding
      | some _ => .asTheyAre
      | none => .byName
    format := match last? given ['1', 'C', 'x', 'm'] with
      | some 'C' => .down
      | some 'x' => .across
      | some 'm' => .commas
      | _ => .lines
    quoting := match last? given ['Q', 'b', 'N'] with
      | some 'Q' => .doubled
      | some 'b' => .escaped
      | _ => .plain
    replaces := has given 'q'
    follows := any ['H', 'L'] || !(any ['d', 'F', 'l']) }

end Listing

open Listing in
/-- Lists files and what is in directories. -/
def ls : Program := coded fun self args =>
  withOptions switches 2 self args fun given operands => do
    let m := Manner.ofOptions given
    let mut code := 0
    let mut plain : List Item := []
    let mut dirs : List Item := []
    for operand in if operands = [] then [ascii "."] else operands do
      let found ← do
        match ← (if m.follows then lookAt operand else lookUnder operand) with
        | .error e =>
            if m.follows && !has given 'L' then lookUnder operand else pure (.error e)
        | found => pure found
      match found with
      | .error e =>
          let _ ← cannot self "access" operand e
          code := 2
      | .ok (place, .directory) =>
          if m.directoriesThemselves then plain := plain ++ [⟨operand, place, .directory⟩]
          else dirs := dirs ++ [⟨operand, place, .directory⟩]
      | .ok (place, node) => plain := plain ++ [⟨operand, place, node⟩]
    let t := (← get).files
    showItems m plain
    let titled := m.recursive || 1 < operands.length
    if dirs ≠ [] && plain ≠ [] && !titled then System.write 1 [Text.newline]
    directories m (t.entries.length + 1) titled plain.isEmpty
      ((sorted t m dirs).map fun i => (i.name, i.place))
    pure code

end RestrictedShell.Host.Utility
