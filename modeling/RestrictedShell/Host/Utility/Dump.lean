import RestrictedShell.Host.Utility.Amount
/-!
Showing the bytes of files as numbers or as named characters, with the place of each row in front.
-/

namespace RestrictedShell.Host.Utility

namespace Dump

/-- How the bytes of one cell are shown. -/
inductive Kind where
  | octal
  | decimal
  | unsigned
  | hexadecimal
  | character
  | name
deriving DecidableEq, Repr

/-- One way to show a row: the kind, how many bytes a cell holds, and whether the row is shown as text
behind it. -/
structure Format where
  kind : Kind
  size : Nat
  asText : Bool
deriving DecidableEq, Repr

/-- How wide a cell is. -/
def Format.width (f : Format) : Nat :=
  let pick (a b c d : Nat) : Nat := match f.size with
    | 1 => a
    | 2 => b
    | 4 => c
    | _ => d
  match f.kind with
  | .octal => pick 3 6 11 22
  | .decimal => pick 4 6 11 20
  | .unsigned => pick 3 5 10 20
  | .hexadecimal => pick 2 4 8 16
  | .character | .name => 3

def names : List String :=
  ["nul", "soh", "stx", "etx", "eot", "enq", "ack", "bel", "bs", "ht", "nl", "vt", "ff", "cr", "so",
    "si", "dle", "dc1", "dc2", "dc3", "dc4", "nak", "syn", "etb", "can", "em", "sub", "esc", "fs",
    "gs", "rs", "us", "sp"]

def character (b : UInt8) : String :=
  match b.toNat with
  | 0 => "\\0"
  | 7 => "\\a"
  | 8 => "\\b"
  | 9 => "\\t"
  | 10 => "\\n"
  | 11 => "\\v"
  | 12 => "\\f"
  | 13 => "\\r"
  | n =>
      if 0x20 ≤ n && n < 0x7F then String.singleton (Char.ofNat n)
      else
        let digits := Nat.toDigits 8 n
        String.ofList (List.replicate (3 - digits.length) '0' ++ digits)

/-- The text of a cell that holds some bytes, the lowest first. -/
def Format.cell (f : Format) (bytes : Bytes) : String :=
  let n := bytes.foldr (fun b n => n * 256 + b.toNat) 0
  let padded (width : Nat) (digits : List Char) : String :=
    String.ofList (List.replicate (width - digits.length) '0' ++ digits)
  match f.kind with
  | .octal => padded f.width (Nat.toDigits 8 n)
  | .hexadecimal => padded f.width (Nat.toDigits 16 n)
  | .unsigned => n.repr
  | .decimal =>
      let half := Nat.pow 2 (8 * f.size - 1)
      if half ≤ n then "-" ++ (2 * half - n).repr else n.repr
  | .character => character (bytes.head?.getD 0)
  | .name =>
      let b := (bytes.head?.getD 0).toNat % 128
      if b = 127 then "del" else (names[b]?).getD (String.singleton (Char.ofNat b))

/-- Pieces of a length; the last is filled up with zeros. -/
def cells (size : Nat) (fuel : Nat) (bytes : Bytes) : List Bytes :=
  match fuel, bytes with
  | 0, _ | _, [] => []
  | fuel + 1, bytes =>
      let piece := bytes.take size
      (piece ++ List.replicate (size - piece.length) 0) :: cells size fuel (bytes.drop size)

/-- Pieces of a length, the last as it is. -/
def pieces (size : Nat) (fuel : Nat) (bytes : Bytes) : List Bytes :=
  match fuel, bytes with
  | 0, _ | _, [] => []
  | fuel + 1, bytes => bytes.take size :: pieces size fuel (bytes.drop size)

/-- A row in one format. `total` is how wide the widest format is. -/
def Format.row (f : Format) (perRow total : Nat) (bytes : Bytes) : Bytes :=
  let fields := perRow / f.size
  let own := fields * (f.width + 1)
  let pad := total - own
  let share (k : Nat) : Nat := pad * (fields - k) / fields - pad * (fields - k - 1) / fields
  let shown := (cells f.size bytes.length bytes).zipIdx.flatMap fun e =>
    let text := f.cell e.1
    let width := f.width + 1 + share e.2
    List.replicate (width - text.length) 0x20 ++ ascii text
  let count := (bytes.length + f.size - 1) / f.size
  let missing := (List.range (fields - count)).foldl (fun n k => n + f.width + 1 + share (count + k)) 0
  shown ++ if f.asText then
      List.replicate missing 0x20 ++ ascii "  >" ++
        (bytes.map fun b => if 0x20 ≤ b && b < 0x7F then b else 0x2E) ++ ascii "<"
    else []

/-- Reads formats as they are written behind `-t`. The fuel bounds their number. -/
def formats (fuel : Nat) (text : Bytes) : Option (List Format) :=
  match fuel, text with
  | _, [] => some []
  | 0, _ => none
  | fuel + 1, b :: rest =>
      let finish (f : Format) (rest : Bytes) : Option (List Format) :=
        match rest with
        | 0x7A :: rest => (formats fuel rest).map ({ f with asText := true } :: ·)
        | rest => (formats fuel rest).map (f :: ·)
      let sized (kind : Kind) : Option (List Format) :=
        match rest with
        | 0x43 :: rest => finish ⟨kind, 1, false⟩ rest
        | 0x53 :: rest => finish ⟨kind, 2, false⟩ rest
        | 0x49 :: rest => finish ⟨kind, 4, false⟩ rest
        | 0x4C :: rest => finish ⟨kind, 8, false⟩ rest
        | rest =>
            let digits := rest.takeWhile isDigit
            let size := if digits = [] then 4 else decimalValue digits
            if size = 1 || size = 2 || size = 4 || size = 8 then
              finish ⟨kind, size, false⟩ (rest.drop digits.length)
            else none
      match Char.ofNat b.toNat with
      | 'a' => finish ⟨.name, 1, false⟩ rest
      | 'c' => finish ⟨.character, 1, false⟩ rest
      | 'd' => sized .decimal
      | 'o' => sized .octal
      | 'u' => sized .unsigned
      | 'x' => sized .hexadecimal
      | _ => none

def switches : List Switch :=
  [.valued 'A' "address-radix", .valued 'j' "skip-bytes", .valued 'N' "read-bytes",
    .valued 'S' "", .valued 't' "format", .both 'v' "output-duplicates", .letter 'a', .letter 'b',
    .letter 'c', .letter 'd', .letter 'f', .letter 'i', .letter 'l', .letter 'o', .letter 's',
    .letter 'x', ⟨'w', true, some "width", .optional⟩]

/-- The format that a letter asks for. -/
def ofLetter? : Char → Option Format
  | 'a' => some ⟨.name, 1, false⟩
  | 'b' => some ⟨.octal, 1, false⟩
  | 'c' => some ⟨.character, 1, false⟩
  | 'd' => some ⟨.unsigned, 2, false⟩
  | 'i' => some ⟨.decimal, 4, false⟩
  | 'l' => some ⟨.decimal, 8, false⟩
  | 'o' => some ⟨.octal, 2, false⟩
  | 's' => some ⟨.decimal, 2, false⟩
  | 'x' => some ⟨.hexadecimal, 2, false⟩
  | _ => none

end Dump

open Dump in
/-- Shows the bytes of files. -/
def od : Program := coded fun self args =>
  withOptions switches 1 self args fun given operands => do
    let mut chosen : List Format := []
    for g in given do
      if g.key = 't' then
        match formats ((g.value?.getD []).length + 1) (g.value?.getD []) with
        | some fs => chosen := chosen ++ fs
        | none =>
            complain self (ascii "invalid type string " ++ QuotedName.inText (g.value?.getD []))
            return 1
      else if let some f := ofLetter? g.key then chosen := chosen ++ [f]
    let formats := if chosen = [] then [⟨.octal, 2, false⟩] else chosen
    let mut skip := 0
    let mut most : Option Nat := none
    if let some text := value? given 'j' then
      match ← Amount.demand self "skip-bytes argument" text with
      | some n => skip := n
      | none => return 1
    if let some text := value? given 'N' then
      match ← Amount.demand self "read-bytes argument" text with
      | some n => most := some n
      | none => return 1
    let perRow := match given.filter fun g => g.key = 'w' with
      | [] => 16
      | gs => ((gs.getLast?.bind Given.value?).bind numberOf?).getD 32
    let mut bytes : Bytes := []
    let mut code := 0
    for operand in orInput operands do
      match ← readOperand operand with
      | .ok more => bytes := bytes ++ more
      | .error e =>
          complain self (QuotedName.ifNeeded operand ++ ascii ": " ++ reason e)
          code := 1
    if code = 1 && operands.length = 1 && bytes = [] then return 1
    let shown := match most with
      | some n => (bytes.drop skip).take n
      | none => bytes.drop skip
    let address (n : Nat) : Bytes :=
      let written (base width : Nat) : Bytes :=
        let digits := Nat.toDigits base n
        ascii (String.ofList (List.replicate (width - digits.length) '0' ++ digits))
      match value? given 'A' with
      | some [0x6E] => []
      | some [0x78] => written 16 6
      | some [0x64] => written 10 7
      | _ => written 8 7
    let total := formats.foldl (fun n f => max n (perRow / f.size * (f.width + 1))) 0
    let blank : Bytes := List.replicate (address 0).length 0x20
    let rows := pieces perRow shown.length shown
    let mut before : Option Bytes := none
    let mut starred := false
    for (row, k) in rows.zipIdx do
      if !has given 'v' && before = some row && row.length = perRow && k + 1 < rows.length then
        if !starred then System.write 1 (ascii "*\n")
        starred := true
      else
        starred := false
        before := some row
        for (f, i) in formats.zipIdx do
          System.write 1 ((if i = 0 then address (skip + k * perRow) else blank) ++
            f.row perRow total row ++ [Text.newline])
    if address 0 ≠ [] then System.write 1 (address (skip + shown.length) ++ [Text.newline])
    pure code

end RestrictedShell.Host.Utility
