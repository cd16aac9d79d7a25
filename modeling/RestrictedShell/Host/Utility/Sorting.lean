import RestrictedShell.Host.Utility.Expression
/-!
Putting lines in order, and dropping lines that come more than once.
-/

namespace RestrictedShell.Host.Utility

namespace Sorting

/-- How two texts are compared. -/
structure Rule where
  number : Bool
  reversed : Bool
  anyCase : Bool
  skipsBlanks : Bool
  words : Bool
  visible : Bool
deriving DecidableEq, Repr

def Rule.none : Rule := ⟨false, false, false, false, false, false⟩

/-- Does the rule say anything of its own? -/
def Rule.isPlain (r : Rule) : Bool := r = Rule.none

def Rule.take (r : Rule) (key : Char) : Rule :=
  match key with
  | 'n' | 'g' => { r with number := true }
  | 'r' => { r with reversed := true }
  | 'f' => { r with anyCase := true }
  | 'b' => { r with skipsBlanks := true }
  | 'd' => { r with words := true }
  | 'i' => { r with visible := true }
  | _ => r

/-- The part of a line by which it is compared: from a field and a byte in it, up to another. -/
structure Key where
  field : Nat
  byte : Nat
  last : Option (Nat × Nat)
  rule : Rule
deriving DecidableEq, Repr

def isBlank (b : UInt8) : Bool := b == 0x20 || b == 0x09 || b == Text.newline

/-- Where the fields of a line begin and end. A separator belongs to no field; without one, blanks belong
to the field behind them. -/
def fields (separator : Option UInt8) (line : Bytes) : List (Nat × Nat) :=
  match separator with
  | some s =>
      (line.splitOn s).foldl (fun (acc : List (Nat × Nat) × Nat) piece =>
        (acc.1 ++ [(acc.2, acc.2 + piece.length)], acc.2 + piece.length + 1)) ([], 0) |>.1
  | none =>
      let rec go (fuel start : Nat) : List (Nat × Nat) :=
        match fuel with
        | 0 => []
        | fuel + 1 =>
            if line.length ≤ start then []
            else
              let rest := line.drop start
              let blanks := (rest.takeWhile isBlank).length
              let size := blanks + ((rest.drop blanks).takeWhile (!isBlank ·)).length
              (start, start + size) :: go fuel (start + size)
      go (line.length + 1) 0

/-- The part of a line that a key names. -/
def Key.part (k : Key) (separator : Option UInt8) (line : Bytes) : Bytes :=
  let all := fields separator line
  let skip (start : Nat) : Nat :=
    if k.rule.skipsBlanks then start + ((line.drop start).takeWhile isBlank).length else start
  let start := match all[k.field - 1]? with
    | some (start, _) => min line.length (skip start + (k.byte - 1))
    | none => line.length
  let stop := match k.last with
    | none => line.length
    | some (field, byte) =>
        match all[field - 1]? with
        | none => line.length
        | some (start, stop) => if byte = 0 then stop else min line.length (skip start + byte)
  (line.drop start).take (stop - start)

/-- The sign, the digits before the point and those behind it, of a number that a text begins with. -/
def number (text : Bytes) : Bool × Bytes × Bytes :=
  let text := text.dropWhile isBlank
  let (negative, text) := match text with
    | 0x2D :: rest => (true, rest)
    | text => (false, text)
  let whole := text.takeWhile isDigit
  let fraction := match text.drop whole.length with
    | 0x2E :: rest => rest.takeWhile isDigit
    | _ => []
  (negative, whole.dropWhile (· == 0x30), (fraction.reverse.dropWhile (· == 0x30)).reverse)

def compareBytes (a b : Bytes) : Ordering :=
  if a = b then .eq else if a < b then .lt else .gt

def compareNumbers (a b : Bytes) : Ordering :=
  let (an, aw, af) := number a
  let (bn, bw, bf) := number b
  let isZero (w f : Bytes) : Bool := w = [] && f = []
  let sign (n : Bool) (w f : Bytes) : Int := if isZero w f then 0 else if n then -1 else 1
  let sa := sign an aw af
  let sb := sign bn bw bf
  if sa ≠ sb then (if sa < sb then .lt else .gt)
  else
    let size := if aw.length ≠ bw.length then (if aw.length < bw.length then Ordering.lt else .gt)
      else match compareBytes aw bw with
        | .eq => compareBytes af bf
        | o => o
    if sa < 0 then size.swap else size

/-- Compares two texts by a rule. -/
def Rule.compare (r : Rule) (a b : Bytes) : Ordering :=
  let shape (text : Bytes) : Bytes :=
    let text := if r.skipsBlanks then text.dropWhile isBlank else text
    let text := if r.words then text.filter fun b =>
        isBlank b || Expression.isLetter b || isDigit b else text
    let text := if r.visible then text.filter QuotedName.isPrintable else text
    if r.anyCase then text.map fun b => if Expression.isLower b then b - 32 else b else text
  let order := if r.number then compareNumbers a b else compareBytes (shape a) (shape b)
  if r.reversed then order.swap else order

/-- How lines are compared: by keys, and as a whole if those do not tell them apart. -/
structure Manner where
  keys : List Key
  rule : Rule
  separator : Option UInt8
  isStable : Bool
  isUnique : Bool

def Manner.compareKeys (m : Manner) (a b : Bytes) : Ordering :=
  if m.keys = [] then m.rule.compare a b
  else m.keys.foldl (fun o k =>
    if o = .eq then k.rule.compare (k.part m.separator a) (k.part m.separator b) else o) .eq

def Manner.compare (m : Manner) (a b : Bytes) : Ordering :=
  match m.compareKeys a b with
  | .eq =>
      if m.isStable || m.isUnique then .eq
      else if m.rule.reversed then (compareBytes a b).swap else compareBytes a b
  | o => o

/-- Lines in order; of lines that compare equal, only the first if `isUnique`. -/
def Manner.sort (m : Manner) (lines : List Bytes) : List Bytes :=
  let sorted := lines.mergeSort fun a b => m.compare a b != .gt
  if !m.isUnique then sorted
  else (sorted.foldl (fun (kept : List Bytes) line =>
    match kept with
    | last :: _ => if m.compareKeys last line = .eq then kept else line :: kept
    | [] => [line]) []).reverse

/-- A field and a byte in it, with letters behind them. -/
def position (text : Bytes) : Option (Nat × Option Nat × Bytes) :=
  let field := text.takeWhile isDigit
  if field = [] then none
  else match text.drop field.length with
    | 0x2E :: rest =>
        let byte := rest.takeWhile isDigit
        if byte = [] then none
        else some (decimalValue field, some (decimalValue byte), rest.drop byte.length)
    | rest => some (decimalValue field, none, rest)

/-- Reads a key, or complains about it. -/
def key (self : Bytes) (text : Bytes) : System (Option Key) := do
  let bad (what : String) (shown : Bytes) : System (Option Key) := do
    complain self (ascii what ++ QuotedName.inText shown)
    pure none
  let isLetter (b : UInt8) : Bool := (ascii "bdfgiMhnRrV").contains b
  match position text with
  | none => bad "invalid number at field start: invalid count at start of " text
  | some (field, byte?, rest) =>
      if field = 0 then bad "field number is zero: invalid field specification " text
      else if byte? = some 0 then bad "character offset is zero: invalid field specification " text
      else
        let letters := rest.takeWhile isLetter
        let rule (r : Rule) (letters : Bytes) : Rule :=
          letters.foldl (fun r b => r.take (Char.ofNat b.toNat)) r
        let first := rule Rule.none letters
        match rest.drop letters.length with
        | [] => pure (some ⟨field, byte?.getD 1, none, first⟩)
        | 0x2C :: after =>
            match position after with
            | none => bad "invalid number after ',': invalid count at start of " after
            | some (field2, byte2?, rest) =>
                let letters := rest.takeWhile isLetter
                if rest.drop letters.length ≠ [] then
                  bad "stray character in field spec: invalid field specification " text
                else
                  pure (some ⟨field, byte?.getD 1, some (field2, byte2?.getD 0), rule first letters⟩)
        | _ => bad "stray character in field spec: invalid field specification " text

def switches : List Switch :=
  [.both 'b' "ignore-leading-blanks", .both 'c' "", ⟨'1', false, some "check", .optional⟩,
    .letter 'C', .both 'd' "dictionary-order", .both 'f' "ignore-case",
    .both 'g' "general-numeric-sort", .both 'h' "human-numeric-sort",
    .both 'i' "ignore-nonprinting", .valued 'k' "key", .both 'm' "merge", .both 'M' "month-sort",
    .both 'n' "numeric-sort", .valued 'o' "output", .both 'r' "reverse", .both 'R' "random-sort",
    .both 's' "stable", .valued 'S' "buffer-size", .valued 't' "field-separator",
    .valued 'T' "temporary-directory", .both 'u' "unique", .both 'V' "version-sort",
    .both 'z' "zero-terminated"]

end Sorting

open Sorting in
/-- Puts the lines of files in order. -/
def sort : Program := coded fun self args =>
  withOptions switches 2 self args fun given operands => do
    let lineEnd : UInt8 := if has given 'z' then 0 else Text.newline
    let rule := given.foldl (fun r g => r.take g.key) Rule.none
    let mut keys : List Key := []
    for text in values given 'k' do
      match ← key self text with
      | none => return 2
      | some k => keys := keys ++ [if k.rule.isPlain then { k with rule } else k]
    let mut separator : Option UInt8 := none
    if let some text := value? given 't' then
      match text with
      | [b] => separator := some b
      | [] =>
          complain self (ascii "empty tab")
          return 2
      | text =>
          if text = ascii "\\0" then separator := some 0
          else
            complain self (ascii "multi-character tab " ++ QuotedName.inText text)
            return 2
    let m : Manner := ⟨keys, rule, separator, has given 's', has given 'u'⟩
    let checks := has given 'c' || has given 'C' || has given '1'
    if checks then
      if let extra :: _ := operands.drop 1 then
        complain self (ascii "extra operand " ++ QuotedName.inText extra ++
          ascii " not allowed with -" ++ ascii (if has given 'C' then "C" else "c"))
        return 2
    let mut lines : List Bytes := []
    for operand in orInput operands do
      match ← readOperand operand with
      | .ok bytes =>
          let pieces := bytes.splitOn lineEnd
          lines := lines ++ (if pieces.getLast? = some [] then pieces.dropLast else pieces)
      | .error e =>
          let what := if e = .isADirectory then "read failed: " else "cannot read: "
          complain self (ascii what ++ QuotedName.ifNeeded operand ++ ascii ": " ++ reason e)
          return 2
    if checks then
      let pairs := lines.zip (lines.drop 1)
      let bad := pairs.zipIdx.find? fun e =>
        let o := m.compare e.1.1 e.1.2
        o = .gt || (m.isUnique && o = .eq)
      match bad with
      | none => pure 0
      | some ((_, line), k) =>
          if !has given 'C' then
            complain self ((orInput operands).head?.getD [] ++ ascii (":" ++ (k + 2).repr ++
              ": disorder: ") ++ line)
          pure 1
    else
      let text := (m.sort lines).flatMap (· ++ [lineEnd])
      match value? given 'o' with
      | none =>
          System.write 1 text
          pure 0
      | some path =>
          match ← System.openPath path .overwrite with
          | .ok index =>
              modify fun p => (p.writeTo index text).2
              pure 0
          | .error e =>
              complain self (ascii "open failed: " ++ QuotedName.ifNeeded path ++ ascii ": " ++ reason e)
              pure 2

/-- Drops lines that are like the line before them, or shows only those. -/
def uniq : Program := coded fun self args =>
  withOptions [.both 'c' "count", .both 'd' "repeated", .both 'D' "",
    ⟨'1', false, some "all-repeated", .optional⟩, .valued 'f' "skip-fields",
    ⟨'2', false, some "group", .optional⟩, .both 'i' "ignore-case", .valued 's' "skip-chars",
    .both 'u' "unique", .both 'z' "zero-terminated", .valued 'w' "check-chars"] 1 self args
    fun given operands => do
      if let extra :: _ := operands.drop 2 then return ← extraOperand self extra
      for (key, what) in [('f', "fields to skip"), ('s', "bytes to skip"), ('w', "bytes to compare")] do
        if let some text := value? given key then
          if (numberOf? text).isNone then
            complain self (text ++ ascii (": invalid number of " ++ what))
            return 1
      let count (key : Char) (usual : Nat) : Nat := ((value? given key).bind numberOf?).getD usual
      let lineEnd : UInt8 := if has given 'z' then 0 else Text.newline
      let input := operands.head?.getD [0x2D]
      match ← readOperand input with
      | .error e =>
          if e = .isADirectory then
            complain self (ascii "error reading " ++ QuotedName.always input ++ ascii ": " ++ reason e)
          else complain self (QuotedName.ifNeeded input ++ ascii ": " ++ reason e)
          pure 1
      | .ok bytes =>
          let pieces := bytes.splitOn lineEnd
          let lines := if pieces.getLast? = some [] then pieces.dropLast else pieces
          let rec skipFields : Nat → Bytes → Bytes
            | 0, line => line
            | n + 1, line => skipFields n ((line.dropWhile isSpace).dropWhile (!isSpace ·))
          let shape (line : Bytes) : Bytes :=
            let line := (skipFields (count 'f' 0) line).drop (count 's' 0)
            let line := match (value? given 'w').bind numberOf? with
              | some n => line.take n
              | none => line
            if has given 'i' then line.map fun b => if Expression.isUpper b then b + 32 else b else line
          let runs := (lines.foldl (fun (runs : List (List Bytes)) line =>
            match runs with
            | (first :: more) :: rest =>
                if shape first = shape line then (first :: line :: more) :: rest else [line] :: runs
            | _ => [line] :: runs) []).reverse
          let text := runs.flatMap fun run =>
            let first := run.head?.getD []
            let isRepeated := 1 < run.length
            if has given 'D' || has given '1' then
              if isRepeated then (first :: run.tail.reverse).flatMap (· ++ [lineEnd]) else []
            else if (has given 'd' && !isRepeated) || (has given 'u' && isRepeated) then []
            else (if has given 'c' then right 7 run.length ++ [0x20] else []) ++ first ++ [lineEnd]
          match operands[1]? with
          | none =>
              System.write 1 text
              pure 0
          | some path =>
              if isInput path then
                System.write 1 text
                pure 0
              else match ← System.openPath path .overwrite with
                | .ok index =>
                    modify fun p => (p.writeTo index text).2
                    pure 0
                | .error e =>
                    complain self (QuotedName.ifNeeded path ++ ascii ": " ++ reason e)
                    pure 1

end RestrictedShell.Host.Utility
