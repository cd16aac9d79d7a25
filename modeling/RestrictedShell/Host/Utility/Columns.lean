import RestrictedShell.Host.Utility.Expression
/-!
Programs that take lines apart or put them together: parts of lines, lines side by side, numbered lines,
short lines, and lines backwards.
-/

namespace RestrictedShell.Host.Utility

/-- The lines of a text without what ends them. -/
def bareLines (lineEnd : UInt8) (bytes : Bytes) : List Bytes :=
  let pieces := bytes.splitOn lineEnd
  if pieces.getLast? = some [] then pieces.dropLast else pieces

namespace Columns

/-- Positions from one to another, or to the end. -/
structure Range where
  first : Nat
  last : Option Nat
deriving DecidableEq, Repr

def Range.holds (r : Range) (n : Nat) : Bool :=
  r.first ≤ n && (r.last.map fun last => decide (n ≤ last)).getD true

/-- Reads a list of ranges, or tells what is wrong with it. -/
def ranges (isFields : Bool) (text : Bytes) : Except Bytes (List Range) :=
  let positions := if isFields then "fields" else "byte/character positions"
  let number (text : Bytes) : Except Bytes Nat :=
    match numberOf? text with
    | some 0 => .error (ascii (positions ++ " are numbered from 1"))
    | some n => .ok n
    | none =>
        .error (ascii (if isFields then "invalid field value " else "invalid byte/character position ") ++
          QuotedName.inText text)
  let one (text : Bytes) : Except Bytes Range :=
    if !text.contains 0x2D then (number text).map fun n => ⟨n, some n⟩
    else
      let low := text.takeWhile (· != 0x2D)
      let high := text.drop (low.length + 1)
      if low = [] && high = [] then .error (ascii "invalid range with no endpoint: -")
      else do
        let first ← if low = [] then .ok 1 else number low
        if high = [] then .ok ⟨first, none⟩
        else
          let last ← match numberOf? high with
            | some n => .ok n
            | none => number high
          if last < first then .error (ascii "invalid decreasing range") else .ok ⟨first, some last⟩
  (text.splitOnP fun b => b == 0x2C || b == 0x20 || b == 0x09).mapM one

def switches : List Switch :=
  [.valued 'b' "bytes", .valued 'c' "characters", .valued 'd' "delimiter", .valued 'f' "fields",
    .letter 'n', .both 's' "only-delimited", .both 'z' "zero-terminated",
    ⟨'o', false, some "output-delimiter", .value⟩, .named 'C' "complement"]

end Columns

open Columns in
/-- Shows parts of the lines of files. -/
def cut : Program := coded fun self args =>
  withOptions switches 1 self args fun given operands => do
    let refused (message : Bytes) : System Nat := do
      complain self message
      pointToHelp self
      pure 1
    let lists := given.filter fun g => g.key = 'b' || g.key = 'c' || g.key = 'f'
    match lists with
    | [] => refused (ascii "you must specify a list of bytes, characters, or fields")
    | _ :: _ :: _ => refused (ascii "only one list may be specified")
    | [g] =>
        let isFields := g.key = 'f'
        let separator? := value? given 'd'
        if (separator?.map fun d => decide (1 < d.length)).getD false then
          return ← refused (ascii "the delimiter must be a single character")
        if !isFields && separator?.isSome then
          return ← refused
            (ascii "an input delimiter may be specified only when operating on fields")
        if !isFields && has given 's' then
          return ← refused
            (ascii "suppressing non-delimited lines makes sense\n\tonly when operating on fields")
        match ranges isFields (g.value?.getD []) with
        | .error message => refused message
        | .ok ranges =>
            let chosen (n : Nat) : Bool := (ranges.any (·.holds n)) != has given 'C'
            let separator : UInt8 := (separator?.bind List.head?).getD (if separator?.isSome then 0 else 0x09)
            let between := value? given 'o'
            let lineEnd : UInt8 := if has given 'z' then 0 else Text.newline
            let select {α : Type} (items : List α) : List (α × Nat) :=
              (items.zipIdx.map fun e => (e.1, e.2 + 1)).filter fun e => chosen e.2
            let ofFields (line : Bytes) : Option Bytes :=
              if !line.contains separator then (if has given 's' then none else some line)
              else some ((between.getD [separator]).intercalate
                ((select (line.splitOn separator)).map Prod.fst))
            let ofBytes (line : Bytes) : Bytes :=
              let picked := select line
              match between with
              | none => picked.map Prod.fst
              | some between =>
                  (picked.foldl (fun (acc : Bytes × Nat) e =>
                    (acc.1 ++ (if acc.1 ≠ [] && acc.2 + 1 ≠ e.2 then between else []) ++ [e.1], e.2))
                    ([], 0)).1
            forEach (orInput operands) fun operand => do
              match ← readOperand operand with
              | .error e =>
                  complain self (QuotedName.ifNeeded operand ++ ascii ": " ++ reason e)
                  pure false
              | .ok bytes =>
                  let lines := bareLines lineEnd bytes
                  let shown := lines.filterMap fun line =>
                    if isFields then ofFields line else some (ofBytes line)
                  System.write 1 (shown.flatMap (· ++ [lineEnd]))
                  pure true

/-- Puts the lines of files side by side, or the lines of each file into one. -/
def paste : Program := coded fun self args =>
  withOptions [.valued 'd' "delimiters", .both 's' "serial", .both 'z' "zero-terminated"] 1 self args
    fun given operands => do
      let lineEnd : UInt8 := if has given 'z' then 0 else Text.newline
      let rec unescape : Bytes → List Bytes
        | 0x5C :: c :: rest =>
            (match Char.ofNat c.toNat with
              | 'n' => [Text.newline]
              | 't' => [0x09]
              | '0' => []
              | _ => [c]) :: unescape rest
        | b :: rest => [b] :: unescape rest
        | [] => []
      let marks := match unescape ((value? given 'd').getD [0x09]) with
        | [] => [[]]
        | marks => marks
      let mark (k : Nat) : Bytes := marks[k % marks.length]?.getD []
      let join (cells : List Bytes) : Bytes :=
        (cells.zipIdx.flatMap fun e => (if e.2 = 0 then [] else mark (e.2 - 1)) ++ e.1) ++ [lineEnd]
      let operands := orInput operands
      let mut columns : List (List Bytes) := []
      let mut code := 0
      let inputs := (operands.filter isInput).length
      let mut given? : Option (List Bytes) := none
      for operand in operands do
        if isInput operand && given?.isSome then columns := columns ++ [[]]
        else
          match ← readOperand operand with
          | .error e =>
              complain self (QuotedName.ifNeeded operand ++ ascii ": " ++ reason e)
              code := 1
              if !has given 's' then return 1
          | .ok bytes =>
              let lines := bareLines lineEnd bytes
              if isInput operand then given? := some lines
              columns := columns ++ [lines]
      if has given 's' then
        System.write 1 (columns.flatMap join)
        pure code
      else
        /- The lines of the standard input are dealt out to the columns that stand for it. -/
        let shares := (operands.filter isInput).zipIdx.map Prod.snd
        let dealt (k : Nat) : List Bytes :=
          ((given?.getD []).zipIdx.filter fun e => e.2 % inputs = k).map Prod.fst
        let mut next := shares
        let mut full : List (List Bytes) := []
        for (operand, column) in operands.zip columns do
          if isInput operand then
            full := full ++ [dealt (next.head?.getD 0)]
            next := next.tail
          else full := full ++ [column]
        let rows := full.foldl (fun n c => max n c.length) 0
        let all := full
        System.write 1 ((List.range rows).flatMap fun r => join (all.map fun column => column[r]?.getD []))
        pure code

/-- Breaks long lines. -/
def fold : Program := coded fun self args =>
  withOptions [.both 'b' "bytes", .both 's' "spaces", .valued 'w' "width"] 1 self args
    fun given operands => do
      let width := ((value? given 'w').bind numberOf?).getD 80
      if (value? given 'w').isSome && ((value? given 'w').bind numberOf?).getD 0 = 0 then
        complain self (ascii "invalid number of columns: " ++
          QuotedName.inText ((value? given 'w').getD []))
        return 1
      /- Breaks one line. The fuel bounds the number of pieces. -/
      let rec pieces (fuel : Nat) (line : Bytes) : List Bytes :=
        match fuel with
        | 0 => [line]
        | fuel + 1 =>
            if line.length ≤ width then [line]
            else
              let head := line.take width
              let cut := if has given 's' then
                  let upTo := (head.reverse.dropWhile fun b => b != 0x20 && b != 0x09).reverse
                  if upTo = [] then head else upTo
                else head
              cut :: pieces fuel (line.drop cut.length)
      forEach (orInput operands) fun operand => do
        match ← readOperand operand with
        | .error e =>
            complain self (QuotedName.ifNeeded operand ++ ascii ": " ++ reason e)
            pure false
        | .ok bytes =>
            System.write 1 ((linesOf bytes).flatMap fun line =>
              let ended := line.getLast? = some Text.newline
              let bare := if ended then line.dropLast else line
              ([Text.newline] : Bytes).intercalate (pieces bare.length bare) ++
                if ended then [Text.newline] else [])
            pure true

/-- Writes every line backwards. -/
def rev : Program := coded fun self args =>
  withOptions [] 1 self args fun _ operands => forEach (orInput operands) fun operand => do
    match ← readOperand operand with
    | .error e =>
        complain self (ascii "cannot open " ++ operand ++ ascii ": " ++ reason e)
        pure false
    | .ok bytes =>
        System.write 1 ((linesOf bytes).flatMap fun line =>
          if line.getLast? = some Text.newline then line.dropLast.reverse ++ [Text.newline]
          else line.reverse)
        pure true

/-- Numbers the lines of files. -/
def nl : Program := coded fun self args =>
  withOptions [.valued 'b' "body-numbering", .valued 'd' "section-delimiter",
    .valued 'f' "footer-numbering", .valued 'h' "header-numbering", .valued 'i' "line-increment",
    .valued 'l' "join-blank-lines", .valued 'n' "number-format", .both 'p' "no-renumber",
    .valued 's' "number-separator", .valued 'v' "starting-line-number",
    .valued 'w' "number-width"] 1 self args fun given operands => do
      let count (key : Char) (usual : Nat) : Nat := ((value? given key).bind numberOf?).getD usual
      let width := count 'w' 6
      let separator := (value? given 's').getD [0x09]
      let style := (value? given 'b').getD (ascii "t")
      let pattern? := match style with
        | 0x70 :: text => (Expression.ofText ⟨false, false⟩ text).toOption.map Prod.fst
        | _ => none
      let isNumbered (line : Bytes) : Bool :=
        match style with
        | [0x61] => true
        | [0x6E] => false
        | 0x70 :: _ =>
            (pattern?.bind fun e => Expression.find? e ⟨line.toArray, true⟩ (line.length + 2) 0).isSome
        | _ => line ≠ []
      let form := (value? given 'n').getD (ascii "rn")
      let written (n : Nat) : Bytes :=
        let digits := ascii n.repr
        if form = ascii "ln" then digits ++ List.replicate (width - digits.length) 0x20
        else if form = ascii "rz" then List.replicate (width - digits.length) 0x30 ++ digits
        else right width n
      let mut code := 0
      let mut n := count 'v' 1
      for operand in orInput operands do
        match ← readOperand operand with
        | .error e =>
            complain self (QuotedName.ifNeeded operand ++ ascii ": " ++ reason e)
            code := 1
        | .ok bytes =>
            for line in bareLines Text.newline bytes do
              if isNumbered line then
                System.write 1 (written n ++ separator ++ line ++ [Text.newline])
                n := n + count 'i' 1
              else
                System.write 1 (List.replicate (width + separator.length) 0x20 ++ line ++
                  [Text.newline])
      pure code

end RestrictedShell.Host.Utility
