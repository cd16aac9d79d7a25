import RestrictedShell.Host.Utility.Expression
/-!
Replacing, deleting and squeezing bytes.
-/

namespace RestrictedShell.Host.Utility

namespace Replacement

/-- A part of a set of bytes: some bytes in order, a class, or a byte that is repeated, to the end of the
set if no count is given. -/
inductive Part where
  | bytes (members : List UInt8)
  | upper
  | lower
  | repeated (b : UInt8) (count : Option Nat)
deriving DecidableEq, Repr

/-- A byte that may be written with a backslash, whether it is, and what stands behind it. -/
def one (text : Bytes) : Option (UInt8 × Bool × Bytes) :=
  match text with
  | [] => none
  | 0x5C :: [] => some (0x5C, true, [])
  | 0x5C :: c :: rest =>
      let digits := ((c :: rest).take 3).takeWhile fun b => 0x30 ≤ b && b ≤ 0x37
      if digits ≠ [] then
        let value (ds : Bytes) : Nat := ds.foldl (fun n d => n * 8 + (d.toNat - 48)) 0
        let digits := if 255 < value digits then digits.take 2 else digits
        some ((value digits).toUInt8, true, (c :: rest).drop digits.length)
      else
        let b : UInt8 := match Char.ofNat c.toNat with
          | 'a' => 7
          | 'b' => 8
          | 'f' => 12
          | 'n' => 10
          | 'r' => 13
          | 't' => 9
          | 'v' => 11
          | _ => c
        some (b, true, rest)
  | b :: rest => some (b, false, rest)

/-- A text as a program shows it in a complaint. -/
def shown (b : UInt8) : Bytes :=
  if QuotedName.isPrintable b then [b] else QuotedName.escape b

/-- Reads a set of bytes, or tells what is wrong with it. The fuel bounds the length. -/
def parts (fuel : Nat) (text : Bytes) : Except Bytes (List Part) :=
  match fuel, one text with
  | 0, _ | _, none => .ok []
  | fuel + 1, some (b, escaped, rest) =>
      let goOn (part : Part) (rest : Bytes) : Except Bytes (List Part) :=
        (parts fuel rest).map (part :: ·)
      let plain : Except Bytes (List Part) :=
        match rest with
        | 0x2D :: c :: more =>
            match one (c :: more) with
            | some (high, _, after) =>
                if high < b then
                  .error (ascii "range-endpoints of '" ++ shown b ++ ascii "-" ++ shown high ++
                    ascii "' are in reverse collating sequence order")
                else goOn (.bytes (Expression.allBytes.filter fun c => b ≤ c && c ≤ high)) after
            | none => goOn (.bytes [b]) rest
        | _ => goOn (.bytes [b]) rest
      if b == 0x5B && !escaped then
        match rest with
        | 0x3A :: more =>
            let name := more.takeWhile (· != 0x3A)
            match more.drop name.length with
            | 0x3A :: 0x5D :: after =>
                if name = ascii "upper" then goOn .upper after
                else if name = ascii "lower" then goOn .lower after
                else match Expression.classes.find? fun c => ascii c.1 == name with
                  | some (_, holds) => goOn (.bytes (Expression.allBytes.filter holds)) after
                  | none => .error (ascii "invalid character class " ++ QuotedName.inText name)
            | _ => plain
        | 0x3D :: more =>
            match one more with
            | some (c, _, 0x3D :: 0x5D :: after) => goOn (.bytes [c]) after
            | _ => plain
        | more =>
            match one more with
            | some (c, _, 0x2A :: after) =>
                let digits := after.takeWhile isDigit
                match after.drop digits.length with
                | 0x5D :: after =>
                    let base := if digits.head? = some 0x30 then 8 else 10
                    let n := digits.foldl (fun n d => n * base + (d.toNat - 48)) 0
                    goOn (.repeated c (if n = 0 then none else some n)) after
                | _ => plain
            | _ => plain
      else plain

/-- All bytes of a set in order; a byte that is repeated to the end comes as often as the set needs it for
a length. -/
def expand (length : Nat) (parts : List Part) : List UInt8 :=
  let size (p : Part) : Nat := match p with
    | .bytes members => members.length
    | .upper | .lower => 26
    | .repeated _ count => count.getD 0
  let fixed := parts.foldl (fun n p => n + size p) 0
  parts.flatMap fun p => match p with
    | .bytes members => members
    | .upper => Expression.allBytes.filter Expression.isUpper
    | .lower => Expression.allBytes.filter Expression.isLower
    | .repeated b count => List.replicate (count.getD (length - fixed)) b

end Replacement

open Replacement in
/-- Replaces bytes of the standard input. -/
def tr : Program := coded fun self args =>
  withChecked [.both 'c' "complement", .letter 'C', .both 'd' "delete", .both 's' "squeeze-repeats",
    .both 't' "truncate-set1"] true 1 (fun _ => pure none) self args fun given operands => do
    let deletes := has given 'd'
    let squeezes := has given 's'
    let complements := has given 'c' || has given 'C'
    let least := 1 + if deletes == squeezes then 1 else 0
    let most := 1 + if !deletes || squeezes then 1 else 0
    if operands.length < least then
      match operands.getLast? with
      | none => complain self (ascii "missing operand")
      | some last =>
          complain self (ascii "missing operand after " ++ QuotedName.inText last)
          System.write 2 (ascii (if squeezes then
            "Two strings must be given when both deleting and squeezing repeats.\n"
            else "Two strings must be given when translating.\n"))
      pointToHelp self
      return 1
    if let some extra := operands[most]? then
      complain self (ascii "extra operand " ++ QuotedName.inText extra)
      if operands.length = 2 then
        System.write 2
          (ascii "Only one string may be given when deleting without squeezing repeats.\n")
      pointToHelp self
      return 1
    let text (k : Nat) : Bytes := operands[k]?.getD []
    match parts ((text 0).length + 1) (text 0), parts ((text 1).length + 1) (text 1) with
    | .error message, _ | .ok _, .error message =>
        complain self message
        pure 1
    | .ok first, .ok second =>
        let set1 := expand 0 first
        let set1 := if complements then Expression.allBytes.filter (!set1.contains ·) else set1
        let isTwo := operands.length = 2
        let set2 := expand set1.length second
        let translates := isTwo && !deletes
        if translates then
          if set2 = [] && set1 ≠ [] || (text 1) = [] then
            if !has given 't' then
              complain self (ascii "when not truncating set1, string2 must be non-empty")
              return 1
          let isCase (p : Replacement.Part) : Bool := p = .upper || p = .lower
          let cases1 := first.filter isCase
          let cases2 := second.filter isCase
          if cases2.length > 0 && (cases1.length ≠ cases2.length || complements) then
            complain self (ascii "misaligned [:upper:] and/or [:lower:] construct")
            return 1
        let bytes := (← System.readAll 0).toOption.getD []
        let set1 := if has given 't' then set1.take set2.length else set1
        let padded := match set2.getLast? with
          | some last => set2 ++ List.replicate (set1.length - set2.length) last
          | none => set2
        let pairs := set1.zip padded
        let translated (b : UInt8) : UInt8 :=
          (pairs.foldl (fun found p => if p.1 == b then some p.2 else found) none).getD b
        let table := (Expression.allBytes.map translated).toArray
        let kept := if deletes then bytes.filter (!set1.contains ·)
          else if translates then bytes.map fun b => table[b.toNat]?.getD b
          else bytes
        let squeezed := if isTwo then set2 else set1
        let shown := if squeezes then
            (kept.foldl (fun (acc : List UInt8) b =>
              if acc.head? = some b && squeezed.contains b then acc else b :: acc) []).reverse
          else kept
        System.write 1 shown
        pure 0

end RestrictedShell.Host.Utility
