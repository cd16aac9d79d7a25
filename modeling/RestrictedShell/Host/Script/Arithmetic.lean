import RestrictedShell.Host.Script.State
/-!
Sums with 64-bit numbers. Variables are looked up and given values while a sum is read, from left to
right; what does not count because of a condition is read but not carried out.
-/

namespace RestrictedShell.Host.Script.Arithmetic

inductive Operator where
  | multiply
  | divide
  | remainder
  | add
  | subtract
  | shiftLeft
  | shiftRight
  | less
  | atMost
  | greater
  | atLeast
  | equal
  | different
  | bitAnd
  | bitXor
  | bitOr
deriving DecidableEq, Repr

/-- Operators of a lower rank bind more closely. -/
def Operator.rank : Operator → Nat
  | .multiply | .divide | .remainder => 0
  | .add | .subtract => 1
  | .shiftLeft | .shiftRight => 2
  | .less | .atMost | .greater | .atLeast => 3
  | .equal | .different => 4
  | .bitAnd => 5
  | .bitXor => 6
  | .bitOr => 7

/-- Every operator has a rank below this. -/
def lastRank : Nat := 8

/-- What a sum is written with. -/
inductive Mark where
  | finish
  | unknown
  | number (n : Int64)
  | name (name : Bytes)
  | operator (o : Operator)
  | becomes (o : Option Operator)
  | no
  | flip
  | both
  | either
  | question
  | colon
  | opening
  | closing
deriving DecidableEq, Repr

/-- The signs, of two that begin alike the longer first. -/
def signs : List (String × Mark) :=
  [("<<=", .becomes (some .shiftLeft)), (">>=", .becomes (some .shiftRight)),
    ("<<", .operator .shiftLeft), (">>", .operator .shiftRight), ("<=", .operator .atMost),
    (">=", .operator .atLeast), ("==", .operator .equal), ("!=", .operator .different),
    ("&&", .both), ("||", .either), ("*=", .becomes (some .multiply)),
    ("/=", .becomes (some .divide)), ("%=", .becomes (some .remainder)),
    ("+=", .becomes (some .add)), ("-=", .becomes (some .subtract)),
    ("&=", .becomes (some .bitAnd)), ("^=", .becomes (some .bitXor)),
    ("|=", .becomes (some .bitOr)), ("=", .becomes none), ("<", .operator .less),
    (">", .operator .greater), ("*", .operator .multiply), ("/", .operator .divide),
    ("%", .operator .remainder), ("+", .operator .add), ("-", .operator .subtract),
    ("&", .operator .bitAnd), ("^", .operator .bitXor), ("|", .operator .bitOr), ("!", .no),
    ("~", .flip), ("?", .question), (":", .colon), ("(", .opening), (")", .closing)]

/-- The first mark of a text and what stands behind it. -/
def Mark.read (text : Bytes) : Mark × Bytes :=
  match text.dropWhile fun b => isBlank b || b == Text.newline with
  | [] => (.finish, [])
  | b :: rest =>
      let text := b :: rest
      if isDigit b then
        match Integer.read? true text with
        | some r => (.number (Int64.ofInt r.clamped), r.rest)
        | none => (.unknown, text)
      else if isNameStart b then (.name (text.takeWhile isNameByte), text.dropWhile isNameByte)
      else match signs.find? fun entry => (ascii entry.1).isPrefixOf text with
        | some entry => (entry.2, text.drop entry.1.length)
        | none => (.unknown, text)

/-- A sum under way: all of it, the mark that is looked at, and what stands behind that. -/
structure Sum where
  whole : Bytes
  mark : Mark
  rest : Bytes

abbrev Calculation := StateT Sum Run

def advance : Calculation Unit :=
  modify fun s =>
    let (mark, rest) := Mark.read s.rest
    { s with mark, rest }

def fail {α : Type} (why : String) : Calculation α := do
  let s ← get
  Run.fail (ascii ("arithmetic expression: " ++ why ++ ": \x22") ++ s.whole ++ ascii "\x22")

/-- The number that is the value of a variable. No value counts as zero. -/
def lookup (name : Bytes) : Run Int64 := do
  let text := ((← get).value? name).getD []
  if text.all isSpace then pure 0
  else match Integer.whole? true text with
    | some n => pure (Int64.ofInt n)
    | none => Run.illegalNumber text

/-- The signal for a quotient that takes more than 64 bits. -/
def overflowSignal : Nat := 8

def truth (b : Bool) : Int64 :=
  if b then 1 else 0

def apply (o : Operator) (a b : Int64) : Calculation Int64 := do
  let divided (f : Int64 → Int64 → Int64) : Calculation Int64 := do
    if b = 0 then fail "division by zero"
    else if b = -1 && a = Int64.minValue then throw (.killed overflowSignal)
    else pure (f a b)
  match o with
  | .multiply => pure (a * b)
  | .divide => divided (· / ·)
  | .remainder => divided (· % ·)
  | .add => pure (a + b)
  | .subtract => pure (a - b)
  | .shiftLeft => pure (a <<< (b &&& 63))
  | .shiftRight => pure (a >>> (b &&& 63))
  | .less => pure (truth (a < b))
  | .atMost => pure (truth (a ≤ b))
  | .greater => pure (truth (b < a))
  | .atLeast => pure (truth (b ≤ a))
  | .equal => pure (truth (a = b))
  | .different => pure (truth (a ≠ b))
  | .bitAnd => pure (a &&& b)
  | .bitXor => pure (a ^^^ b)
  | .bitOr => pure (a ||| b)

mutual

/-- Reads a number, a variable, or a sum in brackets, with signs in front. What is not `live` is not
carried out. -/
def primary (live : Bool) (fuel : Nat) : Calculation Int64 := do
  match fuel with
  | 0 => fail "expecting primary"
  | fuel + 1 =>
      match (← get).mark with
      | .opening =>
          advance
          let value ← assignment live fuel
          if (← get).mark ≠ .closing then fail "expecting ')'"
          advance
          pure value
      | .number n =>
          advance
          pure n
      | .name name =>
          advance
          if live then lookup name else pure 0
      | .operator .add =>
          advance
          primary live fuel
      | .operator .subtract =>
          advance
          pure (-(← primary live fuel))
      | .no =>
          advance
          pure (truth ((← primary live fuel) = 0))
      | .flip =>
          advance
          pure (~~~(← primary live fuel))
      | _ => fail "expecting primary"

/-- Goes on behind a value and an operator, as long as operators bind more closely than `limit`. -/
def operations (live : Bool) (a : Int64) (o : Operator) (limit fuel : Nat) :
    Calculation Int64 := do
  match fuel with
  | 0 => pure a
  | fuel + 1 =>
      advance
      let b ← primary live fuel
      let b ← match (← get).mark with
        | .operator inner =>
            if inner.rank < o.rank then operations live b inner o.rank fuel else pure b
        | _ => pure b
      let a ← if live then apply o a b else pure b
      match (← get).mark with
      | .operator next => if next.rank < limit then operations live a next limit fuel else pure a
      | _ => pure a

def conjunction (live : Bool) (fuel : Nat) : Calculation Int64 := do
  match fuel with
  | 0 => fail "expecting primary"
  | fuel + 1 =>
      let a ← primary live fuel
      let a ← match (← get).mark with
        | .operator o => operations live a o lastRank fuel
        | _ => pure a
      if (← get).mark = .both then
        advance
        let b ← conjunction (live && a ≠ 0) fuel
        pure (truth (a ≠ 0 && b ≠ 0))
      else pure a

def disjunction (live : Bool) (fuel : Nat) : Calculation Int64 := do
  match fuel with
  | 0 => fail "expecting primary"
  | fuel + 1 =>
      let a ← conjunction live fuel
      if (← get).mark = .either then
        advance
        let b ← disjunction (live && a = 0) fuel
        pure (truth (a ≠ 0 || b ≠ 0))
      else pure a

def conditional (live : Bool) (fuel : Nat) : Calculation Int64 := do
  match fuel with
  | 0 => fail "expecting primary"
  | fuel + 1 =>
      let a ← disjunction live fuel
      if (← get).mark = .question then
        advance
        let b ← assignment (live && a ≠ 0) fuel
        if (← get).mark ≠ .colon then fail "expecting ':'"
        advance
        let c ← conditional (live && a = 0) fuel
        pure (if a ≠ 0 then b else c)
      else pure a

def assignment (live : Bool) (fuel : Nat) : Calculation Int64 := do
  match fuel with
  | 0 => fail "expecting primary"
  | fuel + 1 =>
      let s ← get
      match s.mark, (Mark.read s.rest).1 with
      | .name name, .becomes o =>
          advance
          advance
          let value ← assignment live fuel
          if live then
            let value ← match o with
              | some o => apply o (← lookup name) value
              | none => pure value
            Run.assign name (some (decimalBytes value.toInt)) false false
            pure value
          else pure value
      | _, _ => conditional live fuel

end

/-- Carries out a sum. -/
def eval (text : Bytes) : Run Int := do
  let calculation : Calculation Int64 := do
    advance
    let value ← assignment true (8 * text.length + 16)
    if (← get).mark ≠ .finish then fail "expecting EOF"
    pure value
  pure (← calculation.run' ⟨text, .finish, text⟩).toInt

end RestrictedShell.Host.Script.Arithmetic
