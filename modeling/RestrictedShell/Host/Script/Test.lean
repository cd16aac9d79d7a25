import RestrictedShell.Host.Process
import RestrictedShell.Host.Script.Integer
/-!
Conditions on texts, numbers and files, written as words. A word that may be an operator is taken for
an operand where the words around it leave no other sense.
-/

namespace RestrictedShell.Host.Script.Test

/-- What a word is where it may be an operator. -/
inductive Role where
  | finish
  | operand
  | unary (name : String)
  | binary (name : String)
  | negation
  | both
  | either
  | opening
  | closing
deriving DecidableEq, Repr

def unaries : List String :=
  ["-r", "-w", "-x", "-e", "-f", "-d", "-c", "-b", "-p", "-u", "-g", "-k", "-s", "-t", "-z", "-n",
    "-h", "-O", "-G", "-L", "-S"]

def binaries : List String :=
  ["=", "!=", "<", ">", "-eq", "-ne", "-ge", "-gt", "-le", "-lt", "-nt", "-ot", "-ef"]

/-- The operator that a word writes. -/
def operator? (word : Bytes) : Option Role :=
  let text := Text.lossy word
  if unaries.contains text then some (.unary text)
  else if binaries.contains text then some (.binary text)
  else match text with
    | "!" => some .negation
    | "-a" => some .both
    | "-o" => some .either
    | "(" => some .opening
    | ")" => some .closing
    | _ => none

def isBinary : Option Role → Bool
  | some (.binary _) => true
  | _ => false

/-- What the first of some words is. -/
def role : List Bytes → Role
  | [] => .finish
  | word :: rest =>
      match operator? word, rest with
      | some (.unary _), [] => .operand
      | some (.unary name), [_] => .unary name
      | some (.unary name), next :: _ =>
          if isBinary (operator? next) then .operand else .unary name
      | some .opening, [] => .operand
      | some r, _ => r
      | none, _ => .operand

/-- The words that are left, the current one first. What goes wrong is told in words. -/
abbrev Condition := StateT (List Bytes) (Except Bytes)

def advance : Condition Unit :=
  modify List.tail

def number (text : Bytes) : Condition Int :=
  match Integer.whole? false text with
  | some n => pure n
  | none => throw (ascii "Illegal number: " ++ text)

/-- Does what a path leads to have a property? -/
def holdsOf (p : Process) (path : Bytes) (property : Location → Node → Bool) : Bool :=
  match p.files.find p.dir path with
  | .ok (place, node) => property place node
  | .error _ => false

def isLink (p : Process) (path : Bytes) : Bool :=
  match p.files.resolve false p.dir path with
  | .ok place =>
      match p.files.node? place with
      | some (.link _) => true
      | _ => false
  | .error _ => false

/-- May somebody run what stands at a place? -/
def mayRun (files : FileTree) (place : Location) : Node → Bool
  | .file _ => ((files.body? place).map FileBody.isExecutable).getD false
  | .directory | .program _ => true
  | _ => false

/-- Is a bit of a file's mode set? -/
def hasBit (files : FileTree) (place : Location) (bit : Nat) : Bool :=
  ((files.body? place).map fun f => f.mode &&& bit != 0).getD false

def unaryHolds (p : Process) (name : String) (operand : Bytes) : Bool :=
  let property := holdsOf p operand
  match name with
  | "-z" => operand.isEmpty
  | "-n" => !operand.isEmpty
  | "-r" | "-w" | "-e" | "-O" | "-G" => property fun _ _ => true
  | "-x" => property (mayRun p.files)
  | "-f" => property fun _ node => match node with
      | .file _ | .program _ => true
      | _ => false
  | "-d" => property fun _ node => node == .directory
  | "-c" => property fun _ node => match node with
      | .device _ => true
      | _ => false
  | "-u" => property fun place _ => hasBit p.files place 0o4000
  | "-g" => property fun place _ => hasBit p.files place 0o2000
  | "-k" => property fun place _ => hasBit p.files place 0o1000
  | "-s" => property fun _ node => match node with
      | .file number => !(p.files.bytes number).isEmpty
      | .device _ => false
      | _ => true
  | "-h" | "-L" => isLink p operand
  | _ => false

/-- Do two paths lead to the same file? -/
def sameFile (p : Process) (a b : Bytes) : Bool :=
  match p.files.find p.dir a, p.files.find p.dir b with
  | .ok (_, .file m), .ok (_, .file n) => m == n
  | .ok (m, _), .ok (n, _) => m == n
  | _, _ => false

def binaryHolds (p : Process) (name : String) (a b : Bytes) : Condition Bool := do
  let compared (holds : Int → Int → Bool) : Condition Bool := do
    let m ← number a
    let n ← number b
    pure (holds m n)
  match name with
  | "=" => pure (a == b)
  | "!=" => pure (a != b)
  | "<" => pure (decide (a < b))
  | ">" => pure (decide (b < a))
  | "-eq" => compared (· == ·)
  | "-ne" => compared (· != ·)
  | "-ge" => compared (· ≥ ·)
  | "-gt" => compared (· > ·)
  | "-le" => compared (· ≤ ·)
  | "-lt" => compared (· < ·)
  | "-ef" => pure (sameFile p a b)
  | _ => pure false

mutual

/-- The alternatives that begin at the current word, whose role is given. -/
def disjunction (p : Process) (fuel : Nat) (r : Role) : Condition Bool := do
  match fuel with
  | 0 => pure false
  | fuel + 1 =>
      let first ← conjunction p fuel r
      if role (← get).tail == .either then
        advance
        advance
        let second ← disjunction p fuel (role (← get))
        pure (first || second)
      else pure first

def conjunction (p : Process) (fuel : Nat) (r : Role) : Condition Bool := do
  match fuel with
  | 0 => pure false
  | fuel + 1 =>
      let first ← negation p fuel r
      if role (← get).tail == .both then
        advance
        advance
        let second ← conjunction p fuel (role (← get))
        pure (first && second)
      else pure first

def negation (p : Process) (fuel : Nat) (r : Role) : Condition Bool := do
  match fuel with
  | 0 => pure false
  | fuel + 1 =>
      if r == .negation then
        let next := role (← get).tail
        if next != .finish then advance
        pure !(← negation p fuel next)
      else primary p fuel r

def primary (p : Process) (fuel : Nat) (r : Role) : Condition Bool := do
  match fuel with
  | 0 => pure false
  | fuel + 1 =>
      match r with
      | .finish => pure false
      | .opening =>
          advance
          let r := role (← get)
          if r == .closing then pure false
          else
            let inside ← disjunction p fuel r
            advance
            if role (← get) != .closing then throw (ascii "closing paren expected")
            pure inside
      | .unary name =>
          advance
          match ← get with
          | [] => throw (ascii (name ++ ": argument expected"))
          | operand :: _ =>
              if name == "-t" then
                let _ ← number operand
                pure false
              else pure (unaryHolds p name operand)
      | _ =>
          match ← get with
          | [] => pure false
          | word :: rest =>
              match role rest with
              | .binary name =>
                  advance
                  advance
                  match ← get with
                  | [] => throw (ascii (name ++ ": argument expected"))
                  | operand :: _ => binaryHolds p name word operand
              | _ => pure !word.isEmpty

end

/-- Decides all of a condition, whose first word has this role. -/
def decideFrom (p : Process) (r : Role) (words : List Bytes) : Except Bytes Bool := do
  let (holds, rest) ← (disjunction p (4 * words.length + 8) r).run words
  match rest with
  | word :: _ :: _ =>
      throw (if word = [] then ascii "unexpected operator" else word ++ ascii ": unexpected operator")
  | _ => pure holds

/-- Decides a condition. Of up to four words, those at the ends settle how the others are read. -/
def eval (p : Process) : List Bytes → Except Bytes Bool
  | [] => .ok false
  | a :: words => do
      let size := words.length + 1
      if size = 3 && isBinary (words.head?.bind operator?) then decideFrom p .operand (a :: words)
      else if (size = 3 || size = 4) && a = ascii "(" && words.getLast? = some (ascii ")") then
        decideFrom p (role words.dropLast) words.dropLast
      else if (size = 3 || size = 4) && a = ascii "!" then
        pure !(← eval p words)
      else decideFrom p (role (a :: words)) (a :: words)

end RestrictedShell.Host.Script.Test
