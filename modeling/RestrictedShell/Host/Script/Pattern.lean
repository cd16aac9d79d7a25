import RestrictedShell.Host.Script.Byte
/-!
Patterns: texts in which `*` stands for any bytes, `?` for one, and brackets for one out of a set. A
backslash takes the meaning from the byte behind it.
-/

namespace RestrictedShell.Host.Script

/-- A pattern as it is written. -/
abbrev Pattern := Bytes

namespace Pattern

def isLower (b : UInt8) : Bool := byte 'a' ≤ b && b ≤ byte 'z'
def isUpper (b : UInt8) : Bool := byte 'A' ≤ b && b ≤ byte 'Z'
def isLetter (b : UInt8) : Bool := isLower b || isUpper b
def isVisible (b : UInt8) : Bool := 0x21 ≤ b && b ≤ 0x7E

/-- The classes of bytes that have names. -/
def classes : List (String × (UInt8 → Bool)) :=
  [("alnum", fun b => isLetter b || isDigit b), ("cntrl", fun b => b < 0x20 || b == 0x7F),
    ("lower", isLower), ("space", isSpace), ("alpha", isLetter), ("digit", isDigit),
    ("print", fun b => isVisible b || b == 0x20), ("upper", isUpper), ("blank", isBlank),
    ("graph", isVisible), ("punct", fun b => isVisible b && !isLetter b && !isDigit b),
    ("xdigit", fun b => isDigit b || (byte 'a' ≤ b && b ≤ byte 'f') ||
      (byte 'A' ≤ b && b ≤ byte 'F'))]

/-- A class whose name begins a text, and what stands behind it. -/
def class? (text : Bytes) : Option ((UInt8 → Bool) × Bytes) :=
  classes.findSome? fun entry =>
    let name := ascii (":" ++ entry.1 ++ ":]")
    if name.isPrefixOf text then some (entry.2, text.drop name.length) else none

/-- The order of bytes within a range: those beyond ASCII come first. -/
def below (a b : UInt8) : Bool :=
  a.toInt8 ≤ b.toInt8

/-- Tries a byte on the members of a set, of which at least one is left: whether it was found, and
what stands behind the closing bracket. `none` if there is no closing bracket. -/
def inSet (b : UInt8) (fuel : Nat) (found : Bool) (set : Bytes) : Option (Bool × Bytes) :=
  match fuel with
  | 0 => none
  | fuel + 1 =>
      let next (found : Bool) : Bytes → Option (Bool × Bytes)
        | 0x5D :: rest => some (found, rest)
        | rest => inSet b fuel found rest
      let single (c : UInt8) (rest : Bytes) : Option (Bool × Bytes) :=
        match rest with
        | 0x2D :: high :: rest =>
            if high == 0x5D then next (found || b == c) (0x2D :: high :: rest)
            else match high, rest with
              | 0x5C, high :: rest => next (found || (below c b && below b high)) rest
              | high, rest => next (found || (below c b && below b high)) rest
        | rest => next (found || b == c) rest
      match set with
      | [] => none
      | c :: rest =>
          if c == 0x5B then
            match class? rest with
            | some (holds, rest) => next (found || holds b) rest
            | none => single c rest
          else if c == 0x5C then
            match rest with
            | c :: rest => single c rest
            | [] => none
          else single c rest

/-- Does anything hold of the text, or of what is left of it behind some bytes? -/
def anySuffix (holds : Bytes → Bool) : Bytes → Bool
  | [] => holds []
  | b :: rest => holds (b :: rest) || anySuffix holds rest

/-- Does the pattern match all of the text? The fuel bounds the length of the pattern. -/
def matchesWith (fuel : Nat) (pattern : Pattern) (text : Bytes) : Bool :=
  match fuel with
  | 0 => false
  | fuel + 1 =>
      let literal (c : UInt8) (rest : Pattern) : Bool :=
        match text with
        | b :: text => b == c && matchesWith fuel rest text
        | [] => false
      match pattern with
      | [] => text.isEmpty
      | 0x5C :: c :: rest => literal c rest
      | 0x3F :: rest =>
          match text with
          | _ :: text => matchesWith fuel rest text
          | [] => false
      | 0x2A :: rest =>
          let rest := rest.dropWhile (· == 0x2A)
          rest.isEmpty || anySuffix (matchesWith fuel rest) text
      | 0x5B :: rest =>
          let inverted := rest.head? == some (byte '!')
          match text with
          | [] => false
          | b :: after =>
              match inSet b (rest.length + 1) false (if inverted then rest.tail else rest) with
              | some (found, rest) => found != inverted && matchesWith fuel rest after
              | none => literal 0x5B rest
      | c :: rest => literal c rest

/-- Does the pattern match all of the text? -/
def accepts (pattern : Pattern) (text : Bytes) : Bool :=
  matchesWith (pattern.length + 1) pattern text

end Pattern

end RestrictedShell.Host.Script
