import RestrictedShell.Text
/-!
File names in messages, quoted so that they could be pasted into a shell: single quotes around what
a shell would not take as it is, double quotes where a single quote is the only trouble, and escapes
for bytes that cannot be printed.
-/

namespace RestrictedShell.Host.QuotedName

def singleQuote : UInt8 := 0x27

def isPrintable (b : UInt8) : Bool :=
  0x20 ≤ b && b < 0x7F

/-- Bytes that a shell takes for something else wherever they stand. -/
def special : Bytes :=
  Text.encode " !\"$&()*;<=>?[\\^`|"

/-- Would a shell take this byte for something else, at this index of a name of this length, or could it
be taken for the colon behind the name? -/
def isSpecial (length index : Nat) (b : UInt8) : Bool :=
  b == singleQuote || b == 0x3A || special.contains b || !isPrintable b ||
    ((b == 0x23 || b == 0x7E) && index == 0) || ((b == 0x7B || b == 0x7D) && length == 1)

/-- May this byte stand between double quotes as it is? -/
def fitsDoubleQuotes (b : UInt8) : Bool :=
  isPrintable b && (b == 0x20 || !special.contains b)

/-- The escape of a byte that cannot be printed. -/
def escape (b : UInt8) : Bytes :=
  let digit (n : Nat) : UInt8 := (48 + n).toUInt8
  0x5C :: match b.toNat with
    | 7 => Text.encode "a"
    | 8 => Text.encode "b"
    | 9 => Text.encode "t"
    | 10 => Text.encode "n"
    | 11 => Text.encode "v"
    | 12 => Text.encode "f"
    | 13 => Text.encode "r"
    | n => [digit (n / 64), digit (n / 8 % 8), digit (n % 8)]

/-- The bytes after an opening single quote; `escaping` while inside an escaped stretch. -/
def inner (escaping : Bool) : Bytes → Bytes
  | [] => [singleQuote]
  | b :: rest =>
      if b == singleQuote then
        [singleQuote, 0x5C, singleQuote, singleQuote] ++ inner false rest
      else if isPrintable b then
        (if escaping then [singleQuote, singleQuote, b] else [b]) ++ inner false rest
      else (if escaping then [] else [singleQuote, 0x24, singleQuote]) ++ escape b ++ inner true rest

/-- The name in quotes. -/
def always (name : Bytes) : Bytes :=
  if name.contains singleQuote && name.all fitsDoubleQuotes then 0x22 :: (name ++ [0x22])
  else singleQuote :: inner false name

/-- A text that is no file name, in single quotes, with escapes for quotes and backslashes too. -/
def inText (text : Bytes) : Bytes :=
  singleQuote :: (text.flatMap fun b =>
    if b == singleQuote || b == 0x5C then [0x5C, b]
    else if isPrintable b then [b]
    else escape b) ++ [singleQuote]

/-- The name in quotes if it needs them. -/
def ifNeeded (name : Bytes) : Bytes :=
  let needed := (List.range name.length).zip name |>.any fun p => isSpecial name.length p.1 p.2
  if name = [] || needed then always name else name

end RestrictedShell.Host.QuotedName
