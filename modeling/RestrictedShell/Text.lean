/-!
Bytes and text. Lines, arguments and paths are bytes; messages are text. `Text.encode` writes a text
as UTF-8, and `Text.lossy` reads bytes as text, with one replacement character for every maximal
run of bytes that begins a character but does not finish it.
-/

namespace RestrictedShell

/-- Raw bytes, in any encoding. -/
abbrev Bytes := List UInt8

namespace Text

def newline : UInt8 := 0x0A

def carriageReturn : UInt8 := 0x0D

/-- The UTF-8 form of a text. -/
def encode (s : String) : Bytes :=
  s.toByteArray.data.toList

@[simp]
theorem encode_append (s t : String) : encode (s ++ t) = encode s ++ encode t := by
  simp [encode]

theorem encode_injective {s t : String} (h : encode s = encode t) : s = t := by
  have hdata : s.toByteArray.data = t.toByteArray.data := Array.toList_inj.mp h
  have harray : s.toByteArray = t.toByteArray := by
    cases hs : s.toByteArray
    cases ht : t.toByteArray
    simp_all
  exact String.toByteArray_inj.mp harray

/-- The character that stands for bytes that are not UTF-8. -/
def replacement : Char := '\uFFFD'

/-- A character of which some bytes are still missing: its value so far, how many bytes are
missing, and the range that the next of them must lie in. -/
structure Unfinished where
  value : Nat
  missing : Nat
  low : UInt8
  high : UInt8
deriving DecidableEq, Repr

/-- What the first byte of a character announces. `none` when no character begins with it. -/
def Unfinished.ofLead? (b : UInt8) : Option Unfinished :=
  if 0xC2 ≤ b ∧ b ≤ 0xDF then some ⟨b.toNat - 0xC0, 1, 0x80, 0xBF⟩
  else if b = 0xE0 then some ⟨0, 2, 0xA0, 0xBF⟩
  else if b = 0xED then some ⟨0xD, 2, 0x80, 0x9F⟩
  else if 0xE1 ≤ b ∧ b ≤ 0xEF then some ⟨b.toNat - 0xE0, 2, 0x80, 0xBF⟩
  else if b = 0xF0 then some ⟨0, 3, 0x90, 0xBF⟩
  else if 0xF1 ≤ b ∧ b ≤ 0xF3 then some ⟨b.toNat - 0xF0, 3, 0x80, 0xBF⟩
  else if b = 0xF4 then some ⟨4, 3, 0x80, 0x8F⟩
  else none

/-- A decoder between two bytes: the characters read, newest first, and the one under way. -/
structure Decoder where
  read : List Char
  unfinished : Option Unfinished
deriving DecidableEq, Repr

namespace Decoder

/-- Takes `b` as the first byte of a character. -/
def start (read : List Char) (b : UInt8) : Decoder :=
  if b < 0x80 then ⟨Char.ofNat b.toNat :: read, none⟩
  else match Unfinished.ofLead? b with
    | some u => ⟨read, some u⟩
    | none => ⟨replacement :: read, none⟩

/-- Takes one byte. A byte that cannot continue the character under way ends it with a replacement
character and is then looked at afresh. -/
def push (d : Decoder) (b : UInt8) : Decoder :=
  match d.unfinished with
  | none => start d.read b
  | some u =>
      if u.low ≤ b ∧ b ≤ u.high then
        let value := u.value * 64 + (b.toNat - 0x80)
        if u.missing ≤ 1 then ⟨Char.ofNat value :: d.read, none⟩
        else ⟨d.read, some ⟨value, u.missing - 1, 0x80, 0xBF⟩⟩
      else start (replacement :: d.read) b

/-- The characters read, in order; one that is still under way becomes a replacement character. -/
def finish (d : Decoder) : List Char :=
  match d.unfinished with
  | none => d.read.reverse
  | some _ => (replacement :: d.read).reverse

end Decoder

/-- Reads bytes as UTF-8, replacing what is not. -/
def lossy (bytes : Bytes) : String :=
  String.ofList (bytes.foldl Decoder.push ⟨[], none⟩).finish

/-- Reads bytes as UTF-8. `none` when they are not the form of any text. -/
def decode? (bytes : Bytes) : Option String :=
  if encode (lossy bytes) = bytes then some (lossy bytes) else none

end Text

end RestrictedShell
