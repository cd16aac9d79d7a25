import RestrictedShell.Session.Environment
/-!
Reading lines from a stream of bytes that arrives in pieces. How the bytes are cut into pieces does
not matter, nor do interrupted reads; any other failure ends the read it occurs in, and the part of
a line that was read before it is gone. A mark of the end of input ends a line, and reading may go
on behind it.
-/

namespace RestrictedShell

/-- One piece of input: some bytes, a failing read, or a read that finds the end of input. -/
inductive Chunk where
  | data (bytes : Bytes)
  | fail (error : IoError)
  | eof
deriving DecidableEq, Repr

namespace PlainReader

open Text

/-- Drops the last byte if it is this one. -/
def dropLast (b : UInt8) (bytes : Bytes) : Bytes :=
  if bytes.getLast? = some b then bytes.dropLast else bytes

/-- Removes one newline from the end, and then one carriage return, whether or not there was a
newline. -/
def strip (line : Bytes) : Bytes :=
  dropLast carriageReturn (dropLast newline line)

/-- The reading for the bytes taken when the input gives no more. -/
def ended (taken : Bytes) : Reading :=
  if taken = [] then .endOfInput else .line (strip taken)

/-- The bytes before the first newline, and those after it if there is one. -/
def cut (bytes : Bytes) : Bytes × Option Bytes :=
  (bytes.takeWhile (· != newline), (bytes.dropWhile (· != newline)).tail?)

/-- Takes the rest of a line of which `taken` has been read, newline included. -/
def take (taken : Bytes) : List Chunk → Reading × List Chunk
  | [] => (ended taken, [])
  | .data bytes :: rest =>
      match cut bytes with
      | (head, some tail) => (.line (strip (taken ++ head ++ [newline])), .data tail :: rest)
      | (head, none) => take (taken ++ head) rest
  | .fail error :: rest =>
      if error.kind = .interrupted then take taken rest else (.failed (.input error), rest)
  | .eof :: rest => (ended taken, rest)

/-- How much a piece counts for: its bytes, and one for the piece itself. -/
def size : Chunk → Nat
  | .data bytes => bytes.length + 1
  | .fail _ | .eof => 1

/-- How much all the pieces count for. -/
def pending : List Chunk → Nat
  | [] => 0
  | chunk :: rest => size chunk + pending rest

theorem cut_length {bytes head tail : Bytes} (h : cut bytes = (head, some tail)) :
    tail.length < bytes.length := by
  simp only [cut, Prod.mk.injEq] at h
  obtain ⟨_, h⟩ := h
  have hle : (bytes.dropWhile (· != newline)).length ≤ bytes.length :=
    (List.dropWhile_sublist _).length_le
  revert h hle
  cases bytes.dropWhile (· != newline) with
  | nil => simp [List.tail?]
  | cons b rest =>
      intro h hle
      simp only [List.tail?, Option.some.injEq] at h
      subst h
      simp only [List.length_cons] at hle
      omega

theorem pending_take_le (taken : Bytes) (chunks : List Chunk) :
    pending (take taken chunks).2 ≤ pending chunks := by
  induction chunks generalizing taken with
  | nil => simp [take]
  | cons chunk rest ih =>
      cases chunk with
      | data bytes =>
          unfold take
          rcases hcut : cut bytes with ⟨head, _ | tail⟩
          · have hrest := ih (taken ++ head)
            simp only [pending, size] at hrest ⊢
            omega
          · have htail := cut_length hcut
            simp only [pending, size]
            omega
      | fail error =>
          have hrest := ih taken
          unfold take
          split <;> simp only [pending, size] at hrest ⊢ <;> omega
      | eof => simp [take, pending, size]

theorem pending_take_line {line : Bytes} {chunks : List Chunk}
    (h : (take [] chunks).1 = .line line) : pending (take [] chunks).2 < pending chunks := by
  cases chunks with
  | nil => simp [take, ended] at h
  | cons chunk rest =>
      cases chunk with
      | data bytes =>
          unfold take at h ⊢
          rcases hcut : cut bytes with ⟨head, _ | tail⟩
          · have hrest := pending_take_le ([] ++ head) rest
            simp only [pending, size] at hrest ⊢
            omega
          · have htail := cut_length hcut
            simp only [pending, size]
            omega
      | fail error =>
          have hrest := pending_take_le [] rest
          unfold take
          split <;> simp only [pending, size] at hrest ⊢ <;> omega
      | eof => simp [take, pending, size]

end PlainReader

/-- A reader of lines from pieces of input, which prompts on a stream of the session. -/
structure PlainReader where
  input : List Chunk
  prompts : Stream
deriving DecidableEq, Repr

namespace PlainReader

def next (r : PlainReader) : Reading × PlainReader :=
  let answer := take [] r.input
  (answer.1, { r with input := answer.2 })

instance : LineSource PlainReader where
  promptStream r := some r.prompts
  next := next
  pending r := pending r.input
  pending_next_le r := pending_take_le [] r.input
  pending_next_line _ _ h := pending_take_line h

end PlainReader

end RestrictedShell
