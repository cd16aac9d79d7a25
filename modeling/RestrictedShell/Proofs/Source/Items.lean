import RestrictedShell.Proofs.Source.Segments
/-!
The input of a plain reader as one sequence of bytes, ends and failures, and reading it byte for
byte. The reader gives the same answers, whatever the pieces its input comes in.
-/

namespace RestrictedShell

/-- A byte, an end of input, or a failed read that is not tried again. -/
inductive Item where
  | byte (b : UInt8)
  | eof
  | failure (error : IoError)
deriving DecidableEq, Repr

namespace PlainReader

open Text

/-- The input without its pieces and its interrupted reads. -/
def items (chunks : List Chunk) : List Item :=
  chunks.flatMap fun
    | .data bytes => bytes.map .byte
    | .fail error => if error.kind = .interrupted then [] else [.failure error]
    | .eof => [.eof]

/-- The bytes of a sequence of items. -/
def bytesOf (input : List Item) : Bytes :=
  input.filterMap fun
    | .byte b => some b
    | _ => none

/-- Takes the rest of a line of which `taken` has been read, byte for byte. -/
def decode (taken : Bytes) : List Item → Reading × List Item
  | [] => (ended taken, [])
  | .byte b :: rest =>
      if b = newline then (.line (strip (taken ++ [b])), rest) else decode (taken ++ [b]) rest
  | .eof :: rest => (ended taken, rest)
  | .failure error :: rest => (.failed (.input error), rest)

theorem items_data (bytes : Bytes) (chunks : List Chunk) :
    items (.data bytes :: chunks) = bytes.map .byte ++ items chunks := rfl

theorem items_append (a b : List Chunk) : items (a ++ b) = items a ++ items b :=
  List.flatMap_append

theorem content_append (a b : List Chunk) : content (a ++ b) = content a ++ content b :=
  List.flatMap_append

theorem bytesOf_append (a b : List Item) : bytesOf (a ++ b) = bytesOf a ++ bytesOf b :=
  List.filterMap_append

theorem bytesOf_bytes (bytes : Bytes) : bytesOf (bytes.map .byte) = bytes := by
  induction bytes with
  | nil => rfl
  | cons b bytes ih => exact congrArg (b :: ·) ih

theorem bytesOf_items (chunks : List Chunk) : bytesOf (items chunks) = content chunks := by
  induction chunks with
  | nil => rfl
  | cons chunk chunks ih =>
      have hfirst : bytesOf (items [chunk]) = content [chunk] := by
        cases chunk with
        | data bytes => simp [items, content, bytesOf_bytes]
        | fail error => by_cases h : error.kind = .interrupted <;> simp [items, content, bytesOf, h]
        | eof => rfl
      have hsplit : chunk :: chunks = [chunk] ++ chunks := rfl
      rw [hsplit, items_append, content_append, bytesOf_append, hfirst, ih]

theorem eof_free_items {chunks : List Chunk} (h : .eof ∉ chunks) : .eof ∉ items chunks := by
  intro heof
  obtain ⟨chunk, hchunk, hmem⟩ := List.mem_flatMap.mp heof
  cases chunk with
  | data bytes => simp at hmem
  | fail error => by_cases hkind : error.kind = .interrupted <;> simp [hkind] at hmem
  | eof => exact h hchunk

theorem decode_of_free {bytes : Bytes} (h : newline ∉ bytes) (taken : Bytes) (rest : List Item) :
    decode taken (bytes.map .byte ++ rest) = decode (taken ++ bytes) rest := by
  induction bytes generalizing taken with
  | nil => simp
  | cons b bytes ih =>
      have hb : b ≠ newline := Ne.symm (List.ne_of_not_mem_cons h)
      rw [List.map_cons, List.cons_append, decode, if_neg hb, ih (List.not_mem_of_not_mem_cons h)]
      simp

theorem decode_newline (taken : Bytes) (rest : List Item) :
    decode taken (.byte newline :: rest) = (.line (strip (taken ++ [newline])), rest) := by
  rw [decode, if_pos rfl]

/-- A plain reader takes a line as if its input came byte for byte. -/
theorem decode_items (taken : Bytes) (chunks : List Chunk) :
    decode taken (items chunks) = ((take taken chunks).1, items (take taken chunks).2) := by
  induction chunks generalizing taken with
  | nil => rfl
  | cons chunk rest ih =>
      cases chunk with
      | data bytes =>
          rw [items_data, take]
          rcases cut_cases bytes with ⟨hbytes, hcut⟩ | ⟨head, tail, hhead, rfl, hcut⟩
          · rw [hcut, decode_of_free hbytes, ih]
          · rw [hcut, List.map_append, List.append_assoc, decode_of_free hhead, List.map_cons,
              List.cons_append, decode_newline, ← items_data]
      | fail error =>
          have hitems : items (.fail error :: rest) =
              (if error.kind = .interrupted then [] else [.failure error]) ++ items rest := rfl
          rw [hitems, take]
          split
          · exact ih taken
          · rfl
      | eof => rfl

/-- What `decode` does: it takes bytes up to the first newline, end or failure, or all of them. -/
inductive Decoded (taken : Bytes) : List Item → Reading × List Item → Prop
  | newline {raw : Bytes} {rest : List Item} (hfree : newline ∉ raw) :
      Decoded taken (raw.map .byte ++ .byte newline :: rest)
        (.line (strip (taken ++ raw ++ [newline])), rest)
  | eof {raw : Bytes} {rest : List Item} (hfree : newline ∉ raw) :
      Decoded taken (raw.map .byte ++ .eof :: rest) (ended (taken ++ raw), rest)
  | failure {raw : Bytes} {error : IoError} {rest : List Item} (hfree : newline ∉ raw) :
      Decoded taken (raw.map .byte ++ .failure error :: rest) (.failed (.input error), rest)
  | exhausted {raw : Bytes} (hfree : newline ∉ raw) :
      Decoded taken (raw.map .byte) (ended (taken ++ raw), [])

theorem Decoded.cons {taken : Bytes} {input : List Item} {answer : Reading × List Item} {b : UInt8}
    (hb : b ≠ Text.newline) (h : Decoded (taken ++ [b]) input answer) :
    Decoded taken (.byte b :: input) answer := by
  have hmore : ∀ {raw : Bytes}, Text.newline ∉ raw → Text.newline ∉ b :: raw := fun hraw =>
    List.not_mem_cons_of_ne_of_not_mem (Ne.symm hb) hraw
  cases h with
  | @newline raw rest hfree => simpa using @Decoded.newline taken (b :: raw) rest (hmore hfree)
  | @eof raw rest hfree => simpa using @Decoded.eof taken (b :: raw) rest (hmore hfree)
  | @failure raw error rest hfree =>
      simpa using @Decoded.failure taken (b :: raw) error rest (hmore hfree)
  | @exhausted raw hfree => simpa using @Decoded.exhausted taken (b :: raw) (hmore hfree)

theorem decoded (taken : Bytes) (input : List Item) :
    Decoded taken input (decode taken input) := by
  induction input generalizing taken with
  | nil => simpa [decode] using @Decoded.exhausted taken [] List.not_mem_nil
  | cons item rest ih =>
      cases item with
      | byte b =>
          by_cases hb : b = newline
          · rw [hb, decode_newline]
            simpa using @Decoded.newline taken [] rest List.not_mem_nil
          · rw [decode, if_neg hb]
            exact (ih (taken ++ [b])).cons hb
      | eof => simpa [decode] using @Decoded.eof taken [] rest List.not_mem_nil
      | failure error => simpa [decode] using @Decoded.failure taken [] error rest List.not_mem_nil

end PlainReader

end RestrictedShell
