import Mathlib.Data.List.TakeWhile
import RestrictedShell.Source.PlainReader

namespace RestrictedShell.PlainReader

open Text

/-- The input arrives as data, with reads in between that are merely interrupted. -/
def Clean (chunks : List Chunk) : Prop :=
  ∀ chunk ∈ chunks, (∃ bytes, chunk = .data bytes) ∨
    ∃ error, chunk = .fail error ∧ error.kind = .interrupted

/-- All the bytes that arrive. -/
def content (chunks : List Chunk) : Bytes :=
  chunks.flatMap fun chunk => match chunk with
    | .data bytes => bytes
    | _ => []

/-- The segments between newlines, each without a carriage return at its end. The last one counts
only if there is something in it. -/
def segments (bytes : Bytes) : List Bytes :=
  let pieces := bytes.splitOn newline
  (if pieces.getLast? = some [] then pieces.dropLast else pieces).map (dropLast carriageReturn)

theorem segments_nil : segments [] = [] := by
  simp [segments]

theorem segments_of_free {line : Bytes} (hfree : newline ∉ line) (hne : line ≠ []) :
    segments line = [dropLast carriageReturn line] := by
  simp [segments, List.splitOn_eq_singleton hfree, hne]

theorem segments_append_newline {line : Bytes} (hfree : newline ∉ line) (rest : Bytes) :
    segments (line ++ newline :: rest) = dropLast carriageReturn line :: segments rest := by
  have hpieces : rest.splitOn newline ≠ [] := List.splitOn_ne_nil newline rest
  unfold segments
  rw [List.splitOn_append_cons_self_of_not_mem hfree]
  obtain ⟨first, pieces, hsplit⟩ := List.exists_cons_of_ne_nil hpieces
  simp only [hsplit, List.getLast?_cons_cons, List.dropLast_cons_cons]
  split <;> rfl

/-- The answer to a request when these segments are still to come. -/
def answered : List Bytes → Reading
  | [] => .endOfInput
  | line :: _ => .line line

theorem eq_nil_of_answered {lines : List Bytes} (h : answered lines = .endOfInput) :
    lines = [] := by
  cases lines with
  | nil => rfl
  | cons line lines => cases h

theorem eq_cons_of_answered {lines : List Bytes} {line : Bytes}
    (h : answered lines = .line line) : ∃ rest, lines = line :: rest := by
  cases lines with
  | nil => cases h
  | cons first rest =>
      cases h
      exact ⟨rest, rfl⟩

theorem answered_ne_failed (lines : List Bytes) (error : ReadError) :
    answered lines ≠ .failed error := by
  cases lines <;> simp [answered]

theorem dropLast_of_free {b : UInt8} {line : Bytes} (h : b ∉ line) : dropLast b line = line := by
  unfold dropLast
  rw [if_neg fun hlast => h (List.mem_of_getLast? hlast)]

theorem strip_of_free {line : Bytes} (h : newline ∉ line) :
    strip line = dropLast carriageReturn line := by
  rw [strip, dropLast_of_free h]

theorem strip_newline (line : Bytes) :
    strip (line ++ [newline]) = dropLast carriageReturn line := by
  simp [strip, dropLast]

theorem cut_cases (bytes : Bytes) :
    (newline ∉ bytes ∧ cut bytes = (bytes, none)) ∨
      ∃ head tail, newline ∉ head ∧ bytes = head ++ newline :: tail ∧
        cut bytes = (head, some tail) := by
  by_cases hmem : newline ∈ bytes
  · obtain ⟨head, tail, rfl, hhead⟩ := List.eq_append_cons_of_mem hmem
    have hletters : ∀ b ∈ head, (b != newline) = true := fun b hb =>
      bne_iff_ne.mpr fun heq => hhead (heq ▸ hb)
    refine .inr ⟨head, tail, hhead, rfl, ?_⟩
    rw [cut, List.takeWhile_append_of_pos hletters, List.dropWhile_append_of_pos hletters]
    simp
  · have hletters : ∀ b ∈ bytes, (b != newline) = true := fun b hb =>
      bne_iff_ne.mpr fun heq => hmem (heq ▸ hb)
    refine .inl ⟨hmem, ?_⟩
    rw [cut, List.takeWhile_eq_self_iff.mpr hletters, List.dropWhile_eq_nil_iff.mpr hletters]
    rfl

theorem segments_append {bytes : Bytes} (h : ∀ b, bytes.getLast? = some b → b = newline)
    (rest : Bytes) : segments (bytes ++ rest) = segments bytes ++ segments rest := by
  rcases cut_cases bytes with ⟨hfree, _⟩ | ⟨head, tail, hhead, rfl, _⟩
  · have hnil : bytes = [] := by
      by_contra hne
      have hlast := h _ (List.getLast?_eq_some_getLast hne)
      exact hfree (hlast ▸ List.getLast_mem hne)
    rw [hnil, segments_nil]
    rfl
  · have htail : ∀ b, tail.getLast? = some b → b = newline := by
      intro b hb
      refine h b ?_
      simp [List.getLast?_append, List.getLast?_cons, hb]
    rw [List.append_assoc, List.cons_append, segments_append_newline hhead,
      segments_append_newline hhead, segments_append htail]
    rfl
termination_by bytes.length

theorem take_clean {taken : Bytes} {chunks : List Chunk} (hfree : newline ∉ taken)
    (hclean : Clean chunks) :
    (take taken chunks).1 = answered (segments (taken ++ content chunks)) ∧
      Clean (take taken chunks).2 ∧
      segments (content (take taken chunks).2) = (segments (taken ++ content chunks)).tail := by
  induction chunks generalizing taken with
  | nil =>
      have hnil : taken ++ content [] = taken := List.append_nil taken
      rw [hnil, take, ended]
      cases taken with
      | nil => exact ⟨by rw [segments_nil]; rfl, hclean, rfl⟩
      | cons b taken =>
          rw [segments_of_free hfree (List.cons_ne_nil b taken), if_neg (List.cons_ne_nil b taken),
            strip_of_free hfree]
          exact ⟨rfl, hclean, segments_nil⟩
  | cons chunk rest ih =>
      have hrest : Clean rest := fun chunk hchunk => hclean chunk (List.mem_cons_of_mem _ hchunk)
      rcases hclean chunk List.mem_cons_self with ⟨bytes, rfl⟩ | ⟨error, rfl, hkind⟩
      · have hcontent : content (.data bytes :: rest) = bytes ++ content rest := rfl
        rw [hcontent, take]
        rcases cut_cases bytes with ⟨hbytes, hcut⟩ | ⟨head, tail, hhead, rfl, hcut⟩
        · rw [hcut, ← List.append_assoc]
          exact ih (by simp [hfree, hbytes]) hrest
        · have hsegments : segments (taken ++ (head ++ newline :: tail ++ content rest)) =
              dropLast carriageReturn (taken ++ head) :: segments (tail ++ content rest) := by
            rw [← segments_append_newline (by simp [hfree, hhead])]
            simp
          rw [hcut, hsegments]
          refine ⟨?_, ?_, rfl⟩
          · dsimp only
            rw [strip_newline]
            rfl
          · intro chunk hchunk
            rcases List.mem_cons.mp hchunk with rfl | hchunk
            · exact .inl ⟨tail, rfl⟩
            · exact hrest chunk hchunk
      · rw [take, if_pos hkind]
        exact ih hfree hrest

theorem next_clean {κ : Type} [Launcher κ] {e : PlainReader × κ} (hclean : Clean e.1.input) :
    (Environment.next e).1 = answered (segments (content e.1.input)) ∧
      Clean (Environment.next e).2.1.input ∧
      segments (content (Environment.next e).2.1.input) =
        (segments (content e.1.input)).tail :=
  take_clean List.not_mem_nil hclean

end RestrictedShell.PlainReader
