import RestrictedShell.Words

namespace RestrictedShell.Words

/-- The bytes that part words: tab, newline, form feed, carriage return and space. -/
def separators : Bytes :=
  [0x09, 0x0A, 0x0C, 0x0D, 0x20]

theorem isSeparator_iff {b : UInt8} : isSeparator b = true ↔ b ∈ separators := by
  simp only [isSeparator, separators, Bool.or_eq_true, beq_iff_eq, List.mem_cons,
    List.not_mem_nil, or_false]
  constructor
  · rintro ((((h | h) | h) | h) | h) <;> simp [h]
  · rintro (h | h | h | h | h) <;> simp [h]

theorem isSeparator_eq_false_iff {b : UInt8} : isSeparator b = false ↔ b ∉ separators := by
  rw [← isSeparator_iff, Bool.not_eq_true]

/-- A word of a line: not empty, and free of separators. -/
def IsWord (word : Bytes) : Prop :=
  word ≠ [] ∧ ∀ b ∈ word, b ∉ separators

theorem split_free (line : Bytes) :
    (∀ b ∈ (split line).word, b ∉ separators) ∧ ∀ word ∈ (split line).rest, IsWord word := by
  induction line with
  | nil => simp
  | cons b line ih =>
      obtain ⟨hword, hrest⟩ := ih
      cases hb : isSeparator b with
      | false =>
          simp only [split_cons, Split.push, hb, Bool.false_eq_true, if_false, List.mem_cons]
          refine ⟨?_, hrest⟩
          rintro b' (rfl | hb')
          · exact isSeparator_eq_false_iff.mp hb
          · exact hword b' hb'
      | true =>
          simp only [split_cons, Split.push, hb, if_true, Split.close]
          refine ⟨by simp, ?_⟩
          split
          · exact hrest
          · rename_i hne
            simp only [List.mem_cons]
            rintro word (rfl | hmem)
            · exact ⟨hne, hword⟩
            · exact hrest word hmem

theorem isWord_of_mem {line word : Bytes} (h : word ∈ words line) : IsWord word := by
  obtain ⟨hword, hrest⟩ := split_free line
  unfold words Split.close at h
  split at h
  · exact hrest word h
  · rename_i hne
    rcases List.mem_cons.mp h with rfl | hmem
    · exact ⟨hne, hword⟩
    · exact hrest word hmem

end RestrictedShell.Words
