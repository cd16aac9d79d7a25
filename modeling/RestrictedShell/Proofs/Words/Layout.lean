import Mathlib.Data.List.TakeWhile
import Mathlib.Logic.ExistsUnique
import RestrictedShell.Proofs.Words
/-!
A line as words with gaps of separators around them. Every line can be taken apart in this way, and
in no other, so that the words of a line are all that stands between its gaps.
-/

namespace RestrictedShell.Words

/-- A run of separators, which may be empty. -/
def IsGap (gap : Bytes) : Prop :=
  ∀ b ∈ gap, b ∈ separators

theorem IsGap.isSeparator {gap : Bytes} (h : IsGap gap) : ∀ b ∈ gap, isSeparator b = true :=
  fun b hb => isSeparator_iff.mpr (h b hb)

theorem IsWord.isSeparator {word : Bytes} (h : IsWord word) : ∀ b ∈ word, isSeparator b = false :=
  fun b hb => isSeparator_eq_false_iff.mpr (h.2 b hb)

/-- Words, each with the gap behind it. No two words touch: only the last gap may be empty. -/
inductive Parted : List (Bytes × Bytes) → Prop
  | nil : Parted []
  | cons {word gap : Bytes} {rest : List (Bytes × Bytes)} (hword : IsWord word)
      (hgap : IsGap gap) (hne : rest ≠ [] → gap ≠ []) (hrest : Parted rest) :
      Parted ((word, gap) :: rest)

/-- A line taken apart: the gap in front, and the words with the gaps behind them. -/
@[ext]
structure Layout where
  lead : Bytes
  pieces : List (Bytes × Bytes)
  isGap_lead : IsGap lead
  parted : Parted pieces

def joined (pieces : List (Bytes × Bytes)) : Bytes :=
  pieces.flatMap fun piece => piece.1 ++ piece.2

namespace Layout

def line (l : Layout) : Bytes :=
  l.lead ++ joined l.pieces

def words (l : Layout) : List Bytes :=
  l.pieces.map Prod.fst

end Layout

theorem joined_cons (word gap : Bytes) (rest : List (Bytes × Bytes)) :
    joined ((word, gap) :: rest) = word ++ (gap ++ joined rest) := by
  rw [joined, List.flatMap_cons, List.append_assoc]
  rfl

theorem words_gap_append {gap : Bytes} (hgap : IsGap gap) (rest : Bytes) :
    words (gap ++ rest) = words rest := by
  induction gap with
  | nil => rfl
  | cons b gap ih =>
      obtain ⟨hb, hgap⟩ := List.forall_mem_cons.mp hgap
      rw [List.cons_append, words_cons_separator (isSeparator_iff.mpr hb), ih hgap]

theorem close_append (word : Bytes) (rest later : List Bytes) :
    Split.close ⟨word, rest ++ later⟩ = Split.close ⟨word, rest⟩ ++ later := by
  unfold Split.close
  split <;> rfl

theorem split_append_separator {c : UInt8} (hc : isSeparator c = true) (a b : Bytes) :
    split (a ++ c :: b) = ⟨(split a).word, (split a).rest ++ words b⟩ := by
  induction a with
  | nil => simp [Split.push, hc, words]
  | cons first a ih =>
      rw [List.cons_append, split_cons, split_cons, ih]
      unfold Split.push
      split
      · rw [close_append]
      · rfl

theorem words_append_separator {c : UInt8} (hc : isSeparator c = true) (a b : Bytes) :
    words (a ++ c :: b) = words a ++ words b := by
  rw [words, split_append_separator hc, close_append]
  rfl

theorem split_of_free {word : Bytes} (hfree : ∀ b ∈ word, isSeparator b = false) :
    split word = ⟨word, []⟩ := by
  induction word with
  | nil => rfl
  | cons b word ih =>
      obtain ⟨hb, hfree⟩ := List.forall_mem_cons.mp hfree
      rw [split_cons, ih hfree]
      simp [Split.push, hb]

theorem words_of_isWord {word : Bytes} (h : IsWord word) : words word = [word] := by
  rw [words, split_of_free h.isSeparator, Split.close, if_neg h.1]

theorem words_word_append {word gap rest : Bytes} (hword : IsWord word) (hgap : IsGap gap)
    (hne : gap ≠ []) : words (word ++ (gap ++ rest)) = word :: words rest := by
  obtain ⟨c, gap, rfl⟩ := List.exists_cons_of_ne_nil hne
  obtain ⟨hc, hgap⟩ := List.forall_mem_cons.mp hgap
  rw [List.cons_append, words_append_separator (isSeparator_iff.mpr hc), words_of_isWord hword,
    words_gap_append hgap]
  rfl

theorem eq_nil_of_touching {rest : List (Bytes × Bytes)} (hne : rest ≠ [] → ([] : Bytes) ≠ []) :
    rest = [] := by
  by_contra hmore
  exact hne hmore rfl

theorem words_joined {pieces : List (Bytes × Bytes)} (h : Parted pieces) :
    words (joined pieces) = pieces.map Prod.fst := by
  induction h with
  | nil => rfl
  | @cons word gap rest hword hgap hne hrest ih =>
      rw [joined_cons, List.map_cons, ← ih]
      cases gap with
      | nil =>
          -- Words that touch are no two words, so this one is the last.
          rw [eq_nil_of_touching hne, List.nil_append]
          exact (congrArg words (List.append_nil word)).trans (words_of_isWord hword)
      | cons c gap => exact words_word_append hword hgap (List.cons_ne_nil c gap)

theorem words_line (l : Layout) : words l.line = l.words := by
  rw [Layout.line, words_gap_append l.isGap_lead, words_joined l.parted]
  rfl

theorem isGap_nil : IsGap [] := by
  intro b hb
  cases hb

theorem isWord_singleton {b : UInt8} (hb : b ∉ separators) : IsWord [b] := by
  constructor
  · exact List.cons_ne_nil b []
  · intro b' hb'
    rwa [List.mem_singleton.mp hb']

theorem IsWord.cons {b : UInt8} {word : Bytes} (hb : b ∉ separators) (h : IsWord word) :
    IsWord (b :: word) :=
  ⟨List.cons_ne_nil b word, List.forall_mem_cons.mpr ⟨hb, h.2⟩⟩

theorem exists_layout (line : Bytes) : ∃ l : Layout, l.line = line := by
  induction line with
  | nil => exact ⟨⟨[], [], isGap_nil, .nil⟩, rfl⟩
  | cons b line ih =>
      obtain ⟨⟨lead, pieces, hlead, hparted⟩, rfl⟩ := ih
      by_cases hb : b ∈ separators
      · exact ⟨⟨b :: lead, pieces, List.forall_mem_cons.mpr ⟨hb, hlead⟩, hparted⟩, rfl⟩
      · -- The byte begins a word, unless a word stands right behind it and takes it in.
        by_cases hnew : pieces ≠ [] → lead ≠ []
        · refine ⟨⟨[], ([b], lead) :: pieces, isGap_nil, ?_⟩, rfl⟩
          exact .cons (isWord_singleton hb) hlead hnew hparted
        · rw [Classical.not_imp, not_not] at hnew
          obtain ⟨hmore, rfl⟩ := hnew
          cases hparted with
          | nil => exact absurd rfl hmore
          | cons hword hgap hne hrest =>
              exact ⟨⟨[], _, isGap_nil, .cons (hword.cons hb) hgap hne hrest⟩, rfl⟩

/-- Nothing comes behind a run of such bytes that could belong to it. -/
def StopsAt (p : UInt8 → Bool) (rest : Bytes) : Prop :=
  ∀ b ∈ rest.head?, p b = false

theorem takeWhile_run {p : UInt8 → Bool} {run rest : Bytes} (hrun : ∀ b ∈ run, p b = true)
    (hrest : StopsAt p rest) : (run ++ rest).takeWhile p = run := by
  rw [List.takeWhile_append_of_pos hrun]
  cases rest with
  | nil => simp
  | cons b rest => rw [List.takeWhile_cons_of_neg (by simp [hrest b rfl]), List.append_nil]

theorem run_unique {p : UInt8 → Bool} {run run' rest rest' : Bytes} (hrun : ∀ b ∈ run, p b = true)
    (hrun' : ∀ b ∈ run', p b = true) (hrest : StopsAt p rest) (hrest' : StopsAt p rest')
    (h : run ++ rest = run' ++ rest') : run = run' ∧ rest = rest' := by
  have hsame : run = run' := by
    rw [← takeWhile_run hrun hrest, h, takeWhile_run hrun' hrest']
  subst hsame
  exact ⟨rfl, List.append_cancel_left h⟩

theorem stopsAt_joined {pieces : List (Bytes × Bytes)} (h : Parted pieces) :
    StopsAt isSeparator (joined pieces) := by
  cases h with
  | nil =>
      intro b hb
      cases hb
  | cons hword hgap hne hrest =>
      obtain ⟨first, word, rfl⟩ := List.exists_cons_of_ne_nil hword.1
      intro b hb
      obtain rfl : first = b := Option.some.inj hb
      exact hword.isSeparator first List.mem_cons_self

theorem stopsAt_gap {gap : Bytes} {rest : List (Bytes × Bytes)} (hgap : IsGap gap)
    (hne : rest ≠ [] → gap ≠ []) : StopsAt (fun b => !isSeparator b) (gap ++ joined rest) := by
  intro b hb
  cases gap with
  | nil =>
      rw [eq_nil_of_touching hne] at hb
      cases hb
  | cons c gap =>
      obtain rfl : c = b := Option.some.inj hb
      simp [hgap.isSeparator c List.mem_cons_self]

theorem joined_ne_nil {piece : Bytes × Bytes} {rest : List (Bytes × Bytes)}
    (h : Parted (piece :: rest)) : joined (piece :: rest) ≠ [] := by
  cases h with
  | cons hword hgap hne hrest =>
      rw [joined_cons]
      exact List.append_ne_nil_of_left_ne_nil hword.1 _

theorem pieces_unique {pieces pieces' : List (Bytes × Bytes)} (h : Parted pieces)
    (h' : Parted pieces') (heq : joined pieces = joined pieces') : pieces = pieces' := by
  induction h generalizing pieces' with
  | nil =>
      cases pieces' with
      | nil => rfl
      | cons piece rest => exact absurd heq.symm (joined_ne_nil h')
  | @cons word gap rest hword hgap hne hrest ih =>
      cases h' with
      | nil => exact absurd heq (joined_ne_nil (.cons hword hgap hne hrest))
      | @cons word' gap' rest' hword' hgap' hne' hrest' =>
          rw [joined_cons, joined_cons] at heq
          obtain ⟨rfl, htail⟩ := run_unique (p := fun b => !isSeparator b)
            (fun b hb => by simp [hword.isSeparator b hb]) (fun b hb => by simp [hword'.isSeparator b hb])
            (stopsAt_gap hgap hne) (stopsAt_gap hgap' hne') heq
          obtain ⟨rfl, hjoined⟩ := run_unique hgap.isSeparator hgap'.isSeparator (stopsAt_joined hrest)
            (stopsAt_joined hrest') htail
          rw [ih hrest' hjoined]

theorem Layout.eq_of_line_eq {l l' : Layout} (h : l.line = l'.line) : l = l' := by
  obtain ⟨hlead, hjoined⟩ := run_unique l.isGap_lead.isSeparator l'.isGap_lead.isSeparator
    (stopsAt_joined l.parted) (stopsAt_joined l'.parted) h
  exact Layout.ext hlead (pieces_unique l.parted l'.parted hjoined)

theorem filter_gap {gap : Bytes} (h : IsGap gap) : gap.filter (fun b => b ∉ separators) = [] := by
  rw [List.filter_eq_nil_iff]
  intro b hb
  simp [h b hb]

theorem filter_joined {pieces : List (Bytes × Bytes)} (h : Parted pieces) :
    (joined pieces).filter (fun b => b ∉ separators) = (pieces.map Prod.fst).flatten := by
  induction h with
  | nil => rfl
  | @cons word gap rest hword hgap hne hrest ih =>
      have hkept : word.filter (fun b => b ∉ separators) = word := by
        rw [List.filter_eq_self]
        intro b hb
        simp [hword.2 b hb]
      rw [joined_cons, List.filter_append, List.filter_append, hkept, filter_gap hgap, ih]
      rfl

theorem flatten_words (line : Bytes) :
    (words line).flatten = line.filter fun b => b ∉ separators := by
  obtain ⟨l, rfl⟩ := exists_layout line
  rw [words_line, Layout.line, List.filter_append, filter_gap l.isGap_lead, filter_joined l.parted]
  rfl

/-- There is exactly one way to lay a line out as words with gaps around them, and its words are the
words of the line. So a separator parts what is in front of it from what is behind it, and every
byte that is not a separator is kept in its place. -/
theorem line_laid_out (line : Bytes) :
    (∀ word ∈ words line, IsWord word) ∧
      (∃! l : Layout, l.line = line) ∧
      (∀ l : Layout, l.line = line → words line = l.words) ∧
      (∀ c ∈ separators, ∀ rest, words (line ++ c :: rest) = words line ++ words rest) ∧
      (words line).flatten = line.filter fun b => b ∉ separators := by
  refine ⟨fun word hword => isWord_of_mem hword, ?_, ?_, ?_, flatten_words line⟩
  · obtain ⟨l, rfl⟩ := exists_layout line
    exact ⟨l, rfl, fun l' h => Layout.eq_of_line_eq h⟩
  · rintro l rfl
    exact words_line l
  · intro c hc rest
    exact words_append_separator (isSeparator_iff.mpr hc) line rest

/-- The vertical tab, the zero byte and the bytes beyond ASCII are letters like any other. -/
example : words [0x20, 0x00, 0x0B, 0x0D, 0x0C, 0xC3, 0xA9, 0x09] = [[0x00, 0x0B], [0xC3, 0xA9]] := by
  decide

end RestrictedShell.Words
