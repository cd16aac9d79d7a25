import RestrictedShell.Proofs.Dispatch
import RestrictedShell.Proofs.Words.Layout

namespace RestrictedShell

open Words

namespace Words

theorem words_eq_nil_iff {line : Bytes} : words line = [] ↔ IsGap line := by
  constructor
  · intro h
    have hkept := flatten_words line
    rw [h, List.flatten_nil, eq_comm, List.filter_eq_nil_iff] at hkept
    intro b hb
    simpa using hkept b hb
  · intro h
    have hgap := words_gap_append h []
    rwa [List.append_nil, words_nil] at hgap

instance (gap : Bytes) : Decidable (IsGap gap) :=
  decidable_of_iff (gap.all isSeparator = true)
    (List.all_eq_true.trans (forall₂_congr fun _ _ => isSeparator_iff))

instance (word : Bytes) : Decidable (IsWord word) :=
  decidable_of_iff (word ≠ [] ∧ word.any isSeparator = false)
    (and_congr_right fun _ =>
      List.any_eq_false.trans (forall₂_congr fun _ _ => not_congr isSeparator_iff))

theorem isWord_bytes (c : Command) : IsWord c.bytes := by
  cases c <;> decide

theorem words_laid_out {lead first gap : Bytes} {others : List (Bytes × Bytes)}
    (hlead : IsGap lead) (hfirst : IsWord first) (hgap : IsGap gap) (hne : others ≠ [] → gap ≠ [])
    (hothers : Parted others) :
    words (lead ++ (first ++ (gap ++ joined others))) = first :: others.map Prod.fst := by
  rw [← joined_cons, words_gap_append hlead, words_joined (.cons hfirst hgap hne hothers)]
  rfl

end Words

theorem Command.ofBytes?_eq_none_iff {word : Bytes} :
    ofBytes? word = none ↔ ∀ c : Command, word ≠ c.bytes := by
  rw [Option.eq_none_iff_forall_ne_some]
  exact forall_congr' fun _ => not_congr ofBytes?_eq_some_iff

namespace Dispatch

theorem ofWords_eq_blank_iff {ws : List Bytes} : ofWords ws = blank ↔ ws = [] := by
  unfold ofWords
  split
  · simp
  · split <;> simp

theorem ofWords_eq_unrecognized_iff {ws : List Bytes} {name : String} :
    ofWords ws = unrecognized name ↔
      ∃ word arguments, ws = word :: arguments ∧ (∀ c : Command, word ≠ c.bytes) ∧
        name = Text.lossy word := by
  cases ws with
  | nil => simp [ofWords]
  | cons word arguments =>
      rw [ofWords]
      cases hfound : Command.ofBytes? word with
      | none =>
          have hnot := Command.ofBytes?_eq_none_iff.mp hfound
          simp [hnot, eq_comm]
      | some c =>
          have hname := Command.ofBytes?_eq_some_iff.mp hfound
          have hnot : ¬ ∀ d : Command, word ≠ d.bytes := fun h => h c hname
          simp [hnot]

end Dispatch

/-- The words that are reserved where they make up a whole line. -/
def Reserved.all : List String :=
  ["termina", "help"]

/-- One of the lines that count only as a whole. -/
def IsReserved (line : Bytes) : Prop :=
  ∃ word ∈ Reserved.all, line = Text.encode word

theorem words_of_reserved {word : String} (h : word ∈ Reserved.all) :
    words (Text.encode word) = [Text.encode word] := by
  revert word
  decide

theorem Dispatch.ofWords_of_reserved {word : String} (h : word ∈ Reserved.all) :
    ofWords [Text.encode word] = unrecognized word := by
  revert word
  decide

theorem isReserved_iff {line : Bytes} :
    IsReserved line ↔ line = Text.encode "termina" ∨ line = Text.encode "help" := by
  simp [IsReserved, Reserved.all]

theorem classify_of_not_reserved {line : Bytes} (h : ¬ IsReserved line) :
    classify line = .ofWords (words line) := by
  rw [isReserved_iff, not_or] at h
  rw [classify_eq, if_neg h.1, if_neg h.2]

theorem classify_eq_help_iff {line : Bytes} :
    classify line = .help ↔ line = Text.encode "help" := by
  constructor
  · intro h
    by_contra hne
    have hquit : line ≠ Text.encode "termina" := fun hline => by
      rw [classify_eq_quit_iff.mpr hline] at h
      cases h
    rw [classify_eq, if_neg hquit, if_neg hne] at h
    exact Dispatch.ofWords_ne_help _ h
  · rintro rfl
    decide

theorem isReserved_iff_classify {line : Bytes} :
    IsReserved line ↔ classify line = .quit ∨ classify line = .help := by
  rw [classify_eq_quit_iff, classify_eq_help_iff, isReserved_iff]

theorem classify_eq_blank_iff {line : Bytes} : classify line = .blank ↔ IsGap line := by
  rw [← words_eq_nil_iff]
  by_cases hreserved : IsReserved line
  · obtain ⟨word, hword, rfl⟩ := hreserved
    rw [words_of_reserved hword]
    rcases isReserved_iff_classify.mp ⟨word, hword, rfl⟩ with h | h <;> simp [h]
  · rw [classify_of_not_reserved hreserved, Dispatch.ofWords_eq_blank_iff]

theorem classify_eq_external_iff {line : Bytes} {i : Invocation} :
    classify line = .external i ↔ i.argv = words line := by
  constructor
  · exact argv_eq_words_of_classify
  · intro h
    have hnot : ¬ IsReserved line := fun hreserved => by
      obtain ⟨i', hi'⟩ := names_words_iff.mp (h ▸ names_argv i)
      rw [isReserved_iff_classify, hi'] at hreserved
      rcases hreserved with h | h <;> cases h
    rw [classify_of_not_reserved hnot]
    exact Dispatch.ofWords_eq_external_iff.mpr h.symm

theorem classify_eq_unrecognized_iff {line : Bytes} :
    (∃ name, classify line = .unrecognized name) ↔
      ¬ IsReserved line ∧ ¬ IsGap line ∧ ¬ Names (words line) := by
  rw [isReserved_iff_classify, ← classify_eq_blank_iff, names_words_iff]
  cases classify line <;> simp

theorem classify_eq_of_words_eq {line line' : Bytes} (h : ¬ IsReserved line)
    (h' : ¬ IsReserved line') (hwords : words line = words line') :
    classify line = classify line' := by
  rw [classify_of_not_reserved h, classify_of_not_reserved h', hwords]

theorem classify_of_padded {word : String} (h : word ∈ Reserved.all) {line : Bytes}
    (hwords : words line = [Text.encode word]) (hline : line ≠ Text.encode word) :
    classify line = .unrecognized word := by
  have hnot : ¬ IsReserved line := by
    rintro ⟨word', hword', rfl⟩
    rw [words_of_reserved hword'] at hwords
    exact hline (List.cons.inj hwords).1
  rw [classify_of_not_reserved hnot, hwords, Dispatch.ofWords_of_reserved h]

/-- What a line asks for. The two reserved words count as the whole line only. Every other line is
told by its words, and by nothing else of it: it is blank without any, a command with its arguments
if the first of them names one, and not recognized otherwise. So a command with arguments is read
back from every line in which they are laid out. -/
theorem classification_exact (line : Bytes) :
    (classify line = .quit ↔ line = Text.encode "termina") ∧
      (classify line = .help ↔ line = Text.encode "help") ∧
      (classify line = .blank ↔ IsGap line) ∧
      ((∃ i, classify line = .external i) ↔ Names (words line)) ∧
      (∀ i, classify line = .external i ↔ i.argv = words line) ∧
      ((∃ name, classify line = .unrecognized name) ↔
        ¬ IsReserved line ∧ ¬ IsGap line ∧ ¬ Names (words line)) ∧
      (∀ other, ¬ IsReserved line → ¬ IsReserved other → words line = words other →
        classify line = classify other) ∧
      (∀ other i, classify line = .external i → classify other = .external i →
        words line = words other) ∧
      (∀ word ∈ Reserved.all, words line = [Text.encode word] → line ≠ Text.encode word →
        classify line = .unrecognized word) ∧
      ∀ (lead gap : Bytes) (c : Command) (arguments : List (Bytes × Bytes)),
        IsGap lead → IsGap gap → (arguments ≠ [] → gap ≠ []) → Parted arguments →
        line = lead ++ (c.bytes ++ (gap ++ joined arguments)) →
        classify line = .external ⟨c, arguments.map Prod.fst⟩ := by
  refine ⟨classify_eq_quit_iff, classify_eq_help_iff, classify_eq_blank_iff, names_words_iff.symm,
    fun _ => classify_eq_external_iff, classify_eq_unrecognized_iff,
    fun _ => classify_eq_of_words_eq, fun other i h h' => ?_,
    fun _ hword => classify_of_padded hword, ?_⟩
  · rw [← argv_eq_words_of_classify h, argv_eq_words_of_classify h']
  · rintro lead gap c arguments hlead hgap hne harguments rfl
    apply classify_eq_external_iff.mpr
    rw [words_laid_out hlead (isWord_bytes c) hgap hne harguments]
    rfl

theorem classification_of_laid_out :
    let arguments : List (Bytes × Bytes) := [([0x63, 0xE9], [0x0C, 0x20]), ([0x00], [])]
    classify ([0x20] ++ (Command.conta.bytes ++ ([0x09] ++ joined arguments))) =
        .external ⟨.conta, [[0x63, 0xE9], [0x00]]⟩ ∧
      classify (Text.encode "termina ") = .unrecognized "termina" ∧
      classify (Text.encode "\thelp") = .unrecognized "help" := by
  intro arguments
  have harguments : Parted arguments :=
    .cons (by decide) (by decide) (by decide) (.cons (by decide) (by decide) (by decide) .nil)
  obtain ⟨_, _, _, _, _, _, _, _, _, hlaidOut⟩ := classification_exact
    ([0x20] ++ (Command.conta.bytes ++ ([0x09] ++ joined arguments)))
  obtain ⟨_, _, _, _, _, _, _, _, hquit, _⟩ := classification_exact (Text.encode "termina ")
  obtain ⟨_, _, _, _, _, _, _, _, hhelp, _⟩ := classification_exact (Text.encode "\thelp")
  exact ⟨hlaidOut [0x20] [0x09] .conta arguments (by decide) (by decide) (by decide) harguments rfl,
    hquit "termina" (by decide) (by decide) (by decide),
    hhelp "help" (by decide) (by decide) (by decide)⟩

end RestrictedShell
