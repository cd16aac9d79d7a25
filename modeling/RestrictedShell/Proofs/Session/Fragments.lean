import RestrictedShell.Launch.ChildTable
import RestrictedShell.Proofs.Session.Points
import RestrictedShell.Proofs.Source.Items
/-!
Where the lines of a plain reader begin. A read that fails drops what it has read of its line, and
the next read begins behind the failure. So a line is a whole line of the stream, or else what a
failing read left of one, and such a remnant is handled like any other line.
-/

namespace RestrictedShell

namespace PlainReader

open Text

/-- These bytes reach up to the next newline, or up to the end of the input if there is none. -/
def EndsLine (raw : Bytes) (after : List Item) : Prop :=
  (∃ body, newline ∉ body ∧ raw = body ++ [newline]) ∨ newline ∉ raw ∧ raw ≠ [] ∧ after = []

/-- The input goes on with this line, behind the items before it. -/
def FoundAfter (input before : List Item) (line : Bytes) : Prop :=
  ∃ raw after, input = before ++ (raw.map .byte ++ after) ∧ EndsLine raw after ∧ line = strip raw

/-- Behind these items a line of the stream begins: their last byte is a newline, if there is
one. -/
def StartsLine (before : List Item) : Prop :=
  ∀ b, (bytesOf before).getLast? = some b → b = newline

/-- A line of the stream that the input would be without its failures. -/
def IsWhole (input : List Item) (line : Bytes) : Prop :=
  ∃ before, StartsLine before ∧ FoundAfter input before line

/-- What is left of a line in whose middle a read failed. -/
def IsRemnant (input : List Item) (line : Bytes) : Prop :=
  ∃ earlier error, ¬ StartsLine earlier ∧ FoundAfter input (earlier ++ [.failure error]) line

theorem startsLine_nil : StartsLine [] := by
  intro b h
  cases h

theorem startsLine_newline (before : List Item) : StartsLine (before ++ [.byte newline]) := by
  intro b h
  rw [bytesOf_append] at h
  simpa [bytesOf] using h.symm

theorem startsLine_failure {before : List Item} {error : IoError} :
    StartsLine (before ++ [.failure error]) ↔ StartsLine before := by
  have hbytes : bytesOf (before ++ [.failure error]) = bytesOf before := by
    rw [bytesOf_append]
    exact List.append_nil _
  unfold StartsLine
  rw [hbytes]

theorem mem_segments_of_isWhole {chunks : List Chunk} {line : Bytes}
    (h : IsWhole (items chunks) line) : line ∈ segments (content chunks) := by
  obtain ⟨before, hstart, raw, after, hinput, hends, rfl⟩ := h
  rw [← bytesOf_items, hinput, bytesOf_append, bytesOf_append, bytesOf_bytes,
    segments_append hstart]
  refine List.mem_append_right _ ?_
  rcases hends with ⟨body, hfree, rfl⟩ | ⟨hfree, hne, rfl⟩
  · rw [List.append_assoc, List.singleton_append, segments_append_newline hfree, strip_newline]
    exact List.mem_cons_self
  · have hnone : raw ++ bytesOf [] = raw := List.append_nil raw
    rw [hnone, segments_of_free hfree hne, strip_of_free hfree]
    exact List.mem_singleton_self _

/-- Where a read leaves the input: behind a newline or a failure, or at its end. -/
def Settled (before rest : List Item) : Prop :=
  StartsLine before ∨ (∃ earlier error, before = earlier ++ [.failure error]) ∨ rest = []

theorem exists_settled_decode (before : List Item) {rest : List Item} (heof : .eof ∉ rest) :
    ∃ used, rest = used ++ (decode [] rest).2 ∧ Settled (before ++ used) (decode [] rest).2 := by
  generalize hanswer : decode [] rest = answer
  have hdecoded := decoded [] rest
  rw [hanswer] at hdecoded
  cases hdecoded with
  | @newline raw rest hfree =>
      refine ⟨raw.map .byte ++ [.byte Text.newline], by simp, .inl ?_⟩
      rw [← List.append_assoc]
      exact startsLine_newline _
  | eof => simp at heof
  | @failure raw error rest hfree =>
      exact ⟨raw.map .byte ++ [.failure error], by simp,
        .inr (.inl ⟨before ++ raw.map .byte, error, by simp⟩)⟩
  | @exhausted raw hfree => exact ⟨raw.map .byte, by simp, .inr (.inr rfl)⟩

theorem foundAfter_of_decode (before : List Item) {rest : List Item} {line : Bytes}
    (heof : .eof ∉ rest) (h : (decode [] rest).1 = .line line) :
    FoundAfter (before ++ rest) before line ∧ rest ≠ [] := by
  generalize hanswer : decode [] rest = answer at h
  have hdecoded := decoded [] rest
  rw [hanswer] at hdecoded
  cases hdecoded with
  | @newline raw rest hfree =>
      cases h
      exact ⟨⟨raw ++ [Text.newline], rest, by simp, .inl ⟨raw, hfree, rfl⟩, rfl⟩, by simp⟩
  | eof => simp at heof
  | failure => cases h
  | @exhausted raw hfree =>
      have hne : raw ≠ [] := by
        rintro rfl
        cases h
      rw [List.nil_append, ended, if_neg hne] at h
      cases h
      exact ⟨⟨raw, [], by simp, .inr ⟨hfree, hne, rfl⟩, rfl⟩, by simpa using hne⟩

theorem isWhole_or_isRemnant {before rest : List Item} {line : Bytes} (heof : .eof ∉ rest)
    (hsettled : Settled before rest) (h : (decode [] rest).1 = .line line) :
    IsWhole (before ++ rest) line ∨ IsRemnant (before ++ rest) line := by
  obtain ⟨hfound, hne⟩ := foundAfter_of_decode before heof h
  rcases hsettled with hstart | ⟨earlier, error, rfl⟩ | hnil
  · exact .inl ⟨before, hstart, hfound⟩
  · -- A failure between two lines loses nothing; one within a line loses what was read of it.
    by_cases hstart : StartsLine earlier
    · exact .inl ⟨_, startsLine_failure.mpr hstart, hfound⟩
    · exact .inr ⟨earlier, error, hstart, hfound⟩
  · exact absurd hnil hne

theorem next_eq (r : PlainReader) :
    (LineSource.next r).1 = (decode [] (items r.input)).1 ∧
      items (LineSource.next r).2.input = (decode [] (items r.input)).2 := by
  rw [decode_items]
  exact ⟨rfl, rfl⟩

theorem exists_settled_after (r : PlainReader) (heof : .eof ∉ items r.input) (n : Nat) :
    ∃ before, items r.input = before ++ items (LineSource.after r n).input ∧
      .eof ∉ items (LineSource.after r n).input ∧
      Settled before (items (LineSource.after r n).input) := by
  induction n with
  | zero => exact ⟨[], rfl, heof, .inl startsLine_nil⟩
  | succ n ih =>
      obtain ⟨before, hinput, hfree, _⟩ := ih
      obtain ⟨used, hused, hsettled⟩ := exists_settled_decode before hfree
      rw [← (next_eq _).2] at hused hsettled
      rw [hused] at hfree
      refine ⟨before ++ used, ?_, fun hmem => hfree (List.mem_append_right _ hmem), hsettled⟩
      rw [List.append_assoc, hinput, hused]
      rfl

theorem isWhole_or_isRemnant_of_after {r : PlainReader} (heof : .eof ∉ items r.input) {n : Nat}
    {line : Bytes} (h : (LineSource.next (LineSource.after r n)).1 = .line line) :
    IsWhole (items r.input) line ∨ IsRemnant (items r.input) line := by
  obtain ⟨before, hinput, hfree, hsettled⟩ := exists_settled_after r heof n
  rw [(next_eq _).1] at h
  rw [hinput]
  exact isWhole_or_isRemnant hfree hsettled h

end PlainReader

namespace Session

open PlainReader

variable {κ : Type} [Launcher κ]

/-- Every line that a plain reader gives, every line that a session reads from it and every command
line that is launched for it comes from a whole line of the stream, unless it comes from what was
left of a line when a read failed in its middle. -/
theorem lines_of_stream (settings : Settings) (r : PlainReader) (k : κ) (c : Console)
    (heof : .eof ∉ r.input) :
    (∀ n line, (LineSource.next (LineSource.after r n)).1 = .line line →
        IsWhole (items r.input) line ∨ IsRemnant (items r.input) line) ∧
      (∀ q line asked, Reaches settings (0, ⟨(r, k), c⟩) q →
        Environment.ask settings.prompt q.2 = (.line line, asked) →
        IsWhole (items r.input) line ∨ IsRemnant (items r.input) line) ∧
      ∀ argv, .launched argv ∈ (run settings).trace ⟨(r, k), c⟩ →
        ∃ line, argv = words line ∧
          (IsWhole (items r.input) line ∨ IsRemnant (items r.input) line) := by
  have hlines : ∀ n line, (LineSource.next (LineSource.after r n)).1 = .line line →
      IsWhole (items r.input) line ∨ IsRemnant (items r.input) line := fun _ _ =>
    isWhole_or_isRemnant_of_after (eof_free_items heof)
  refine ⟨hlines, fun q line asked hreach hask => ?_, fun argv hargv => ?_⟩
  · obtain ⟨n, hn⟩ := hreach.exists_source
    have hnext := (next_of_ask_line hask).1
    exact hlines n line (hn ▸ hnext)
  · obtain ⟨q, hreach, line, i, hnext, hline, rfl⟩ := exists_point_of_launched hargv
    obtain ⟨n, hn⟩ := hreach.exists_source
    exact ⟨line, argv_eq_words_of_classify hline, hlines n line (hn ▸ hnext)⟩

/-- A read fails behind `ls `, and the rest of this line is handled as a line of its own. -/
def severed : PlainReader where
  input := [.data (Text.encode "ls "), .fail (.plain .other), .data (Text.encode "apaga x\n")]
  prompts := .prompt

theorem lines_of_severed_stream :
    .eof ∉ severed.input ∧
      ∀ argv, .launched argv ∈
          (run Settings.standard).trace ⟨(severed, ChildTable.standard), Console.fresh .off⟩ →
        ∃ line, argv = words line ∧
          (IsWhole (items severed.input) line ∨ IsRemnant (items severed.input) line) :=
  have heof : .eof ∉ severed.input := by decide
  ⟨heof, (lines_of_stream Settings.standard severed ChildTable.standard (Console.fresh .off)
    heof).2.2⟩

/-- The rest of the severed line is launched, although no line of the stream has these words. -/
theorem launched_of_severed_line :
    .launched [Text.encode "apaga", Text.encode "x"] ∈
        (run Settings.standard).trace ⟨(severed, ChildTable.standard), Console.fresh .off⟩ ∧
      ¬ ∃ line, [Text.encode "apaga", Text.encode "x"] = words line ∧
        IsWhole (items severed.input) line := by
  constructor
  · have hlaunched : (run Settings.standard).trace
        ⟨(severed, ChildTable.standard), Console.fresh .off⟩ =
          [.wrote .prompt (Text.encode "% "), .flushed .prompt, readComplaint,
            .wrote .prompt (Text.encode "% "), .flushed .prompt, .flushed .out] ++
            .launched [Text.encode "apaga", Text.encode "x"] ::
            [.waited "apaga", .wrote .err [],
              .wrote .out (Text.encode "apaga finished with code 0\n"), .flushed .out,
              .flushed .out, .wrote .prompt (Text.encode "% "), .flushed .prompt] := by
      unfold Action.trace Action.worldAfter run
      rw [runFrom_of_again (by rfl), runFrom_of_again (by rfl), runFrom_of_done (by rfl)]
      rfl
    rw [hlaunched]
    exact List.mem_append_right _ List.mem_cons_self
  · rintro ⟨line, hwords, hwhole⟩
    have hmem := mem_segments_of_isWhole hwhole
    have hsegments : segments (content severed.input) = [Text.encode "ls apaga x"] := by
      decide
    rw [hsegments] at hmem
    rw [List.mem_singleton.mp hmem] at hwords
    revert hwords
    decide

end Session

end RestrictedShell
