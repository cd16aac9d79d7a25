import RestrictedShell.Proofs.Session.Fragments
import RestrictedShell.Proofs.Session.LineEndings

namespace RestrictedShell

namespace PlainReader

open Text

def IsTerminator (ending : Bytes) : Prop :=
  ending = [newline] ∨ ending = [carriageReturn, newline]

instance (ending : Bytes) : Decidable (IsTerminator ending) :=
  inferInstanceAs (Decidable (_ ∨ _))

/-- These are the lines that the reader gives, and then the end of its input for good. -/
def Gives (r : PlainReader) (lines : List Bytes) : Prop :=
  ∀ n, LineSource.readings n r = (List.range n).map (lineAt lines)

/-- The bytes are these lines, each with a terminator behind it, or for the last line with such an
ending. -/
structure Spliced (bytes : Bytes) (pieces : List (Bytes × Bytes)) (Last : Bytes → Prop) : Prop where
  bytes_eq : bytes = pieces.flatMap fun piece => piece.1 ++ piece.2
  inner : ∀ piece ∈ pieces.dropLast, IsTerminator piece.2
  last : ∀ piece ∈ pieces.getLast?, Last piece.2

/-- The carriage return at the end of these bytes, if there is one. -/
def stray (bytes : Bytes) : Bytes :=
  if bytes.getLast? = some carriageReturn then [carriageReturn] else []

/-- What a read leaves out behind the last line of these bytes. -/
def IsLastEnding (bytes ending : Bytes) : Prop :=
  if bytes.getLast? = some newline then IsTerminator ending else ending = stray bytes

theorem dropLast_append_stray (bytes : Bytes) :
    dropLast carriageReturn bytes ++ stray bytes = bytes := by
  unfold dropLast stray
  split
  · rename_i hlast
    exact List.dropLast_append_getLast? _ hlast
  · exact List.append_nil bytes

theorem isTerminator_stray (bytes : Bytes) : IsTerminator (stray bytes ++ [newline]) := by
  unfold stray
  split
  · exact .inr rfl
  · exact .inl rfl

theorem spliced_of_free {bytes : Bytes} (hfree : newline ∉ bytes) :
    Spliced bytes [(dropLast carriageReturn bytes, stray bytes)] (IsLastEnding bytes) where
  bytes_eq := by simp [dropLast_append_stray]
  inner := by simp
  last := by
    have hlast : bytes.getLast? ≠ some newline := fun h => hfree (List.mem_of_getLast? h)
    simp [IsLastEnding, hlast]

theorem Spliced.eq_nil_iff {bytes : Bytes} {pieces : List (Bytes × Bytes)} {Last : Bytes → Prop}
    (h : Spliced bytes pieces Last) (hlines : pieces.map Prod.fst = segments bytes) :
    pieces = [] ↔ bytes = [] := by
  constructor
  · rintro rfl
    exact h.bytes_eq
  · rintro rfl
    rw [segments_nil] at hlines
    exact List.map_eq_nil_iff.mp hlines

theorem Spliced.cons (head : Bytes) {tail : Bytes} {pieces : List (Bytes × Bytes)}
    (hnil : pieces = [] ↔ tail = []) (h : Spliced tail pieces (IsLastEnding tail)) :
    Spliced (head ++ newline :: tail)
      ((dropLast carriageReturn head, stray head ++ [newline]) :: pieces)
      (IsLastEnding (head ++ newline :: tail)) where
  bytes_eq := by
    rw [List.flatMap_cons, ← h.bytes_eq, ← List.append_assoc (dropLast carriageReturn head),
      dropLast_append_stray, List.append_assoc]
    rfl
  inner := by
    cases pieces with
    | nil => simp
    | cons next rest => exact List.forall_mem_cons.mpr ⟨isTerminator_stray head, h.inner⟩
  last := by
    cases pieces with
    | nil =>
        obtain rfl := hnil.mp rfl
        intro piece hpiece
        obtain rfl := Option.some.inj hpiece
        rw [IsLastEnding, if_pos List.getLast?_concat]
        exact isTerminator_stray head
    | cons next rest =>
        have hne : tail ≠ [] := fun htail => List.cons_ne_nil next rest (hnil.mpr htail)
        have hlast : (head ++ newline :: tail).getLast? = tail.getLast? := by
          rw [← List.singleton_append, ← List.append_assoc, List.getLast?_append_of_ne_nil _ hne]
        unfold IsLastEnding stray
        rw [hlast]
        exact h.last

theorem exists_spliced (bytes : Bytes) :
    ∃ pieces, pieces.map Prod.fst = segments bytes ∧ Spliced bytes pieces (IsLastEnding bytes) := by
  rcases cut_cases bytes with ⟨hfree, _⟩ | ⟨head, tail, hfree, rfl, _⟩
  · by_cases hne : bytes = []
    · refine ⟨[], by rw [hne, segments_nil]; rfl, ?_⟩
      rw [hne]
      exact ⟨rfl, by simp, by simp⟩
    · refine ⟨_, ?_, spliced_of_free hfree⟩
      rw [segments_of_free hfree hne]
      rfl
  · obtain ⟨pieces, hlines, hspliced⟩ := exists_spliced tail
    refine ⟨_, ?_, hspliced.cons head (hspliced.eq_nil_iff hlines)⟩
    rw [List.map_cons, hlines, segments_append_newline hfree]
termination_by bytes.length

theorem IsLastEnding.of_no_stray {bytes ending : Bytes} (h : IsLastEnding bytes ending)
    (hlast : bytes.getLast? ≠ some carriageReturn) : ending = [] ∨ IsTerminator ending := by
  unfold IsLastEnding at h
  split at h
  · exact .inr h
  · rw [stray, if_neg hlast] at h
    exact .inl h

theorem answered_eq_lineAt (lines : List Bytes) : answered lines = lineAt lines 0 := by
  cases lines <;> rfl

theorem lineAt_tail (lines : List Bytes) (k : Nat) :
    lineAt lines.tail k = lineAt lines (k + 1) := by
  rw [lineAt, lineAt, List.getElem?_tail]

theorem gives_of_delivers {r : PlainReader} {bytes : Bytes} (h : Delivers r.input bytes) :
    Gives r (segments bytes) := by
  intro n
  induction n generalizing r bytes with
  | zero => rfl
  | succ n ih =>
      obtain ⟨hclean, rfl⟩ := h
      obtain ⟨hanswer, hclean', hrest⟩ := take_clean List.not_mem_nil hclean
      have hfirst : (LineSource.next r).1 = lineAt (segments (content r.input)) 0 :=
        hanswer.trans (answered_eq_lineAt _)
      rw [LineSource.readings, ih ⟨hclean', rfl⟩, hfirst, List.range_succ_eq_map, List.map_cons,
        List.map_map]
      refine congrArg (_ :: ·) (List.map_congr_left fun k _ => ?_)
      exact (congrArg (lineAt · k) hrest).trans (lineAt_tail _ k)

theorem Gives.next_eq {r : PlainReader} {lines : List Bytes} (h : Gives r lines) (n : Nat) :
    (LineSource.next (LineSource.after r n)).1 = lineAt lines n := by
  have hall := h (n + 1)
  rw [LineSource.readings_eq_map, List.map_inj_left] at hall
  exact hall n (List.mem_range.mpr (Nat.lt_succ_self n))

theorem getElem?_of_lineAt {lines : List Bytes} {n : Nat} {line : Bytes}
    (h : lineAt lines n = .line line) : lines[n]? = some line := by
  unfold lineAt at h
  cases hget : lines[n]? with
  | none => simp [hget] at h
  | some line' => simpa [hget] using h

theorem Gives.eq_singleton {r : PlainReader} {lines : List Bytes} {line : Bytes} (h : Gives r lines)
    (hread : LineSource.readings 2 r = [.line line, .endOfInput]) : lines = [line] := by
  have hlines := h 2
  rw [hread] at hlines
  match lines with
  | [] => cases hlines
  | [only] =>
      cases hlines
      rfl
  | _ :: _ :: _ => cases hlines

end PlainReader

namespace Session

open PlainReader Text

variable {κ : Type} [Launcher κ]

/-- What a reader takes away from its input, in whatever pieces this arrives, is a terminator behind
every line. Behind the last one it may also be nothing, so that this line is passed on byte for byte;
but a carriage return at the very end of the input is taken away as well, although it ends no line.
The lines that are left are all that a session handles, and all that its launches are made of. -/
theorem lines_spliced {r : PlainReader} {bytes : Bytes} (h : Delivers r.input bytes) :
    ∃ pieces : List (Bytes × Bytes),
      Gives r (pieces.map Prod.fst) ∧
        Spliced bytes pieces (IsLastEnding bytes) ∧
        (bytes.getLast? ≠ some carriageReturn →
          Spliced bytes pieces fun ending => ending = [] ∨ IsTerminator ending) ∧
        (∀ (settings : Settings) (k : κ) (c : Console) (q : UInt32 × World (PlainReader × κ))
          (line : Bytes) (asked : World (PlainReader × κ)),
          Reaches settings (0, ⟨(r, k), c⟩) q →
          Environment.ask settings.prompt q.2 = (.line line, asked) →
          line ∈ pieces.map Prod.fst) ∧
        ∀ (settings : Settings) (k : κ) (c : Console) (argv : List Bytes),
          .launched argv ∈ (run settings).trace ⟨(r, k), c⟩ →
          ∃ line ∈ pieces.map Prod.fst, argv = words line := by
  obtain ⟨pieces, hlines, hspliced⟩ := exists_spliced bytes
  have hgives : Gives r (pieces.map Prod.fst) := hlines ▸ gives_of_delivers h
  have hread : ∀ n line, (LineSource.next (LineSource.after r n)).1 = .line line →
      line ∈ pieces.map Prod.fst := by
    intro n line hnext
    rw [hgives.next_eq] at hnext
    exact List.mem_of_getElem? (getElem?_of_lineAt hnext)
  refine ⟨pieces, hgives, hspliced, fun hlast => ?_, ?_, ?_⟩
  · exact { hspliced with last := fun piece hpiece => (hspliced.last piece hpiece).of_no_stray hlast }
  · intro settings k c q line asked hreach hask
    obtain ⟨n, hn⟩ := hreach.exists_source
    have hnext := (next_of_ask_line hask).1
    exact hread n line (hn ▸ hnext)
  · intro settings k c argv hargv
    obtain ⟨q, hreach, line, i, hnext, hline, rfl⟩ := exists_point_of_launched hargv
    obtain ⟨n, hn⟩ := hreach.exists_source
    exact ⟨line, hread n line (hn ▸ hnext), argv_eq_words_of_classify hline⟩

theorem lines_spliced_of_unended :
    let input : List Chunk := [.data (encode "conta a\r"), .fail (.plain .interrupted),
      .data (encode "\n\r\r\n\nlista")]
    let r : PlainReader := ⟨input, .prompt⟩
    let bytes := encode "conta a\r\n\r\r\n\nlista"
    Delivers r.input bytes ∧ ∃ pieces : List (Bytes × Bytes),
      Gives r (pieces.map Prod.fst) ∧
        Spliced bytes pieces fun ending => ending = [] ∨ IsTerminator ending := by
  intro input r bytes
  have hdelivers : Delivers r.input bytes := by
    refine ⟨fun chunk hchunk => ?_, by decide⟩
    simp only [r, input, List.mem_cons, List.not_mem_nil, or_false] at hchunk
    rcases hchunk with rfl | rfl | rfl
    · exact .inl ⟨_, rfl⟩
    · exact .inr ⟨_, rfl, rfl⟩
    · exact .inl ⟨_, rfl⟩
  obtain ⟨pieces, hgives, _, hspliced, _⟩ := lines_spliced (κ := ChildTable) hdelivers
  exact ⟨hdelivers, pieces, hgives, hspliced (by decide)⟩

/-- A last line that ends in a carriage return is not passed on as it stands: here it ends the
session, which only the line without the carriage return asks for. -/
theorem carriageReturn_lost :
    let r : PlainReader := ⟨[.data (encode "termina\r")], .prompt⟩
    Delivers r.input (encode "termina\r") ∧
      (¬ ∃ pieces : List (Bytes × Bytes), Gives r (pieces.map Prod.fst) ∧
        Spliced (encode "termina\r") pieces fun ending => ending = [] ∨ IsTerminator ending) ∧
      (run Settings.standard).result ⟨(r, ChildTable.standard), Console.fresh .off⟩ =
        .ok .quit := by
  intro r
  refine ⟨⟨?_, by decide⟩, ?_, ?_⟩
  · intro chunk hchunk
    obtain rfl := List.mem_singleton.mp hchunk
    exact .inl ⟨_, rfl⟩
  · rintro ⟨pieces, hgives, hspliced⟩
    have hlines : pieces.map Prod.fst = [encode "termina"] := hgives.eq_singleton (by decide)
    obtain ⟨⟨line, ending⟩, rfl, rfl⟩ := List.map_eq_singleton_iff.mp hlines
    have hbytes : encode "termina\r" = encode "termina" ++ ending := by
      simpa using hspliced.bytes_eq
    have hstray : encode "termina\r" = encode "termina" ++ [carriageReturn] := by decide
    obtain rfl := List.append_cancel_left (hstray.symm.trans hbytes)
    have hending := hspliced.last _ rfl
    revert hending
    decide
  · unfold Action.result run
    rw [runFrom_of_done (by rfl)]

end Session

end RestrictedShell
