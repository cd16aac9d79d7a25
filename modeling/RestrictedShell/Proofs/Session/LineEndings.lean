import RestrictedShell.Launch.ChildTable
import RestrictedShell.Proofs.Session.Succession
import RestrictedShell.Proofs.Source.Decoding

namespace RestrictedShell

namespace PlainReader

open Text

/-- The lines one after another, each with this terminator behind it. -/
def terminated (terminator : Bytes) (lines : List Bytes) : Bytes :=
  lines.flatMap (· ++ terminator)

/-- Line number `k`, counted from 0, or the end of the input behind the last of them. -/
def lineAt (lines : List Bytes) (k : Nat) : Reading :=
  (lines[k]?.map .line).getD .endOfInput

/-- The input is these bytes in some pieces, with reads in between that are merely interrupted. -/
def Delivers (chunks : List Chunk) (bytes : Bytes) : Prop :=
  Clean chunks ∧ content chunks = bytes

theorem items_of_clean {chunks : List Chunk} (h : Clean chunks) :
    items chunks = (content chunks).map .byte := by
  induction chunks with
  | nil => rfl
  | cons chunk rest ih =>
      obtain ⟨hchunk, hrest⟩ := List.forall_mem_cons.mp h
      rcases hchunk with ⟨bytes, rfl⟩ | ⟨error, rfl, hkind⟩
      · have hcontent : content (.data bytes :: rest) = bytes ++ content rest := rfl
        rw [items_data, ih hrest, hcontent, List.map_append]
      · have hitems : items (.fail error :: rest) =
            (if error.kind = .interrupted then [] else [.failure error]) ++ items rest := rfl
        rw [hitems, if_pos hkind, List.nil_append, ih hrest]
        rfl

theorem readLine_newline {raw : Bytes} (hfree : newline ∉ raw) (rest : Bytes) :
    readLine ((raw ++ newline :: rest).map .byte) =
      (.line (dropLast carriageReturn raw), rest.map .byte) := by
  rw [readLine_eq_decode, List.map_append, List.map_cons, decode_of_free hfree, decode_newline,
    List.nil_append, strip_newline]

theorem readLines_nil (n : Nat) : readLines n [] = (List.range n).map (lineAt []) := by
  induction n with
  | zero => rfl
  | succ n ih =>
      have hend : readLine [] = (.endOfInput, []) := rfl
      rw [readLines, hend, ih, List.range_succ_eq_map, List.map_cons, List.map_map]
      rfl

theorem readings_of_delivers {r : PlainReader} {bytes : Bytes} (h : Delivers r.input bytes)
    (n : Nat) : LineSource.readings n r = readLines n (bytes.map .byte) := by
  rw [readings_eq_readLines, items_of_clean h.1, h.2]

/-- Lines are read back without what `ending` puts between them and their newline, less one carriage
return. -/
theorem readLines_terminated (ending : Bytes) {lines : List Bytes}
    (hfree : ∀ line ∈ lines, newline ∉ line ++ ending) (n : Nat) :
    readLines n ((terminated (ending ++ [newline]) lines).map .byte) =
      (List.range n).map
        (lineAt (lines.map fun line => dropLast carriageReturn (line ++ ending))) := by
  induction n generalizing lines with
  | zero => rfl
  | succ n ih =>
      cases lines with
      | nil => exact readLines_nil (n + 1)
      | cons line lines =>
          obtain ⟨hline, hlines⟩ := List.forall_mem_cons.mp hfree
          have hbytes : terminated (ending ++ [newline]) (line :: lines) =
              (line ++ ending) ++ newline :: terminated (ending ++ [newline]) lines := by
            simp [terminated]
          rw [readLines, hbytes, readLine_newline hline, ih hlines, List.range_succ_eq_map,
            List.map_cons (f := lineAt _), List.map_map]
          rfl

theorem dropLast_concat (b : UInt8) (line : Bytes) : dropLast b (line ++ [b]) = line := by
  simp [dropLast]

theorem readings_of_crlf {r : PlainReader} {lines : List Bytes}
    (hfree : ∀ line ∈ lines, newline ∉ line)
    (h : Delivers r.input (terminated [carriageReturn, newline] lines)) (n : Nat) :
    LineSource.readings n r = (List.range n).map (lineAt lines) := by
  have hending : ∀ line ∈ lines, newline ∉ line ++ [carriageReturn] := by
    intro line hline hmem
    rcases List.mem_append.mp hmem with hmem | hmem
    · exact hfree line hline hmem
    · cases List.mem_singleton.mp hmem
  have hread := readLines_terminated [carriageReturn] hending n
  simp only [dropLast_concat, List.map_id'] at hread
  exact (readings_of_delivers h n).trans hread

theorem readings_of_lf {r : PlainReader} {lines : List Bytes}
    (hfree : ∀ line ∈ lines, newline ∉ line) (h : Delivers r.input (terminated [newline] lines))
    (n : Nat) :
    LineSource.readings n r =
      (List.range n).map (lineAt (lines.map (dropLast carriageReturn))) := by
  have hending : ∀ line ∈ lines, newline ∉ line ++ [] := by simpa using hfree
  have hread := readLines_terminated [] hending n
  simp only [List.append_nil, List.nil_append] at hread
  exact (readings_of_delivers h n).trans hread

theorem map_dropLast_of_bare {lines : List Bytes}
    (hbare : ∀ line ∈ lines, line.getLast? ≠ some carriageReturn) :
    lines.map (dropLast carriageReturn) = lines := by
  refine (List.map_congr_left fun line hline => ?_).trans (List.map_id lines)
  exact if_neg (hbare line hline)

theorem promptStream_after (r : PlainReader) (n : Nat) :
    LineSource.promptStream (LineSource.after r n) = some r.prompts := by
  induction n with
  | zero => rfl
  | succ n ih => exact (readsFrom.promptStream_next _).trans ih

theorem same_of_readings {r r' : PlainReader} (hprompts : r.prompts = r'.prompts)
    (h : ∀ n, LineSource.readings n r = LineSource.readings n r') : LineSource.Same r r' := by
  intro n
  constructor
  · rw [promptStream_after, promptStream_after, hprompts]
  · have hall := h (n + 1)
    rw [LineSource.readings_eq_map, LineSource.readings_eq_map, List.map_inj_left] at hall
    exact hall n (List.mem_range.mpr (Nat.lt_succ_self n))

end PlainReader

namespace Session

open PlainReader Text

variable {κ : Type} [Launcher κ]

/-- Lines without newlines that are written down with a carriage return and a newline behind each,
in whatever pieces they arrive, are read back one by one, and then the input is at its end for good.
With a newline alone they are read back less one carriage return at their end. So a session makes
the same of both, and leaves the same behind, if none of the lines ends in a carriage return. -/
theorem lines_read_back {lines : List Bytes} (hfree : ∀ line ∈ lines, newline ∉ line) :
    (∀ (r : PlainReader) (k : κ) (c : Console) (prompts : List String),
        Delivers r.input (terminated [carriageReturn, newline] lines) →
        c.allowance r.prompts = .unlimited →
        Environment.askEach prompts ⟨(r, k), c⟩ =
          (List.range prompts.length).map (lineAt lines)) ∧
      (∀ (r : PlainReader) (k : κ) (c : Console) (prompts : List String),
        Delivers r.input (terminated [newline] lines) → c.allowance r.prompts = .unlimited →
        Environment.askEach prompts ⟨(r, k), c⟩ =
          (List.range prompts.length).map (lineAt (lines.map (dropLast carriageReturn)))) ∧
      ((∀ line ∈ lines, line.getLast? ≠ some carriageReturn) →
        ∀ (settings : Settings) (r r' : PlainReader) (k : κ) (c : Console),
          Delivers r.input (terminated [carriageReturn, newline] lines) →
          Delivers r'.input (terminated [newline] lines) → r.prompts = r'.prompts →
          let crlf : World (PlainReader × κ) := ⟨(r, k), c⟩
          let lf : World (PlainReader × κ) := ⟨(r', k), c⟩
          (run settings).result crlf = (run settings).result lf ∧
            (run settings).trace crlf = (run settings).trace lf ∧
            ((run settings).worldAfter crlf).env.2 = ((run settings).worldAfter lf).env.2 ∧
            ((run settings).worldAfter crlf).console =
              ((run settings).worldAfter lf).console) := by
  refine ⟨fun r k c prompts hinput hshown => ?_, fun r k c prompts hinput hshown => ?_,
    fun hbare settings r r' k c hinput hinput' hprompts => ?_⟩
  · rw [askEach_of_unlimited prompts r k hshown, readings_of_crlf hfree hinput]
  · rw [askEach_of_unlimited prompts r k hshown, readings_of_lf hfree hinput]
  · intro crlf lf
    have hsame : LineSource.Same r r' := same_of_readings hprompts fun n => by
      rw [readings_of_crlf hfree hinput, readings_of_lf hfree hinput', map_dropLast_of_bare hbare]
    have hlike : crlf.Like lf := ⟨hsame, rfl, rfl⟩
    obtain ⟨_, hresult, htrace⟩ := run_congr settings hlike
    have hcrlf := advances_run settings crlf
    have hlf := advances_run settings lf
    refine ⟨hresult, htrace, ?_, ?_⟩
    · rw [hcrlf.launcher, hlf.launcher, htrace]
    · rw [hcrlf.console, hlf.console, htrace]

/-- The lines with interruptions behind them and every byte of their terminators by itself. -/
def crumbled (terminator : Bytes) (lines : List Bytes) : PlainReader where
  input := lines.flatMap fun line =>
    .data line :: .fail (.plain .interrupted) :: terminator.map fun b => .data [b]
  prompts := .prompt

theorem delivers_crumbled (terminator : Bytes) (lines : List Bytes) :
    Delivers (crumbled terminator lines).input (terminated terminator lines) := by
  constructor
  · intro chunk hchunk
    obtain ⟨line, _, hmem⟩ := List.mem_flatMap.mp hchunk
    rcases List.mem_cons.mp hmem with rfl | hmem
    · exact .inl ⟨line, rfl⟩
    rcases List.mem_cons.mp hmem with rfl | hmem
    · exact .inr ⟨_, rfl, rfl⟩
    · obtain ⟨b, _, rfl⟩ := List.mem_map.mp hmem
      exact .inl ⟨[b], rfl⟩
  · induction lines with
    | nil => rfl
    | cons line lines ih =>
        have hsplit : (crumbled terminator (line :: lines)).input =
            (.data line :: .fail (.plain .interrupted) :: terminator.map fun b => .data [b]) ++
              (crumbled terminator lines).input := rfl
        rw [hsplit, content_append, ih]
        simp [terminated, content, List.flatMap_map]

theorem lines_read_back_crumbled :
    let lines : List Bytes := [encode "ls", [], encode "a\r\r", [0xC3, 0xFF]]
    let blameless : List Bytes := [encode "ls -l", [], encode "help"]
    (∀ line ∈ lines, newline ∉ line) ∧
      Environment.askEach (List.replicate 5 "% ") ⟨(crumbled [carriageReturn, newline] lines,
          ChildTable.standard), Console.fresh .off⟩ =
        [.line (encode "ls"), .line [], .line (encode "a\r\r"), .line [0xC3, 0xFF],
          .endOfInput] ∧
      Environment.askEach (List.replicate 5 "% ") ⟨(crumbled [newline] lines,
          ChildTable.standard), Console.fresh .off⟩ =
        [.line (encode "ls"), .line [], .line (encode "a\r"), .line [0xC3, 0xFF], .endOfInput] ∧
      (∀ line ∈ blameless, newline ∉ line) ∧
      (∀ line ∈ blameless, line.getLast? ≠ some carriageReturn) ∧
      (run Settings.standard).trace ⟨(crumbled [carriageReturn, newline] blameless,
          ChildTable.standard), Console.fresh .off⟩ =
        (run Settings.standard).trace ⟨(crumbled [newline] blameless, ChildTable.standard),
          Console.fresh .off⟩ := by
  intro lines blameless
  have hfree : ∀ line ∈ lines, newline ∉ line := by decide
  have hfree' : ∀ line ∈ blameless, newline ∉ line := by decide
  have hbare : ∀ line ∈ blameless, line.getLast? ≠ some carriageReturn := by decide
  refine ⟨hfree, ?_, ?_, hfree', hbare, ?_⟩
  · rw [(lines_read_back hfree).1 _ _ _ _ (delivers_crumbled _ _) rfl]
    decide
  · rw [(lines_read_back hfree).2.1 _ _ _ _ (delivers_crumbled _ _) rfl]
    decide
  · exact ((lines_read_back hfree').2.2 hbare Settings.standard _ _ ChildTable.standard
      (Console.fresh .off) (delivers_crumbled _ _) (delivers_crumbled _ _) rfl).2.1

end Session

end RestrictedShell
