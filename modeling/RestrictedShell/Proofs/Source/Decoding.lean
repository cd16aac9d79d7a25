import RestrictedShell.Proofs.Session.Prompting
import RestrictedShell.Proofs.Source.Portions

namespace RestrictedShell

/-- A byte that does not end a line. -/
def Item.isPlain : Item → Bool
  | .byte b => b != Text.newline
  | _ => false

namespace Environment

variable {ε : Type} [Environment ε]

/-- What successive requests get, with one prompt for each of them. -/
def askEach : List String → World ε → List Reading
  | [], _ => []
  | prompt :: prompts, w => (ask prompt w).1 :: askEach prompts (ask prompt w).2

end Environment

namespace PlainReader

open Text

/-- The line without one newline at its end, and then without one carriage return. -/
def bare (raw : Bytes) : Bytes :=
  let line := (raw.dropSuffix? [newline]).getD raw
  (line.dropSuffix? [carriageReturn]).getD line

/-- What a read gives that finds the end of input behind these bytes. -/
def unterminated (raw : Bytes) : Reading :=
  if raw = [] then .endOfInput else .line (bare raw)

/-- One read of a line from single bytes, ends and failures. -/
def readLine (input : List Item) : Reading × List Item :=
  let raw := bytesOf (input.takeWhile Item.isPlain)
  match input.dropWhile Item.isPlain with
  | .byte b :: rest => (.line (bare (raw ++ [b])), rest)
  | .failure error :: rest => (.failed (.input error), rest)
  | .eof :: rest => (unterminated raw, rest)
  | [] => (unterminated raw, [])

/-- So many reads, one after another. -/
def readLines : Nat → List Item → List Reading
  | 0, _ => []
  | n + 1, input => (readLine input).1 :: readLines n (readLine input).2

theorem getD_dropSuffix? (b : UInt8) (bytes : Bytes) :
    (bytes.dropSuffix? [b]).getD bytes = dropLast b bytes := by
  unfold dropLast
  split
  · rename_i hlast
    have hsuffix : bytes.dropSuffix? [b] = some bytes.dropLast :=
      List.dropSuffix?_eq_some_iff.mpr
        ⟨[b], (List.dropLast_append_getLast? b hlast).symm, beq_self_eq_true _⟩
    rw [hsuffix]
    rfl
  · rename_i hlast
    have hsuffix : bytes.dropSuffix? [b] = none := by
      rw [Option.eq_none_iff_forall_ne_some]
      intro body hbody
      obtain ⟨last, rfl, heq⟩ := List.dropSuffix?_eq_some_iff.mp hbody
      apply hlast
      rw [eq_of_beq heq, List.getLast?_concat]
    rw [hsuffix]
    rfl

theorem bare_eq_strip (raw : Bytes) : bare raw = strip raw := by
  rw [bare, strip, getD_dropSuffix?, getD_dropSuffix?]

theorem unterminated_eq_ended (raw : Bytes) : unterminated raw = ended raw := by
  rw [unterminated, ended, bare_eq_strip]

theorem unterminated_ne_failed (raw : Bytes) (error : ReadError) :
    unterminated raw ≠ .failed error := by
  intro h
  unfold unterminated at h
  split at h <;> cases h

theorem isPlain_of_free {raw : Bytes} (h : newline ∉ raw) :
    ∀ item ∈ raw.map Item.byte, item.isPlain = true := by
  intro item hitem
  obtain ⟨b, hb, rfl⟩ := List.mem_map.mp hitem
  exact bne_iff_ne.mpr fun heq => h (heq ▸ hb)

theorem readLine_eq_of_decoded {input : List Item} {answer : Reading × List Item}
    (h : Decoded [] input answer) : readLine input = answer := by
  have hstop : ∀ {raw : Bytes} {item : Item} {rest : List Item}, Text.newline ∉ raw →
      item.isPlain = false →
      bytesOf ((raw.map Item.byte ++ item :: rest).takeWhile Item.isPlain) = raw ∧
        (raw.map Item.byte ++ item :: rest).dropWhile Item.isPlain = item :: rest := by
    intro raw item rest hfree hitem
    have hplain := isPlain_of_free hfree
    rw [List.takeWhile_append_of_pos hplain, List.dropWhile_append_of_pos hplain,
      List.takeWhile_cons_of_neg (by simp [hitem]), List.dropWhile_cons_of_neg (by simp [hitem]),
      List.append_nil, bytesOf_bytes]
    exact ⟨rfl, rfl⟩
  cases h with
  | @newline raw rest hfree =>
      obtain ⟨htake, hdrop⟩ := @hstop raw (.byte Text.newline) rest hfree rfl
      simp only [readLine, htake, hdrop, bare_eq_strip, List.nil_append]
  | @eof raw rest hfree =>
      obtain ⟨htake, hdrop⟩ := @hstop raw .eof rest hfree rfl
      simp only [readLine, htake, hdrop, unterminated_eq_ended, List.nil_append]
  | @failure raw error rest hfree =>
      obtain ⟨htake, hdrop⟩ := @hstop raw (.failure error) rest hfree rfl
      simp only [readLine, hdrop]
  | @exhausted raw hfree =>
      have hplain := isPlain_of_free hfree
      have htake := List.takeWhile_eq_self_iff.mpr hplain
      have hdrop := List.dropWhile_eq_nil_iff.mpr hplain
      simp only [readLine, htake, hdrop, bytesOf_bytes, unterminated_eq_ended, List.nil_append]

theorem readLine_eq_decode (input : List Item) : readLine input = decode [] input :=
  readLine_eq_of_decoded (decoded [] input)

theorem readings_eq_readLines (n : Nat) (r : PlainReader) :
    LineSource.readings n r = readLines n (items r.input) := by
  induction n generalizing r with
  | zero => rfl
  | succ n ih =>
      rw [LineSource.readings, readLines, readLine_eq_decode, readsFrom.read_eq, ih]

theorem suffix_readLine (input : List Item) : (readLine input).2 <:+ input := by
  have hdrop := List.dropWhile_suffix Item.isPlain (l := input)
  unfold readLine
  split
  all_goals
    rename_i hinput
    rw [hinput] at hdrop
  · exact (List.suffix_cons _ _).trans hdrop
  · exact (List.suffix_cons _ _).trans hdrop
  · exact (List.suffix_cons _ _).trans hdrop
  · exact hdrop

theorem failure_of_readLine {input : List Item} {error : ReadError}
    (h : (readLine input).1 = .failed error) :
    ∃ failure, error = .input failure ∧ .failure failure ∈ input := by
  have hdrop := List.dropWhile_suffix Item.isPlain (l := input)
  unfold readLine at h
  split at h
  · cases h
  · rename_i failure rest hinput
    cases h
    rw [hinput] at hdrop
    exact ⟨failure, rfl, hdrop.subset List.mem_cons_self⟩
  · exact absurd h (unterminated_ne_failed _ _)
  · exact absurd h (unterminated_ne_failed _ _)

theorem failure_of_mem_readLines {n : Nat} {input : List Item} {error : ReadError}
    (h : .failed error ∈ readLines n input) :
    ∃ failure, error = .input failure ∧ .failure failure ∈ input := by
  induction n generalizing input with
  | zero => cases h
  | succ n ih =>
      rcases List.mem_cons.mp h with hfirst | hlater
      · exact failure_of_readLine hfirst.symm
      · obtain ⟨failure, herror, hmem⟩ := ih hlater
        exact ⟨failure, herror, (suffix_readLine input).subset hmem⟩

section

variable {κ κ' : Type} [Launcher κ] [Launcher κ']

theorem ask_of_shown (prompt : String) (r : PlainReader) (k : κ) {c : Console}
    (h : c.Takes [.wrote r.prompts (encode prompt), .flushed r.prompts]) :
    Environment.ask prompt ⟨(r, k), c⟩ = ((LineSource.next r).1, ⟨((LineSource.next r).2, k),
      c.after [.wrote r.prompts (encode prompt), .flushed r.prompts]⟩) := by
  have hcourse := Session.trace_askCourse (e := (r, k)) rfl prompt
  rw [Session.ask_of_takes, hcourse]
  · rfl
  · rwa [hcourse]

theorem ask_of_unlimited (prompt : String) (r : PlainReader) (k : κ) {c : Console}
    (h : c.allowance r.prompts = .unlimited) :
    Environment.ask prompt ⟨(r, k), c⟩ = ((LineSource.next r).1, ⟨((LineSource.next r).2, k),
      c.after [.wrote r.prompts (encode prompt), .flushed r.prompts]⟩) :=
  ask_of_shown prompt r k (Console.takes_of_isOn h (by simp [Event.IsOn]))

theorem askEach_of_unlimited (prompts : List String) (r : PlainReader) (k : κ) {c : Console}
    (h : c.allowance r.prompts = .unlimited) :
    Environment.askEach prompts ⟨(r, k), c⟩ = LineSource.readings prompts.length r := by
  induction prompts generalizing r c with
  | nil => rfl
  | cons prompt prompts ih =>
      have hnext : (c.after [.wrote r.prompts (encode prompt), .flushed r.prompts]).allowance
          (LineSource.next r).2.prompts = .unlimited := by
        change Console.allowance _ r.prompts = _
        rw [Console.allowance_after, h]
        rfl
      rw [Environment.askEach, ask_of_unlimited prompt r k h, ih _ hnext]
      rfl

/-- What successive requests get from a plain reader whose prompts are never refused is what its
stream of bytes, ends and failures says, in whatever pieces it arrives and whatever the prompts are.
A request fails only where the stream does, never for what a line contains. -/
theorem askEach_eq_readLines (prompts : List String) (r : PlainReader) (k : κ) {c : Console}
    (hshown : c.allowance r.prompts = .unlimited) :
    Environment.askEach prompts ⟨(r, k), c⟩ = readLines prompts.length (items r.input) ∧
      (∀ (prompts' : List String) (r' : PlainReader) (k' : κ') (c' : Console),
        prompts'.length = prompts.length → items r'.input = items r.input →
        c'.allowance r'.prompts = .unlimited →
        Environment.askEach prompts' ⟨(r', k'), c'⟩ = Environment.askEach prompts ⟨(r, k), c⟩) ∧
      ∀ error, .failed error ∈ Environment.askEach prompts ⟨(r, k), c⟩ →
        ∃ failure, error = .input failure ∧ .failure failure ∈ items r.input := by
  rw [askEach_of_unlimited prompts r k hshown, readings_eq_readLines]
  refine ⟨rfl, fun prompts' r' k' c' hlength hitems hshown' => ?_, fun error herror => ?_⟩
  · rw [askEach_of_unlimited prompts' r' k' hshown', readings_eq_readLines, hlength, hitems]
  · exact failure_of_mem_readLines herror

/-- Lines and what ends them fall apart into pieces, a read fails in the middle of a line, and the
input ends twice. -/
def shredded : PlainReader where
  input := [.data (encode "ls\r"), .fail (.plain .interrupted), .data (encode "\n\nmos"),
    .fail (.plain .other), .data (encode "tra\r\r"), .data [], .data (encode "\n"), .eof,
    .data [0xFF], .eof]
  prompts := .prompt

theorem askEach_shredded :
    (Console.fresh .off).allowance shredded.prompts = .unlimited ∧
      Environment.askEach (List.replicate 7 "% ")
          ⟨(shredded, ChildTable.standard), Console.fresh .off⟩ =
        [.line (encode "ls"), .line [], .failed (.input (.plain .other)), .line (encode "tra\r"),
          .endOfInput, .line [0xFF], .endOfInput] := by
  have hshown : (Console.fresh .off).allowance shredded.prompts = .unlimited := rfl
  refine ⟨hshown, ?_⟩
  rw [(@askEach_eq_readLines ChildTable ChildTable _ _ (List.replicate 7 "% ") shredded
    ChildTable.standard _ hshown).1]
  decide

end

end PlainReader

end RestrictedShell
