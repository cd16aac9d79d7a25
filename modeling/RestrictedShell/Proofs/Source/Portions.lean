import RestrictedShell.Proofs.Session.Advance
import RestrictedShell.Proofs.Source.Items

namespace RestrictedShell

namespace LineSource

variable {σ ι : Type} [LineSource σ]

/-- `Consumed read input answers rest`: piece by piece the input gives these answers and leaves the
rest. A piece gives the same answer without what is behind it, and is used up by it. -/
inductive Consumed (read : List ι → Reading × List ι) : List ι → List Reading → List ι → Prop
  | nil (input : List ι) : Consumed read input [] input
  | cons {piece later rest : List ι} {answer : Reading} {answers : List Reading}
      (hwhole : read (piece ++ later) = (answer, later)) (hpiece : read piece = (answer, []))
      (hrest : Consumed read later answers rest) :
      Consumed read (piece ++ later) (answer :: answers) rest

/-- The source takes its answers from the front of its input as `read` does, and goes on prompting
as it did. -/
structure ReadsFrom (content : σ → List ι) (read : List ι → Reading × List ι) : Prop where
  read_eq : ∀ s, read (content s) = ((next s).1, content (next s).2)
  piece : ∀ input, ∃ piece, input = piece ++ (read input).2 ∧ read piece = ((read input).1, [])
  promptStream_next : ∀ s : σ, promptStream (next s).2 = promptStream s

namespace ReadsFrom

variable {content : σ → List ι} {read : List ι → Reading × List ι}

theorem consumed (h : ReadsFrom content read) {s s' : σ} {answers : List Reading}
    (hyields : Yields s answers s') : Consumed read (content s) answers (content s') := by
  induction hyields with
  | nil s => exact .nil _
  | @cons s _ _ _ ih =>
      obtain ⟨piece, hinput, hpiece⟩ := h.piece (content s)
      have hwhole := h.read_eq s
      rw [hwhole] at hinput hpiece
      rw [hinput] at hwhole ⊢
      exact .cons hwhole hpiece ih

theorem promptStream_yields (h : ReadsFrom content read) {s s' : σ} {answers : List Reading}
    (hyields : Yields s answers s') : promptStream s' = promptStream s := by
  induction hyields with
  | nil => rfl
  | cons _ ih => exact ih.trans (h.promptStream_next _)

theorem same (h : ReadsFrom content read) {s s' : σ} (hcontent : content s = content s')
    (hprompt : promptStream s = promptStream s') : Same s s' := by
  have hafter : ∀ n, content (after s n) = content (after s' n) ∧
      promptStream (after s n) = promptStream (after s' n) := by
    intro n
    induction n with
    | zero => exact ⟨hcontent, hprompt⟩
    | succ n ih =>
        have hread := h.read_eq (after s n)
        rw [ih.1, h.read_eq] at hread
        refine ⟨(Prod.mk.inj hread).2.symm, ?_⟩
        exact (h.promptStream_next _).trans (ih.2.trans (h.promptStream_next _).symm)
  intro n
  have hread := h.read_eq (after s n)
  rw [(hafter n).1, h.read_eq] at hread
  exact ⟨(hafter n).2, (Prod.mk.inj hread).1.symm⟩

end ReadsFrom

end LineSource

/-- Takes the first of some readings; behind the last, the input is at its end. -/
def Script.decode : List Reading → Reading × List Reading
  | [] => (.endOfInput, [])
  | reading :: rest => (reading, rest)

theorem Script.readsFrom : LineSource.ReadsFrom Script.readings Script.decode where
  read_eq := by rintro ⟨_ | ⟨reading, rest⟩⟩ <;> rfl
  piece
    | [] => ⟨[], rfl, rfl⟩
    | reading :: _ => ⟨[reading], rfl, rfl⟩
  promptStream_next _ := rfl

namespace PlainReader

open Text

theorem exists_piece (input : List Item) :
    ∃ piece, input = piece ++ (decode [] input).2 ∧
      decode [] piece = ((decode [] input).1, []) := by
  generalize hanswer : decode [] input = answer
  have hdecoded := decoded [] input
  rw [hanswer] at hdecoded
  cases hdecoded with
  | @newline raw rest hfree =>
      refine ⟨raw.map .byte ++ [.byte Text.newline], by simp, ?_⟩
      rw [decode_of_free hfree, decode_newline]
  | @eof raw rest hfree =>
      refine ⟨raw.map .byte ++ [.eof], by simp, ?_⟩
      rw [decode_of_free hfree]
      rfl
  | @failure raw error rest hfree =>
      refine ⟨raw.map .byte ++ [.failure error], by simp, ?_⟩
      rw [decode_of_free hfree]
      rfl
  | @exhausted raw hfree => exact ⟨raw.map .byte, by simp, hanswer⟩

theorem readsFrom : LineSource.ReadsFrom (fun r : PlainReader => items r.input) (decode []) where
  read_eq r := decode_items [] r.input
  piece := exists_piece
  promptStream_next _ := rfl

end PlainReader

end RestrictedShell
