import Mathlib
import RestrictedShell.Proofs.Text.Ascii
import RestrictedShell.Session

namespace RestrictedShell

/-- Texts that can be split off the front of whatever follows them. -/
def PrefixFree {α : Type} (encode : α → Bytes) : Prop :=
  ∀ (a b : α) (u v : Bytes), encode a ++ u = encode b ++ v → a = b ∧ u = v

theorem PrefixFree.flatMap_injective {α : Type} {encode : α → Bytes} (h : PrefixFree encode)
    (hne : ∀ a, encode a ≠ []) {as bs : List α} (heq : as.flatMap encode = bs.flatMap encode) :
    as = bs := by
  induction as generalizing bs with
  | nil =>
      cases bs with
      | nil => rfl
      | cons b bs => exact absurd (List.append_eq_nil_iff.mp heq.symm).1 (hne b)
  | cons a as ih =>
      cases bs with
      | nil => exact absurd (List.append_eq_nil_iff.mp heq).1 (hne a)
      | cons b bs =>
          obtain ⟨rfl, hrest⟩ := h a b _ _ heq
          rw [ih hrest]

theorem eq_of_cut_eq {mark : UInt8} {a b u v : Bytes} (ha : mark ∉ a) (hb : mark ∉ b)
    (h : a ++ mark :: u = b ++ mark :: v) : a = b ∧ u = v := by
  have hpieces := congrArg (List.splitOn mark) h
  rw [List.splitOn_append_cons_self_of_not_mem ha, List.splitOn_append_cons_self_of_not_mem hb]
    at hpieces
  obtain ⟨rfl, _⟩ := List.cons.inj hpieces
  exact ⟨rfl, (List.cons.inj (List.append_cancel_left h)).2⟩

/-- What a line can bring forth on the standard output. -/
inductive Block where
  | help
  | hint
  | completion (command : Command) (code : Int32)
deriving DecidableEq, Repr

namespace Block

open Text

def text : Block → String
  | help =>
      "Available commands:\n- mostra\n- copia\n- acrescenta\n- conta\n- apaga\n- informa\n- lista\n"
  | hint => "\nType 'help' to see the available commands\n"
  | completion command code =>
      command.name ++ " finished with code " ++ toString code.toInt ++ "\n"

def bytes (block : Block) : Bytes :=
  encode block.text

theorem bytes_help : bytes help = encode Session.helpText :=
  congrArg encode (by decide)

theorem bytes_hint : bytes hint = encode Session.hintText := rfl

theorem bytes_completion (command : Command) (code : Int32) :
    bytes (completion command code) = encode (completionLine command.name code) := rfl

theorem bytes_completion_append (command : Command) (code : Int32) (u : Bytes) :
    bytes (completion command code) ++ u = command.bytes ++ 0x20 ::
      (encode "finished with code " ++ (encode (toString code.toInt) ++ newline :: u)) := by
  have hmiddle : encode " finished with code " = 0x20 :: encode "finished with code " := by decide
  have hend : encode "\n" = [newline] := by decide
  simp only [bytes, text, encode_append, hmiddle, hend, Command.bytes,
    List.append_assoc, List.cons_append, List.nil_append]

theorem blank_notMem_bytes (command : Command) : 0x20 ∉ command.bytes := by
  cases command <;> decide

theorem eq_of_completion {command command' : Command} {code code' : Int32} {u v : Bytes}
    (h : bytes (completion command code) ++ u = bytes (completion command' code') ++ v) :
    completion command code = completion command' code' ∧ u = v := by
  rw [bytes_completion_append, bytes_completion_append] at h
  obtain ⟨hname, hrest⟩ := eq_of_cut_eq (blank_notMem_bytes command) (blank_notMem_bytes command') h
  obtain ⟨hcode, htail⟩ := eq_of_cut_eq (newline_notMem_encode_toString _)
    (newline_notMem_encode_toString _) (List.append_cancel_left hrest)
  have hvalue := Int.repr_injective (encode_injective hcode)
  rw [Command.bytes_injective hname, Int32.toInt_inj.mp hvalue]
  exact ⟨rfl, htail⟩

/-- The first byte of a block. -/
def initial : Block → UInt8
  | help => 0x41
  | hint => newline
  | completion command _ => command.bytes.headD newline

theorem head?_bytes (block : Block) (u : Bytes) :
    (bytes block ++ u).head? = some block.initial := by
  cases block with
  | help => rfl
  | hint => rfl
  | completion command code =>
      rw [bytes_completion_append]
      cases command <;> rfl

theorem initial_completion_ne (command : Command) (code : Int32) :
    initial (completion command code) ≠ initial help ∧
      initial (completion command code) ≠ initial hint := by
  cases command <;> exact ⟨by simp only [initial]; decide, by simp only [initial]; decide⟩

theorem prefixFree : PrefixFree bytes := by
  intro a b u v h
  have hinitial : a.initial = b.initial := by
    rw [← Option.some.injEq, ← head?_bytes a u, ← head?_bytes b v, h]
  cases a with
  | help =>
      cases b with
      | help => exact ⟨rfl, List.append_cancel_left h⟩
      | hint => exact absurd hinitial (by decide)
      | completion command code =>
          exact absurd hinitial.symm (initial_completion_ne command code).1
  | hint =>
      cases b with
      | help => exact absurd hinitial (by decide)
      | hint => exact ⟨rfl, List.append_cancel_left h⟩
      | completion command code =>
          exact absurd hinitial.symm (initial_completion_ne command code).2
  | completion command code =>
      cases b with
      | help => exact absurd hinitial (initial_completion_ne command code).1
      | hint => exact absurd hinitial (initial_completion_ne command code).2
      | completion command' code' => exact eq_of_completion h

theorem bytes_ne_nil (block : Block) : block.bytes ≠ [] := by
  intro h
  have hhead := head?_bytes block []
  rw [h] at hhead
  cases hhead

/-- A row of blocks can be told from its bytes. -/
theorem flatMap_bytes_injective {a b : List Block} (h : a.flatMap bytes = b.flatMap bytes) :
    a = b :=
  prefixFree.flatMap_injective bytes_ne_nil h

end Block

end RestrictedShell
