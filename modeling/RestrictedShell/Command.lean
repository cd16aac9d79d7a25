import RestrictedShell.Text
/-!
The seven utilities that a line may run, and the two reserved words that a line may consist of.
-/

namespace RestrictedShell

/-- A utility that may be run. -/
inductive Command where
  | mostra
  | copia
  | acrescenta
  | conta
  | apaga
  | informa
  | lista
deriving DecidableEq, Repr

namespace Command

/-- Every command, in the order in which they are listed to the user. -/
def all : List Command :=
  [mostra, copia, acrescenta, conta, apaga, informa, lista]

theorem mem_all (c : Command) : c ∈ all := by
  cases c <;> decide

def name : Command → String
  | mostra => "mostra"
  | copia => "copia"
  | acrescenta => "acrescenta"
  | conta => "conta"
  | apaga => "apaga"
  | informa => "informa"
  | lista => "lista"

/-- The name as it stands in a line. -/
def bytes (c : Command) : Bytes :=
  Text.encode c.name

theorem bytes_injective {c d : Command} (h : c.bytes = d.bytes) : c = d := by
  have hname : c.name = d.name := Text.encode_injective h
  revert hname
  cases c <;> cases d <;> decide

/-- The command that a word names, byte for byte. -/
def ofBytes? (word : Bytes) : Option Command :=
  all.find? fun c => c.bytes == word

theorem ofBytes?_eq_some_iff {word : Bytes} {c : Command} :
    ofBytes? word = some c ↔ word = c.bytes := by
  constructor
  · intro h
    have hfound := List.find?_some h
    simpa using (beq_iff_eq.mp hfound).symm
  · rintro rfl
    cases c <;> decide

end Command

namespace Reserved

/-- The line that ends a session. -/
def quit : String := "termina"

/-- The line that lists the commands. -/
def help : String := "help"

end Reserved

end RestrictedShell
