import Mathlib.Data.List.Induction
import RestrictedShell.Options
import RestrictedShell.Proofs.Options.Count
/-!
Which arguments are accepted, and what they choose. The arguments come in groups, each of them an
option with the value behind it, and what is stored after some groups depends on which groups there
are and not on their order.
-/

namespace RestrictedShell.Options

/-- An option as it is given: by itself, or in front of its value. -/
inductive Group where
  | plain
  | valued (option : Valued) (value : String)
deriving DecidableEq, Repr

namespace Group

def words : Group → List String
  | plain => ["--plain"]
  | valued option value => [option.flag, value]

def option? : Group → Option Valued
  | plain => none
  | valued option _ => some option

end Group

/-- The arguments are those of the groups, in their order, and perhaps `--` after them. -/
def Spells (groups : List Group) (args : List String) : Prop :=
  args = groups.flatMap Group.words ∨ args = groups.flatMap Group.words ++ ["--"]

section Fields

variable {α : Type} {groups : List Group} {group : Group} {option : Valued} {value : String}
  {reads : String → α → Prop} {stored : Option α} {standard x : α}

/-- What is stored for an option is what was given for it. -/
def Stored (groups : List Group) (option : Valued) (reads : String → α → Prop)
    (stored : Option α) : Prop :=
  ∀ x, stored = some x ↔ ∃ value, .valued option value ∈ groups ∧ reads value x

theorem Stored.append (h : Stored groups option reads stored)
    (hother : group.option? ≠ some option) : Stored (groups ++ [group]) option reads stored := by
  intro x
  rw [h x]
  refine exists_congr fun value => and_congr_left' ?_
  rw [List.mem_append, List.mem_singleton]
  refine ⟨.inl, fun hmem => hmem.resolve_right ?_⟩
  rintro rfl
  exact hother rfl

theorem Stored.append_self (h : Stored groups option reads none) (hx : reads value x)
    (hunique : ∀ y, reads value y → y = x) :
    Stored (groups ++ [.valued option value]) option reads (some x) := by
  intro y
  constructor
  · rintro ⟨⟩
    exact ⟨value, List.mem_append_right _ (List.mem_singleton_self _), hx⟩
  · rintro ⟨value', hmem, hy⟩
    rcases List.mem_append.mp hmem with hearlier | hlast
    · exact absurd ((h y).mpr ⟨value', hearlier, hy⟩) (by simp)
    · obtain ⟨_, rfl⟩ := Group.valued.inj (List.mem_singleton.mp hlast)
      rw [hunique y hy]

theorem Stored.notMem (h : Stored groups option reads none)
    (hreads : ∀ value, .valued option value ∈ groups → ∃ x, reads value x) (value : String) :
    .valued option value ∉ groups := by
  intro hmem
  obtain ⟨x, hx⟩ := hreads value hmem
  cases (h x).mpr ⟨value, hmem, hx⟩

theorem Stored.first (h : Stored groups option reads stored) (hnone : stored = none)
    (hreads : ∀ value, .valued option value ∈ groups → ∃ x, reads value x) (hx : reads value x)
    (hunique : ∀ y, reads value y → y = x) :
    (∀ value, .valued option value ∉ groups) ∧
      Stored (groups ++ [.valued option value]) option reads (some x) := by
  subst hnone
  exact ⟨h.notMem hreads, h.append_self hx hunique⟩

end Fields

namespace Given

/-- Stores what a group gives. -/
def apply (g : Given) : Group → Except Refusal Given
  | .plain => .ok { g with plain := true }
  | .valued option value => (g.set option value).mapError (.badValue option value)

end Given

section Steps

variable {groups : List Group} {group : Group} {option : Valued} {value : String} {g g' : Given}

end Steps

section Scanning

variable {groups : List Group} {args : List String} {g g' : Given}

theorem Spells.cons (h : Spells groups args) (group : Group) :
    Spells (group :: groups) (group.words ++ args) := by
  rcases h with rfl | rfl
  · exact .inl rfl
  · exact .inr (List.append_assoc _ _ _).symm

end Scanning

section Parsing

variable {groups groups' : List Group} {args args' : List String} {o : Options}

end Parsing

end RestrictedShell.Options
