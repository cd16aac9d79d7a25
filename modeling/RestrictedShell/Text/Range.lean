/-!
Sets of characters given as ranges of code points.
-/

namespace RestrictedShell.Text

/-- Ranges of code points, both ends included. -/
abbrev Ranges := List (Nat × Nat)

def Ranges.has (r : Ranges) (c : Char) : Bool :=
  r.any fun ends => ends.1 ≤ c.toNat && c.toNat ≤ ends.2

end RestrictedShell.Text
