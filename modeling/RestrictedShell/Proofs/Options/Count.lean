import Mathlib.Data.List.Basic
import RestrictedShell.Options.Count

namespace RestrictedShell.Options

/-- What follows a plus sign in front, and else all characters. -/
def unsigned : List Char → List Char
  | '+' :: rest => rest
  | chars => chars

end RestrictedShell.Options
