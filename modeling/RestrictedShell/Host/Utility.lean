import RestrictedShell.Host.Utility.Arithmetic
import RestrictedShell.Host.Utility.Census
import RestrictedShell.Host.Utility.Columns
import RestrictedShell.Host.Utility.Concatenation
import RestrictedShell.Host.Utility.Copy
import RestrictedShell.Host.Utility.Dump
import RestrictedShell.Host.Utility.Editing
import RestrictedShell.Host.Utility.Excerpt
import RestrictedShell.Host.Utility.Listing
import RestrictedShell.Host.Utility.Making
import RestrictedShell.Host.Utility.Removal
import RestrictedShell.Host.Utility.Replacement
import RestrictedShell.Host.Utility.Search
import RestrictedShell.Host.Utility.Sorting
import RestrictedShell.Host.Utility.Words
/-!
The programs that are installed in the system, by name.
-/

namespace RestrictedShell.Host.Utility

/-- The installed programs. -/
def installed : List (String × Program) :=
  [("true", coded fun _ _ => pure 0), ("false", coded fun _ _ => pure 1), ("basename", basename),
    ("cat", cat), ("chmod", chmod), ("cp", cp), ("cut", cut), ("dirname", dirname),
    ("echo", echo), ("egrep", searching .extended), ("env", env), ("expr", expr),
    ("fgrep", searching .plain), ("fold", fold), ("grep", grep), ("head", head), ("ln", ln),
    ("ls", ls), ("mkdir", mkdir), ("mv", mv), ("nl", nl), ("od", od), ("paste", paste),
    ("printenv", printenv), ("pwd", pwd), ("rev", rev), ("rm", rm), ("rmdir", rmdir),
    ("sed", sed), ("seq", seq), ("sleep", sleep), ("sort", sort), ("tac", tac), ("tail", tail),
    ("tee", tee), ("touch", touch), ("tr", tr), ("uniq", uniq), ("unlink", unlink), ("wc", wc),
    ("yes", yes)]

def names : List String :=
  installed.map Prod.fst

def named? (name : String) : Option Program :=
  installed.lookup name

end RestrictedShell.Host.Utility
