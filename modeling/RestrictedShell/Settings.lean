/-!
What a session needs to know of its options.
-/

namespace RestrictedShell

/-- The prompt, and how many reads in a row may fail before the session ends. The limit is tested
after a failure is counted, so 0 acts like 1. -/
structure Settings where
  prompt : String
  maxReadFailures : UInt32
deriving DecidableEq, Repr

namespace Settings

def defaultPrompt : String := "% "

def defaultMaxReadFailures : UInt32 := 16

/-- The settings of a session that is told nothing. -/
def standard : Settings := ⟨defaultPrompt, defaultMaxReadFailures⟩

end Settings

end RestrictedShell
