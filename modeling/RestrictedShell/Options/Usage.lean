/-!
The text that explains the options.
-/

namespace RestrictedShell.Options

/-- The explanation of the options of a program called by these words. -/
def usage (command : List String) : String :=
  "Usage: " ++ " ".intercalate command ++
    " [--prompt <prompt>] [--commands-dir <commands-dir>] [--plain]" ++
    " [--max-read-failures <max-read-failures>] [--log <log>]\n\n" ++
    "Restricted interpreter for the " ++
    "mostra/copia/acrescenta/conta/apaga/informa/lista utilities.\n\n" ++
    "Options:\n" ++
    "  --prompt          text printed before each command line.\n" ++
    "  --commands-dir    directory holding the utility executables. Defaults to the\n" ++
    "                    current directory.\n" ++
    "  --plain           read commands without the line editor, even on a terminal.\n" ++
    "  --max-read-failures\n" ++
    "                    consecutive read failures tolerated before the session ends.\n" ++
    "  --log             tracing filter, e.g. \"warn\" or \"debug\". UTILITY_SHELL_LOG\n" ++
    "                    takes precedence.\n" ++
    "  --help, help      display usage information\n"

end RestrictedShell.Options
