import RestrictedShell.Options
import RestrictedShell.Options.Usage
import RestrictedShell.Program.Machine
import RestrictedShell.Session
/-!
The program from its arguments to its exit code: reading the options, choosing the log filter, and
holding a session on the standard streams.
-/

namespace RestrictedShell

namespace Program

def name : String := "utility_shell"

/-- The variable whose value, where it is a filter, goes before the option for the log. -/
def logVariable : String := "UTILITY_SHELL_LOG"

/-- How the program ends: its exit code, all that was seen of it, and the system it leaves. -/
structure Finish where
  code : Nat
  trace : Trace
  host : Host

/-- Ends before there is a session, with a text on a stream. -/
def early (host : Host) (code : Nat) (stream : Stream) (text : String) : Finish :=
  ⟨code, [.wrote stream (Text.encode text)], host⟩

/-- The filter to log by: the value of the variable where it is one, else the option. -/
def filter (variableValue : Option Bytes) (option : String) :
    Except Log.DirectiveError Log.Filter :=
  match (variableValue.bind Text.decode?).map Log.Filter.ofText with
  | some (.ok filter) => .ok filter
  | _ => Log.Filter.ofText option

/-- Holds a session with these options. -/
def session (options : Options) (filter : Log.Filter) (host : Host) : Finish :=
  let machine : Machine := ⟨⟨Text.encode options.commandsDir, host⟩, []⟩
  match Session.run options.settings ⟨machine, Console.fresh filter⟩ with
  | .ok _ w => ⟨0, w.console.history, w.env.launcher.host⟩
  | .error error w =>
      ⟨1, w.console.history ++ [.wrote .err (Text.encode ("Error: " ++ error.message ++ "\n"))],
        w.env.launcher.host⟩

/-- Runs the program on its arguments. Each of them has to be text before any is looked at. -/
def run (args : List Bytes) (variableValue : Option Bytes) (host : Host) : Finish :=
  match args.find? fun arg => (Text.decode? arg).isNone with
  | some arg => early host 1 .err ("Invalid utf8: " ++ Text.lossy arg ++ "\n")
  | none =>
      match Options.parse (args.map Text.lossy) with
      | .error refusal =>
          early host 1 .err
            (refusal.message ++ "\nRun " ++ name ++ " --help for more information.\n")
      | .ok .help => early host 0 .out (Options.usage [name] ++ "\n")
      | .ok (.run options) =>
          match filter variableValue options.log with
          | .error error => early host 1 .err ("Error: " ++ error.message ++ "\n")
          | .ok filter => session options filter host

end Program

end RestrictedShell
