import RestrictedShell.IoError.Errno
import RestrictedShell.Text
/-!
Failures of input and output, of reading a line, and of starting a child, each with its message.
-/

namespace RestrictedShell

/-- A failed operation: reported by the system under a number, known by its kind alone, or
described by a message of its own. -/
inductive IoError where
  | os (errno : Errno)
  | plain (kind : ErrorKind)
  | custom (kind : ErrorKind) (message : String)
deriving DecidableEq, Repr

namespace IoError

def kind : IoError → ErrorKind
  | os errno => errno.kind
  | plain kind => kind
  | custom kind _ => kind

def message : IoError → String
  | os errno =>
      let number := toString errno
      errno.text.getD ("Unknown error " ++ number) ++ " (os error " ++ number ++ ")"
  | plain kind => kind.description
  | custom _ message => message

end IoError

/-- A failure of the line editor. -/
inductive EditorError where
  | eof
  | interrupted
  | io (error : IoError)
deriving DecidableEq, Repr

def EditorError.message : EditorError → String
  | eof => "EOF"
  | interrupted => "Interrupted"
  | io error => error.message

/-- A failure to obtain the next line. -/
inductive ReadError where
  | editor (error : EditorError)
  | input (error : IoError)
deriving DecidableEq, Repr

def ReadError.message : ReadError → String
  | editor error => "line editor: " ++ error.message
  | input error => "input stream: " ++ error.message

/-- The system did not create a process for the executable at `path`. -/
structure SpawnError where
  path : Bytes
  source : IoError
deriving DecidableEq, Repr

def SpawnError.message (e : SpawnError) : String :=
  Text.lossy e.path ++ ": " ++ e.source.message

end RestrictedShell
