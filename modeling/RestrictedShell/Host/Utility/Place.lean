import RestrictedShell.Host.Utility.Basic
/-!
Paths as programs take them apart, what stands at them, and questions before something is lost.
-/

namespace RestrictedShell.Host.Utility

def slash : UInt8 := 0x2F

namespace Path

def endsInSlash (path : Bytes) : Bool :=
  path.getLast? = some slash

/-- A path without the slashes at its end; one slash is left of a path that has nothing else. -/
def bare (path : Bytes) : Bytes :=
  let kept := (path.reverse.dropWhile (· == slash)).reverse
  if kept = [] && path ≠ [] then [slash] else kept

/-- The last name in a path. -/
def lastName (path : Bytes) : Bytes :=
  let path := bare path
  if path = [slash] then path
  else (path.reverse.takeWhile (· != slash)).reverse

/-- A path without its last name and the slashes before that; a dot if there is nothing else. -/
def parent (path : Bytes) : Bytes :=
  let path := bare path
  let rest := (path.reverse.dropWhile (· != slash)).reverse
  if rest = [] then ascii "." else bare rest

/-- The path of a name in a directory. -/
def join (dir name : Bytes) : Bytes :=
  if dir = [] || endsInSlash dir then dir ++ name else dir ++ slash :: name

/-- Is it a name for the directory itself, or for the one above? -/
def isDots (name : Bytes) : Bool :=
  name = ascii "." || name = ascii ".."

end Path

/-- What stands at a path, links followed. -/
def lookAt (path : Bytes) : System (Except Errno (Location × Node)) := do
  let p ← get
  pure (p.files.find p.dir path)

/-- What stands at a path, be it a link. -/
def lookUnder (path : Bytes) : System (Except Errno (Location × Node)) := do
  let p ← get
  pure (match p.files.resolve false p.dir path with
    | .error e => .error e
    | .ok place =>
        match p.files.node? place with
        | some node => .ok (place, node)
        | none => .error .noSuchFile)

def isDirectory (path : Bytes) : System Bool := do
  match ← lookAt path with
  | .ok (_, .directory) => pure true
  | _ => pure false

/-- Changes the file tree. -/
def changeFiles (change : FileTree → FileTree) : System Unit :=
  modify fun p => { p with files := change p.files }

/-- Reads a line from the standard input; of an input that can be read again, no more is used up. -/
def readAnswer : System Bytes := do
  let p ← get
  let bytes := (p.available 0).toOption.getD []
  let line := bytes.takeWhile (· != Text.newline)
  modify (Process.consume 0 (min bytes.length (line.length + 1)))
  pure line

/-- Asks a question and tells whether the answer is yes. -/
def ask (self : Bytes) (question : Bytes) : System Bool := do
  System.write 2 (self ++ ascii ": " ++ question ++ ascii "? ")
  let answer ← readAnswer
  pure (answer.head? == some 0x79 || answer.head? == some 0x59)

/-- Two names in quotes with something between them. -/
def quotedPair (first : Bytes) (between : String) (second : Bytes) : Bytes :=
  QuotedName.always first ++ ascii between ++ QuotedName.always second

end RestrictedShell.Host.Utility
