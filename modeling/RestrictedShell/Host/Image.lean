import RestrictedShell.Host.FileTree
/-!
What the system does to replace a process by the program at a path: finding the file, checking that
it may be run, and following the first line of a script to the program that interprets it.
-/

namespace RestrictedShell.Host

/-- A program that can be run. -/
inductive Image where
  | shell
  | utility (name : String)
deriving DecidableEq, Repr

/-- A program with the words it is started with, its own name first. -/
structure Loaded where
  image : Image
  argv : List Bytes
deriving DecidableEq, Repr

namespace Loaded

/-- The directories in which a name without a slash is looked for. -/
def searchPath : List Bytes :=
  ["/usr/local/sbin", "/usr/local/bin", "/usr/sbin", "/usr/bin", "/sbin", "/bin"].map Text.encode

/-- What a path leads to, if it is a program or a file that may be run. -/
def executable (files : FileTree) (dir : Location) (path : Bytes) : Except Errno Node :=
  match files.find dir path with
  | .error e => .error e
  | .ok (place, .file number) =>
      match files.body? place with
      | some body => if body.isExecutable then .ok (.file number) else .error .accessDenied
      | none => .error .accessDenied
  | .ok (_, .program name) => .ok (.program name)
  | .ok _ => .error .accessDenied

/-- The path at which a name without a slash is found. -/
def search? (files : FileTree) (dir : Location) (name : Bytes) : Option Bytes :=
  (searchPath.map fun d => d ++ 0x2F :: name).find? fun path =>
    match executable files dir path with
    | .ok _ => true
    | .error _ => false

/-- How many bytes of a file the system looks at for the name of an interpreter. -/
def headerSize : Nat := 256

def isBlank (b : UInt8) : Bool :=
  b == 0x20 || b == 0x09

/-- The first line of a script: the interpreter it names, and the one argument it may have. A line that
is not complete within the header counts as far as a blank or a zero byte ends the name. -/
structure Header where
  interpreter : Bytes
  argument : Option Bytes
deriving DecidableEq, Repr

namespace Header

/-- Splits a line into a name and an argument. The name ends at a blank or at a zero byte, the argument
only at a zero byte. -/
def split (line : Bytes) : Option Header :=
  let name := line.takeWhile fun b => !isBlank b && b != 0
  let rest := line.drop name.length
  match rest with
  | 0 :: _ | [] => some ⟨name, none⟩
  | rest =>
      let argument := rest.dropWhile isBlank
      some ⟨name, if argument = [] then none else some (argument.takeWhile (· != 0))⟩

/-- The header of a file, if it has one. -/
def ofContent? (content : Bytes) : Option Header :=
  let padded := (content ++ List.replicate headerSize 0).take headerSize
  match padded with
  | 0x23 :: 0x21 :: rest =>
      let text := rest.takeWhile fun b => b != Text.newline && b != 0
      if rest[text.length]? = some Text.newline then
        let line := (text.reverse.dropWhile isBlank).reverse.dropWhile isBlank
        if line = [] then none else split line
      else
        let behind := rest.dropWhile isBlank
        if behind.any fun b => isBlank b || b == 0 then
          let kept := rest.take (headerSize - 3)
          split ((kept.reverse.dropWhile isBlank).reverse.dropWhile isBlank)
        else none
  | _ => none

end Header

/-- How many scripts may interpret one another. -/
def maxDepth : Nat := 5

/-- Loads the program at a path, to be started with these words. -/
def load (files : FileTree) (dir : Location) (depth : Nat) (path : Bytes) (argv : List Bytes) :
    Except Errno Loaded :=
  match executable files dir path with
  | .error e => .error e
  | .ok (.file number) =>
      match Header.ofContent? (files.bytes number) with
      | none => .error .badExecutableFormat
      | some ⟨[], _⟩ => .error .accessDenied
      | some ⟨interpreter, argument⟩ =>
          match depth with
          | 0 =>
              match executable files dir interpreter with
              | .ok _ => .error .linkLoop
              | .error e => .error e
          | depth + 1 =>
              load files dir depth interpreter
                (interpreter :: argument.toList ++ path :: argv.tail)
  | .ok (.program name) =>
      .ok ⟨if name = "sh" ∨ name = "dash" then .shell else .utility name, argv⟩
  | .ok _ => .error .accessDenied

/-- The longest argument the system hands over. -/
def maxArgument : Nat := 131072

/-- How much all arguments may take, with a pointer for each. -/
def maxArguments : Nat := 2097152

/-- Are the arguments too much for the system? -/
def tooLong (argv : List Bytes) : Bool :=
  argv.any (fun a => maxArgument ≤ a.length) ||
    maxArguments < argv.foldl (fun total a => total + a.length + 9) 0

/-- Replaces a process by the program at a path, or at the place where a name is found. -/
def exec (files : FileTree) (dir : Location) (path : Bytes) (argv : List Bytes) :
    Except Errno Loaded :=
  if tooLong argv then .error .argumentListTooLong
  else match (if path.contains 0x2F || path = [] then some path else search? files dir path) with
    | some path => load files dir maxDepth path argv
    | none => .error .noSuchFile

end Loaded

end RestrictedShell.Host
