import RestrictedShell.IoError
/-!
A tree of files as the system sees it: directories, files, symbolic links, devices and installed
programs, and the walk along a path that finds one of them. A file is known by its number, so that it
may stand at several places and be open where it no longer stands. The walk follows links as far as
the system does and reports failures under the system's numbers.
-/

namespace RestrictedShell.Host

/-- A place in the tree: the names on the way from the root. -/
abbrev Location := List Bytes

/-- Files that hold nothing: what is written to them is gone or refused, and what is read from them
is nothing, zeros, or what a descriptor of the process gives. -/
inductive Device where
  | null
  | zero
  | full
  | terminal
  | descriptor (fd : Nat)
deriving DecidableEq, Repr

/-- What may stand at a place. -/
inductive Node where
  | directory
  | file (number : Nat)
  | link (target : Bytes)
  | program (name : String)
  | device (d : Device)
deriving DecidableEq, Repr

/-- What a file holds, and the bits that say who may do what with it. -/
structure FileBody where
  bytes : Bytes
  mode : Nat
deriving DecidableEq, Repr

/-- May somebody run the file? -/
def FileBody.isExecutable (f : FileBody) : Bool :=
  f.mode &&& 0o111 != 0

/-- Everything in the tree but its root, which is always a directory, and all files by number. -/
structure FileTree where
  entries : List (Location × Node)
  bodies : Array FileBody
deriving DecidableEq, Repr

namespace FileTree

def empty : FileTree := ⟨[], #[]⟩

def node? (t : FileTree) (place : Location) : Option Node :=
  if place = [] then some .directory else t.entries.lookup place

/-- Puts a node at a place, in the stead of what is there. -/
def put (t : FileTree) (place : Location) (node : Node) : FileTree :=
  if (t.entries.lookup place).isSome then
    { t with entries := t.entries.map fun e => if e.1 = place then (place, node) else e }
  else { t with entries := t.entries ++ [(place, node)] }

def remove (t : FileTree) (place : Location) : FileTree :=
  { t with entries := t.entries.filter fun e => e.1 ≠ place }

/-- Puts a new file at a place. -/
def create (t : FileTree) (place : Location) (body : FileBody) : FileTree :=
  { t.put place (.file t.bodies.size) with bodies := t.bodies.push body }

/-- What the file with a number holds. -/
def bytes (t : FileTree) (number : Nat) : Bytes :=
  (t.bodies[number]?.map FileBody.bytes).getD []

def setBytes (t : FileTree) (number : Nat) (bytes : Bytes) : FileTree :=
  { t with bodies := t.bodies.modify number fun f => { f with bytes } }

def setMode (t : FileTree) (number mode : Nat) : FileTree :=
  { t with bodies := t.bodies.modify number fun f => { f with mode } }

/-- The file at a place. -/
def body? (t : FileTree) (place : Location) : Option FileBody :=
  match t.node? place with
  | some (.file number) => t.bodies[number]?
  | _ => none

/-- The names in a directory. -/
def children (t : FileTree) (place : Location) : List Bytes :=
  t.entries.filterMap fun e =>
    if e.1.dropLast = place ∧ e.1 ≠ [] then e.1.getLast? else none

/-- Makes a directory at a place and above it, where there is none. -/
def putDirectories (t : FileTree) (place : Location) : FileTree :=
  (List.range (place.length + 1)).foldl (fun t n =>
    let place := place.take n
    if (t.node? place).isSome then t else t.put place .directory) t

/-- The names in a path. A slash at the end asks for a directory, as a dot would. -/
def components (path : Bytes) : List Bytes :=
  let names := (path.splitOn 0x2F).filter (· ≠ [])
  if path.getLast? = some 0x2F then names ++ [[0x2E]] else names

/-- The longest name the system accepts. -/
def maxName : Nat := 255

/-- The length from which on the system refuses a path. -/
def maxPath : Nat := 4096

/-- How many links a walk follows. -/
def maxLinks : Nat := 40

/-- Walks along names from a place. `links` is how many more links may be followed, and `through`
tells whether a link at the end is followed. The result is the place reached, where there need be
nothing only if the names are used up. -/
def walk (t : FileTree) (through : Bool) (links : Nat) (place : Location) :
    List Bytes → Except Errno Location
  | [] => .ok place
  | name :: rest =>
      if name = [0x2E] then walk t through links place rest
      else if name = [0x2E, 0x2E] then walk t through links place.dropLast rest
      else if maxName < name.length then .error .nameTooLong
      else
        let here := place ++ [name]
        match t.node? here with
        | none => if rest = [] then .ok here else .error .noSuchFile
        | some .directory => walk t through links here rest
        | some (.link target) =>
            if rest = [] ∧ !through then .ok here
            else match links with
              | 0 => .error .linkLoop
              | links + 1 =>
                  let start := if target.head? = some 0x2F then [] else place
                  walk t through links start (components target ++ rest)
        | some _ => if rest = [] then .ok here else .error .notADirectory
termination_by names => (links, names.length)

/-- The place that a path leads to from a directory. -/
def resolve (t : FileTree) (through : Bool) (dir : Location) (path : Bytes) :
    Except Errno Location :=
  if path = [] then .error .noSuchFile
  else if maxPath ≤ path.length then .error .nameTooLong
  else walk t through maxLinks (if path.head? = some 0x2F then [] else dir) (components path)

/-- The node that a path leads to, links followed. -/
def find (t : FileTree) (dir : Location) (path : Bytes) : Except Errno (Location × Node) :=
  match t.resolve true dir path with
  | .error e => .error e
  | .ok place =>
      match t.node? place with
      | some node => .ok (place, node)
      | none => .error .noSuchFile

/-- Takes away a place and all below it. -/
def removeAll (t : FileTree) (place : Location) : FileTree :=
  { t with entries := t.entries.filter fun e => !place.isPrefixOf e.1 }

/-- Moves a place and all below it to another place, in the stead of what is there. -/
def move (t : FileTree) (source target : Location) : FileTree :=
  let moved := (t.entries.filter fun e => source.isPrefixOf e.1).map fun e =>
    (target ++ e.1.drop source.length, e.2)
  let others := ((t.removeAll source).removeAll target).entries
  { t with entries := others ++ moved }

/-- The plain files below a place, each with its path from there and its content. -/
def filesBelow (t : FileTree) (place : Location) : List (Bytes × Bytes) :=
  t.entries.filterMap fun e =>
    match e.2 with
    | .file number =>
        if place.isPrefixOf e.1 then
          some ([0x2F].intercalate (e.1.drop place.length), t.bytes number)
        else none
    | _ => none

end FileTree

end RestrictedShell.Host
