import RestrictedShell.Event
import RestrictedShell.Host.FileTree
/-!
A process of the host and what it shares with the processes it starts: the file tree and the open
files with their positions. Several descriptors may lead to one open file.
-/

namespace RestrictedShell.Host

/-- What an open file leads to. `inherited` is a stream of the session that started the process;
`source` holds bytes still to be read, of which a reader can give back what it has read too much only
if they are `seekable`; `pipe` keeps what is written until it is read, the last piece first. -/
inductive Target where
  | inherited (stream : Stream)
  | source (rest : Bytes) (seekable : Bool)
  | pipe (pieces : List Bytes) (size : Nat)
  | file (number : Nat) (position : Nat) (append : Bool)
  | directory
  | device (d : Device)
deriving DecidableEq, Repr

/-- A file that is open, and what it is open for. -/
structure OpenFile where
  target : Target
  readable : Bool
  writable : Bool
deriving DecidableEq, Repr

/-- What a file is opened for. -/
inductive Access where
  | read
  | overwrite
  | append
  | readWrite
deriving DecidableEq, Repr

def Access.reads : Access → Bool
  | .read | .readWrite => true
  | .overwrite | .append => false

def Access.writes : Access → Bool
  | .read => false
  | .overwrite | .append | .readWrite => true

/-- A running process. `mask` holds the bits that files made by it do not get, `ignored` the signals
that do nothing to it or its programs, `parents` the processes above it, `clock` the time in
microseconds, `trouble` the last failure to write to the standard output, and
`mail` the signals sent to processes that have not run since. -/
structure Process where
  files : FileTree
  dir : Location
  opened : Array OpenFile
  descriptors : List (Nat × Nat)
  printed : Array (Stream × Bytes)
  environment : List (Bytes × Bytes)
  mask : Nat
  ignored : List Nat
  number : Nat
  parents : List Nat
  nextNumber : Nat
  clock : Nat
  mail : List (Nat × Nat)
  trouble : Option Errno

/-- An action of a process. -/
abbrev System := StateM Process

namespace Process

/-- The number of the first process. -/
def firstNumber : Nat := 4242

/-- A process with this standard input, whose outputs are those of the session. -/
def fresh (files : FileTree) (dir : Location) (input : Bytes)
    (environment : List (Bytes × Bytes)) : Process where
  files := files
  dir := dir
  opened := #[⟨.source input true, true, false⟩, ⟨.inherited .out, false, true⟩,
    ⟨.inherited .err, false, true⟩]
  descriptors := [(0, 0), (1, 1), (2, 2)]
  printed := #[]
  environment := environment
  mask := 0o022
  ignored := []
  number := firstNumber
  parents := [firstNumber - 1]
  nextNumber := firstNumber + 1
  clock := 0
  mail := []
  trouble := none

/-- How much of its standard input is left. -/
def inputLeft (p : Process) : Bytes :=
  match p.opened[0]?.map OpenFile.target with
  | some (.source rest _) => rest
  | _ => []

def openFile? (p : Process) (fd : Nat) : Option (Nat × OpenFile) := do
  let index ← p.descriptors.lookup fd
  let file ← p.opened[index]?
  pure (index, file)

/-- Makes a descriptor lead to an open file. -/
def attach (p : Process) (fd index : Nat) : Process :=
  { p with descriptors := (fd, index) :: p.descriptors.filter fun d => d.1 ≠ fd }

def detach (p : Process) (fd : Nat) : Process :=
  { p with descriptors := p.descriptors.filter fun d => d.1 ≠ fd }

/-- Adds an open file and tells its index. -/
def addOpen (p : Process) (file : OpenFile) : Nat × Process :=
  (p.opened.size, { p with opened := p.opened.push file })

def retarget (p : Process) (index : Nat) (target : Target) : Process :=
  { p with opened := p.opened.modify index fun file => { file with target } }

/-- The content of a file after bytes are written at a position, with zeros in a gap. -/
def overwrite (content : Bytes) (position : Nat) (bytes : Bytes) : Bytes :=
  content.take position ++ List.replicate (position - content.length) 0 ++ bytes ++
    content.drop (position + bytes.length)

/-- How much a pipe holds before its writer is told that nobody reads it. -/
def pipeCapacity : Nat := 1048576

/-- Writes to an open file, and tells why if that is not possible. -/
def writeTo (index : Nat) (bytes : Bytes) (p : Process) : Option Errno × Process :=
  if bytes = [] then (none, p)
  else match p.opened[index]? with
    | none => (some .badDescriptor, p)
    | some file =>
        if !file.writable then (some .badDescriptor, p)
        else match file.target with
          | .inherited stream => (none, { p with printed := p.printed.push (stream, bytes) })
          | .pipe pieces size =>
              if pipeCapacity < size then (some .brokenPipe, p)
              else (none, p.retarget index (.pipe (bytes :: pieces) (size + bytes.length)))
          | .file number position append =>
              let content := p.files.bytes number
              let position := if append then content.length else position
              (none, { p.retarget index (.file number (position + bytes.length) append) with
                files := p.files.setBytes number (overwrite content position bytes) })
          | .device .full => (some .noSpace, p)
          | .device _ => (none, p)
          | .source .. | .directory => (some .badDescriptor, p)

/-- Writes to a descriptor, and tells why if that is not possible. -/
def write (fd : Nat) (bytes : Bytes) (p : Process) : Option Errno × Process :=
  match p.descriptors.lookup fd with
  | some index => p.writeTo index bytes
  | none => (if bytes = [] then none else some .badDescriptor, p)

/-- How much of a device without end is read at once. -/
def blockSize : Nat := 65536

/-- The bytes that a descriptor has still to give. -/
def available (p : Process) (fd : Nat) : Except Errno Bytes :=
  match p.openFile? fd with
  | none => .error .badDescriptor
  | some (_, file) =>
      if !file.readable then .error .badDescriptor
      else match file.target with
        | .source rest _ => .ok rest
        | .file number position _ => .ok ((p.files.bytes number).drop position)
        | .directory => .error .isADirectory
        | .device .zero | .device .full => .ok (List.replicate blockSize 0)
        | _ => .ok []

/-- The same, but as many as are wanted of a device without end. -/
def upcoming (p : Process) (fd wanted : Nat) : Except Errno Bytes :=
  match p.openFile? fd with
  | some (_, ⟨.device .zero, true, _⟩) | some (_, ⟨.device .full, true, _⟩) =>
      .ok (List.replicate (max wanted blockSize) 0)
  | _ => p.available fd

/-- Takes bytes from a descriptor. -/
def consume (fd count : Nat) (p : Process) : Process :=
  match p.openFile? fd with
  | some (index, ⟨.source rest seekable, _, _⟩) =>
      p.retarget index (.source (rest.drop count) seekable)
  | some (index, ⟨.file number position append, _, _⟩) =>
      p.retarget index (.file number (position + count) append)
  | _ => p

/-- Can what was read from a descriptor be given back? -/
def isSeekable (p : Process) (fd : Nat) : Bool :=
  match p.openFile? fd with
  | some (_, ⟨.source _ seekable, _, _⟩) => seekable
  | some (_, ⟨.file .., _, _⟩) => true
  | _ => false

/-- Makes a file with the bits that the process leaves to it. -/
def createFile (place : Location) (bytes : Bytes) (mode : Nat) (p : Process) : Process :=
  { p with files := p.files.create place ⟨bytes, mode &&& (0o7777 ^^^ p.mask)⟩ }

/-- The bits that a file has unless somebody says otherwise. -/
def plainMode : Nat := 0o666

/-- Opens the file at a path. -/
def openPath (path : Bytes) (access : Access) (p : Process) : Except Errno Nat × Process :=
  let found (target : Target) (p : Process) : Except Errno Nat × Process :=
    let (index, p) := p.addOpen ⟨target, access.reads, access.writes⟩
    (.ok index, p)
  match p.files.resolve true p.dir path with
  | .error e => (.error e, p)
  | .ok place =>
      match p.files.node? place with
      | some (.device (.descriptor fd)) =>
          match p.openFile? fd with
          | some (_, file) =>
              let (index, p) := p.addOpen file
              (.ok index, p)
          | none => (.error .noSuchFile, p)
      | some (.device .terminal) => (.error .noSuchDevice, p)
      | some (.device d) => found (.device d) p
      | some .directory => if access.writes then (.error .isADirectory, p) else found .directory p
      | some (.program _) => if access.writes then (.error .textBusy, p) else found (.source [] true) p
      | some (.link _) => (.error .noSuchFile, p)
      | some (.file number) =>
          let files := if access = .overwrite then p.files.setBytes number [] else p.files
          found (.file number 0 (access = .append)) { p with files }
      | none =>
          if access.reads && !access.writes then (.error .noSuchFile, p)
          else
            found (.file p.files.bodies.size 0 (access = .append))
              (p.createFile place [] plainMode)

end Process

namespace System

/-- Writes to a descriptor. A failure on the standard output is kept in mind. -/
def write (fd : Nat) (bytes : Bytes) : System Unit := fun p =>
  match p.write fd bytes with
  | (some e, p) => ((), if fd = 1 then { p with trouble := some e } else p)
  | (none, p) => ((), p)

/-- The failure to write to the standard output since the last call, if there was one. -/
def takeTrouble : System (Option Errno) := do
  let trouble := (← get).trouble
  modify fun p => { p with trouble := none }
  pure trouble

/-- Everything that a descriptor has still to give. -/
def readAll (fd : Nat) : System (Except Errno Bytes) := do
  match (← get).available fd with
  | .error e => pure (.error e)
  | .ok bytes =>
      modify (Process.consume fd bytes.length)
      pure (.ok bytes)

def openPath (path : Bytes) (access : Access) : System (Except Errno Nat) := fun p =>
  p.openPath path access

end System

end RestrictedShell.Host
