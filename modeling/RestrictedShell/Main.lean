import RestrictedShell.Program
/-!
The command line. The files below the current directory become the files of the system that the
program runs on, and what the program's children change there is written back. Only this module
touches the real streams and files.
-/

namespace RestrictedShell.CommandLine

/-- Everything that can still be read from a stream. -/
partial def readAll (stream : IO.FS.Stream) (taken : ByteArray) : IO ByteArray := do
  let block ← stream.read 65536
  if block.isEmpty then pure taken else readAll stream (taken ++ block)

/-- How many directories deep files are taken in. -/
def maxDepth : Nat := 8

/-- Takes the files below a directory into a tree. A file that names its interpreter may be run. -/
def takeIn (files : Host.FileTree) (place : Host.Location) (path : String) :
    Nat → IO Host.FileTree
  | 0 => pure files
  | depth + 1 => do
      let mut files := files
      for entry in ← (← IO.FS.realPath path).readDir do
        let here := place ++ [Text.encode entry.fileName]
        if ← entry.path.isDir then
          files ← takeIn (files.put here .directory) here (path ++ "/" ++ entry.fileName) depth
        else
          let content := (← IO.FS.readBinFile entry.path).data.toList
          let mode := if content.take 2 == [0x23, 0x21] then 0o755 else 0o644
          files := files.create here ⟨content, mode⟩
      pure files

/-- Writes back what has changed in the files below the current directory. -/
def putBack (before after : Host.FileTree) : IO Unit := do
  for (path, content) in Host.changed before after do
    IO.FS.writeBinFile (Text.lossy path) ⟨content.toArray⟩
  for path in Host.removed before after do
    IO.FS.removeFile (Text.lossy path)

/-- Writes what appears of the program on the real streams, in its order. -/
def present (trace : Trace) : IO Unit := do
  let out ← IO.getStdout
  let err ← IO.getStderr
  for (stream, bytes) in trace.filterMap Trace.shown do
    let real := if stream = .err then err else out
    real.write ⟨bytes.toArray⟩
    real.flush

end RestrictedShell.CommandLine

open RestrictedShell CommandLine in
def main (args : List String) : IO UInt32 := do
  let files ← takeIn Host.standardFiles Host.workplace "." maxDepth
  let input ← readAll (← IO.getStdin) .empty
  let variableValue := (← IO.getEnv Program.logVariable).map Text.encode
  let host := Host.atWork files input.data.toList
  let finish := Program.run (args.map Text.encode) variableValue host
  present finish.trace
  putBack files finish.host.files
  pure finish.code.toUInt32
