import RestrictedShell.Host.Utility.Place
/-!
Removing files and directories.
-/

namespace RestrictedShell.Host.Utility

namespace Removal

/-- When a question is asked before something is removed. -/
inductive Asking where
  | never
  | once
  | always
deriving DecidableEq, Repr

/-- How things are removed. -/
structure Manner where
  force : Bool
  recursive : Bool
  emptyDirectories : Bool
  verbose : Bool
  asking : Asking
deriving DecidableEq, Repr

/-- What became of something to be removed. -/
inductive Fate where
  | removed
  | failed
  | kept
deriving DecidableEq, Repr

/-- What a file is called in a question. -/
def kindOf (t : FileTree) : Node → String
  | .directory => "directory"
  | .link _ => "symbolic link"
  | .file number => if t.bytes number = [] then "regular empty file" else "regular file"
  | .program _ => "regular file"
  | .device _ => "character special file"

def failed (self path : Bytes) (e : Errno) : System Fate := do
  let _ ← cannot self "remove" path e
  pure .failed

/-- May this be removed? -/
def isAllowed (m : Manner) (self verb path : Bytes) (what : String) : System Bool :=
  if m.asking = .always then
    ask self (verb ++ ascii (" " ++ what ++ " ") ++ QuotedName.always path)
  else pure true

/-- Removes what stands at a path, and before a directory all that is in it. The fuel bounds the depth. -/
def remove (m : Manner) (self : Bytes) (fuel : Nat) (path : Bytes) : System Fate := do
  let p ← get
  match ← lookUnder path with
  | .error e =>
      if m.force && (e = .noSuchFile || e = .notADirectory) then pure .removed
      else failed self path e
  | .ok (place, .directory) =>
      let names := p.files.children place
      let isEmpty := names = []
      if !m.recursive && !(m.emptyDirectories && isEmpty) then
        failed self path (if m.emptyDirectories then .directoryNotEmpty else .isADirectory)
      else
        let mut ok := true
        let mut fate := Fate.removed
        if !isEmpty then
          if !(← isAllowed m self (ascii "descend into") path "directory") then return .kept
          for name in names do
            match fuel with
            | 0 => ok := false
            | fuel + 1 =>
                match ← remove m self fuel (Path.join path name) with
                | .removed => pure ()
                | .failed => fate := .failed
                | .kept => if fate = .removed then fate := .kept
        if fate ≠ .removed || !ok then return fate
        if !(← isAllowed m self (ascii "remove") path "directory") then return .kept
        let p ← get
        let isLink := match p.files.resolve false p.dir (Path.bare path) with
          | .ok place => match p.files.node? place with
            | some (.link _) => true
            | _ => false
          | .error _ => false
        if isLink then failed self path .notADirectory
        else
          changeFiles (·.remove place)
          if m.verbose then
            System.write 1 (ascii "removed directory " ++ QuotedName.always path ++ [Text.newline])
          pure .removed
  | .ok (place, node) =>
      if !(← isAllowed m self (ascii "remove") path (kindOf p.files node)) then return .kept
      changeFiles (·.remove place)
      if m.verbose then
        System.write 1 (ascii "removed " ++ QuotedName.always path ++ [Text.newline])
      pure .removed

/-- A directory that may not be removed whatever is asked for. -/
def isRefused (self : Bytes) (m : Manner) (path : Bytes) : System Bool := do
  if m.recursive && Path.isDots (Path.lastName path) && (← isDirectory path) then
    complain self (ascii "refusing to remove '.' or '..' directory: skipping " ++
      QuotedName.always path)
    pure true
  else match ← lookUnder path with
    | .ok ([], _) =>
        if m.recursive then
          let name := QuotedName.always path
          complain self (ascii "it is dangerous to operate recursively on " ++ name ++
            (if path = [slash] then [] else ascii " (same as '/')"))
          complain self (ascii "use --no-preserve-root to override this failsafe")
          pure true
        else pure false
    | _ => pure false

def switches : List Switch :=
  [.both 'f' "force", .letter 'i', .letter 'I', ⟨'?', false, some "interactive", .optional⟩,
    .named '1' "one-file-system", .named 'N' "no-preserve-root",
    ⟨'P', false, some "preserve-root", .optional⟩, .named 'T' "-presume-input-tty",
    .both 'r' "recursive", .letter 'R', .both 'd' "dir", .both 'v' "verbose"]

def occasions : List (List String) :=
  [["never", "no", "none"], ["once"], ["always", "yes"]]

/-- How an option changes the manner. -/
def Manner.take (m : Manner) (g : Given) : Manner :=
  match g.key with
  | 'f' => { m with force := true, asking := .never }
  | 'i' => { m with force := false, asking := .always }
  | 'I' => { m with force := false, asking := .once }
  | '?' =>
      let value := g.value?.getD (ascii "always")
      let word := ((occasions.find? fun words => words.any fun w => value.isPrefixOf (ascii w)).bind
        List.head?).getD "always"
      if word = "never" then { m with asking := .never }
      else if word = "once" then { m with force := false, asking := .once }
      else { m with force := false, asking := .always }
  | 'r' | 'R' => { m with recursive := true }
  | 'd' => { m with emptyDirectories := true }
  | 'v' => { m with verbose := true }
  | _ => m

end Removal

open Removal in
/-- Removes files. -/
def rm : Program := coded fun self args => do
  let hint : System Unit := do
    for arg in args do
      if 1 < arg.length && arg.head? = some 0x2D && (← lookUnder arg).toOption.isSome then
        System.write 2 (ascii "Try '" ++ self ++ ascii " ./" ++ QuotedName.ifNeeded arg ++
          ascii "' to remove the file " ++ QuotedName.always arg ++ ascii ".\n")
        break
  let (given, operands?) := readOptions Removal.switches false (args.length + 1) args
  for g in given do
    if g.key = '?' then
      if let some value := g.value? then
        if (← chooseAmong self "interactive" occasions value).isNone then return 1
  match operands? with
  | .error misuse =>
      complain self misuse.message
      hint
      pointToHelp self
      pure 1
  | .ok operands =>
      let m := given.foldl Manner.take ⟨false, false, false, false, .never⟩
      if operands = [] then
        if m.force then pure 0 else missingOperand self "operand" none
      else
        let isMany := 3 < operands.length || m.recursive
        if m.asking = .once && isMany then
          let n := operands.length
          let what := "remove " ++ n.repr ++ (if n = 1 then " argument" else " arguments") ++
            (if m.recursive then " recursively" else "")
          if !(← ask self (ascii what)) then return 0
        forEach operands fun operand => do
          if ← isRefused self m operand then pure false
          else
            let depth := (← get).files.entries.length + 1
            pure ((← remove m self depth operand) != .failed)

namespace Removal

/-- Removes an empty directory, as the system does it. -/
def removeEmpty (path : Bytes) : System (Except Errno Unit) := do
  let bare := Path.bare path
  let last := Path.lastName path
  if last = ascii "." && path ≠ [] then
    match ← lookAt path with
    | .error e => pure (.error e)
    | .ok _ => pure (.error .invalidArgument)
  else match ← lookUnder (if last = ascii ".." then path else bare) with
    | .error e => pure (.error e)
    | .ok ([], _) => pure (.error (if last = ascii ".." then .directoryNotEmpty else .busy))
    | .ok (place, .directory) =>
        if (← get).files.children place = [] then
          changeFiles (·.remove place)
          pure (.ok ())
        else pure (.error .directoryNotEmpty)
    | .ok _ => pure (.error .notADirectory)

end Removal

/-- Removes empty directories. -/
def rmdir : Program := coded fun self args =>
  withOptions [.named 'i' "ignore-fail-on-non-empty", .both 'p' "parents", .named 'P' "path",
    .both 'v' "verbose"] 1 self args fun given operands => do
    let verbose := has given 'v'
    let ignores (e : Errno) : Bool := has given 'i' && e = .directoryNotEmpty
    /- Says what is about to be removed. -/
    let announce (path : Bytes) : System Unit :=
      if verbose then System.write 1 (self ++ ascii ": removing directory, " ++
        QuotedName.always path ++ [Text.newline])
      else pure ()
    /- Removes the directories above a path, from the last to the first. -/
    let rec ascend (fuel : Nat) (path : Bytes) : System Bool := do
      let rest := (path.reverse.dropWhile (· != slash)).reverse
      match fuel with
      | 0 => pure true
      | fuel + 1 =>
          if rest = [] then pure true
          else
            let dir := (rest.reverse.dropWhile (· == slash)).reverse
            if dir = [] then pure true
            else
              announce dir
              match ← Removal.removeEmpty dir with
              | .ok () => ascend fuel dir
              | .error e =>
                  if ignores e then pure true
                  else
                    complain self (ascii "failed to remove directory " ++ QuotedName.always dir ++
                      ascii ": " ++ reason e)
                    pure false
    if operands = [] then missingOperand self "operand" none
    else forEach operands fun operand => do
      announce operand
      match ← Removal.removeEmpty operand with
      | .ok () =>
          if has given 'p' || has given 'P' then ascend operand.length (Path.bare operand)
          else pure true
      | .error e =>
          if ignores e then pure true
          else
            let isLink := match ← lookUnder (Path.bare operand) with
              | .ok (_, .link _) => Path.endsInSlash operand
              | _ => false
            complain self (ascii "failed to remove " ++ QuotedName.always operand ++ ascii ": " ++
              (if isLink && e = .notADirectory then ascii "Symbolic link not followed" else reason e))
            pure false

/-- Removes one file. -/
def unlink : Program := coded fun self args =>
  withOptions [] 1 self args fun _ operands => do
    match operands with
    | [] => missingOperand self "operand" none
    | _ :: extra :: _ => extraOperand self extra
    | [path] =>
        let failed (e : Errno) : System Nat := do
          complain self (ascii "cannot unlink " ++ QuotedName.always path ++ ascii ": " ++ reason e)
          pure 1
        match ← lookUnder path with
        | .error e => failed e
        | .ok (_, .directory) => failed .isADirectory
        | .ok (place, _) =>
            changeFiles (·.remove place)
            pure 0

end RestrictedShell.Host.Utility
