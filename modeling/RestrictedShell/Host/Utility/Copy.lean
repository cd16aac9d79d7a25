import RestrictedShell.Host.Utility.Permission
/-!
Copying and moving files and directories.
-/

namespace RestrictedShell.Host.Utility

namespace Copy

/-- What happens to a file that is already there. -/
inductive Existing where
  | overwritten
  | kept
  | asked
deriving DecidableEq, Repr

/-- How files are copied, or whether they are moved. -/
structure Manner where
  moves : Bool
  recursive : Bool
  follow : Bool
  followOperands : Bool
  links : Bool
  symbolicLinks : Bool
  existing : Existing
  force : Bool
  removesFirst : Bool
  backup : Bool
  keepsMode : Bool
  withParents : Bool
  verbose : Bool
deriving DecidableEq, Repr

/-- What was copied so far: operands that were seen, places that were made by this command, directories
that were copied with the paths they got, and whether a directory was made for this operand. -/
structure Record where
  seen : List (Location × Bytes)
  made : List Location
  copied : List (Location × Bytes)
  madeDirectory : Bool
deriving DecidableEq, Repr

abbrev Copying := StateT Record System

/-- What an operand is copied to, the operand itself, and both for the operand at the top. -/
structure Pair where
  source : Bytes
  target : Bytes
  topSource : Bytes
  topTarget : Bytes

def say (self message : Bytes) : Copying Bool := do
  (complain self message : System Unit)
  pure false

/-- What stands at two paths is the same. -/
def same (t : FileTree) (a b : Location) : Bool :=
  a = b || match t.node? a, t.node? b with
    | some (.file m), some (.file n) => m = n
    | _, _ => false

/-- May a file be copied over another, given what both paths lead to? -/
def isFit (m : Manner) (source target : Bytes) (follows : Bool) : System Bool := do
  let t := (← get).files
  match ← lookUnder source, ← lookUnder target, ← lookAt source, ← lookAt target with
  | .ok (a, an), .ok (b, bn), farA, farB =>
      let isLink : Node → Bool
        | .link _ => true
        | _ => false
      let sameFar : Bool := match farA, farB with
        | .ok (a, _), .ok (b, _) => same t a b
        | _, _ => false
      if follows then
        pure (!sameFar || ((m.removesFirst || m.symbolicLinks) && isLink bn))
      else if isLink an && isLink bn then pure (a ≠ b)
      else if m.backup then pure (a ≠ b)
      else if (m.moves || m.removesFirst) && isLink bn then pure true
      else if !isLink an && !isLink bn then pure (!same t a b)
      else pure (!sameFar)
  | _, _, _, _ => pure true

/-- Copies the bytes that a path leads to into a file. -/
def content (m : Manner) (self : Bytes) (p : Pair) (isNew : Bool) : Copying Bool := do
  match ← (System.openPath p.source .read : System (Except Errno Nat)) with
  | .error e =>
      say self (ascii "cannot open " ++ QuotedName.always p.source ++ ascii " for reading: " ++ reason e)
  | .ok index => do
      let process ← (get : System Process)
      let fd := 3 + process.descriptors.foldl (fun n d => max n d.1) 0
      let bytes := ((process.attach fd index).available fd).toOption.getD []
      (modify fun q => ((q.attach fd index).consume fd bytes.length).detach fd : System Unit)
      let process ← (get : System Process)
      let mode := match process.files.find process.dir p.source with
        | .ok (place, _) => (process.files.body? place).map FileBody.mode |>.getD Process.plainMode
        | .error _ => Process.plainMode
      if isNew then
        let failed (e : Errno) : Copying Bool :=
          say self (ascii "cannot create regular file " ++ QuotedName.always p.target ++ ascii ": " ++
            reason e)
        match process.files.resolve false process.dir (Path.bare p.target) with
        | .error e => failed e
        | .ok place =>
            if Path.endsInSlash p.target then failed .notADirectory
            else if (process.files.node? place).isSome then
              say self (ascii "not writing through dangling symlink " ++ QuotedName.always p.target)
            else do
              (modify (Process.createFile place bytes mode) : System Unit)
              if m.keepsMode then
                if let some (.file number) := (← (get : System Process)).files.node? place then
                  (changeFiles (·.setMode number mode) : System Unit)
              pure true
      else
        match ← (System.openPath p.target .overwrite : System (Except Errno Nat)) with
        | .error e =>
            say self (ascii "cannot create regular file " ++ QuotedName.always p.target ++ ascii ": " ++
              reason e)
        | .ok index => do
            let process ← (get : System Process)
            let (trouble, process) := process.writeTo index bytes
            (set process : System Unit)
            match trouble with
            | none => do
                if m.keepsMode then
                  if let .ok (_, .file number) := ← (lookAt p.target : System _) then
                    (changeFiles (·.setMode number mode) : System Unit)
                pure true
            | some e =>
                say self (ascii "error writing " ++ QuotedName.always p.target ++ ascii ": " ++ reason e)

def announce (m : Manner) (what : String) (p : Pair) : Copying Unit :=
  if m.verbose then
    (System.write 1 (ascii what ++ quotedPair p.source " -> " p.target ++ [Text.newline]) : System Unit)
  else pure ()

/-- Why something cannot be moved, as the system tells it. -/
def hindrance? (t : FileTree) (dir : Location) (p : Pair) (source : Location) (node : Node) :
    Except Errno Location :=
  if Path.isDots (Path.lastName p.source) then .error .busy
  else
    let bareSource := Path.bare p.source
    let isLink : Bool := match t.resolve false dir bareSource with
      | .ok place => match t.node? place with
        | some (.link _) => true
        | _ => false
      | .error _ => false
    match t.resolve false dir (Path.bare p.target) with
    | .error e => .error e
    | .ok place =>
        if isLink && Path.endsInSlash p.source then .error .notADirectory
        else if node ≠ .directory && Path.endsInSlash p.target then .error .notADirectory
        else if node = .directory && source.isPrefixOf place && source ≠ place then
          .error .invalidArgument
        else match t.node? place with
          | some .directory =>
              if t.children place ≠ [] then .error .directoryNotEmpty else .ok place
          | _ => .ok place

/-- Moves what stands at a place. -/
def move (m : Manner) (self : Bytes) (p : Pair) (source : Location) (node : Node) : Copying Bool := do
  let process ← (get : System Process)
  match hindrance? process.files process.dir p source node with
  | .ok target => do
      (changeFiles (·.move source target) : System Unit)
      modify fun r => { r with made := target :: r.made }
      announce m "renamed " p
      pure true
  | .error e =>
      if e = .invalidArgument then
        say self (ascii "cannot move " ++ QuotedName.always p.source ++
          ascii " to a subdirectory of itself, " ++ QuotedName.always p.target)
      else if e = .directoryNotEmpty then
        say self (ascii "cannot overwrite " ++ QuotedName.always p.target ++ ascii ": " ++ reason e)
      else
        say self (ascii "cannot move " ++ quotedPair p.source " to " p.target ++ ascii ": " ++ reason e)

/-- Copies or moves what stands at a path; what is in a directory goes with it. Tells whether all went well,
and whether a directory was met that is being copied into itself. The fuel bounds the depth. -/
def one (m : Manner) (self : Bytes) (fuel : Nat) (top : Bool) (p : Pair) : Copying (Bool × Bool) := do
  let done (ok : Bool) : Copying (Bool × Bool) := pure (ok, false)
  let fail (message : Bytes) : Copying (Bool × Bool) := do done (← say self message)
  let follows := !m.moves && (m.follow || (top && m.followOperands))
  let found ← (if follows then lookAt p.source else lookUnder p.source : System _)
  match found with
  | .error e =>
      fail (ascii "cannot stat " ++ QuotedName.always p.source ++ ascii ": " ++ reason e)
  | .ok (source, node) => do
      let isDir := node = .directory
      if isDir && !m.recursive && !m.moves then
        return ← fail (ascii "-r not specified; omitting directory " ++ QuotedName.always p.source)
      if top && !isDir then
        let r ← get
        if r.seen.contains (source, Path.lastName p.source) then
          (complain self (ascii "warning: source file " ++ QuotedName.always p.source ++
            ascii " specified more than once") : System Unit)
          return ← done true
        set { r with seen := (source, Path.lastName p.source) :: r.seen }
      let isPlain := match node with
        | .file _ => true
        | _ => false
      let underneath := !isPlain || m.moves || m.symbolicLinks || m.links || m.backup || m.removesFirst
      let there ← (if underneath then lookUnder p.target else lookAt p.target : System _)
      let mut isNew := false
      match there with
      | .error e =>
          if e = .noSuchFile then isNew := true
          else return ← fail (ascii "cannot stat " ++ QuotedName.always p.target ++ ascii ": " ++ reason e)
      | .ok (place, old) =>
          if !(← (isFit m p.source p.target follows : System Bool)) then
            if !(m.links && same (← (get : System Process)).files source place) then
              return ← fail (quotedPair p.source " and " p.target ++ ascii " are the same file")
          if m.links && same (← (get : System Process)).files source place then return ← done true
          if !isDir || m.moves then
            if m.existing = .kept then
              if m.moves then
                return ← fail (ascii "not replacing " ++ QuotedName.always p.target)
              return ← done true
            if m.existing = .asked then
              if !(← (ask self (ascii "overwrite " ++ QuotedName.always p.target) : System Bool)) then
                return ← done false
          if old ≠ .directory then
            if isDir then
              return ← fail (ascii "cannot overwrite non-directory " ++
                quotedPair p.target " with directory " p.source)
            if top && (← get).made.contains place then
              return ← fail (ascii "will not overwrite just-created " ++
                quotedPair p.target " with " p.source)
          else if !isDir then
            return ← fail (ascii "cannot overwrite directory " ++ QuotedName.always p.target ++
              ascii " with non-directory")
          if m.backup && !isDir then
            (changeFiles (·.move place (place.dropLast ++ [place.getLast?.getD [] ++ ascii "~"]))
              : System Unit)
            isNew := true
          else if !isDir && !m.moves && (m.removesFirst || (!isPlain && !follows)) then
            (changeFiles (·.remove place) : System Unit)
            isNew := true
      if m.moves then return ← done (← move m self p source node)
      if isDir then
        let r ← get
        if top then
          match r.copied.lookup source with
          | some path =>
              if path = p.target then
                (complain self (ascii "warning: source directory " ++ QuotedName.always p.topSource ++
                  ascii " specified more than once") : System Unit)
                return ← done true
          | none => set { r with copied := (source, p.target) :: r.copied }
        else if let some path := r.copied.lookup source then
          let itself := (← (lookUnder path : System _)).toOption.map Prod.fst = some source
          if itself then
            let _ ← say self (ascii "cannot copy a directory, " ++
              quotedPair p.topSource ", into itself, " p.topTarget)
            return (false, true)
        if isNew then
          let process ← (get : System Process)
          match process.files.resolve false process.dir (Path.bare p.target) with
          | .error e =>
              return ← fail (ascii "cannot create directory " ++ QuotedName.always p.target ++
                ascii ": " ++ reason e)
          | .ok place =>
              (changeFiles (·.put place .directory) : System Unit)
              modify fun r => if r.madeDirectory then r
                else { r with copied := (place, p.target) :: r.copied, madeDirectory := true }
              announce m "" p
        let mut ok := true
        let mut itself := false
        match fuel with
        | 0 => ok := false
        | fuel + 1 =>
            for name in (← (get : System Process)).files.children source do
              if !itself then
                let (good, again) ← one m self fuel false
                  { p with source := Path.join p.source name, target := Path.join p.target name }
                ok := ok && good
                itself := again
        return (ok, itself)
      announce m "" p
      let process ← (get : System Process)
      let place? := process.files.resolve false process.dir (Path.bare p.target)
      let putLink (kind : String) (node : Node) : Copying (Bool × Bool) := do
        match place? with
        | .error e =>
            fail (ascii ("cannot create " ++ kind ++ " link " ) ++
              quotedPair p.target " to " p.source ++ ascii ": " ++ reason e)
        | .ok place =>
            if (process.files.node? place).isSome && isNew = false then
              if m.force then
                (changeFiles (·.put place node) : System Unit)
                done true
              else
                fail (ascii ("cannot create " ++ kind ++ " link ") ++
                  quotedPair p.target " to " p.source ++ ascii ": " ++ reason .fileExists)
            else
              (changeFiles (·.put place node) : System Unit)
              done true
      if m.symbolicLinks then return ← putLink "symbolic" (.link p.source)
      if m.links then return ← putLink "hard" node
      match node with
      | .link target => putLink "symbolic" (.link target)
      | _ =>
          let ok ← content m self p isNew
          if ok then
            if let .ok (place, _) := ← (lookAt p.target : System _) then
              modify fun r => { r with made := place :: r.made }
          done ok

/-- Does all operands in turn, into a directory or to a path. -/
def all (m : Manner) (self : Bytes) (sources : List Bytes) (targetOf : Bytes → Bytes) : System Nat := do
  let body : Copying Nat := do
    let mut code := 0
    for source in sources do
      let target := targetOf source
      modify fun r => { r with madeDirectory := false }
      let depth := (← (get : System Process)).files.entries.length + 1
      let r ← get
      if sources.length = 1 then set { r with seen := [], made := [] }
      if !(← one m self depth true ⟨source, target, source, target⟩).1 then code := 1
    pure code
  let (code, _) ← body.run ⟨[], [], [], false⟩
  pure code

/-- Finds out from the operands what is copied where. -/
def run (m : Manner) (self : Bytes) (given : List Given) (operands : List Bytes) : System Nat := do
  let within (dir : Bytes) (source : Bytes) : Bytes :=
    let name := Path.lastName source
    if m.withParents then Path.join dir (Path.bare source)
    else if name = ascii ".." then dir
    else Path.join dir name
  let target? := value? given 't'
  match operands with
  | [] => missingOperand self "file operand" none
  | [only] =>
      match target? with
      | none => missingOperand self "destination file operand" (some only)
      | some dir => intoDirectory dir [only] within
  | first :: others =>
      match target? with
      | some dir => intoDirectory dir operands within
      | none =>
          let last := others.getLast?.getD []
          if has given 'T' then
            match others with
            | _ :: extra :: _ => extraOperand self extra
            | _ => all m self [first] fun _ => last
          else match ← lookAt last with
            | .ok (_, .directory) => parents last operands.dropLast within
            | found =>
                if m.withParents then
                  complain self (ascii "with --parents, the destination must be a directory")
                  pointToHelp self
                  pure 1
                else if others.length = 1 then all m self [first] fun _ => last
                else
                  let e := match found with
                    | .error e => e
                    | .ok _ => Errno.notADirectory
                  complain self (ascii "target " ++ QuotedName.always last ++ ascii ": " ++ reason e)
                  pure 1
where
  /-- Copies into a directory named by an option. -/
  intoDirectory (dir : Bytes) (sources : List Bytes) (within : Bytes → Bytes → Bytes) : System Nat := do
    match ← lookAt dir with
    | .ok (_, .directory) => parents dir sources within
    | found =>
        let e := match found with
          | .error e => e
          | .ok _ => Errno.notADirectory
        complain self (ascii "target directory " ++ QuotedName.always dir ++ ascii ": " ++ reason e)
        pure 1
  /-- Copies into a directory, with the directories above each source if asked for. -/
  parents (dir : Bytes) (sources : List Bytes) (within : Bytes → Bytes → Bytes) : System Nat := do
    if m.withParents then
      for source in sources do
        if (← lookAt source).toOption.isSome then
          let p ← get
          if let .ok place := p.files.resolve true p.dir (Path.join dir (Path.parent source)) then
            changeFiles (·.putDirectories place)
          else if let .ok place := p.files.resolve true p.dir dir then
            let names := (FileTree.components (Path.parent source)).filter (!Path.isDots ·)
            changeFiles (·.putDirectories (place ++ names))
    all m self sources (within dir)

def switches : List Switch :=
  [.both 'a' "archive", .named 'A' "attributes-only", ⟨'B', false, some "backup", .optional⟩,
    .letter 'b', .named 'C' "copy-contents", .named 'D' "debug", .letter 'd',
    .both 'L' "dereference", .both 'f' "force", .letter 'H', .both 'i' "interactive",
    .both 'l' "link", .both 'n' "no-clobber", .both 'P' "no-dereference",
    ⟨'1', false, some "no-preserve", .value⟩, .both 'T' "no-target-directory",
    .both 'x' "one-file-system", .named '2' "parents", .letter 'p',
    ⟨'3', false, some "preserve", .optional⟩, .both 'R' "recursive", .letter 'r',
    .named '4' "remove-destination", ⟨'5', false, some "sparse", .value⟩,
    ⟨'6', false, some "reflink", .optional⟩, .named '7' "strip-trailing-slashes",
    .valued 'S' "suffix", .both 's' "symbolic-link", .valued 't' "target-directory",
    ⟨'u', true, none, .nothing⟩, ⟨'8', false, some "update", .optional⟩, .both 'v' "verbose",
    .letter 'Z', ⟨'9', false, some "context", .optional⟩]

def moveSwitches : List Switch :=
  [⟨'B', false, some "backup", .optional⟩, .letter 'b', .both 'Z' "context", .named 'D' "debug",
    .both 'f' "force", .both 'i' "interactive", .both 'n' "no-clobber", .named 'y' "no-copy",
    .both 'T' "no-target-directory", .named '7' "strip-trailing-slashes", .valued 'S' "suffix",
    .valued 't' "target-directory", .letter 'u', ⟨'8', false, some "update", .optional⟩,
    .both 'v' "verbose"]

/-- The manner that options ask for. -/
def Manner.ofOptions (moves : Bool) (given : List Given) : Manner :=
  let any (keys : List Char) : Bool := keys.any (has given ·)
  let recursive := any ['r', 'R', 'a']
  let following := last? given ['L', 'P', 'H', 'd', 'a']
  let keepsOld := value? given '8' = some (ascii "none")
  { moves
    recursive
    follow := following = some 'L' || (following.isNone && !recursive)
    followOperands := following = some 'H'
    links := has given 'l'
    symbolicLinks := has given 's'
    existing := match last? given ['f', 'i', 'n'] with
      | some 'n' => .kept
      | some 'i' => .asked
      | some 'f' => if !moves && has given 'i' then .asked else .overwritten
      | _ => if keepsOld then .kept else .overwritten
    force := has given 'f'
    removesFirst := has given '4'
    backup := any ['b', 'B']
    keepsMode := any ['p', 'a']
    withParents := has given '2'
    verbose := any ['v', 'D'] }

end Copy

/-- Copies files. -/
def cp : Program := coded fun self args =>
  withOptions Copy.switches 1 self args fun given operands => do
    if has given 'n' then
      complain self (ascii "warning: behavior of -n is non-portable and may change in future; " ++
        ascii "use --update=none instead")
    Copy.run (Copy.Manner.ofOptions false given) self given operands

/-- Moves files. -/
def mv : Program := coded fun self args =>
  withOptions Copy.moveSwitches 1 self args fun given operands =>
    Copy.run (Copy.Manner.ofOptions true given) self given operands

end RestrictedShell.Host.Utility
