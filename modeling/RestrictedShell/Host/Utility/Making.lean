import RestrictedShell.Host.Utility.Permission
/-!
Making directories, empty files and links.
-/

namespace RestrictedShell.Host.Utility

namespace Making

/-- Makes one directory, as the system does it. -/
def directory (path : Bytes) : System (Except Errno Unit) := do
  let p ← get
  match p.files.resolve false p.dir (Path.bare path) with
  | .error e => pure (.error e)
  | .ok place =>
      if (p.files.node? place).isSome then pure (.error .fileExists)
      else
        changeFiles (·.put place .directory)
        pure (.ok ())

/-- The paths to the directories on the way to a path, and the path itself. -/
def stepsTo (path : Bytes) : List Bytes :=
  let ends := (List.range path.length).filter fun k =>
    0 < k && path[k]? = some slash && path[k - 1]? ≠ some slash &&
      (path.drop k).any (· != slash)
  ends.map path.take ++ [path]

end Making

open Making in
/-- Makes directories. -/
def mkdir : Program := coded fun self args =>
  withOptions [.letter 'Z', .named 'C' "context", .valued 'm' "mode", .both 'p' "parents",
    .both 'v' "verbose"] 1 self args fun given operands => do
    if operands = [] then missingOperand self "operand" none
    else
      if let some mode := value? given 'm' then
        if (Permission.ofText? mode).isNone then
          complain self (ascii "invalid mode " ++ QuotedName.inText mode)
          return 1
      let announce (path : Bytes) : System Unit :=
        if has given 'v' then
          System.write 1 (self ++ ascii ": created directory " ++ QuotedName.always path ++
            [Text.newline])
        else pure ()
      forEach operands fun operand => do
        if !has given 'p' then
          match ← directory operand with
          | .ok () =>
              announce operand
              pure true
          | .error e => cannot self "create directory" operand e
        else
          for path in stepsTo operand do
            match ← directory path with
            | .ok () => announce path
            | .error e =>
                match ← lookAt path with
                | .ok (_, .directory) => pure ()
                | .ok _ =>
                    let e := if path ≠ operand && e = .fileExists then .notADirectory else e
                    return ← cannot self "create directory" path e
                | .error _ => return ← cannot self "create directory" path e
          pure true

/-- Makes files that are not there yet. -/
def touch : Program := coded fun self args =>
  withOptions [.letter 'a', .both 'c' "no-create", .valued 'd' "date", .letter 'f', .letter 'm',
    .both 'h' "no-dereference", .valued 'r' "reference", .valued 't' "-t",
    ⟨'T', false, some "time", .value⟩] 1 self args fun given operands => do
    let invalid (text : Bytes) : System Nat := do
      complain self (ascii "invalid date format " ++ QuotedName.inText text)
      pure 1
    if let some text := value? given 't' then
      let digits := text.filter fun b => 0x30 ≤ b && b ≤ 0x39
      if digits.length < 8 || 14 < digits.length then return ← invalid text
    if let some path := value? given 'r' then
      if let .error e := ← lookAt path then
        complain self (ascii "failed to get attributes of " ++ QuotedName.always path ++ ascii ": " ++
          reason e)
        return 1
    if let some text := value? given 'd' then
      let isWord (b : UInt8) : Bool := (0x61 ≤ b && b ≤ 0x7A) || (0x41 ≤ b && b ≤ 0x5A)
      let known := ["now", "today", "yesterday", "tomorrow"].map ascii
      if text ≠ [] && text.all isWord && !known.contains text then return ← invalid text
    if operands = [] then missingOperand self "file operand" none
    else forEach operands fun operand => do
      let setting (e : Errno) : System Bool := do
        complain self (ascii "setting times of " ++ QuotedName.always operand ++ ascii ": " ++ reason e)
        pure false
      if operand = ascii "-" then pure true
      else match ← (if has given 'h' then lookUnder operand else lookAt operand) with
        | .ok _ => pure true
        | .error e =>
            let p ← get
            if has given 'c' && e = .noSuchFile then pure true
            else if has given 'c' || has given 'h' then setting e
            else match p.files.resolve true p.dir (Path.bare operand) with
              | .error e => cannot self "touch" operand e
              | .ok place =>
                  if Path.endsInSlash operand then setting e
                  else
                    modify (Process.createFile place [] Process.plainMode)
                    pure true

namespace Making

/-- Makes a link, and tells why if that is not possible. -/
def link (symbolic : Bool) (follow : Bool) (target path : Bytes) : System (Except Errno Unit) := do
  let p ← get
  match p.files.resolve false p.dir (Path.bare path) with
  | .error e => pure (.error e)
  | .ok place =>
      if (p.files.node? place).isSome then pure (.error .fileExists)
      else if Path.endsInSlash path then pure (.error .noSuchFile)
      else if symbolic then
        if target = [] then pure (.error .noSuchFile)
        else
          changeFiles (·.put place (.link target))
          pure (.ok ())
      else
        match ← (if follow then lookAt target else lookUnder target) with
        | .error e => pure (.error e)
        | .ok (_, node) =>
            changeFiles (·.put place node)
            pure (.ok ())

def linkSwitches : List Switch :=
  [⟨'b', true, some "backup", .optional⟩, .letter 'd', .named 'd' "directory", .letter 'F',
    .both 'f' "force", .both 'i' "interactive", .both 'L' "logical", .both 'n' "no-dereference",
    .both 'P' "physical", .both 'r' "relative", .valued 'S' "suffix", .both 's' "symbolic",
    .valued 't' "target-directory", .both 'T' "no-target-directory", .both 'v' "verbose"]

/-- The way from one place to another. -/
def relative (source target : Location) : Bytes :=
  let rec strip : Location → Location → Location × Location
    | a :: as, b :: bs => if a = b then strip as bs else (a :: as, b :: bs)
    | as, bs => (as, bs)
  let (up, down) := strip source target
  let names := up.map (fun _ => ascii "..") ++ down
  if names = [] then ascii "." else [slash].intercalate names

end Making

open Making in
/-- Makes links to files, in a directory or under a name. -/
def ln : Program := coded fun self args =>
  withOptions linkSwitches 1 self args fun given operands => do
    let symbolic := has given 's'
    let kind := if symbolic then "symbolic link " else "hard link "
    let one (target path : Bytes) : System Bool := do
      let follow := !symbolic && last? given ['L', 'P'] = some 'L'
      if !symbolic then
        match ← (if follow then lookAt target else lookUnder target) with
        | .error e =>
            complain self (ascii "failed to access " ++ QuotedName.always target ++ ascii ": " ++ reason e)
            return false
        | .ok (_, .directory) =>
            complain self (QuotedName.ifNeeded target ++ ascii ": hard link not allowed for directory")
            return false
        | .ok _ => pure ()
      let p ← get
      let text := if symbolic && has given 'r' then
          match p.files.resolve true p.dir target,
            p.files.resolve true p.dir (Path.parent path) with
          | .ok there, .ok here => relative here there
          | _, _ => target
        else target
      let existing := (← lookUnder path).toOption
      let failed (shown : Bytes) (e : Errno) : System Bool := do
        complain self (ascii ("failed to create " ++ kind) ++ shown ++ ascii ": " ++ reason e)
        pure false
      if let some (place, node) := existing then
        let removes := has given 'f' || has given 'i' || has given 'b'
        if removes then
          let same : Bool := match ← lookUnder target with
            | .ok (there, _) => there = place
            | .error _ => false
          if same then
            complain self (quotedPair target " and " path ++ ascii " are the same file")
            return false
          if node = .directory then
            complain self (QuotedName.ifNeeded path ++ ascii ": cannot overwrite directory")
            return false
          if has given 'i' then
            if !(← ask self (ascii "replace " ++ QuotedName.always path)) then return false
          if has given 'b' then changeFiles (·.move place (place.dropLast ++ [(place.getLast?.getD []) ++ ascii "~"]))
          else if symbolic then changeFiles (·.remove place)
          else
            match ← lookUnder target with
            | .ok (_, other) => if other ≠ node then changeFiles (·.remove place)
            | .error _ => pure ()
      let again := !symbolic && has given 'f' && existing.isSome &&
        ((← lookUnder path).toOption.isSome)
      match ← (if again then pure (.ok ()) else link symbolic follow text path) with
      | .ok () =>
          if has given 'v' then
            System.write 1 (QuotedName.always path ++ ascii (if symbolic then " -> " else " => ") ++
              QuotedName.always text ++ [Text.newline])
          pure true
      | .error e =>
          let name := QuotedName.always path
          if e = .fileExists then failed name e
          else if symbolic then
            if text = [] then failed (name ++ ascii " -> " ++ QuotedName.always text) e
            else failed name e
          else failed (name ++ ascii " => " ++ QuotedName.always target) e
    let into (dir : Bytes) (targets : List Bytes) : System Nat := do
      let mut code := 0
      let mut made : List Bytes := []
      for target in targets do
        let path := Path.join dir (Path.lastName target)
        if made.contains path then
          complain self (ascii "will not overwrite just-created " ++ QuotedName.always path ++
            ascii " with " ++ QuotedName.always target)
          code := 1
        else
          if ← one target path then made := path :: made else code := 1
      pure code
    match operands, value? given 't' with
    | [], _ => missingOperand self "file operand" none
    | targets, some dir =>
        match ← lookAt dir with
        | .ok (_, .directory) => into dir targets
        | .ok _ =>
            complain self (ascii "target " ++ QuotedName.always dir ++ ascii " is not a directory")
            pure 1
        | .error e =>
            complain self (ascii "failed to access " ++ QuotedName.always dir ++ ascii ": " ++ reason e)
            pure 1
    | [target], none =>
        if has given 'T' then missingOperand self "destination file operand" (some target)
        else into (ascii ".") [target]
    | target :: others, none =>
        let name := others.getLast?.getD []
        if has given 'T' then
          match others with
          | [_] => pure (if ← one target name then 0 else 1)
          | _ => extraOperand self (others[1]?.getD [])
        else
          let isLink := match ← lookUnder name with
            | .ok (_, .link _) => true
            | _ => false
          let found ← lookAt name
          let isDir := match found with
            | .ok (_, .directory) => !(has given 'n' && isLink)
            | _ => false
          if isDir then into name (target :: others.dropLast)
          else if others.length = 1 then pure (if ← one target name then 0 else 1)
          else
            let e := match found with
              | .error e => e
              | .ok _ => Errno.notADirectory
            complain self (ascii "target " ++ QuotedName.always name ++ ascii ": " ++ reason e)
            pure 1

end RestrictedShell.Host.Utility
