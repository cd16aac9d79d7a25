import RestrictedShell.Host.Script.Builtin.Basic
/-!
Commands of the shell that deal with its process: the directory it is in and the bits that new files
do not get.
-/

namespace RestrictedShell.Host.Script.Builtin

/-- The path that names lead to from a path, without dots and without looking at links. -/
def normal (start : Bytes) (path : Bytes) : Bytes :=
  let step (names : List Bytes) (name : Bytes) : List Bytes :=
    if name = [byte '.'] then names
    else if name = ascii ".." then names.dropLast
    else names ++ [name]
  let names (path : Bytes) : List Bytes := (path.splitOn (byte '/')).filter (· ≠ [])
  let doubled (path : Bytes) : Bool := path.take 2 = ascii "//" && path[2]? ≠ some (byte '/')
  let from_ := if path.head? = some (byte '/') then [] else names start
  let origin := if path.head? = some (byte '/') then path else start
  let kept := (names path).foldl step from_
  (if doubled origin then [byte '/'] else []) ++
    (if kept = [] then [byte '/'] else kept.flatMap (byte '/' :: ·))

/-- Does a path lead to a directory? -/
def isDirectory (p : Process) (path : Bytes) : Option Location :=
  match p.files.find p.dir path with
  | .ok (place, .directory) => some place
  | _ => none

/-- Are links to be followed? The last option counts. -/
def isPhysical (chosen : List Choice) : Bool :=
  (chosen.getLast?.map Prod.fst) == some (byte 'P')

/-- Goes to a directory, if that is possible. -/
def enter (physical : Bool) (path : Bytes) : Run Bool := do
  let s ← get
  let path := if physical then path else normal s.directory path
  match isDirectory s.process path with
  | none => pure false
  | some place =>
      Run.assign (ascii "OLDPWD") (some s.directory) true false
      let directory := if physical then Shell.pathOf place else path
      modify fun s => { s with directory, process := { s.process with dir := place } }
      Run.assign (ascii "PWD") (some directory) true false
      pure true

/-- Does a path say by itself where it begins? -/
def isAnchored (path : Bytes) : Bool :=
  path.head? = some (byte '/') || path = ascii "." || path = ascii ".." ||
    (ascii "./").isPrefixOf path || (ascii "../").isPrefixOf path

/-- The directories of the search path for directories under which a path is found first: the path
found, and whether it is to be printed. -/
def searched (s : Shell) (path : Bytes) : Option (Bytes × Bool) :=
  match s.value? (ascii "CDPATH") with
  | none => none
  | some search =>
      (search.splitOn (byte ':')).findSome? fun before =>
        let found := if before = [] then path
          else if before.getLast? = some (byte '/') then before ++ path
          else before ++ byte '/' :: path
        if (isDirectory s.process found).isSome then some (found, before ≠ []) else none

def cd : Builtin := fun args => do
  let (chosen, args) ← options ⟨"LP", ""⟩ args
  let s ← get
  let (target, back) := match args with
    | [] => ((s.value? (ascii "HOME")).getD [], false)
    | [0x2D] :: _ => ((s.value? (ascii "OLDPWD")).getD [], true)
    | path :: _ => (path, false)
  let (path, shown) :=
    if isAnchored target then (target, false)
    else
      let target := if target = [] then [byte '.'] else target
      (searched s target).getD (target, false)
  if !(← enter (isPhysical chosen) path) then Run.fail (ascii "can't cd to " ++ target)
  if back || shown then printLine (← get).directory
  pure 0

def pwd : Builtin := fun args => do
  let (chosen, _) ← options ⟨"LP", ""⟩ args
  let s ← get
  printLine (if isPhysical chosen then Shell.pathOf s.process.dir else s.directory)
  pure 0

/-- The bits that a mode in letters leaves, or `none` if it is no mode. The fuel bounds its length. -/
def symbolicMode (granted : Nat) (fuel : Nat) (bits positions : Nat) (text : Bytes) :
    Option Nat :=
  match fuel, text with
  | 0, _ => none
  | _, [] => some bits
  | fuel + 1, text =>
      let who := text.takeWhile fun b => (ascii "augo").contains b
      let positions := who.foldl (fun p b =>
        p ||| (if b == byte 'a' then 0o111 else if b == byte 'u' then 0o100
          else if b == byte 'g' then 0o010 else 0o001)) positions
      let positions := if positions = 0 then 0o111 else positions
      match text.drop who.length with
      | [] => some bits
      | sign :: rest =>
          if !(ascii "=+-").contains sign then none
          else
            let what := rest.takeWhile fun b => (ascii "rwxugoXs").contains b
            let value := what.foldl (fun v b =>
              v ||| (if b == byte 'r' then 4 else if b == byte 'w' then 2
                else if b == byte 'x' then 1 else if b == byte 'u' then granted >>> 6
                else if b == byte 'g' then granted >>> 3 else if b == byte 'o' then granted
                else if b == byte 'X' then (if granted &&& 0o111 != 0 then 1 else 0)
                else 0)) 0
            let value := (value &&& 7) * positions
            let all := 0o777
            let bits := if sign == byte '-' then bits &&& (all ^^^ value)
              else if sign == byte '=' then value ||| (bits &&& (all ^^^ (positions * 7)))
              else bits ||| value
            match rest.drop what.length with
            | 0x2C :: rest => symbolicMode granted fuel bits 0 rest
            | [] => some bits
            | b :: rest =>
                if (ascii "=+-").contains b then symbolicMode granted fuel bits positions (b :: rest)
                else none

/-- The bits in letters. -/
def modeText (granted : Nat) : Bytes :=
  let letters (k : Nat) : String :=
    (if granted >>> (3 * k) &&& 4 != 0 then "r" else "") ++
      (if granted >>> (3 * k) &&& 2 != 0 then "w" else "") ++
      (if granted >>> (3 * k) &&& 1 != 0 then "x" else "")
  ascii ("u=" ++ letters 2 ++ ",g=" ++ letters 1 ++ ",o=" ++ letters 0)

/-- The last digits of a number in base eight. -/
def octal (size n : Nat) : Bytes :=
  ((List.range size).reverse.map fun k => (48 + (n >>> (3 * k)) % 8).toUInt8)

def umask : Builtin := fun args => do
  let (chosen, args) ← options ⟨"S", ""⟩ args
  let mask := (← get).process.mask
  let granted := 0o777 ^^^ mask
  match args with
  | [] =>
      printLine (if isChosen chosen 'S' then modeText granted else octal 4 mask)
      pure 0
  | text :: _ =>
      let put (mask : Nat) : Run Nat := do
        Run.system (modify fun p => { p with mask := mask &&& 0o777 })
        pure 0
      if (text.head?.map isDigit).getD false then
        if text.all fun b => byte '0' ≤ b && b ≤ byte '7' then
          put (text.foldl (fun n b => n * 8 + (b.toNat - 48)) 0)
        else Run.illegalNumber text
      else match symbolicMode granted (text.length + 1) granted 0 text with
        | some bits => put (0o777 ^^^ bits)
        | none => Run.fail (ascii "Illegal mode: " ++ text)

def times : Builtin := fun _ => do
  let none_ := ascii "0m0.000000s"
  let line := none_ ++ [byte ' '] ++ none_
  printLine line
  printLine line
  pure 0

/-- What a process may use up, by letter: what it is called, and how much of it there is at first. -/
def limits : List (Char × String × Option Nat) :=
  [('t', "time(seconds)", none), ('f', "file(blocks)", none), ('d', "data(kbytes)", none),
    ('s', "stack(kbytes)", some 8192), ('c', "coredump(blocks)", some 0),
    ('m', "memory(kbytes)", none), ('l', "locked memory(kbytes)", some 8192),
    ('p', "process", none), ('n', "nofiles", some 1048576), ('v', "vmemory(kbytes)", none),
    ('w', "locks", none), ('r', "rtprio", some 0)]

/-- Shows or sets how much of something a process may use up. -/
def ulimit : Builtin := fun args => do
  let (chosen, args) ← options ⟨"HSatfdscmlpnvwr", ""⟩ args
  let letters := (chosen.map Prod.fst).filter fun b => b ≠ byte 'H' && b ≠ byte 'S'
  let letter := letters.getLast?.getD (byte 'f')
  let current (s : Shell) (letter : Char) (first : Option Nat) : Bytes :=
    match (s.limits.lookup (byte letter)).getD first with
    | some n => decimalBytes n
    | none => ascii "unlimited"
  match args with
  | [] =>
      let s ← get
      for (c, name, first) in limits do
        if isChosen chosen 'a' then
          let gap := String.ofList (List.replicate (20 - name.length) ' ')
          printLine (ascii (name ++ gap ++ " ") ++ current s c first)
        else if byte c == letter then printLine (current s c first)
      pure 0
  | text :: others =>
      if others ≠ [] || isChosen chosen 'a' then Run.fail (ascii "too many arguments")
      let value? ← if text = ascii "unlimited" then pure none
        else if text.all isDigit then pure (some (decimalValue text))
        else Run.fail (ascii "bad number")
      modify fun s => { s with limits := (letter, value?) :: s.limits.filter fun l => l.1 ≠ letter }
      pure 0

end RestrictedShell.Host.Script.Builtin
