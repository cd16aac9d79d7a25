import RestrictedShell.Host.Utility.Place
/-!
The bits that say who may do what with a file, as they are written: in base eight, by letters that
change them, and as a row of letters that shows them.
-/

namespace RestrictedShell.Host.Utility

namespace Permission

/-- Whose bits are meant. -/
def whose? (b : UInt8) : Option Nat :=
  match Char.ofNat b.toNat with
  | 'u' => some 0o4700
  | 'g' => some 0o2070
  | 'o' => some 0o1007
  | 'a' => some 0o7777
  | _ => none

/-- What a change does with bits. -/
inductive Action where
  | add
  | remove
  | put
deriving DecidableEq, Repr

/-- Which bits are named: some of them, the bits to run a file if that makes sense for it, or what others
have. -/
structure Bits where
  plain : Nat
  runs : Bool
  copied : Option Nat
deriving DecidableEq, Repr

/-- One change. Bits that are nobody's by name are changed only as far as the mask leaves them. -/
structure Change where
  whose : Option Nat
  action : Action
  bits : Bits
deriving DecidableEq, Repr

def action? (b : UInt8) : Option Action :=
  match Char.ofNat b.toNat with
  | '+' => some .add
  | '-' => some .remove
  | '=' => some .put
  | _ => none

def octal? (text : Bytes) : Option Nat :=
  if text ≠ [] && text.all fun b => 0x30 ≤ b && b ≤ 0x37 then
    let n := text.foldl (fun n b => n * 8 + (b.toNat - 48)) 0
    if n ≤ 0o7777 then some n else none
  else none

/-- The bits of a row of letters. -/
def bits (text : Bytes) : Bits × Bytes :=
  let isLetter (b : UInt8) : Bool := (ascii "rwxXst").contains b
  let letters := text.takeWhile isLetter
  let has (c : Char) : Bool := letters.contains (charByte c)
  let plain := (if has 'r' then 0o444 else 0) ||| (if has 'w' then 0o222 else 0) |||
    (if has 'x' then 0o111 else 0) ||| (if has 's' then 0o6000 else 0) |||
    (if has 't' then 0o1000 else 0)
  (⟨plain, has 'X', none⟩, text.drop letters.length)

/-- Reads changes of bits of the same owners. The fuel bounds their number. -/
def changes (fuel : Nat) (whose : Option Nat) (text : Bytes) : Option (List Change × Bytes) :=
  match fuel, text with
  | fuel + 1, b :: rest =>
      match action? b with
      | none => some ([], text)
      | some action =>
          let digits := rest.takeWhile fun b => 0x30 ≤ b && b ≤ 0x37
          let read : Option (Bits × Option Nat × Bytes) :=
            if digits ≠ [] then
              if whose.isSome then none
              else (octal? digits).bind fun n =>
                let behind := rest.drop digits.length
                if behind = [] || behind.head? = some 0x2C then
                  some (⟨n, false, none⟩, some 0o7777, behind)
                else none
            else match rest with
              | c :: more =>
                  if c = charByte 'u' || c = charByte 'g' || c = charByte 'o' then
                    some (⟨0, false, whose? c⟩, whose, more)
                  else
                    let (bits, more) := bits rest
                    some (bits, whose, more)
              | [] => some (⟨0, false, none⟩, whose, [])
          match read with
          | none => none
          | some (bits, whose, rest) =>
              (changes fuel whose rest).map fun r => (⟨whose, action, bits⟩ :: r.1, r.2)
  | _, text => some ([], text)

/-- Reads groups of changes with commas between them. The fuel bounds their number. -/
def groups (fuel : Nat) (text : Bytes) : Option (List Change) :=
  let owners := text.takeWhile fun b => (whose? b).isSome
  let whose := if owners = [] then none
    else some (owners.foldl (fun n b => n ||| (whose? b).getD 0) 0)
  match changes (text.length + 1) whose (text.drop owners.length) with
  | none | some ([], _) => none
  | some (first, []) => some first
  | some (first, b :: rest) =>
      match fuel with
      | 0 => none
      | fuel + 1 => if b = 0x2C then (groups fuel rest).map (first ++ ·) else none

/-- A mode: the changes it stands for. -/
def ofText? (text : Bytes) : Option (List Change) :=
  if text ≠ [] && text.all fun b => 0x30 ≤ b && b ≤ 0x39 then
    (octal? text).map fun n => [⟨some 0o7777, .put, ⟨n, false, none⟩⟩]
  else groups text.length text

/-- Bits that have been changed. `mask` holds the bits that are left alone if nobody is named. -/
def Change.apply (mask : Nat) (isDirectory : Bool) (mode : Nat) (c : Change) : Nat :=
  let copied := match c.bits.copied with
    | none => 0
    | some owner =>
        let kept := mode &&& owner &&& 0o777
        let r := if kept &&& 0o444 ≠ 0 then 0o444 else 0
        let w := if kept &&& 0o222 ≠ 0 then 0o222 else 0
        let x := if kept &&& 0o111 ≠ 0 then 0o111 else 0
        r ||| w ||| x
  let runs := if c.bits.runs && (isDirectory || mode &&& 0o111 ≠ 0) then 0o111 else 0
  let allowed := match c.whose with
    | some owners => owners
    | none => 0o7777 &&& (0o7777 ^^^ mask)
  let value := (c.bits.plain ||| copied ||| runs) &&& allowed
  let without (bits : Nat) : Nat := mode &&& (0o7777 ^^^ bits)
  match c.action with
  | .add => mode ||| value
  | .remove => without value
  | .put =>
      let cleared := match c.whose with
        | some owners => owners
        | none => 0o7777
      (mode &&& (0o7777 ^^^ cleared)) ||| value

def apply (changes : List Change) (mask : Nat) (isDirectory : Bool) (mode : Nat) : Nat :=
  changes.foldl (Change.apply mask isDirectory) mode

/-- A mode in base eight, with at least four digits. -/
def octal (mode : Nat) : Bytes :=
  let digits := Nat.toDigits 8 mode
  ascii (String.ofList (List.replicate (4 - digits.length) '0' ++ digits))

/-- A mode as a row of letters. -/
def letters (mode : Nat) : Bytes :=
  let has (bit : Nat) : Bool := mode &&& bit ≠ 0
  let three (shift special : Nat) (both alone : Char) : List Char :=
    let bit (n : Nat) : Bool := has (n <<< shift)
    [if bit 4 then 'r' else '-', if bit 2 then 'w' else '-',
      match bit 1, has special with
      | true, true => both
      | false, true => alone
      | true, false => 'x'
      | false, false => '-']
  ascii (String.ofList (three 6 0o4000 's' 'S' ++ three 3 0o2000 's' 'S' ++ three 0 0o1000 't' 'T'))

/-- A mode both ways. -/
def shown (mode : Nat) : Bytes :=
  octal mode ++ ascii " (" ++ letters mode ++ ascii ")"

/-- Does an argument look like an option, but is a mode? -/
def looksLikeMode (arg : Bytes) : Bool :=
  match arg with
  | 0x2D :: b :: _ => (ascii "rwxXstugo,+=-01234567").contains b && b ≠ 0x2D
  | _ => false

def switches : List Switch :=
  [.both 'c' "changes", .both 'f' "quiet", ⟨'f', false, some "silent", .nothing⟩,
    .both 'R' "recursive", .both 'v' "verbose", ⟨'=', false, some "reference", .value⟩,
    .named 'N' "no-preserve-root", .named 'P' "preserve-root"]

/-- The mode among some arguments that is given like an option, and the other arguments. -/
def takeMode (args : List Bytes) : Option Bytes × List Bytes :=
  let (before, after) := args.span (· ≠ ascii "--")
  let modes := before.filter looksLikeMode
  (if modes = [] then none else some ([0x2C].intercalate modes),
    before.filter (!looksLikeMode ·) ++ after)

/-- Changes the bits of what stands at a path, and below it if asked for. The fuel bounds the depth. -/
def change (self : Bytes) (given : List Given) (asOption : Bool) (changes : List Change)
    (fuel : Nat) (top : Bool) (path : Bytes) : System Bool := do
  let quiet := has given 'f'
  let verbose := has given 'v'
  let failed (before : Bytes) (e : Errno) : System Bool := do
    if !quiet then
      complain self (before ++ QuotedName.always path ++
        (if e = 0 then [] else ascii ": " ++ reason e))
    if verbose then
      System.write 1 (QuotedName.always path ++ ascii " could not be accessed\n")
    pure false
  match ← lookAt path, ← lookUnder path with
  | .error _, .ok (_, .link _) =>
      if !top then pure true
      else failed (ascii "cannot operate on dangling symlink ") 0
  | .error e, _ => failed (ascii "cannot access ") e
  | .ok (place, node), _ =>
      let p ← get
      let isDirectory := node = .directory
      let before := (p.files.body? place).map FileBody.mode |>.getD (if isDirectory then 0o755 else 0)
      let after := apply changes p.mask isDirectory before
      if let .file number := node then
        changeFiles (·.setMode number after)
      let name := QuotedName.always path
      if before = after then
        if verbose then
          System.write 1 (ascii "mode of " ++ name ++ ascii " retained as " ++ shown after ++
            [Text.newline])
      else if verbose || has given 'c' then
        System.write 1 (ascii "mode of " ++ name ++ ascii " changed from " ++ shown before ++
          ascii " to " ++ shown after ++ [Text.newline])
      let plain := apply changes 0 isDirectory before
      let mut ok := true
      if asOption && !quiet && after ≠ plain && after &&& (0o7777 ^^^ plain) ≠ 0 then
        complain self (QuotedName.ifNeeded path ++ ascii ": new permissions are " ++ letters after ++
          ascii ", not " ++ letters plain)
        ok := false
      if has given 'R' && isDirectory then
        match fuel with
        | 0 => pure ()
        | fuel + 1 =>
            for name in p.files.children place do
              if !(← change self given asOption changes fuel false (Path.join path name)) then
                ok := false
      pure ok

end Permission

open Permission in
/-- Changes the bits of files. -/
def chmod : Program := coded fun self args => do
  let (mode?, args) := takeMode args
  withOptions switches 1 self args fun given operands => do
    let (mode?, asOption, operands) := match mode?, value? given '=', operands with
      | some mode, _, _ => (some mode, true, operands)
      | none, some _, _ => (none, false, operands)
      | none, none, mode :: rest => (some mode, false, rest)
      | none, none, [] => (none, false, [])
    let reference := value? given '='
    match operands, mode?, reference with
    | [], some mode, _ => missingOperand self "operand" (if asOption then none else some mode)
    | [], none, _ => missingOperand self "operand" none
    | _, _, _ =>
        let changes? ← match mode?, reference with
          | some mode, _ => do
              let changes? := ofText? mode
              if changes?.isNone then
                complain self (ascii "invalid mode: " ++ QuotedName.inText mode)
                pointToHelp self
              pure changes?
          | none, some path => do
              match ← lookAt path with
              | .ok (place, _) =>
                  let body? := (← get).files.body? place
                  let mode := (body?.map FileBody.mode).getD 0o755
                  pure (some [⟨some 0o7777, .put, ⟨mode, false, none⟩⟩])
              | .error e =>
                  complain self (ascii "failed to get attributes of " ++ QuotedName.always path ++
                    ascii ": " ++ reason e)
                  pure none
          | none, none => pure none
        match changes? with
        | none => pure 1
        | some changes =>
            let depth := (← get).files.entries.length
            forEach operands (change self given asOption changes depth true)

end RestrictedShell.Host.Utility
