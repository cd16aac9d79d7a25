import RestrictedShell.Host.Script.Builtin.Basic
import RestrictedShell.Host.Script.Draft
/-!
Commands of the shell that deal with its own state: variables, arguments, settings and aliases.
-/

namespace RestrictedShell.Host.Script.Builtin

/-- Lists variables in the order of their names, with their values in quotes. -/
def list (word : String) (chosen : Variable → Bool) : Run Unit := do
  let line (v : Variable) : Bytes :=
    (if word = "" then [] else ascii (word ++ " ")) ++ v.name ++
      match v.value? with
      | some value => byte '=' :: quoted value
      | none => []
  let listed := ((← get).bindings.filter chosen).mergeSort fun a b => decide (a.name ≤ b.name)
  for v in listed do
    printLine (line v)

/-- Marks variables as exported or as fixed, or lists those that are. -/
def mark (word : String) (exports protects : Bool) : Builtin := fun args => do
  let (chosen, names) ← options ⟨"p", ""⟩ args
  if isChosen chosen 'p' || names = [] then
    list word fun v => (exports && v.exported) || (protects && v.readOnly)
  else
    for word in names do
      let (name, value?) := assignment word
      match value?, (← get).find? word with
      | none, some v =>
          modify fun s => s.put { v with
            exported := v.exported || exports
            readOnly := v.readOnly || protects }
      | value?, _ => Run.assignNamed name value? exports protects
  pure 0

def unset : Builtin := fun args => do
  let (chosen, names) ← options ⟨"vf", ""⟩ args
  let functions := (chosen.getLast?.map Prod.fst) == some (byte 'f')
  for name in names do
    if functions then
      modify fun s => { s with functions := s.functions.filter fun f => f.1 ≠ name }
    else Run.assignNamed name none false false
  pure 0

/-- Makes variables local to the function that is being carried out. -/
def makeLocal : Builtin := fun args => do
  if (← get).frames.isEmpty then Run.fail (ascii "not in a function")
  for word in args do
    let (name, value?) := assignment word
    Run.makeLocal name value? false
  pure 0

def shift : Builtin := fun args => do
  let n ← match args with
    | text :: _ => Run.count text
    | [] => pure 1
  if (← get).arguments.length < n then Run.fail (ascii "can't shift that many")
  modify fun s => { s with
    arguments := s.arguments.drop n
    optionPlace := 1
    optionOffset := none }
  pure 0

/-- Gives the script new arguments. -/
def setArguments (args : List Bytes) : Run Unit :=
  modify fun s => { s with arguments := args, optionPlace := 1, optionOffset := none }

def listSettings (asCommands : Bool) : Run Unit := do
  let s ← get
  if !asCommands then printLine (ascii "Current option settings")
  for (setting, name, _) in Setting.all do
    if asCommands then
      printLine (ascii ("set " ++ (if s.has setting then "-o " else "+o ") ++ name))
    else
      let padding := String.ofList (List.replicate (16 - name.length) ' ')
      printLine (ascii (name ++ padding ++ if s.has setting then "on" else "off"))

/-- Switches the setting with a letter. -/
def switchLetter (b : UInt8) (on : Bool) : Run Unit := do
  match Setting.ofLetter? b with
  | some setting =>
      modify fun s =>
        let s := s.switch setting on
        if on && setting = .vi then s.switch .emacs false
        else if on && setting = .emacs then s.switch .vi false
        else s
      if on && setting = .monitor then
        Run.warn (ascii "can't access tty; job control turned off")
        modify fun s => s.switch .monitor false
  | none => Run.fail (ascii "Illegal option -" ++ [b])

/-- Reads the letters of one argument, of which an `o` takes the next argument as a name. -/
def switchLetters (on : Bool) (later : List Bytes) : Bytes → Run (List Bytes)
  | [] => pure later
  | b :: rest => do
      if b == byte 'o' then
        match later with
        | [] =>
            listSettings !on
            switchLetters on [] rest
        | name :: later =>
            match Setting.ofName? name with
            | some setting => modify fun s => s.switch setting on
            | none => Run.fail (ascii "Illegal option -o " ++ name)
            switchLetters on later rest
      else
        switchLetter b on
        switchLetters on later rest

/-- Switches settings, and gives the arguments behind them. The fuel bounds their number. -/
def switchAll (fuel : Nat) (args : List Bytes) : Run (List Bytes) := do
  match fuel, args with
  | fuel + 1, (sign :: rest) :: later =>
      if sign == byte '-' then
        if rest = [] then
          modify fun s => (s.switch .xtrace false).switch .verbose false
          pure later
        else if rest = [byte '-'] then
          if later = [] then setArguments []
          pure later
        else switchAll fuel (← switchLetters true later rest)
      else if sign == byte '+' then switchAll fuel (← switchLetters false later rest)
      else pure args
  | _, args => pure args

def set : Builtin := fun args => do
  if args = [] then list "" fun v => v.value?.isSome
  else
    let rest ← switchAll (args.length + 1) args
    if rest ≠ [] then setArguments rest
  pure 0

/-- How far `getopts` comes with its next option: the letter found and its value, and where it goes
on. -/
structure Parsed where
  letter : UInt8
  value? : Option (Option Bytes)
  complaint : Bytes
  place : Nat
  offset : Option Nat
  finished : Bool

/-- Finds the next option in some arguments. -/
def nextOption (known : Bytes) (args : List Bytes) (place : Nat) (offset : Option Nat) : Parsed :=
  let question : UInt8 := byte '?'
  let under := if place ≤ 1 then none else do
    let word ← args[place - 2]?
    let offset ← offset
    if offset < word.length then some (word.drop offset) else none
  let finish (place : Nat) : Parsed := ⟨question, none, [], place, none, true⟩
  let found (letter : UInt8) (rest : Bytes) (place : Nat) : Parsed :=
    let quiet := known.head? == some (byte ':')
    let goesOn (value? : Option (Option Bytes)) (letter : UInt8) (complaint : Bytes) : Parsed :=
      let word := (args[place - 2]?).getD []
      ⟨letter, value?, complaint, place, some (word.length - rest.length), false⟩
    match known.dropWhile (· != letter) with
    | [] =>
        if quiet then goesOn (some (some [letter])) question []
        else goesOn (some none) question (ascii "Illegal option -" ++ [letter])
    | _ :: 0x3A :: _ =>
        if rest ≠ [] then ⟨letter, some (some rest), [], place, none, false⟩
        else match args[place - 1]? with
          | some value => ⟨letter, some (some value), [], place + 1, none, false⟩
          | none =>
              if quiet then ⟨byte ':', some (some [letter]), [], place, none, false⟩
              else
                ⟨question, some none, ascii "No arg for -" ++ [letter] ++ ascii " option", place,
                  none, false⟩
    | _ => goesOn (some (some [])) letter []
  match under with
  | some (letter :: rest) => found letter rest place
  | _ =>
      match args[place - 1]? with
      | some (0x2D :: letter :: rest) =>
          if letter :: rest = ascii "-" then finish (place + 1)
          else found letter rest (place + 1)
      | _ => finish place

def getopts : Builtin := fun args => do
  match args with
  | known :: name :: given => do
      let s ← get
      let words := if given = [] then s.arguments else given
      let (place, offset) := if words.length + 1 < s.optionPlace then (1, none)
        else (s.optionPlace, s.optionOffset)
      let parsed := nextOption known words place offset
      if parsed.complaint ≠ [] then report parsed.complaint
      if let some value? := parsed.value? then
        Run.assign (ascii "OPTARG") value? false false
      Run.assign (ascii "OPTIND") (some (decimalBytes parsed.place)) false false
      Run.assignNamed name (some [parsed.letter]) false false
      modify fun s => { s with optionPlace := parsed.place, optionOffset := parsed.offset }
      pure (if parsed.finished then 1 else 0)
  | _ => Run.fail (ascii "Usage: getopts optstring var [arg...]")

/-- Takes a line: what was read as far as it counts, with the stretches that may be cut, how much was
taken, and whether a newline ended it. -/
def takeLine (raw : Bool) (d : Draft) (start taken : Nat) : Bytes → Draft × Nat × Bool
  | [] => (d.mark start false, taken, false)
  | b :: rest =>
      if b == 0 then takeLine raw d start (taken + 1) rest
      else if b == Text.newline then (d.mark start false, taken + 1, true)
      else if b == byte '\\' && !raw then
        let d := d.mark start false
        match rest with
        | [] => (d, taken + 1, false)
        | c :: rest =>
            let d := if c == Text.newline || c == 0 then d else d.push (.byte c true)
            takeLine raw d d.size (taken + 2) rest
      else takeLine raw (d.push (.byte b false)) start (taken + 1) rest

def read : Builtin := fun args => do
  let (chosen, names) ← options ⟨"r", "p"⟩ args
  if names = [] then Run.fail (ascii "arg count")
  let s ← get
  let bytes := (s.process.available 0).toOption.getD []
  let (d, taken, ended) := takeLine (isChosen chosen 'r') .empty 0 0 bytes
  Run.system (modify (Process.consume 0 taken))
  let pieces := d.cut (s.separators?.getD Shell.usualSeparators) (some names.length)
  for (name, k) in names.zipIdx do
    Run.assignNamed name (some ((pieces[k]?.map Draft.bytesOf).getD [])) false false
  pure (if ended then 0 else 1)

def aliasLine (entry : Bytes × Bytes) : Bytes :=
  entry.1 ++ byte '=' :: quoted entry.2

def defineAlias : Builtin := fun args => do
  let mut status := 0
  if args = [] then
    let entries := (← get).aliases.mergeSort fun a b => Shell.bucket a.1 ≤ Shell.bucket b.1
    for entry in entries do
      printLine (aliasLine entry)
  for word in args do
    let rest := word.tail.dropWhile (· != byte '=')
    let name := word.take (word.length - rest.length)
    let old? := (← get).aliases.lookup name
    match rest, old? with
    | _ :: text, some _ =>
        modify fun s => { s with
          aliases := s.aliases.map fun a => if a.1 = name then (name, text) else a }
    | _ :: text, none => modify fun s => { s with aliases := s.aliases ++ [(name, text)] }
    | [], some text => printLine (aliasLine (name, text))
    | [], none =>
        report (ascii "alias: " ++ word ++ ascii " not found")
        status := 1
  pure status

def unalias : Builtin := fun args => do
  let (chosen, names) ← options ⟨"a", ""⟩ args
  let mut status := 0
  if isChosen chosen 'a' then modify fun s => { s with aliases := [] }
  else
    for name in names do
      if ((← get).aliases.lookup name).isSome then
        modify fun s => { s with aliases := s.aliases.filter fun a => a.1 ≠ name }
      else
        report (ascii "unalias: " ++ name ++ ascii " not found")
        status := 1
  pure status

end RestrictedShell.Host.Script.Builtin
