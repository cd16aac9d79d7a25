import RestrictedShell.Host.FileTree
import RestrictedShell.Host.Script.Draft
/-!
The files whose paths match a pattern. A slash is only matched by a slash, and a dot at the beginning
of a name only by a dot.
-/

namespace RestrictedShell.Host.Script.Paths

def slash : UInt8 := byte '/'

/-- Is there a closing bracket before the next slash? -/
def closesBracket : Bytes → Bool
  | [] => false
  | 0x5C :: c :: rest => c != slash && (rest.head? == some 0x5D || closesBracket rest)
  | c :: rest => c != slash && (rest.head? == some 0x5D || closesBracket rest)

/-- Is there anything in a pattern without slashes that may stand for other bytes? -/
def isPattern : Pattern → Bool
  | [] => false
  | 0x5C :: _ :: rest => isPattern rest
  | b :: rest =>
      b == byte '*' || b == byte '?' ||
        (b == byte '[' && closesBracket (if rest.head? == some (byte '!') then rest.tail else rest)) ||
        isPattern rest

/-- The bytes of a pattern in which nothing stands for other bytes. -/
def plain : Pattern → Bytes
  | [] => []
  | 0x5C :: b :: rest => b :: plain rest
  | b :: rest => b :: plain rest

/-- Splits off what stands before the next slash. The slash may be escaped. -/
def splitSlash (taken : Pattern) : Pattern → Pattern × Option Pattern
  | [] => (taken.reverse, none)
  | 0x5C :: b :: rest =>
      if b == slash then (taken.reverse, some rest) else splitSlash (b :: 0x5C :: taken) rest
  | b :: rest => if b == slash then (taken.reverse, some rest) else splitSlash (b :: taken) rest

/-- The parts of a pattern between slashes. -/
def parts (fuel : Nat) (pattern : Pattern) : List Pattern :=
  match fuel with
  | 0 => [pattern]
  | fuel + 1 =>
      match splitSlash [] pattern with
      | (first, some rest) => first :: parts fuel rest
      | (first, none) => [first]

/-- The paths that match the parts of a pattern behind a path that is given. -/
def grow (files : FileTree) (dir : Location) (before : Bytes) : List Pattern → List Bytes
  | [] => []
  | part :: rest =>
      let joined (name : Bytes) : Bytes := if rest.isEmpty then before ++ name else before ++ name ++ [slash]
      if isPattern part then
        let place := if before = [] then .ok dir else files.resolve true dir before
        match place with
        | .error _ => []
        | .ok place =>
            if files.node? place == some .directory then
              let shown := (if part.head? == some 0x5C then part.tail else part).head? == some (byte '.')
              let names := [[byte '.'], [byte '.', byte '.']] ++ files.children place
              let names := names.filter fun n =>
                (shown || n.head? != some (byte '.')) && Pattern.accepts part n
              if rest.isEmpty then names.map joined
              else names.flatMap fun n => grow files dir (joined n) rest
            else []
      else if rest.isEmpty then
        let path := joined (plain part)
        match files.resolve false dir path with
        | .ok place => if (files.node? place).isSome then [path] else []
        | .error _ => []
      else grow files dir (joined (plain part)) rest

/-- The paths that match a pattern, in the order of their bytes. There are none for a pattern in which
nothing stands for other bytes. -/
def matching (files : FileTree) (dir : Location) (pattern : Pattern) : List Bytes :=
  let parts := parts (pattern.length + 1) pattern
  if parts.any isPattern then
    (grow files dir [] parts).mergeSort fun a b => decide (a ≤ b)
  else []

end RestrictedShell.Host.Script.Paths
