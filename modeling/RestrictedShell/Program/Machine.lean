import RestrictedShell.Host
import RestrictedShell.Source.PlainReader
/-!
A session on a system whose standard input it shares with its children. Lines are read ahead in
blocks, and a child finds only what has not been read ahead.
-/

namespace RestrictedShell

/-- A launcher on a system, and what was read ahead of the system's standard input. -/
structure Machine where
  launcher : ProcessLauncher Host
  ahead : Bytes

namespace Machine

/-- How many bytes are read at a time. -/
def blockSize : Nat := 8192

/-- How much of the input is read to get at this many bytes of it. -/
def blocks (needed : Nat) : Nat :=
  (needed + blockSize - 1) / blockSize * blockSize

/-- The machine after this many bytes have been used, those read ahead first. -/
def use (m : Machine) (count : Nat) : Machine :=
  let needed := count - m.ahead.length
  let input := m.launcher.host.input
  let pulled := blocks needed
  let host := { m.launcher.host with input := input.drop pulled }
  { launcher := { m.launcher with host }
    ahead := m.ahead.drop count ++ (input.take pulled).drop needed }

def pending (m : Machine) : Nat :=
  m.ahead.length + m.launcher.host.input.length

/-- Takes the next line. -/
def next (m : Machine) : Reading × Machine :=
  let all := m.ahead ++ m.launcher.host.input
  match PlainReader.cut all with
  | (head, some _) =>
      (.line (PlainReader.strip (head ++ [Text.newline])), m.use (head.length + 1))
  | (_, none) => (PlainReader.ended all, m.use all.length)

theorem pending_use (m : Machine) (count : Nat) : (m.use count).pending ≤ m.pending - count := by
  unfold use pending
  simp only [List.length_append, List.length_drop, List.length_take]
  have hblocks : count - m.ahead.length ≤ blocks (count - m.ahead.length) := by
    unfold blocks blockSize
    omega
  generalize blocks (count - m.ahead.length) = pulled at *
  omega

theorem pending_next_le (m : Machine) : (next m).2.pending ≤ m.pending := by
  unfold next
  dsimp only
  split <;> exact Nat.le_trans (pending_use m _) (Nat.sub_le _ _)

theorem pending_next_line {m : Machine} {line : Bytes} (h : (next m).1 = .line line) :
    (next m).2.pending < m.pending := by
  have htotal : (m.ahead ++ m.launcher.host.input).length = m.pending := by
    simp [pending]
  unfold next at h ⊢
  rcases hcut : PlainReader.cut (m.ahead ++ m.launcher.host.input) with ⟨head, _ | rest⟩
  · simp only [hcut] at h ⊢
    have hne : m.ahead ++ m.launcher.host.input ≠ [] := by
      intro hempty
      simp [PlainReader.ended, hempty] at h
    have hpos := List.length_pos_iff.mpr hne
    have hle := pending_use m (m.ahead ++ m.launcher.host.input).length
    omega
  · have hlt := PlainReader.cut_length hcut
    simp only [hcut]
    have hle := pending_use m (head.length + 1)
    omega

/-- Starts a command on the system. -/
def launch (i : Invocation) (m : Machine) : Launched × Machine :=
  let answer := Launcher.launch i m.launcher
  (answer.1, { m with launcher := answer.2 })

theorem pending_launch_le (i : Invocation) (m : Machine) :
    (launch i m).2.pending ≤ m.pending := by
  have hspawn := Host.length_input_spawn_le (m.launcher.path i.command) i.argv m.launcher.host
  exact Nat.add_le_add_left hspawn _

instance : Environment Machine where
  promptStream _ := some .out
  next := next
  launch := launch
  pending := pending
  pending_next_le := pending_next_le
  pending_next_line _ _ := pending_next_line
  pending_launch_le := pending_launch_le

end Machine

end RestrictedShell
