import Mathlib.Algebra.Group.Nat.Defs
import Mathlib.Tactic.SplitIfs
import RestrictedShell.Proofs.Text.Ascii
/-!
The forms of characters, and what the first bytes of a form tell of the character. The table of
first bytes admits exactly the values whose form begins in this way, so that an unfinished character
stands for all the characters that can still come of it.
-/

namespace RestrictedShell.Text

theorem encode_ofList (cs : List Char) :
    encode (String.ofList cs) = cs.flatMap String.utf8EncodeChar := by
  rw [encode_eq_flatMap, String.toList_ofList]

/-- How many bytes come behind the first in the form of a character beyond ASCII. -/
def tailLength (v : Nat) : Nat :=
  if v < 0x800 then 1 else if v < 0x10000 then 2 else 3

/-- The bits by which the first byte tells how many come behind it. -/
def leadMark : Nat → Nat
  | 1 => 0xC0
  | 2 => 0xE0
  | _ => 0xF0

@[simp]
theorem leadMark_one : leadMark 1 = 0xC0 := rfl

@[simp]
theorem leadMark_two : leadMark 2 = 0xE0 := rfl

@[simp]
theorem leadMark_three : leadMark 3 = 0xF0 := rfl

/-- The last bytes of the form of a character, with six bits of its value each. -/
def continuation : Nat → Nat → Bytes
  | 0, _ => []
  | n + 1, v => UInt8.ofNat (0x80 + v / 64 ^ n % 64) :: continuation n v

theorem toNat_ofNat_of_lt {n : Nat} (h : n < 256) : (UInt8.ofNat n).toNat = n := by
  rw [UInt8.toNat_ofNat']
  exact Nat.mod_eq_of_lt h

theorem toNat_ofNat_of_valid {v : Nat} (h : v.isValidChar) : (Char.ofNat v).toNat = v := by
  rw [Char.ofNat, dif_pos h]
  rfl

theorem utf8EncodeChar_of_byte {b : UInt8} (h : b.toNat < 0x80) :
    String.utf8EncodeChar (Char.ofNat b.toNat) = [b] := by
  have hvalue : (Char.ofNat b.toNat).toNat = b.toNat :=
    toNat_ofNat_of_valid (.inl (Nat.lt_trans h (by decide)))
  rw [utf8EncodeChar_of_ascii (by rwa [hvalue]), List.singleton_inj, ← UInt8.toNat_inj,
    UInt32.toNat_toUInt8]
  exact (congrArg (· % 256) hvalue).trans (Nat.mod_eq_of_lt b.toNat_lt)

theorem toNat_lt (c : Char) : c.toNat < 0x110000 := by
  rcases c.valid with h | ⟨_, h⟩
  · exact Nat.lt_trans h (by decide)
  · exact h

theorem utf8EncodeChar_of_high {c : Char} (h : 0x80 ≤ c.toNat) :
    String.utf8EncodeChar c =
      UInt8.ofNat (leadMark (tailLength c.toNat) + c.toNat / 64 ^ tailLength c.toNat) ::
        continuation (tailLength c.toNat) c.toNat := by
  have hless := toNat_lt c
  have hvalue : c.val.toNat = c.toNat := rfl
  rw [String.utf8EncodeChar, hvalue]
  generalize c.toNat = v at h hless
  have hascii : ¬ v ≤ 127 := by omega
  unfold tailLength
  by_cases htwo : v < 0x800
  · have hlead : v / 64 % 32 + 192 = 0xC0 + v / 64 := by omega
    simp [hascii, htwo, Nat.le_of_lt_succ htwo, leadMark, continuation, hlead, Nat.add_comm]
  by_cases hthree : v < 0x10000
  · have hlead : v / 4096 % 16 + 224 = 0xE0 + v / 4096 := by omega
    have hmore : ¬ v ≤ 2047 := by omega
    simp [hascii, htwo, hmore, hthree, Nat.le_of_lt_succ hthree, leadMark, continuation, hlead,
      Nat.add_comm]
  · have hlead : v / 262144 % 8 + 240 = 0xF0 + v / 262144 := by omega
    have hmore : ¬ v ≤ 2047 := by omega
    have hmost : ¬ v ≤ 65535 := by omega
    simp [hascii, htwo, hmore, hthree, hmost, leadMark, continuation, hlead, Nat.add_comm]

namespace Unfinished

/-- The values that can still come of the character. -/
def Admits (u : Unfinished) (v : Nat) : Prop :=
  u.value * 64 + (u.low.toNat - 0x80) ≤ v / 64 ^ (u.missing - 1) ∧
    v / 64 ^ (u.missing - 1) ≤ u.value * 64 + (u.high.toNat - 0x80)

/-- Something is missing, and the next of it must be a byte that no character begins with. -/
structure Open (u : Unfinished) : Prop where
  missing_pos : 0 < u.missing
  low_le : 0x80 ≤ u.low.toNat
  low_le_high : u.low.toNat ≤ u.high.toNat
  high_le : u.high.toNat ≤ 0xBF

theorem ofLead?_eq (b : UInt8) :
    ofLead? b =
      if 0xC2 ≤ b.toNat ∧ b.toNat ≤ 0xDF then some ⟨b.toNat - 0xC0, 1, 0x80, 0xBF⟩
      else if b.toNat = 0xE0 then some ⟨0, 2, 0xA0, 0xBF⟩
      else if b.toNat = 0xED then some ⟨0xD, 2, 0x80, 0x9F⟩
      else if 0xE1 ≤ b.toNat ∧ b.toNat ≤ 0xEF then some ⟨b.toNat - 0xE0, 2, 0x80, 0xBF⟩
      else if b.toNat = 0xF0 then some ⟨0, 3, 0x90, 0xBF⟩
      else if 0xF1 ≤ b.toNat ∧ b.toNat ≤ 0xF3 then some ⟨b.toNat - 0xF0, 3, 0x80, 0xBF⟩
      else if b.toNat = 0xF4 then some ⟨4, 3, 0x80, 0x8F⟩
      else none := by
  simp only [ofLead?, UInt8.le_iff_toNat_le, ← UInt8.toNat_inj]
  rfl

theorem of_lead {b : UInt8} {u : Unfinished} (h : ofLead? b = some u) :
    0x80 ≤ b.toNat ∧ u.Open ∧ ∀ v, u.Admits v →
      v.isValidChar ∧ 0x80 ≤ v ∧ tailLength v = u.missing ∧
        b.toNat = leadMark u.missing + v / 64 ^ u.missing := by
  rw [ofLead?_eq] at h
  -- Each of the seven rows of the table is a statement about the values that it admits.
  split_ifs at h
  all_goals
    obtain rfl := Option.some.inj h
    refine ⟨by omega, ⟨by simp, by simp, by simp, by simp⟩, ?_⟩
    rintro v ⟨hlow, hhigh⟩
    simp only [UInt8.reduceToNat, Nat.reduceSub, Nat.reducePow, Nat.reduceMul, Nat.div_one]
      at hlow hhigh
    refine ⟨?_, by omega, ?_, ?_⟩
    · unfold Nat.isValidChar
      omega
    · unfold tailLength
      split_ifs <;> dsimp only <;> omega
    · simp only [leadMark_one, leadMark_two, leadMark_three, Nat.reducePow]
      omega

/-- Every character beyond ASCII has a first byte, and is one of those that it admits. -/
theorem exists_lead {c : Char} (h : 0x80 ≤ c.toNat) :
    ∃ b u, ofLead? b = some u ∧ u.Admits c.toNat := by
  have hvalid : c.toNat < 0xD800 ∨ 0xDFFF < c.toNat ∧ c.toNat < 0x110000 := c.valid
  generalize c.toNat = v at h hvalid
  have hless : leadMark (tailLength v) + v / 64 ^ tailLength v < 256 := by
    unfold tailLength
    split_ifs <;> simp only [leadMark_one, leadMark_two, leadMark_three, Nat.reducePow] <;> omega
  have hfirst := toNat_ofNat_of_lt hless
  refine ⟨UInt8.ofNat (leadMark (tailLength v) + v / 64 ^ tailLength v), ?_⟩
  rw [ofLead?_eq, hfirst]
  clear hfirst hless
  unfold tailLength
  split_ifs
  all_goals simp only [leadMark_one, leadMark_two, leadMark_three, Nat.reducePow] at *
  -- The value rules out all rows of the table but its own.
  any_goals omega
  all_goals
    refine ⟨_, rfl, ?_, ?_⟩ <;>
      simp only [UInt8.reduceToNat, Nat.reduceSub, Nat.reducePow, Nat.reduceMul] <;> omega

/-- The character after one more byte, if it is not the last. -/
def next (u : Unfinished) (b : UInt8) : Unfinished :=
  ⟨u.value * 64 + (b.toNat - 0x80), u.missing - 1, 0x80, 0xBF⟩

/-- The byte is one of those that may come next. -/
def Continues (u : Unfinished) (b : UInt8) : Prop :=
  u.low ≤ b ∧ b ≤ u.high

theorem Open.high_of_continues {u : Unfinished} (h : u.Open) {b : UInt8} (hb : u.Continues b) :
    0x80 ≤ b.toNat ∧ b.toNat ≤ 0xBF := by
  obtain ⟨hlow, hhigh⟩ := hb
  rw [UInt8.le_iff_toNat_le] at hlow hhigh
  exact ⟨Nat.le_trans h.low_le hlow, Nat.le_trans hhigh h.high_le⟩

theorem Open.next {u : Unfinished} {b : UInt8} (hmore : 1 < u.missing) : (u.next b).Open :=
  ⟨Nat.sub_pos_of_lt hmore, (by decide : 0x80 ≤ (0x80 : UInt8).toNat),
    (by decide : (0x80 : UInt8).toNat ≤ (0xBF : UInt8).toNat),
    (by decide : (0xBF : UInt8).toNat ≤ 0xBF)⟩

theorem Open.admits_of_next {u : Unfinished} (h : u.Open) {b : UInt8} (hb : u.Continues b) {v : Nat}
    (hv : v / 64 ^ (u.missing - 1) = u.value * 64 + (b.toNat - 0x80)) :
    u.Admits v ∧ continuation u.missing v = b :: continuation (u.missing - 1) v := by
  obtain ⟨hfirst, hlast⟩ := h.high_of_continues hb
  obtain ⟨hlow, hhigh⟩ := hb
  rw [UInt8.le_iff_toNat_le] at hlow hhigh
  obtain ⟨n, hn⟩ := Nat.exists_eq_add_one_of_ne_zero (Nat.ne_of_gt h.missing_pos)
  refine ⟨⟨by omega, by omega⟩, ?_⟩
  rw [hn, Nat.add_sub_cancel] at hv ⊢
  have hbyte : UInt8.ofNat (0x80 + v / 64 ^ n % 64) = b := by
    rw [← UInt8.toNat_inj, toNat_ofNat_of_lt (by omega)]
    omega
  rw [continuation, hbyte]

theorem admits_next_iff {u : Unfinished} {b : UInt8} {v : Nat} (hmore : 1 < u.missing) :
    (u.next b).Admits v ↔ v / 64 ^ (u.missing - 1) = u.value * 64 + (b.toNat - 0x80) := by
  obtain ⟨n, hn⟩ := Nat.exists_eq_add_of_le hmore
  have hless : u.missing - 1 - 1 = n := by omega
  have hmissing : u.missing - 1 = n + 1 := by omega
  unfold Admits next
  simp only [hless, UInt8.reduceToNat, Nat.reduceSub]
  rw [hmissing, Nat.pow_succ, ← Nat.div_div_eq_div_mul]
  omega

theorem Open.exists_byte {u : Unfinished} (h : u.Open) {v : Nat} (hv : u.Admits v) :
    ∃ b, u.Continues b ∧ v / 64 ^ (u.missing - 1) = u.value * 64 + (b.toNat - 0x80) := by
  obtain ⟨_, hlow, hrange, hhigh⟩ := h
  obtain ⟨hfirst, hlast⟩ := hv
  generalize v / 64 ^ (u.missing - 1) = x at hfirst hlast
  refine ⟨UInt8.ofNat (0x80 + (x - u.value * 64)), ⟨?_, ?_⟩, ?_⟩
  · rw [UInt8.le_iff_toNat_le, toNat_ofNat_of_lt (by omega)]
    omega
  · rw [UInt8.le_iff_toNat_le, toNat_ofNat_of_lt (by omega)]
    omega
  · rw [toNat_ofNat_of_lt (by omega)]
    omega

/-- After these bytes: every value that can still come is one of a character beyond ASCII whose form
begins with them. -/
structure Awaits (u : Unfinished) (front : Bytes) : Prop where
  isOpen : u.Open
  high : ∀ b ∈ front, 0x80 ≤ b.toNat
  encoded : ∀ v, u.Admits v → v.isValidChar ∧ 0x80 ≤ v ∧
    String.utf8EncodeChar (Char.ofNat v) = front ++ continuation u.missing v

theorem awaits_of_lead {b : UInt8} {u : Unfinished} (h : ofLead? b = some u) : u.Awaits [b] := by
  obtain ⟨hhigh, hopen, hadmits⟩ := of_lead h
  refine ⟨hopen, by simpa using hhigh, fun v hv => ?_⟩
  obtain ⟨hvalid, hbeyond, htail, hlead⟩ := hadmits v hv
  refine ⟨hvalid, hbeyond, ?_⟩
  have hvalue := toNat_ofNat_of_valid hvalid
  rw [utf8EncodeChar_of_high (by rwa [hvalue]), hvalue, htail, ← hlead, UInt8.ofNat_toNat]
  rfl

theorem exists_awaits {c : Char} (h : 0x80 ≤ c.toNat) :
    ∃ b u, ofLead? b = some u ∧ u.Awaits [b] ∧ u.Admits c.toNat ∧
      String.utf8EncodeChar c = b :: continuation u.missing c.toNat := by
  obtain ⟨b, u, hlead, hadmits⟩ := exists_lead h
  have hawaits := awaits_of_lead hlead
  obtain ⟨_, _, hform⟩ := hawaits.encoded _ hadmits
  rw [Char.ofNat_toNat] at hform
  exact ⟨b, u, hlead, hawaits, hadmits, hform⟩

theorem Awaits.next {u : Unfinished} {front : Bytes} (h : u.Awaits front) {b : UInt8}
    (hb : u.Continues b) (hmore : 1 < u.missing) : (u.next b).Awaits (front ++ [b]) := by
  refine ⟨.next hmore, ?_, fun v hv => ?_⟩
  · intro b' hb'
    rcases List.mem_append.mp hb' with hfront | hlast
    · exact h.high b' hfront
    · rw [List.mem_singleton.mp hlast]
      exact (h.isOpen.high_of_continues hb).1
  · obtain ⟨hadmits, htail⟩ := h.isOpen.admits_of_next hb ((admits_next_iff hmore).mp hv)
    obtain ⟨hvalid, hbeyond, hform⟩ := h.encoded v hadmits
    refine ⟨hvalid, hbeyond, ?_⟩
    rw [hform, htail, List.append_assoc]
    rfl

theorem Awaits.last {u : Unfinished} {front : Bytes} (h : u.Awaits front) {b : UInt8}
    (hb : u.Continues b) (hlast : u.missing ≤ 1) :
    0x80 ≤ (Char.ofNat (u.value * 64 + (b.toNat - 0x80))).toNat ∧
      String.utf8EncodeChar (Char.ofNat (u.value * 64 + (b.toNat - 0x80))) = front ++ [b] := by
  have hone : u.missing = 1 := Nat.le_antisymm hlast h.isOpen.missing_pos
  obtain ⟨hadmits, htail⟩ := h.isOpen.admits_of_next hb
    (v := u.value * 64 + (b.toNat - 0x80)) (by simp [hone])
  obtain ⟨hvalid, hbeyond, hform⟩ := h.encoded _ hadmits
  rw [toNat_ofNat_of_valid hvalid, hform, htail, hone]
  exact ⟨hbeyond, rfl⟩

end Unfinished

end RestrictedShell.Text
