import Mathlib.Data.List.Induction
import RestrictedShell.Proofs.Text.Form

namespace RestrictedShell.Text

namespace Decoder

open Unfinished

theorem push_of_continues {u : Unfinished} {b : UInt8} (hb : u.Continues b) (read : List Char) :
    push ⟨read, some u⟩ b =
      if u.missing ≤ 1 then ⟨Char.ofNat (u.value * 64 + (b.toNat - 0x80)) :: read, none⟩
      else ⟨read, some (u.next b)⟩ := by
  rw [push]
  exact if_pos hb

theorem push_of_not_continues {u : Unfinished} {b : UInt8} (hb : ¬ u.Continues b)
    (read : List Char) : push ⟨read, some u⟩ b = start (replacement :: read) b := by
  rw [push]
  exact if_neg hb

theorem foldl_push_continuation {u : Unfinished} (hu : u.Open) {v : Nat} (hv : u.Admits v)
    (read : List Char) :
    (continuation u.missing v).foldl push ⟨read, some u⟩ = ⟨Char.ofNat v :: read, none⟩ := by
  obtain ⟨n, hn⟩ := Nat.exists_eq_add_one_of_ne_zero (Nat.ne_of_gt hu.missing_pos)
  induction n generalizing u with
  | zero =>
      obtain ⟨b, hb, hbyte⟩ := hu.exists_byte hv
      rw [(hu.admits_of_next hb hbyte).2, List.foldl_cons, push_of_continues hb,
        if_pos (Nat.le_of_eq hn), ← hbyte, hn, Nat.sub_self, Nat.pow_zero, Nat.div_one]
      rfl
  | succ n ih =>
      obtain ⟨b, hb, hbyte⟩ := hu.exists_byte hv
      have hmore : 1 < u.missing := by omega
      have hnext : (u.next b).missing = n + 1 := Nat.sub_eq_of_eq_add hn
      rw [(hu.admits_of_next hb hbyte).2, List.foldl_cons, push_of_continues hb,
        if_neg (Nat.not_le_of_lt hmore)]
      exact ih (.next hmore) ((admits_next_iff hmore).mpr hbyte) hnext

theorem start_of_ascii {b : UInt8} (hb : b.toNat < 0x80) (read : List Char) :
    start read b = ⟨Char.ofNat b.toNat :: read, none⟩ := by
  rw [start, if_pos (UInt8.lt_iff_toNat_lt.mpr hb)]

theorem start_of_high {b : UInt8} (hb : 0x80 ≤ b.toNat) (read : List Char) :
    start read b = match ofLead? b with
      | some u => ⟨read, some u⟩
      | none => ⟨replacement :: read, none⟩ :=
  if_neg fun hless => Nat.not_lt_of_le hb (UInt8.lt_iff_toNat_lt.mp hless)

theorem foldl_push_char (c : Char) (read : List Char) :
    (String.utf8EncodeChar c).foldl push ⟨read, none⟩ = ⟨c :: read, none⟩ := by
  by_cases hascii : c.toNat < 0x80
  · have hvalue : c.val.toUInt8.toNat = c.toNat := by
      rw [UInt32.toNat_toUInt8]
      exact Nat.mod_eq_of_lt (Nat.lt_trans hascii (by decide))
    rw [utf8EncodeChar_of_ascii hascii, List.foldl_cons, List.foldl_nil]
    change start read c.val.toUInt8 = _
    rw [start_of_ascii (by rwa [hvalue]), hvalue, Char.ofNat_toNat]
  · obtain ⟨b, u, hlead, hawaits, hadmits, hform⟩ := exists_awaits (Nat.le_of_not_lt hascii)
    rw [hform, List.foldl_cons]
    change (continuation u.missing c.toNat).foldl push (start read b) = _
    rw [start_of_high (hawaits.high b List.mem_cons_self), hlead]
    dsimp only
    rw [foldl_push_continuation hawaits.isOpen hadmits, Char.ofNat_toNat]

theorem foldl_push_chars (cs read : List Char) :
    (cs.flatMap String.utf8EncodeChar).foldl push ⟨read, none⟩ = ⟨cs.reverse ++ read, none⟩ := by
  induction cs generalizing read with
  | nil => rfl
  | cons c cs ih =>
      rw [List.flatMap_cons, List.foldl_append, foldl_push_char, ih, List.reverse_cons,
        List.append_assoc, List.singleton_append]

end Decoder

theorem lossy_encode (s : String) : lossy (encode s) = s := by
  rw [lossy, encode_eq_flatMap, Decoder.foldl_push_chars, Decoder.finish, List.append_nil,
    List.reverse_reverse, String.ofList_toList]

def isAscii (b : UInt8) : Bool :=
  b < 0x80

theorem isAscii_eq_false {b : UInt8} (h : 0x80 ≤ b.toNat) : isAscii b = false :=
  decide_eq_false fun hless => Nat.not_lt_of_le h (UInt8.lt_iff_toNat_lt.mp hless)

theorem filter_isAscii_of_high {bytes : Bytes} (h : ∀ b ∈ bytes, 0x80 ≤ b.toNat) :
    bytes.filter isAscii = [] := by
  rw [List.filter_eq_nil_iff]
  intro b hb
  simp [isAscii_eq_false (h b hb)]

theorem high_of_mem_continuation {n v : Nat} {b : UInt8} (h : b ∈ continuation n v) :
    0x80 ≤ b.toNat := by
  induction n with
  | zero => cases h
  | succ n ih =>
      rcases List.mem_cons.mp h with rfl | hrest
      · rw [toNat_ofNat_of_lt (by omega)]
        exact Nat.le_add_right _ _
      · exact ih hrest

theorem high_of_mem_utf8EncodeChar {c : Char} (h : 0x80 ≤ c.toNat) :
    ∀ b ∈ String.utf8EncodeChar c, 0x80 ≤ b.toNat := by
  obtain ⟨first, u, _, hawaits, _, hform⟩ := Unfinished.exists_awaits h
  rw [hform]
  exact List.forall_mem_cons.mpr
    ⟨hawaits.high first List.mem_cons_self, fun _ => high_of_mem_continuation⟩

namespace Decoder

/-- The form of the characters read. -/
def form (read : List Char) : Bytes :=
  read.reverse.flatMap String.utf8EncodeChar

theorem form_cons (c : Char) (read : List Char) :
    form (c :: read) = form read ++ String.utf8EncodeChar c := by
  rw [form, List.reverse_cons, List.flatMap_append, List.flatMap_singleton, form]

theorem filter_form_cons {c : Char} (h : 0x80 ≤ c.toNat) (read : List Char) :
    (form (c :: read)).filter isAscii = (form read).filter isAscii := by
  rw [form_cons, List.filter_append, filter_isAscii_of_high (high_of_mem_utf8EncodeChar h),
    List.append_nil]

/-- The bytes since the last complete character are the front of one that is awaited, if any. -/
def Awaits (d : Decoder) (front : Bytes) : Prop :=
  match d.unfinished with
  | none => front = []
  | some u => u.Awaits front

/-- What a decoder that has taken these bytes has made of them: unless something was replaced, they
are the form of the characters read and the front of the one awaited; the bytes of ASCII among them
are there in any case. -/
structure Reads (d : Decoder) (bytes : Bytes) : Prop where
  kept : ∃ front, d.Awaits front ∧ (replacement ∈ d.read ∨ bytes = form d.read ++ front)
  ascii : (form d.read).filter isAscii = bytes.filter isAscii

theorem Reads.replaced {read : List Char} {unfinished : Option Unfinished} {bytes : Bytes}
    (h : Reads ⟨read, unfinished⟩ bytes) : Reads ⟨replacement :: read, none⟩ bytes :=
  ⟨⟨[], rfl, .inl List.mem_cons_self⟩, (filter_form_cons (by decide) read).trans h.ascii⟩

theorem filter_append_high {b : UInt8} (hb : 0x80 ≤ b.toNat) (bytes : Bytes) :
    (bytes ++ [b]).filter isAscii = bytes.filter isAscii := by
  rw [List.filter_append, List.filter_cons_of_neg (by simp [isAscii_eq_false hb]), List.filter_nil,
    List.append_nil]

theorem Reads.start {read : List Char} {bytes : Bytes} (h : Reads ⟨read, none⟩ bytes) (b : UInt8) :
    Reads (start read b) (bytes ++ [b]) := by
  obtain ⟨⟨front, rfl, hkept⟩, hascii⟩ := h
  rw [List.append_nil] at hkept
  by_cases hb : b.toNat < 0x80
  · have hchar := utf8EncodeChar_of_byte hb
    rw [start_of_ascii hb]
    refine ⟨⟨[], rfl, hkept.imp (List.mem_cons_of_mem _) fun hbytes => ?_⟩, ?_⟩
    · rw [form_cons, hchar, List.append_nil, hbytes]
    · rw [form_cons, hchar, List.filter_append, List.filter_append, hascii]
  · have hhigh : 0x80 ≤ b.toNat := Nat.le_of_not_lt hb
    rw [start_of_high hhigh]
    cases hlead : Unfinished.ofLead? b with
    | none =>
        exact ⟨⟨[], rfl, .inl List.mem_cons_self⟩, by
          rw [filter_form_cons (by decide), filter_append_high hhigh, hascii]⟩
    | some u =>
        refine ⟨⟨[b], Unfinished.awaits_of_lead hlead, hkept.imp_right fun hbytes => ?_⟩, ?_⟩
        · rw [hbytes]
        · rw [filter_append_high hhigh, hascii]

theorem Reads.continued {read : List Char} {u : Unfinished} {bytes : Bytes}
    (h : Reads ⟨read, some u⟩ bytes) {b : UInt8} (hb : u.Continues b) :
    Reads (push ⟨read, some u⟩ b) (bytes ++ [b]) := by
  obtain ⟨⟨front, hfront, hkept⟩, hascii⟩ := h
  have hfront : u.Awaits front := hfront
  have hhigh := (hfront.isOpen.high_of_continues hb).1
  rw [push_of_continues hb]
  split
  · rename_i hlast
    obtain ⟨hbeyond, hform⟩ := hfront.last hb hlast
    refine ⟨⟨[], rfl, hkept.imp (List.mem_cons_of_mem _) fun hbytes => ?_⟩, ?_⟩
    · rw [form_cons, hform, hbytes, List.append_nil, List.append_assoc]
    · rw [filter_form_cons hbeyond, filter_append_high hhigh, hascii]
  · rename_i hmore
    have hnext := hfront.next hb (Nat.lt_of_not_le hmore)
    refine ⟨⟨front ++ [b], hnext, hkept.imp_right fun hbytes => ?_⟩, ?_⟩
    · rw [hbytes, List.append_assoc]
    · rw [filter_append_high hhigh, hascii]

theorem Reads.push {d : Decoder} {bytes : Bytes} (h : Reads d bytes) (b : UInt8) :
    Reads (d.push b) (bytes ++ [b]) := by
  obtain ⟨read, _ | u⟩ := d
  · exact h.start b
  · by_cases hb : u.Continues b
    · exact h.continued hb
    · rw [push_of_not_continues hb]
      exact h.replaced.start b

theorem reads_foldl (bytes : Bytes) : Reads (bytes.foldl push ⟨[], none⟩) bytes := by
  induction bytes using List.reverseRecOn with
  | nil => exact ⟨⟨[], rfl, .inr rfl⟩, rfl⟩
  | append_singleton bytes b ih =>
      rw [List.foldl_append]
      exact ih.push b

theorem Reads.finish {d : Decoder} {bytes : Bytes} (h : Reads d bytes) :
    (replacement ∈ d.finish ∨ d.finish.flatMap String.utf8EncodeChar = bytes) ∧
      (d.finish.flatMap String.utf8EncodeChar).filter isAscii = bytes.filter isAscii := by
  obtain ⟨read, _ | u⟩ := d
  · obtain ⟨⟨front, rfl, hkept⟩, hascii⟩ := h
    rw [List.append_nil] at hkept
    exact ⟨hkept.imp List.mem_reverse.mpr Eq.symm, hascii⟩
  · exact ⟨.inl (List.mem_reverse.mpr List.mem_cons_self), h.replaced.ascii⟩

end Decoder

/-- Bytes that are the form of a text. -/
def IsUtf8 (bytes : Bytes) : Prop :=
  ∃ s, encode s = bytes

theorem encode_lossy_of_isUtf8 {bytes : Bytes} (h : IsUtf8 bytes) :
    encode (lossy bytes) = bytes := by
  obtain ⟨s, rfl⟩ := h
  rw [lossy_encode]

theorem replacement_mem_lossy {bytes : Bytes} (h : ¬ IsUtf8 bytes) :
    replacement ∈ (lossy bytes).toList := by
  rw [lossy, String.toList_ofList]
  refine (Decoder.reads_foldl bytes).finish.1.resolve_right fun hform => h ⟨lossy bytes, ?_⟩
  rw [lossy, encode_ofList, hform]

/-- Replacing what is no text neither swallows nor adds a byte of ASCII. -/
theorem filter_isAscii_lossy (bytes : Bytes) :
    (encode (lossy bytes)).filter isAscii = bytes.filter isAscii := by
  rw [lossy, encode_ofList]
  exact (Decoder.reads_foldl bytes).finish.2

end RestrictedShell.Text
