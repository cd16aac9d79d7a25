import RestrictedShell.Text

namespace RestrictedShell.Text

theorem encode_eq_flatMap (s : String) : encode s = s.toList.flatMap String.utf8EncodeChar := by
  conv => lhs; rw [← String.ofList_toList (s := s)]
  rw [encode, String.toByteArray_ofList, List.utf8Encode, List.toList_data_toByteArray]

theorem utf8EncodeChar_of_ascii {c : Char} (h : c.toNat < 128) :
    String.utf8EncodeChar c = [c.val.toUInt8] := by
  apply String.utf8EncodeChar_eq_singleton
  rw [Char.utf8Size_eq_one_iff, UInt32.le_iff_toNat_le]
  exact Nat.le_of_lt_succ h

theorem exists_of_mem_encode {s : String} (hascii : ∀ c ∈ s.toList, c.toNat < 128) {b : UInt8}
    (h : b ∈ encode s) : ∃ c ∈ s.toList, b.toNat = c.toNat := by
  rw [encode_eq_flatMap] at h
  obtain ⟨c, hc, hb⟩ := List.mem_flatMap.mp h
  have hless := hascii c hc
  rw [utf8EncodeChar_of_ascii hless, List.mem_singleton] at hb
  refine ⟨c, hc, ?_⟩
  rw [hb, UInt32.toNat_toUInt8]
  exact Nat.mod_eq_of_lt (Nat.lt_trans hless (by decide))

theorem isDigit_of_mem_repr {n : Nat} {c : Char} (h : c ∈ n.repr.toList) : c.isDigit = true := by
  rw [Nat.toList_repr] at h
  exact Nat.isDigit_of_mem_toDigits (by decide) (by decide) h

theorem eq_or_isDigit_of_mem_toString {n : Int} {c : Char} (h : c ∈ (toString n).toList) :
    c = '-' ∨ c.isDigit = true := by
  cases n with
  | ofNat n => exact .inr (isDigit_of_mem_repr h)
  | negSucc n =>
      rw [Int.toString_eq_repr, Int.repr, String.toList_append, List.mem_append] at h
      rcases h with hsign | hdigit
      · exact .inl (List.mem_singleton.mp hsign)
      · exact .inr (isDigit_of_mem_repr hdigit)

theorem toNat_of_mem_toString {n : Int} {c : Char} (h : c ∈ (toString n).toList) :
    45 ≤ c.toNat ∧ c.toNat ≤ 57 := by
  rcases eq_or_isDigit_of_mem_toString h with rfl | hdigit
  · decide
  · obtain ⟨hlow, hhigh⟩ := Char.isDigit_iff_toNat.mp hdigit
    have hzero : '0'.toNat = 48 := rfl
    have hnine : '9'.toNat = 57 := rfl
    omega

theorem newline_notMem_encode_toString (n : Int) : newline ∉ encode (toString n) := by
  intro h
  have hascii : ∀ c ∈ (toString n).toList, c.toNat < 128 := by
    intro c hc
    have hrange := toNat_of_mem_toString hc
    omega
  obtain ⟨c, hc, hcode⟩ := exists_of_mem_encode hascii h
  have hrange := toNat_of_mem_toString hc
  have hnewline : newline.toNat = 10 := rfl
  omega

end RestrictedShell.Text
