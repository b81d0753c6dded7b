import JobShell.Text.Utf8

/-!
# The bytes of a text

A text is encoded character by character, and a small byte of it is a character of its own.
-/

namespace JobShell.Text

theorem encode_eq_flatMap (text : String) :
    encode text = text.toList.flatMap String.utf8EncodeChar := by
  obtain ⟨chars, rfl⟩ : ∃ chars, text = String.ofList chars := ⟨_, String.ofList_toList.symm⟩
  rw [encode, String.toUTF8_eq_toByteArray, String.toByteArray_ofList, String.toList_ofList,
    List.utf8Encode, List.data_toByteArray]

theorem encode_append (front back : String) :
    encode (front ++ back) = encode front ++ encode back := by
  simp only [encode_eq_flatMap, String.toList_append, List.flatMap_append]

/-- A small byte stands for nothing but the character that it is the number of. -/
theorem toNat_eq_of_mem_utf8EncodeChar {c : Char} {byte : UInt8}
    (hmem : byte ∈ String.utf8EncodeChar c) (hsmall : byte.toNat < 128) :
    c.toNat = byte.toNat := by
  have hvalue : c.val.toNat = c.toNat := rfl
  revert hmem
  fun_cases String.utf8EncodeChar c
  all_goals
    intro hmem
    simp only [List.mem_cons, List.not_mem_nil, or_false] at hmem
  · subst hmem
    rw [UInt8.toNat_ofNat']
    omega
  · rcases hmem with rfl | rfl <;> rw [UInt8.toNat_ofNat'] at hsmall <;> omega
  · rcases hmem with rfl | rfl | rfl <;> rw [UInt8.toNat_ofNat'] at hsmall <;> omega
  · rcases hmem with rfl | rfl | rfl | rfl <;> rw [UInt8.toNat_ofNat'] at hsmall <;> omega

theorem exists_mem_of_mem_encode {text : String} {byte : UInt8} (hmem : byte ∈ encode text)
    (hsmall : byte.toNat < 128) : ∃ c ∈ text.toList, c.toNat = byte.toNat := by
  rw [encode_eq_flatMap] at hmem
  obtain ⟨c, hc, hbyte⟩ := List.mem_flatMap.mp hmem
  exact ⟨c, hc, toNat_eq_of_mem_utf8EncodeChar hbyte hsmall⟩

/-- A text without a zero character is encoded without a zero byte. -/
theorem zero_notMem_encode {text : String} (htext : '\x00' ∉ text.toList) : 0 ∉ encode text := by
  intro hmem
  obtain ⟨c, hc, hvalue⟩ := exists_mem_of_mem_encode hmem (by decide)
  have hzero : c = '\x00' := Char.toNat_inj.mp hvalue
  rw [hzero] at hc
  exact htext hc

end JobShell.Text
