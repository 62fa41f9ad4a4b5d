import LoginGate.Text.Utf8

/-!
# The bytes of ASCII texts

Every character of ASCII is one byte, and the byte tells the character.

## Main results

* `toNat_lt_of_isAlphanum` : letters and digits are characters of ASCII.
* `Utf8.encode_ofList` : the bytes of a text, character by character.
* `Utf8.utf8EncodeChar_ascii` : one byte for each character of ASCII.
* `Utf8.map_ofNat_map_ascii` : the characters are found again.
* `Utf8.encode_of_decode?` : what is read has been written.
-/

namespace LoginGate

/-- Letters and digits are characters of ASCII. -/
theorem toNat_lt_of_isAlphanum {c : Char} (h : c.isAlphanum) : c.toNat < 128 := by
  have hletter : ((decide (c.val ≥ 'A'.val ∧ c.val ≤ 'Z'.val) ||
      (decide (c.val ≥ 'a'.val) && decide (c.val ≤ 'z'.val))) ||
      (decide (c.val ≥ '0'.val) && decide (c.val ≤ '9'.val))) = true := h
  simp only [Bool.or_eq_true, Bool.and_eq_true, decide_eq_true_eq] at hletter
  have hle : c.val.toNat ≤ 122 := by
    rcases hletter with (h | h) | h
    · exact Nat.le_trans (UInt32.le_iff_toNat_le.mp h.2) (by decide)
    · exact UInt32.le_iff_toNat_le.mp h.2
    · exact Nat.le_trans (UInt32.le_iff_toNat_le.mp h.2) (by decide)
  exact Nat.lt_of_le_of_lt hle (by decide)

namespace Utf8

/-- The bytes of a text, character by character. -/
theorem encode_ofList (cs : List Char) :
    encode (String.ofList cs) = cs.flatMap String.utf8EncodeChar := by
  simp [encode, String.toByteArray_ofList, List.utf8Encode]

theorem utf8EncodeChar_ascii {c : Char} (h : c.toNat < 128) :
    String.utf8EncodeChar c = [UInt8.ofNat c.toNat] := by
  have hle : c.val.toNat ≤ 127 := Nat.le_of_lt_succ h
  rw [String.utf8EncodeChar, if_pos hle]
  rfl

theorem ofNat_toNat_ascii {c : Char} (h : c.toNat < 128) :
    Char.ofNat (UInt8.ofNat c.toNat).toNat = c := by
  rw [UInt8.toNat_ofNat', Nat.mod_eq_of_lt (by omega), Char.ofNat_toNat]

/-- The characters of an ASCII text are found in its bytes. -/
theorem map_ofNat_map_ascii {cs : List Char} (h : ∀ c ∈ cs, c.toNat < 128) :
    ((cs.map fun c => UInt8.ofNat c.toNat).map fun b => Char.ofNat b.toNat) = cs := by
  rw [List.map_map]
  refine (List.map_congr_left fun c hc => ?_).trans (List.map_id cs)
  exact ofNat_toNat_ascii (h c hc)

theorem mem_encode_of_ascii {c : Char} (hc : c.toNat < 128) {text : String}
    (h : c ∈ text.toList) : UInt8.ofNat c.toNat ∈ encode text := by
  rw [← String.ofList_toList (s := text), encode_ofList]
  refine List.mem_flatMap.mpr ⟨c, h, ?_⟩
  rw [utf8EncodeChar_ascii hc]
  exact List.mem_singleton_self _

/-- The bytes that are decoded are those of the text. -/
theorem encode_of_decode? {bytes : Bytes} {text : String} (h : decode? bytes = some text) :
    encode text = bytes := by
  rw [decode?, String.fromUTF8?] at h
  split at h
  · cases h
    rfl
  · cases h

end Utf8

end LoginGate
