import LoginGate.Proofs.Text.Ascii
import LoginGate.Url.Form
import Mathlib.Data.List.TakeWhile

/-!
# Forms are read back

A text of ASCII with percent codes is one run for the decoder, so each name and each value is
decoded as a whole. Neither an ampersand nor an equals sign stands in an encoded name or value, so
the pairs fall apart where they were joined.

## Main results

* `Form.decodeText_encodeText` : a name or a value is read back.
* `Form.decode_encodeChars` : pairs are read back.
* `Form.decode_append` : a form that is added with an ampersand adds its pairs.
-/

namespace LoginGate

/-! ### Pieces -/

/-- The pieces of two texts that a separator joins. -/
theorem splitAt_append_cons (sep : Char) (cs ds : List Char) :
    splitAt sep (cs ++ sep :: ds) = splitAt sep cs ++ splitAt sep ds := by
  induction cs with
  | nil => simp [splitAt]
  | cons c cs ih =>
    obtain ⟨piece, pieces, hpieces⟩ := List.exists_cons_of_ne_nil (splitAt_ne_nil sep cs)
    rw [List.cons_append, splitAt, splitAt, ih, hpieces]
    by_cases h : c = sep
    · rw [if_pos h, if_pos h]
      rfl
    · rw [if_neg h, if_neg h]
      rfl

theorem splitAt_eq_singleton {sep : Char} {cs : List Char} (h : sep ∉ cs) :
    splitAt sep cs = [cs] := by
  induction cs with
  | nil => rfl
  | cons c cs ih =>
    obtain ⟨hc, hcs⟩ : c ≠ sep ∧ sep ∉ cs := by
      simpa [eq_comm] using h
    rw [splitAt, if_neg hc, ih hcs]

/-! ### Percent codes -/

namespace Percent

theorem hexValue?_hexDigit {n : Nat} (h : n < 16) : Bytes.hexValue? (hexDigit n) = some n := by
  revert n; decide

/-- A code is read as its byte. -/
theorem decodeBytes_byteCode (b : UInt8) (rest : List Char) :
    decodeBytes (byteCode b ++ rest) = b :: decodeBytes rest := by
  have hb := b.toNat_lt
  have hbyte : b.toNat / 16 * 16 + b.toNat % 16 = b.toNat := by omega
  simp only [byteCode, List.cons_append, List.nil_append]
  rw [decodeBytes, hexValue?_hexDigit (by omega), hexValue?_hexDigit (by omega)]
  simp only [hbyte, UInt8.ofNat_toNat]

theorem decodeBytes_flatMap_byteCode (bytes : Bytes) (rest : List Char) :
    decodeBytes (bytes.flatMap byteCode ++ rest) = bytes ++ decodeBytes rest := by
  induction bytes with
  | nil => rfl
  | cons b bytes ih =>
    rw [List.flatMap_cons, List.append_assoc, decodeBytes_byteCode, ih, List.cons_append]

theorem decodeBytes_cons {c : Char} (h : c ≠ '%') (rest : List Char) :
    decodeBytes (c :: rest) = UInt8.ofNat c.toNat :: decodeBytes rest := by
  rw [decodeBytes]
  rintro a b rest' rfl
  exact absurd rfl h

/-- A text of ASCII is decoded in one piece. -/
theorem decode_ascii {cs : List Char} (h : ∀ c ∈ cs, isAscii c) :
    decode cs = (Utf8.decodeLossy (decodeBytes cs)).toList := by
  cases cs with
  | nil => rw [decode]; rfl
  | cons c cs =>
    have htake : (c :: cs).takeWhile isAscii = c :: cs := List.takeWhile_eq_self_iff.mpr h
    have hdrop : (c :: cs).dropWhile isAscii = [] := List.dropWhile_eq_nil_iff.mpr h
    rw [decode, dif_pos (h c (List.mem_cons_self ..)), htake, hdrop, decode, List.append_nil]

end Percent

namespace Form

/-! ### Characters of an encoding -/

theorem isKept_of_mem_byteCode {b : UInt8} {c : Char} (h : c ∈ Percent.byteCode b) :
    c = '%' ∨ isKept c := by
  have hdigit : ∀ n < 16, isKept (Percent.hexDigit n) := by decide
  have hb := b.toNat_lt
  simp only [Percent.byteCode, List.mem_cons, List.not_mem_nil, or_false] at h
  rcases h with rfl | rfl | rfl
  · exact .inl rfl
  · exact .inr (hdigit _ (by omega))
  · exact .inr (hdigit _ (by omega))

/-- An encoding holds characters that stand for themselves, plus and percent signs. -/
theorem of_mem_encodeText {text : String} {c : Char} (h : c ∈ encodeText text) :
    c = '+' ∨ c = '%' ∨ isKept c := by
  rw [encodeText, List.mem_flatMap] at h
  obtain ⟨d, -, hd⟩ := h
  rw [encodeChar, Percent.encodeChar] at hd
  split at hd
  · exact .inl (by simpa using hd)
  · split at hd
    · rename_i hkept
      rw [List.mem_singleton.mp hd]
      exact .inr (.inr hkept)
    · obtain ⟨b, -, hb⟩ := List.mem_flatMap.mp hd
      exact .inr (isKept_of_mem_byteCode hb)

theorem toNat_lt_of_isKept {c : Char} (h : isKept c) : c.toNat < 128 := by
  simp only [isKept, Bool.or_eq_true, decide_eq_true_eq] at h
  rcases h with (((h | rfl) | rfl) | rfl) | rfl
  · exact toNat_lt_of_isAlphanum h
  all_goals decide

theorem isAscii_of_mem_encodeText {text : String} {c : Char} (h : c ∈ encodeText text) :
    Percent.isAscii c := by
  rcases of_mem_encodeText h with rfl | rfl | hkept
  · decide
  · decide
  · simpa [Percent.isAscii] using toNat_lt_of_isKept hkept

/-! ### Names and values -/

/-- A plus sign stands for a blank. -/
def spaced (c : Char) : Char := if c = '+' then ' ' else c

theorem spaced_of_ne {c : Char} (h : c ≠ '+') : spaced c = c := if_neg h

theorem map_spaced_of_not_mem {cs : List Char} (h : '+' ∉ cs) : cs.map spaced = cs := by
  refine (List.map_congr_left fun c hc => spaced_of_ne ?_).trans (List.map_id cs)
  rintro rfl
  exact h hc

theorem plus_not_mem_byteCode (b : UInt8) : '+' ∉ Percent.byteCode b := by
  intro h
  rcases isKept_of_mem_byteCode h with h | h <;> exact absurd h (by decide)

/-- One encoded character in front of a text is read as its bytes. -/
theorem decodeBytes_encodeChar (c : Char) (rest : List Char) :
    Percent.decodeBytes ((encodeChar c).map spaced ++ rest) =
      String.utf8EncodeChar c ++ Percent.decodeBytes rest := by
  rw [encodeChar, Percent.encodeChar]
  split
  · rename_i hblank
    subst hblank
    exact Percent.decodeBytes_cons (by decide) rest
  · split
    · rename_i hkept
      have hne : c ≠ '%' ∧ c ≠ '+' := by
        refine ⟨?_, ?_⟩ <;> rintro rfl <;> exact absurd hkept (by decide)
      rw [List.map_singleton, spaced_of_ne hne.2, List.cons_append, List.nil_append,
        Percent.decodeBytes_cons hne.1, Utf8.utf8EncodeChar_ascii (toNat_lt_of_isKept hkept),
        List.cons_append, List.nil_append]
    · have hplus : '+' ∉ (Utf8.encode (String.singleton c)).flatMap Percent.byteCode := by
        intro h
        obtain ⟨b, -, hb⟩ := List.mem_flatMap.mp h
        exact plus_not_mem_byteCode b hb
      have hbytes : Utf8.encode (String.singleton c) = String.utf8EncodeChar c := by
        have h := Utf8.encode_ofList [c]
        simpa using h
      rw [map_spaced_of_not_mem hplus, Percent.decodeBytes_flatMap_byteCode, hbytes]

theorem decodeBytes_encodeText (text : String) :
    Percent.decodeBytes ((encodeText text).map spaced) = Utf8.encode text := by
  have hall : ∀ cs : List Char, Percent.decodeBytes ((cs.flatMap encodeChar).map spaced) =
      cs.flatMap String.utf8EncodeChar := by
    intro cs
    induction cs with
    | nil => rfl
    | cons c cs ih =>
      rw [List.flatMap_cons, List.map_append, decodeBytes_encodeChar, ih, List.flatMap_cons]
  rw [encodeText, hall, ← Utf8.encode_ofList, String.ofList_toList]

/-- A name or a value is read back. -/
theorem decodeText_encodeText (text : String) : decodeText (encodeText text) = text := by
  have hascii : ∀ c ∈ (encodeText text).map spaced, Percent.isAscii c := by
    intro c hc
    obtain ⟨d, hd, rfl⟩ := List.mem_map.mp hc
    by_cases hplus : d = '+'
    · rw [spaced, if_pos hplus]
      decide
    · rw [spaced_of_ne hplus]
      exact isAscii_of_mem_encodeText hd
  change String.ofList (Percent.decode ((encodeText text).map spaced)) = text
  rw [Percent.decode_ascii hascii, decodeBytes_encodeText, Utf8.decodeLossy_encode,
    String.ofList_toList]

/-! ### Pairs -/

theorem not_mem_encodeText {mark : Char} (h : mark ∈ ['&', '=', '#']) (text : String) :
    mark ∉ encodeText text := by
  intro hmem
  simp only [List.mem_cons, List.not_mem_nil, or_false] at h
  rcases h with rfl | rfl | rfl <;>
    rcases of_mem_encodeText hmem with h | h | h <;> exact absurd h (by decide)

/-- A name with its value is read back. -/
theorem decodePair_encodePair (pair : String × String) : decodePair (encodePair pair) = pair := by
  have hname : ∀ c ∈ encodeText pair.1, decide (c ≠ '=') := by
    intro c hc
    rw [decide_eq_true_eq]
    rintro rfl
    exact not_mem_encodeText (by decide) pair.1 hc
  have htake : (encodePair pair).takeWhile (· ≠ '=') = encodeText pair.1 := by
    rw [encodePair, List.takeWhile_append_of_pos hname]
    simp
  have hdrop : (encodePair pair).dropWhile (· ≠ '=') = '=' :: encodeText pair.2 := by
    rw [encodePair, List.dropWhile_append_of_pos hname]
    simp
  rw [decodePair, htake, hdrop, List.drop_one, List.tail_cons, decodeText_encodeText,
    decodeText_encodeText]

theorem ampersand_not_mem_encodePair (pair : String × String) : '&' ∉ encodePair pair := by
  rw [encodePair, List.mem_append, List.mem_cons]
  rintro (h | h | h)
  · exact not_mem_encodeText (by decide) _ h
  · exact absurd h (by decide)
  · exact not_mem_encodeText (by decide) _ h

/-- The pairs of two forms that an ampersand joins. -/
theorem decode_append (cs ds : List Char) : decode (cs ++ '&' :: ds) = decode cs ++ decode ds := by
  rw [decode, splitAt_append_cons, List.filter_append, List.map_append]
  rfl

theorem decode_encodePair (pair : String × String) : decode (encodePair pair) = [pair] := by
  have hne : (encodePair pair).isEmpty = false := by simp [encodePair]
  rw [decode, splitAt_eq_singleton (ampersand_not_mem_encodePair pair)]
  simp [hne, decodePair_encodePair]

/-- Pairs are read back. -/
theorem decode_encodeChars (pairs : List (String × String)) :
    decode (encodeChars pairs) = pairs := by
  match pairs with
  | [] => rfl
  | [pair] => exact decode_encodePair pair
  | pair :: second :: pairs =>
    rw [encodeChars, decode_append, decode_encodePair, decode_encodeChars (second :: pairs)]
    · rfl
    · simp

end Form

end LoginGate
