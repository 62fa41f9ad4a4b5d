import LoginGate.Base64.Canonical

/-!
# Base64 is read back

Both readers find the bytes in their padded encoding, the lenient one for either alphabet and the
strict one for the standard alphabet. As the canonical reader accepts exactly what encoding gives
back (`Base64.Canonical.decode_eq_ok_iff`), every byte string has one canonical text, and that text
is read back.

## Main results

* `Base64.readLenient?_padded`, `Base64.readStrict?_padded` : the two readers after encoding.
* `Base64.Canonical.decode_encode` : a canonical text is read back.
* `Base64.length_encodeChars` : how long an encoding is.
* `Base64.isTokenChar_of_mem` : the characters of a URL-safe encoding.
-/

namespace LoginGate.Base64

/-! ### Single characters -/

theorem eitherValue?_char (alphabet : Alphabet) {n : Nat} (h : n < 64) :
    eitherValue? (alphabet.char n) = some n := by
  revert n; cases alphabet <;> decide

theorem standardValue?_char {n : Nat} (h : n < 64) :
    standardValue? (Alphabet.standard.char n) = some n := by
  revert n; decide

theorem char_ne_pad (alphabet : Alphabet) {n : Nat} (h : n < 64) : alphabet.char n ≠ '=' := by
  revert n; cases alphabet <;> decide

theorem toNat_char_lt (alphabet : Alphabet) {n : Nat} (h : n < 64) :
    (alphabet.char n).toNat < 128 := by
  revert n; cases alphabet <;> decide

/-- Whether a character is a letter, a digit, a minus sign or an underscore. -/
def isTokenChar (c : Char) : Bool := c.isAlphanum || c = '-' || c = '_'

theorem isTokenChar_char {n : Nat} (h : n < 64) : isTokenChar (Alphabet.urlSafe.char n) := by
  revert n; decide

/-! ### Groups -/

private theorem ofNat_of_eq (b : UInt8) {n : Nat} (h : n = b.toNat) : UInt8.ofNat n = b := by
  subst h; exact UInt8.ofNat_toNat

theorem fullGroup_toNat (a b c : UInt8) :
    fullGroup (a.toNat / 4) (a.toNat % 4 * 16 + b.toNat / 16) (b.toNat % 16 * 4 + c.toNat / 64)
      (c.toNat % 64) = [a, b, c] := by
  have ha := a.toNat_lt
  have hb := b.toNat_lt
  have hc := c.toNat_lt
  simp only [fullGroup, List.cons.injEq, and_true]
  exact ⟨ofNat_of_eq a (by omega), ofNat_of_eq b (by omega), ofNat_of_eq c (by omega)⟩

theorem partialGroup_two (a : UInt8) :
    partialGroup [a.toNat / 4, a.toNat % 4 * 16] = [a] := by
  have ha := a.toNat_lt
  simp only [partialGroup, List.cons.injEq, and_true]
  exact ofNat_of_eq a (by omega)

theorem partialGroup_three (a b : UInt8) :
    partialGroup [a.toNat / 4, a.toNat % 4 * 16 + b.toNat / 16, b.toNat % 16 * 4] = [a, b] := by
  have ha := a.toNat_lt
  have hb := b.toNat_lt
  simp only [partialGroup, List.cons.injEq, and_true]
  exact ⟨ofNat_of_eq a (by omega), ofNat_of_eq b (by omega)⟩

theorem length_encodeChars (alphabet : Alphabet) (bytes : Bytes) :
    (encodeChars alphabet bytes).length = (4 * bytes.length + 2) / 3 := by
  fun_induction encodeChars alphabet bytes with
  | case1 => rfl
  | case2 a => simp
  | case3 a b => simp
  | case4 a b c rest ih => simp only [List.length_cons, ih]; omega

theorem padding_add_four (n : Nat) : padding (n + 4) = padding n := by
  simp [padding]

/-- Every character of an encoding is the one for a number below 64. -/
theorem exists_char_of_mem {alphabet : Alphabet} {bytes : Bytes} {c : Char}
    (h : c ∈ encodeChars alphabet bytes) : ∃ n < 64, c = alphabet.char n := by
  fun_induction encodeChars alphabet bytes with
  | case1 => simp at h
  | case2 a =>
    have ha := a.toNat_lt
    simp only [List.mem_cons, List.not_mem_nil, or_false] at h
    rcases h with rfl | rfl
    · exact ⟨_, by omega, rfl⟩
    · exact ⟨_, by omega, rfl⟩
  | case3 a b =>
    have ha := a.toNat_lt
    have hb := b.toNat_lt
    simp only [List.mem_cons, List.not_mem_nil, or_false] at h
    rcases h with rfl | rfl | rfl
    · exact ⟨_, by omega, rfl⟩
    · exact ⟨_, by omega, rfl⟩
    · exact ⟨_, by omega, rfl⟩
  | case4 a b c' rest ih =>
    have ha := a.toNat_lt
    have hb := b.toNat_lt
    have hc := c'.toNat_lt
    simp only [List.mem_cons] at h
    rcases h with rfl | rfl | rfl | rfl | h
    · exact ⟨_, by omega, rfl⟩
    · exact ⟨_, by omega, rfl⟩
    · exact ⟨_, by omega, rfl⟩
    · exact ⟨_, by omega, rfl⟩
    · exact ih h

theorem isTokenChar_of_mem {bytes : Bytes} {c : Char} (h : c ∈ encodeChars .urlSafe bytes) :
    isTokenChar c := by
  obtain ⟨n, hn, rfl⟩ := exists_char_of_mem h
  exact isTokenChar_char hn

theorem toNat_lt_of_mem_padded {alphabet : Alphabet} {bytes : Bytes} {c : Char}
    (h : c ∈ padded (encodeChars alphabet bytes)) : c.toNat < 128 := by
  rcases List.mem_append.mp h with h | h
  · obtain ⟨n, hn, rfl⟩ := exists_char_of_mem h
    exact toNat_char_lt alphabet hn
  · rw [List.eq_of_mem_replicate h]
    decide

/-! ### The lenient reader -/

private theorem scanLenient_char (alphabet : Alphabet) {n : Nat} (h : n < 64) (held : List Nat)
    (pads : Nat) (rest : List Char) :
    scanLenient eitherValue? held pads (alphabet.char n :: rest) =
      (scanLenient eitherValue? (extendGroup held n).2 0 rest).map
        ((extendGroup held n).1 ++ ·) := by
  rw [scanLenient, if_neg (char_ne_pad alphabet h)]
  simp only [eitherValue?_char alphabet h]

/-- The lenient reader finds the bytes in their padded encoding. -/
theorem readLenient?_padded (alphabet : Alphabet) (bytes : Bytes) :
    readLenient? (padded (encodeChars alphabet bytes)) = some bytes := by
  rw [readLenient?, padded]
  fun_induction encodeChars alphabet bytes with
  | case1 => rfl
  | case2 a =>
    have ha := a.toNat_lt
    rw [List.cons_append, scanLenient_char alphabet (by omega), List.cons_append,
      scanLenient_char alphabet (by omega)]
    simp [extendGroup, padding, scanLenient, List.replicate_succ, partialGroup_two]
  | case3 a b =>
    have ha := a.toNat_lt
    have hb := b.toNat_lt
    rw [List.cons_append, scanLenient_char alphabet (by omega), List.cons_append,
      scanLenient_char alphabet (by omega), List.cons_append, scanLenient_char alphabet (by omega)]
    simp [extendGroup, padding, scanLenient, List.replicate_succ, partialGroup_three]
  | case4 a b c rest ih =>
    have ha := a.toNat_lt
    have hb := b.toNat_lt
    have hc := c.toNat_lt
    simp only [List.cons_append, List.length_cons]
    rw [scanLenient_char alphabet (by omega), scanLenient_char alphabet (by omega),
      scanLenient_char alphabet (by omega), scanLenient_char alphabet (by omega)]
    rw [padding_add_four]
    simp [extendGroup, ih, fullGroup_toNat]

/-! ### The strict reader -/

private theorem scanStrict_char {n : Nat} (h : n < 64) (held : List Nat) (rest : List Char) :
    scanStrict standardValue? held 0 (Alphabet.standard.char n :: rest) =
      (scanStrict standardValue? (extendGroup held n).2 0 rest).map
        ((extendGroup held n).1 ++ ·) := by
  rw [scanStrict, if_neg (char_ne_pad _ h), if_neg (by decide)]
  simp only [standardValue?_char h]

private theorem scanStrict_padded (bytes : Bytes) :
    scanStrict standardValue? [] 0 (padded (encodeChars .standard bytes)) = some bytes := by
  rw [padded]
  fun_induction encodeChars .standard bytes with
  | case1 => rfl
  | case2 a =>
    have ha := a.toNat_lt
    rw [List.cons_append, scanStrict_char (by omega), List.cons_append,
      scanStrict_char (by omega)]
    simp [extendGroup, padding, scanStrict, List.replicate_succ, partialGroup_two]
  | case3 a b =>
    have ha := a.toNat_lt
    have hb := b.toNat_lt
    rw [List.cons_append, scanStrict_char (by omega), List.cons_append,
      scanStrict_char (by omega), List.cons_append, scanStrict_char (by omega)]
    simp [extendGroup, padding, scanStrict, List.replicate_succ, partialGroup_three]
  | case4 a b c rest ih =>
    have ha := a.toNat_lt
    have hb := b.toNat_lt
    have hc := c.toNat_lt
    simp only [List.cons_append, List.length_cons]
    rw [scanStrict_char (by omega), scanStrict_char (by omega), scanStrict_char (by omega),
      scanStrict_char (by omega)]
    rw [padding_add_four]
    simp [extendGroup, ih, fullGroup_toNat]

theorem head?_padded_ne_pad (alphabet : Alphabet) (bytes : Bytes) :
    (padded (encodeChars alphabet bytes)).head? ≠ some '=' := by
  rw [padded]
  fun_cases encodeChars alphabet bytes with
  | case1 => decide
  | case2 a =>
    have ha := a.toNat_lt
    simpa using char_ne_pad alphabet (n := a.toNat / 4) (by omega)
  | case3 a b =>
    have ha := a.toNat_lt
    simpa using char_ne_pad alphabet (n := a.toNat / 4) (by omega)
  | case4 a b c rest =>
    have ha := a.toNat_lt
    simpa using char_ne_pad alphabet (n := a.toNat / 4) (by omega)

/-- The strict reader finds the bytes in their padded encoding. -/
theorem readStrict?_padded (bytes : Bytes) :
    readStrict? (padded (encodeChars .standard bytes)) = some bytes := by
  rw [readStrict?, if_neg (head?_padded_ne_pad _ bytes), scanStrict_padded]

/-! ### Canonical texts -/

namespace Canonical

/-- A canonical text is read back. -/
theorem decode_encode (bytes : Bytes) : decode (encode .urlSafe bytes) = .ok bytes := by
  refine decode_eq_ok_iff.mpr ⟨?_, rfl⟩
  have hascii : (padded (encode .urlSafe bytes).toList).all (·.toNat < 128) = true := by
    rw [encode, String.toList_ofList, List.all_eq_true]
    intro c hc
    simpa using toNat_lt_of_mem_padded hc
  rw [read?, if_pos hascii, encode, String.toList_ofList, readLenient?_padded]

end Canonical

end LoginGate.Base64
