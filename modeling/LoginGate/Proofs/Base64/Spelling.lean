import LoginGate.Proofs.Base64.RoundTrip
import LoginGate.Proofs.Result
import Mathlib.Algebra.Group.Nat.Defs

/-!
# What a text spells

A character of base64 stands for six bits, a byte for eight. A text spells a byte string if the bits
of its characters, one after the other and the highest of each first, are those of the bytes, filled
up with zeros to the end of the last character. A byte string is spelled by one text and no other,
its encoding.

The lenient reader finds bytes in many more texts: it passes over characters of no meaning, takes
characters of either alphabet, accepts padding and does not look at the bits that are filled up. As
the canonical reader gives the bytes of a text only if they are encoded as this very text, it
accepts a text exactly if it spells something.

## Main definitions

* `Base64.bits`, `Base64.bitsOfBytes` : numbers and bytes as bits.
* `Base64.Spells` : what a text spells.

## Main results

* `Base64.spells_iff` : a byte string is spelled by its encoding and by no other text.
* `Base64.Canonical.accepts_encodings` : canonical texts are the encodings of byte strings.
-/

namespace LoginGate.Base64

variable {alphabet : Alphabet} {cs : List Char} {bytes : Bytes}

/-! ### Bits -/

/-- The `width` lowest bits of a number, the highest first. -/
def bits (width n : Nat) : List Bool := ((List.range width).map n.testBit).reverse

@[simp]
theorem length_bits (width n : Nat) : (bits width n).length = width := by simp [bits]

theorem eq_of_bits_eq {width m n : Nat} (hm : m < 2 ^ width) (hn : n < 2 ^ width)
    (h : bits width m = bits width n) : m = n := by
  rw [bits, bits, List.reverse_inj, List.map_inj_left] at h
  refine Nat.eq_of_testBit_eq fun i => ?_
  by_cases hi : i < width
  · exact h i (List.mem_range.mpr hi)
  · have hpow : 2 ^ width ≤ 2 ^ i := Nat.pow_le_pow_right (by decide) (Nat.le_of_not_lt hi)
    rw [Nat.testBit_lt_two_pow (Nat.lt_of_lt_of_le hm hpow),
      Nat.testBit_lt_two_pow (Nat.lt_of_lt_of_le hn hpow)]

/-- A number that is put together of two has the bits of both. -/
theorem bits_mul_add (high low x : Nat) {y : Nat} (hy : y < 2 ^ low) :
    bits (high + low) (x * 2 ^ low + y) = bits high x ++ bits low y := by
  rw [bits, bits, bits, Nat.add_comm high, Nat.mul_comm, List.range_add, List.map_append,
    List.map_map, List.reverse_append]
  congr 2
  · refine List.map_congr_left fun i _ => ?_
    rw [Function.comp_apply, Nat.testBit_two_pow_mul_add x hy, if_neg (by omega),
      Nat.add_sub_cancel_left]
  · refine List.map_congr_left fun i hi => ?_
    rw [Nat.testBit_two_pow_mul_add x hy, if_pos (List.mem_range.mp hi)]

/-- A number that is moved up has zeros at the end. -/
theorem bits_mul (high low x : Nat) :
    bits (high + low) (x * 2 ^ low) = bits high x ++ List.replicate low false := by
  have hzeros : bits low 0 = List.replicate low false := by
    simp [bits, funext Nat.zero_testBit, List.map_const']
  rw [← hzeros, ← bits_mul_add high low x (Nat.two_pow_pos low), Nat.add_zero]

theorem bits_div_mod (high low n : Nat) :
    bits (high + low) n = bits high (n / 2 ^ low) ++ bits low (n % 2 ^ low) := by
  rw [← bits_mul_add high low _ (Nat.mod_lt n (Nat.two_pow_pos low)), Nat.div_add_mod']

/-- Numbers of one width are told from their bits. -/
theorem eq_of_flatMap_bits_eq {width : Nat} {ms ns : List Nat} (hm : ∀ m ∈ ms, m < 2 ^ width)
    (hn : ∀ n ∈ ns, n < 2 ^ width) (hlength : ms.length = ns.length)
    (h : ms.flatMap (bits width) = ns.flatMap (bits width)) : ms = ns := by
  induction ms generalizing ns with
  | nil => exact (List.length_eq_zero_iff.mp hlength.symm).symm
  | cons m ms ih =>
    obtain ⟨n, ns, rfl⟩ := List.exists_cons_of_length_eq_add_one hlength.symm
    rw [List.forall_mem_cons] at hm hn
    rw [List.flatMap_cons, List.flatMap_cons] at h
    obtain ⟨hfirst, hrest⟩ := List.append_inj h (by rw [length_bits, length_bits])
    rw [eq_of_bits_eq hm.1 hn.1 hfirst, ih hm.2 hn.2 (by simpa using hlength) hrest]

/-- The bits of bytes, one byte after the other. -/
def bitsOfBytes (bytes : Bytes) : List Bool := bytes.flatMap fun b => bits 8 b.toNat

theorem length_bitsOfBytes (bytes : Bytes) : (bitsOfBytes bytes).length = 8 * bytes.length := by
  simp [bitsOfBytes, List.length_flatMap, List.map_const', Nat.mul_comm]

/-! ### What a text spells -/

/-- A text spells bytes: every character stands for a number below 64, and the bits of these numbers
are those of the bytes with fewer than six zeros behind them. -/
def Spells (alphabet : Alphabet) (cs : List Char) (bytes : Bytes) : Prop :=
  ∃ (numbers : List Nat) (spare : Nat),
    cs = numbers.map alphabet.char ∧ (∀ n ∈ numbers, n < 64) ∧ spare < 6 ∧
      numbers.flatMap (bits 6) = bitsOfBytes bytes ++ List.replicate spare false

/-- Three bytes are four numbers. -/
theorem Spells.group (h : Spells alphabet cs bytes) (a b c : UInt8) :
    Spells alphabet
      (alphabet.char (a.toNat / 4) :: alphabet.char (a.toNat % 4 * 16 + b.toNat / 16) ::
        alphabet.char (b.toNat % 16 * 4 + c.toNat / 64) :: alphabet.char (c.toNat % 64) :: cs)
      (a :: b :: c :: bytes) := by
  obtain ⟨numbers, spare, rfl, hnumbers, hspare, hbits⟩ := h
  have ha := a.toNat_lt
  have hb := b.toNat_lt
  have hc := c.toNat_lt
  refine ⟨a.toNat / 4 :: (a.toNat % 4 * 16 + b.toNat / 16) ::
    (b.toNat % 16 * 4 + c.toNat / 64) :: c.toNat % 64 :: numbers, spare, rfl, ?_, hspare, ?_⟩
  · simp only [List.forall_mem_cons]
    exact ⟨by omega, by omega, by omega, by omega, hnumbers⟩
  · have hsecond : bits 6 (a.toNat % 4 * 16 + b.toNat / 16) =
        bits 2 (a.toNat % 4) ++ bits 4 (b.toNat / 16) := bits_mul_add 2 4 _ (by omega)
    have hthird : bits 6 (b.toNat % 16 * 4 + c.toNat / 64) =
        bits 4 (b.toNat % 16) ++ bits 2 (c.toNat / 64) := bits_mul_add 4 2 _ (by omega)
    have ha : bits 8 a.toNat = bits 6 (a.toNat / 4) ++ bits 2 (a.toNat % 4) := bits_div_mod 6 2 _
    have hb : bits 8 b.toNat = bits 4 (b.toNat / 16) ++ bits 4 (b.toNat % 16) := bits_div_mod 4 4 _
    have hc : bits 8 c.toNat = bits 2 (c.toNat / 64) ++ bits 6 (c.toNat % 64) := bits_div_mod 2 6 _
    rw [bitsOfBytes] at hbits
    simp only [bitsOfBytes, List.flatMap_cons, hsecond, hthird, ha, hb, hc, hbits,
      List.append_assoc]

/-- Every byte string is spelled by its encoding. -/
theorem spells_encodeChars (alphabet : Alphabet) (bytes : Bytes) :
    Spells alphabet (encodeChars alphabet bytes) bytes := by
  fun_induction encodeChars alphabet bytes with
  | case1 => exact ⟨[], 0, rfl, List.forall_mem_nil _, by decide, rfl⟩
  | case2 a =>
    have ha := a.toNat_lt
    have hlast : bits 6 (a.toNat % 4 * 16) = bits 2 (a.toNat % 4) ++ List.replicate 4 false :=
      bits_mul 2 4 _
    have hbyte : bits 8 a.toNat = bits 6 (a.toNat / 4) ++ bits 2 (a.toNat % 4) := bits_div_mod 6 2 _
    refine ⟨[a.toNat / 4, a.toNat % 4 * 16], 4, rfl, ?_, by decide, ?_⟩
    · simp only [List.forall_mem_cons]
      exact ⟨by omega, by omega, List.forall_mem_nil _⟩
    · simp [bitsOfBytes, hlast, hbyte]
  | case3 a b =>
    have ha := a.toNat_lt
    have hb := b.toNat_lt
    have hsecond : bits 6 (a.toNat % 4 * 16 + b.toNat / 16) =
        bits 2 (a.toNat % 4) ++ bits 4 (b.toNat / 16) := bits_mul_add 2 4 _ (by omega)
    have hlast : bits 6 (b.toNat % 16 * 4) = bits 4 (b.toNat % 16) ++ List.replicate 2 false :=
      bits_mul 4 2 _
    have hfirst : bits 8 a.toNat = bits 6 (a.toNat / 4) ++ bits 2 (a.toNat % 4) :=
      bits_div_mod 6 2 _
    have hnext : bits 8 b.toNat = bits 4 (b.toNat / 16) ++ bits 4 (b.toNat % 16) :=
      bits_div_mod 4 4 _
    refine ⟨[a.toNat / 4, a.toNat % 4 * 16 + b.toNat / 16, b.toNat % 16 * 4], 2, rfl, ?_,
      by decide, ?_⟩
    · simp only [List.forall_mem_cons]
      exact ⟨by omega, by omega, by omega, List.forall_mem_nil _⟩
    · simp [bitsOfBytes, hsecond, hlast, hfirst, hnext]
  | case4 a b c rest ih => exact ih.group a b c

/-- Two texts that spell the same bytes are the same: they have equally many characters, as fewer
zeros are left over than a character has bits. -/
theorem Spells.unique {ds : List Char} (hc : Spells alphabet cs bytes)
    (hd : Spells alphabet ds bytes) : cs = ds := by
  obtain ⟨ms, spare, rfl, hms, hspare, hm⟩ := hc
  obtain ⟨ns, other, rfl, hns, hother, hn⟩ := hd
  have hmlength := congrArg List.length hm
  have hnlength := congrArg List.length hn
  simp only [List.length_flatMap, length_bits, List.map_const', List.sum_replicate_nat,
    List.length_append, List.length_replicate, length_bitsOfBytes] at hmlength hnlength
  obtain rfl : spare = other := by omega
  rw [eq_of_flatMap_bits_eq hms hns (by omega) (hm.trans hn.symm)]

/-- The only text that spells a byte string is its encoding. -/
theorem spells_iff : Spells alphabet cs bytes ↔ cs = encodeChars alphabet bytes := by
  constructor
  · exact fun h => h.unique (spells_encodeChars alphabet bytes)
  · rintro rfl
    exact spells_encodeChars alphabet bytes

/-! ### Canonical texts -/

namespace Canonical

variable {text : String}

theorem decode_eq_ok_iff_encode_eq : decode text = .ok bytes ↔ encode .urlSafe bytes = text := by
  constructor
  · exact fun h => (decode_eq_ok_iff.mp h).2
  · rintro rfl
    exact decode_encode bytes

/-- A text is read as what it spells. -/
theorem decode_eq_ok_iff_spells : decode text = .ok bytes ↔ Spells .urlSafe text.toList bytes := by
  rw [decode_eq_ok_iff_encode_eq, spells_iff, encode, ← String.toList_inj, String.toList_ofList,
    eq_comm]

theorem isTokenChar_of_mem_encode {c : Char} (h : c ∈ (encode .urlSafe bytes).toList) :
    isTokenChar c := by
  rw [encode, String.toList_ofList] at h
  exact isTokenChar_of_mem h

/-- What is encoded is read back, and all of its characters are letters, digits, hyphens and
underscores. A text is read as what it spells, so it is accepted exactly if it is the encoding of
some byte string, and refused if it is that of none, and no two texts are read as the same bytes. -/
theorem accepts_encodings :
    (∀ bytes, decode (encode .urlSafe bytes) = .ok bytes ∧
      ∀ c ∈ (encode .urlSafe bytes).toList, isTokenChar c) ∧
    (∀ text bytes, decode text = .ok bytes ↔ Spells .urlSafe text.toList bytes) ∧
    (∀ text, ((∃ bytes, decode text = .ok bytes) ↔ ∃ bytes, encode .urlSafe bytes = text) ∧
      ((∃ fault, decode text = .error fault) ↔ ∀ bytes, encode .urlSafe bytes ≠ text)) ∧
    ∀ text other bytes, decode text = .ok bytes → decode other = .ok bytes → text = other := by
  refine ⟨fun bytes => ⟨decode_encode bytes, fun c => isTokenChar_of_mem_encode⟩,
    fun text bytes => decode_eq_ok_iff_spells, fun text => ⟨?_, ?_⟩,
    fun text other bytes htext hother => ?_⟩
  · simp only [decode_eq_ok_iff_encode_eq]
  · simp only [Result.exists_error_iff, ne_eq, decode_eq_ok_iff_encode_eq]
  · exact (decode_eq_ok_iff_encode_eq.mp htext).symm.trans (decode_eq_ok_iff_encode_eq.mp hother)

/-- A byte in two characters. With other bits behind those of the byte, the second character would
spell nothing. -/
theorem accepts_encodings_of_byte :
    'Q' ∈ (encode .urlSafe [65]).toList ∧ isTokenChar 'Q' ∧
      decode "QQ" = .ok [65] ∧ Spells .urlSafe "QQ".toList [65] ∧
      (∀ text, decode text = .ok [65] → text = "QQ") ∧
      decode "QR" = .error .otherSpelling ∧ ∀ bytes, encode .urlSafe bytes ≠ "QR" := by
  obtain ⟨hread, hspells, haccepts, hinjective⟩ := accepts_encodings
  have hletter : 'Q' ∈ (encode .urlSafe [65]).toList := by decide
  have hbyte : decode "QQ" = .ok [65] := by decide
  have hother : decode "QR" = .error .otherSpelling := by decide
  exact ⟨hletter, (hread [65]).2 'Q' hletter, hbyte, (hspells _ _).mp hbyte,
    fun text htext => hinjective text "QQ" [65] htext hbyte, hother,
    (haccepts "QR").2.mp ⟨_, hother⟩⟩

end Canonical

end LoginGate.Base64
