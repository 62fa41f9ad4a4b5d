import LoginGate.Compression.Gzip

/-!
# Compressed data are read back

What `Gzip.compress` writes is one member of stored blocks. The reader finds the header without
optional fields, takes one stored block after the other, and finds check value and length of the
data behind the last one.

## Main results

* `Inflate.inflate?_storedBlocks` : stored blocks are read back.
* `Gzip.decompress?_compress` : a whole member is read back.
-/

namespace LoginGate.Inflate

open Gzip

/-! ### One stored block -/

/-- The first bit of a stored block tells whether it is the last, and the next two its kind. -/
theorem kind_storedBlock (last : Bool) (bytes : Bytes) :
    ∃ held, (Bits.mk [] ((if last then 1 else 0) :: bytes)).next? = some (last, ⟨held, bytes⟩) ∧
      ∃ left, Bits.take? 2 ⟨held, bytes⟩ = some (0, ⟨left, bytes⟩) := by
  cases last
  · exact ⟨_, rfl, _, rfl⟩
  · exact ⟨_, rfl, _, rfl⟩

theorem stored?_storedBlock {data : Bytes} (h : data.length ≤ maxStored) (rest : Bytes)
    (out : Array UInt8) :
    stored? (Bytes.ofNatLE 2 data.length ++ Bytes.ofNatLE 2 (0xFFFF - data.length) ++ data ++ rest)
      out = some (out ++ data.toArray, ⟨[], rest⟩) := by
  rw [maxStored] at h
  have hsize : (UInt8.ofNat data.length).toNat + 256 * (UInt8.ofNat (data.length / 256)).toNat =
      data.length := by
    simp only [UInt8.toNat_ofNat']
    omega
  have hcheck : (UInt8.ofNat (0xFFFF - data.length)).toNat +
      256 * (UInt8.ofNat ((0xFFFF - data.length) / 256)).toNat = 0xFFFF - data.length := by
    simp only [UInt8.toNat_ofNat']
    omega
  simp only [Bytes.ofNatLE, List.cons_append, List.nil_append, stored?, hsize, hcheck]
  rw [if_pos ⟨by omega, by simp⟩]
  simp

theorem blocks?_storedBlock {data : Bytes} (h : data.length ≤ maxStored) (last : Bool)
    (steps : Nat) (rest : Bytes) (out : Array UInt8) :
    blocks? (steps + 1) ⟨[], storedBlock last data ++ rest⟩ out =
      if last then some (out ++ data.toArray, ⟨[], rest⟩)
      else blocks? steps ⟨[], rest⟩ (out ++ data.toArray) := by
  obtain ⟨held, hbit, left, hkind⟩ := kind_storedBlock last
    (Bytes.ofNatLE 2 data.length ++ Bytes.ofNatLE 2 (0xFFFF - data.length) ++ data ++ rest)
  simp only [storedBlock, List.cons_append, blocks?, hbit, hkind, Option.bind_eq_bind,
    Option.bind_some, block?, stored?_storedBlock h]
  rfl

/-! ### Stored blocks -/

/-- Stored blocks are read back; every block but the last one holds data, which bounds the steps. -/
theorem blocks?_storedBlocks (data rest : Bytes) {steps : Nat} (h : data.length < steps)
    (out : Array UInt8) :
    blocks? steps ⟨[], storedBlocks data ++ rest⟩ out = some (out ++ data.toArray, ⟨[], rest⟩) := by
  fun_induction storedBlocks data generalizing steps out with
  | case1 data hle =>
    obtain ⟨steps, rfl⟩ : ∃ n, steps = n + 1 := ⟨steps - 1, by omega⟩
    rw [blocks?_storedBlock hle, if_pos rfl]
  | case2 data hle ih =>
    rw [maxStored] at hle
    obtain ⟨steps, rfl⟩ : ∃ n, steps = n + 1 := ⟨steps - 1, by omega⟩
    have htake : (data.take maxStored).length ≤ maxStored := List.length_take_le ..
    have hdrop : (data.drop maxStored).length < steps := by
      rw [List.length_drop, maxStored]
      omega
    have hparts : (data.take maxStored).toArray ++ (data.drop maxStored).toArray =
        data.toArray := by
      rw [List.append_toArray, List.take_append_drop]
    rw [List.append_assoc, blocks?_storedBlock htake, if_neg (by decide), ih hdrop,
      Array.append_assoc, hparts]

theorem length_lt_storedBlocks (data : Bytes) : data.length < (storedBlocks data).length := by
  fun_induction storedBlocks data with
  | case1 data hle => simp [storedBlock]; omega
  | case2 data hle ih =>
    rw [List.length_append]
    simp only [List.length_drop] at ih
    simp only [storedBlock, List.cons_append, List.length_cons, List.length_append,
      List.length_take]
    omega

/-- Stored blocks are read back, and what follows them is left. -/
theorem inflate?_storedBlocks (data rest : Bytes) :
    inflate? (storedBlocks data ++ rest) = some (data, rest) := by
  have hsteps : data.length < 8 * (storedBlocks data ++ rest).length + 1 := by
    have hlen := length_lt_storedBlocks data
    rw [List.length_append]
    omega
  rw [inflate?, blocks?_storedBlocks data rest hsteps]
  simp

end LoginGate.Inflate

namespace LoginGate.Gzip

/-! ### Members -/

theorem skipHeader?_header (rest : Bytes) : skipHeader? (header ++ rest) = some rest := by
  simp only [header, List.cons_append, List.nil_append, skipHeader?]
  simp [skip?]

/-- The trailer behind data: check value and length. -/
def trailer (data : Bytes) : Bytes :=
  Bytes.ofNatLE 4 (crc32 data).toNat ++ Bytes.ofNatLE 4 data.length

theorem length_trailer (data : Bytes) : (trailer data).length = 8 := by simp [trailer]

theorem skipTrailer?_trailer (data : Bytes) : skipTrailer? data (trailer data) = some [] := by
  have hlen := length_trailer data
  have htake : (trailer data).take 8 = trailer data := List.take_of_length_le (by omega)
  have hdrop : (trailer data).drop 8 = [] := List.drop_of_length_le (by omega)
  rw [skipTrailer?, htake, hdrop, if_pos ⟨by omega, rfl⟩]

theorem member?_compress (data : Bytes) : member? (compress data) = some (data, []) := by
  have hparts : compress data = header ++ (storedBlocks data ++ trailer data) := by
    simp only [compress, trailer, List.append_assoc]
  rw [member?, hparts, skipHeader?_header]
  simp only [Option.bind_eq_bind, Option.bind_some, Inflate.inflate?_storedBlocks,
    skipTrailer?_trailer]
  rfl

/-- A whole member is read back. -/
theorem decompress?_compress (data : Bytes) : decompress? (compress data) = some data := by
  obtain ⟨rest, hrest⟩ : ∃ rest, compress data = 0x1F :: rest := ⟨_, rfl⟩
  have hmember := member?_compress data
  rw [hrest] at hmember ⊢
  rw [decompress?, List.length_cons, members?, hmember]
  simp [members?]

end LoginGate.Gzip
