import LoginGate.Proofs.Compression.RoundTrip

/-!
# Archives by their members

Reading an archive is reading member after member. It can be said without the reader what each of
them is: a header whose flags tell which optional fields follow, deflated data, and a trailer with
the check value and the length of what comes out. Zeros may stand behind a trailer, and then the
next member begins or the archive ends.

Whatever reads deflated data goes forward and leaves an end of its input. So each member takes some
bytes, and the number of steps that the reader is given is always enough.

## Main definitions

* `Inflate.Leaves` : a reader leaves an end of its input.
* `Gzip.IsHeader`, `Gzip.Members` : headers, and archives with what they hold.

## Main results

* `Inflate.suffix_of_inflate?` : deflated data are followed by what is left.
* `Gzip.skipHeader?_eq_some_iff`, `Gzip.member?_eq_some_iff` : one member.
* `Gzip.decompress?_eq_some_iff` : what an archive holds.
-/

namespace LoginGate.Inflate

/-! ### Readers leave an end of their input -/

variable {α β : Type} {bits : Bits} {result : Option (α × Bits)}

/-- Whatever is found, the bytes that are left are an end of those that were there. -/
def Leaves (bits : Bits) (result : Option (α × Bits)) : Prop :=
  ∀ found ∈ result, found.2.bytes <:+ bits.bytes

theorem leaves_none (bits : Bits) : Leaves bits (none : Option (α × Bits)) := nofun

theorem leaves_some (a : α) (bits : Bits) : Leaves bits (some (a, bits)) := by
  intro found hfound
  obtain rfl := Option.some.inj hfound
  exact List.suffix_refl _

/-- One reader after the other leaves an end of the input. -/
theorem Leaves.bind {next : α × Bits → Option (β × Bits)} (h : Leaves bits result)
    (hnext : ∀ a later, Leaves later (next (a, later))) : Leaves bits (result.bind next) := by
  intro found hfound
  obtain ⟨⟨a, later⟩, hresult, hnext'⟩ := Option.bind_eq_some_iff.mp hfound
  exact (hnext a later found hnext').trans (h _ hresult)

theorem leaves_next? (bits : Bits) : Leaves bits bits.next? := by
  obtain ⟨held, bytes⟩ := bits
  cases held with
  | cons bit held => exact leaves_some bit ⟨held, bytes⟩
  | nil =>
    cases bytes with
    | nil => exact leaves_none _
    | cons b bytes =>
      rintro found hfound
      obtain rfl := Option.some.inj hfound
      exact List.suffix_cons b bytes

theorem leaves_take? (count : Nat) (bits : Bits) : Leaves bits (bits.take? count) := by
  induction count generalizing bits with
  | zero => exact leaves_some 0 bits
  | succ count ih =>
    refine (leaves_next? bits).bind fun bit bits => ?_
    refine (ih bits).bind fun n bits => ?_
    exact leaves_some _ bits

theorem leaves_symbol? (symbols : Array Nat) (counts : List Nat) (value first index : Nat)
    (bits : Bits) : Leaves bits (symbol? symbols counts value first index bits) := by
  induction counts generalizing value first index bits with
  | nil => exact leaves_none bits
  | cons count counts ih =>
    refine (leaves_next? bits).bind fun bit bits => ?_
    dsimp only
    split
    · cases symbols[index + (2 * value + bit.toNat - first)]? with
      | none => exact leaves_none bits
      | some symbol => exact leaves_some symbol bits
    · exact ih _ _ _ bits

theorem leaves_codeNext? (code : Code) (bits : Bits) : Leaves bits (code.next? bits) :=
  leaves_symbol? code.symbols code.counts 0 0 0 bits

theorem leaves_extended? (table : Array (Nat × Nat)) (symbol : Nat) (bits : Bits) :
    Leaves bits (extended? table symbol bits) := by
  rw [extended?]
  cases table[symbol]? with
  | none => exact leaves_none bits
  | some entry =>
    refine (leaves_take? entry.2 bits).bind fun more bits => ?_
    exact leaves_some _ bits

theorem leaves_coded? (literals distances : Code) (steps : Nat) (bits : Bits)
    (out : Array UInt8) : Leaves bits (coded? literals distances steps bits out) := by
  induction steps generalizing bits out with
  | zero => exact leaves_none bits
  | succ steps ih =>
    refine (leaves_codeNext? literals bits).bind fun symbol bits => ?_
    dsimp only
    split
    · exact ih bits _
    · split
      · exact leaves_some out bits
      · refine (leaves_extended? lengthTable _ bits).bind fun length bits => ?_
        refine (leaves_codeNext? distances bits).bind fun symbol bits => ?_
        refine (leaves_extended? distanceTable symbol bits).bind fun distance bits => ?_
        dsimp only
        split
        · exact leaves_none bits
        · exact ih bits _

theorem leaves_triples? (count : Nat) (bits : Bits) : Leaves bits (triples? count bits) := by
  induction count generalizing bits with
  | zero => exact leaves_some [] bits
  | succ count ih =>
    refine (leaves_take? 3 bits).bind fun n bits => ?_
    refine (ih bits).bind fun ns bits => ?_
    exact leaves_some _ bits

theorem leaves_lengths? (code : Code) (total steps : Nat) (bits : Bits) (done : List Nat) :
    Leaves bits (lengths? code total steps bits done) := by
  induction steps generalizing bits done with
  | zero =>
    rw [lengths?]
    split
    · exact leaves_some _ bits
    · split
      · exact leaves_none bits
      · exact leaves_none bits
  | succ steps ih =>
    rw [lengths?]
    split
    · exact leaves_some _ bits
    · split
      · exact leaves_none bits
      · refine (leaves_codeNext? code bits).bind fun symbol bits => ?_
        dsimp only
        split
        · exact ih bits _
        · split
          · cases done.head? with
            | none => exact leaves_none bits
            | some last =>
              refine (leaves_take? 2 bits).bind fun n bits => ?_
              exact ih bits _
          · split
            · refine (leaves_take? 3 bits).bind fun n bits => ?_
              exact ih bits _
            · refine (leaves_take? 7 bits).bind fun n bits => ?_
              exact ih bits _

theorem leaves_codes? (bits : Bits) : Leaves bits (codes? bits) := by
  refine (leaves_take? 5 bits).bind fun literals bits => ?_
  refine (leaves_take? 5 bits).bind fun distances bits => ?_
  refine (leaves_take? 4 bits).bind fun sent bits => ?_
  dsimp only
  split
  · exact leaves_none bits
  · refine (leaves_triples? _ bits).bind fun ns bits => ?_
    dsimp only
    split
    · exact leaves_none bits
    · refine (leaves_lengths? _ _ _ bits []).bind fun lengths bits => ?_
      dsimp only
      split
      · exact leaves_none bits
      · exact leaves_some _ bits

theorem leaves_stored? (bits : Bits) (out : Array UInt8) :
    Leaves bits (stored? bits.bytes out) := by
  intro found hfound
  unfold stored? at hfound
  split at hfound
  · rename_i a b c d rest hbytes
    dsimp only at hfound
    split at hfound
    · obtain rfl := Option.some.inj hfound
      rw [hbytes]
      exact (List.drop_suffix _ rest).trans (List.suffix_append [a, b, c, d] rest)
    · cases hfound
  · cases hfound

theorem leaves_block? (kind steps : Nat) (bits : Bits) (out : Array UInt8) :
    Leaves bits (block? kind steps bits out) := by
  unfold block?
  split
  · exact leaves_stored? bits out
  · exact leaves_coded? _ _ steps bits out
  · refine (leaves_codes? bits).bind fun codes bits => ?_
    exact leaves_coded? codes.1 codes.2 steps bits out
  · exact leaves_none bits

theorem leaves_blocks? (steps : Nat) (bits : Bits) (out : Array UInt8) :
    Leaves bits (blocks? steps bits out) := by
  induction steps generalizing bits out with
  | zero => exact leaves_none bits
  | succ steps ih =>
    refine (leaves_next? bits).bind fun last bits => ?_
    refine (leaves_take? 2 bits).bind fun kind bits => ?_
    refine (leaves_block? kind _ bits out).bind fun out bits => ?_
    dsimp only
    split
    · exact leaves_some out bits
    · exact ih bits out

/-- Deflated data are followed by what is left. -/
theorem suffix_of_inflate? {bytes data rest : Bytes} (h : inflate? bytes = some (data, rest)) :
    rest <:+ bytes := by
  obtain ⟨⟨out, bits⟩, hblocks, hfound⟩ := Option.map_eq_some_iff.mp h
  cases hfound
  exact leaves_blocks? _ ⟨[], bytes⟩ #[] _ hblocks

end LoginGate.Inflate

namespace LoginGate.Gzip

variable {bytes rest data content : Bytes}

/-! ### Headers -/

/-- An extra field with its length in front. -/
def IsExtra (bytes : Bytes) : Prop :=
  ∃ a b field, bytes = a :: b :: field ∧ field.length = a.toNat + 256 * b.toNat

/-- A text with the zero that ends it. -/
def IsText (bytes : Bytes) : Prop := ∃ text, (∀ b ∈ text, b ≠ 0) ∧ bytes = text ++ [0]

/-- What a flag of the header announces: there if the flag is set, and else nothing. -/
def Announced (flag : UInt8) (isField : Bytes → Prop) (bytes : Bytes) : Prop :=
  if flag ≠ 0 then isField bytes else bytes = []

/-- The header of a member: two bytes that tell the format, the method, the flags, six bytes of
time, level and system, and then what the flags announce. -/
inductive IsHeader : Bytes → Prop
  | mk {flags : UInt8} {fixed extra name comment check : Bytes} (hfixed : fixed.length = 6)
      (hextra : Announced (flags &&& 4) IsExtra extra)
      (hname : Announced (flags &&& 8) IsText name)
      (hcomment : Announced (flags &&& 16) IsText comment)
      (hcheck : Announced (flags &&& 2) (·.length = 2) check) :
      IsHeader (0x1F :: 0x8B :: 8 :: flags ::
        (fixed ++ (extra ++ (name ++ (comment ++ check)))))

theorem skip?_eq_some_iff {count : Nat} :
    skip? count bytes = some rest ↔ ∃ taken, taken.length = count ∧ bytes = taken ++ rest := by
  rw [skip?]
  constructor
  · intro h
    split at h
    · obtain rfl := Option.some.inj h
      exact ⟨bytes.take count, List.length_take_of_le ‹_›, (List.take_append_drop count bytes).symm⟩
    · cases h
  · rintro ⟨taken, rfl, rfl⟩
    simp

theorem skipExtra?_eq_some_iff :
    skipExtra? bytes = some rest ↔ ∃ extra, IsExtra extra ∧ bytes = extra ++ rest := by
  constructor
  · intro h
    unfold skipExtra? at h
    split at h
    · rename_i a b more
      obtain ⟨field, hlength, rfl⟩ := skip?_eq_some_iff.mp h
      exact ⟨a :: b :: field, ⟨a, b, field, rfl, hlength⟩, rfl⟩
    · cases h
  · rintro ⟨_, ⟨a, b, field, rfl, hlength⟩, rfl⟩
    exact skip?_eq_some_iff.mpr ⟨field, hlength, rfl⟩

theorem skipText_append (rest : Bytes) {text : Bytes} (h : IsText text) :
    skipText (text ++ rest) = rest := by
  obtain ⟨text, htext, rfl⟩ := h
  have hall : ∀ b ∈ text, (b != 0) = true := fun b hb => bne_iff_ne.mpr (htext b hb)
  rw [skipText, List.append_assoc, List.dropWhile_append_of_pos hall]
  rfl

/-- A text ends with its zero; one without it takes all that is left. -/
theorem skipText_eq_iff (hrest : rest ≠ []) :
    skipText bytes = rest ↔ ∃ text, IsText text ∧ bytes = text ++ rest := by
  constructor
  · intro h
    induction bytes with
    | nil => exact absurd h.symm hrest
    | cons b bytes ih =>
      by_cases hb : b = 0
      · obtain rfl : bytes = rest := by simpa [skipText, hb] using h
        exact ⟨[0], ⟨[], nofun, rfl⟩, by rw [hb]; rfl⟩
      · obtain ⟨_, ⟨text, htext, rfl⟩, rfl⟩ := ih (by simpa [skipText, hb] using h)
        exact ⟨b :: text ++ [0], ⟨b :: text, List.forall_mem_cons.mpr ⟨hb, htext⟩, rfl⟩, rfl⟩
  · rintro ⟨text, htext, rfl⟩
    exact skipText_append rest htext

/-- What a flag announces is passed over. -/
theorem announced_iff {flag : UInt8} {isField : Bytes → Prop} {skip : Bytes → Option Bytes}
    (hskip : skip bytes = some rest ↔ ∃ field, isField field ∧ bytes = field ++ rest) :
    (if flag ≠ 0 then skip bytes else some bytes) = some rest ↔
      ∃ field, Announced flag isField field ∧ bytes = field ++ rest := by
  unfold Announced
  split
  · exact hskip
  · simp

theorem announcedText_iff {flag : UInt8} (hrest : rest ≠ []) :
    (if flag ≠ 0 then skipText bytes else bytes) = rest ↔
      ∃ text, Announced flag IsText text ∧ bytes = text ++ rest := by
  unfold Announced
  split
  · exact skipText_eq_iff hrest
  · simp

/-- The steps of passing over a header. -/
theorem skipHeader?_eq_some_iff_steps {flags : UInt8} {more : Bytes} :
    skipHeader? (0x1F :: 0x8B :: 8 :: flags :: more) = some rest ↔
      ∃ afterFixed afterExtra, skip? 6 more = some afterFixed ∧
        (if flags &&& 4 ≠ 0 then skipExtra? afterFixed else some afterFixed) = some afterExtra ∧
        ∃ afterName afterComment,
          (if flags &&& 8 ≠ 0 then skipText afterExtra else afterExtra) = afterName ∧
          (if flags &&& 16 ≠ 0 then skipText afterName else afterName) = afterComment ∧
          (if flags &&& 2 ≠ 0 then skip? 2 afterComment else some afterComment) = some rest := by
  rw [skipHeader?]
  by_cases hflag : flags &&& 4 ≠ 0
  · simp only [if_pos hflag, Option.bind_eq_bind, Option.bind_eq_some_iff, exists_eq_left',
      exists_and_left]
  · simp only [if_neg hflag, Option.bind_eq_bind, Option.bind_eq_some_iff, exists_eq_left',
      exists_and_left]

/-- A header is passed over exactly if it is one, and something is left. -/
theorem skipHeader?_eq_some_iff (hrest : rest ≠ []) :
    skipHeader? bytes = some rest ↔ ∃ header, IsHeader header ∧ bytes = header ++ rest := by
  constructor
  · intro h
    obtain ⟨flags, more, rfl⟩ : ∃ flags more, bytes = 0x1F :: 0x8B :: 8 :: flags :: more := by
      unfold skipHeader? at h
      split at h
      · exact ⟨_, _, rfl⟩
      · cases h
    obtain ⟨afterFixed, afterExtra, hfixed, hextra, afterName, afterComment, hname, hcomment,
      hcheck⟩ := skipHeader?_eq_some_iff_steps.mp h
    obtain ⟨check, hcheck', rfl⟩ := (announced_iff skip?_eq_some_iff).mp hcheck
    have hafterComment : check ++ rest ≠ [] := List.append_ne_nil_of_right_ne_nil _ hrest
    obtain ⟨comment, hcomment', rfl⟩ := (announcedText_iff hafterComment).mp hcomment
    have hafterName : comment ++ (check ++ rest) ≠ [] :=
      List.append_ne_nil_of_right_ne_nil _ hafterComment
    obtain ⟨name, hname', rfl⟩ := (announcedText_iff hafterName).mp hname
    obtain ⟨extra, hextra', rfl⟩ := (announced_iff skipExtra?_eq_some_iff).mp hextra
    obtain ⟨fixed, hfixed', rfl⟩ := skip?_eq_some_iff.mp hfixed
    exact ⟨_, .mk hfixed' hextra' hname' hcomment' hcheck', by simp⟩
  · rintro ⟨_, ⟨hfixed, hextra, hname, hcomment, hcheck⟩, rfl⟩
    simp only [List.cons_append, List.append_assoc]
    refine skipHeader?_eq_some_iff_steps.mpr ⟨_, _, skip?_eq_some_iff.mpr ⟨_, hfixed, rfl⟩,
      (announced_iff skipExtra?_eq_some_iff).mpr ⟨_, hextra, rfl⟩, _, _,
      (announcedText_iff ?_).mpr ⟨_, hname, rfl⟩, (announcedText_iff ?_).mpr ⟨_, hcomment, rfl⟩,
      (announced_iff skip?_eq_some_iff).mpr ⟨_, hcheck, rfl⟩⟩
    · simp [hrest]
    · simp [hrest]

/-! ### Members -/

theorem length_header_pos {header : Bytes} (h : IsHeader header) : 0 < header.length := by
  obtain ⟨hfixed, hextra, hname, hcomment, hcheck⟩ := h
  exact Nat.succ_pos _

/-- A trailer is passed over exactly if it is that of the data. -/
theorem skipTrailer?_eq_some_iff :
    skipTrailer? data bytes = some rest ↔ bytes = trailer data ++ rest := by
  have hlength := length_trailer data
  constructor
  · intro h
    rw [skipTrailer?] at h
    split at h
    · rename_i htrailer
      obtain rfl := Option.some.inj h
      exact (List.take_append_drop 8 bytes).symm.trans (congrArg (· ++ _) htrailer.2)
    · cases h
  · rintro rfl
    rw [skipTrailer?, List.take_left' hlength, List.drop_left' hlength, if_pos]
    exact ⟨by simp [hlength], rfl⟩

theorem append_trailer_ne_nil (deflated data rest : Bytes) :
    deflated ++ (trailer data ++ rest) ≠ [] := by
  intro h
  have hlength := congrArg List.length h
  simp [length_trailer] at hlength

/-- A member is a header, deflated data, and the trailer of what comes out of them. -/
theorem member?_eq_some_iff :
    member? bytes = some (data, rest) ↔ ∃ header deflated, IsHeader header ∧
      Inflate.inflate? (deflated ++ (trailer data ++ rest)) = some (data, trailer data ++ rest) ∧
      bytes = header ++ (deflated ++ (trailer data ++ rest)) := by
  simp only [member?, Option.bind_eq_bind, Option.bind_eq_some_iff, Prod.exists,
    skipTrailer?_eq_some_iff]
  constructor
  · rintro ⟨more, hheader, data', _, hinflate, _, rfl, hfound⟩
    cases hfound
    obtain ⟨deflated, rfl⟩ := Inflate.suffix_of_inflate? hinflate
    obtain ⟨header, hheader', rfl⟩ :=
      (skipHeader?_eq_some_iff (append_trailer_ne_nil deflated data rest)).mp hheader
    exact ⟨header, deflated, hheader', hinflate, rfl⟩
  · rintro ⟨header, deflated, hheader, hinflate, rfl⟩
    have hskip := (skipHeader?_eq_some_iff (append_trailer_ne_nil deflated data rest)).mpr
      ⟨header, hheader, rfl⟩
    exact ⟨_, hskip, data, _, hinflate, rest, rfl, rfl⟩

/-- An archive and what it holds: members one after the other, and zeros between them. -/
inductive Members : Bytes → Bytes → Prop
  | none : Members [] []
  | member {header deflated data rest later : Bytes} (zeros : Nat) (hheader : IsHeader header)
      (hinflate :
        Inflate.inflate? (deflated ++ (trailer data ++ (List.replicate zeros 0 ++ rest))) =
          some (data, trailer data ++ (List.replicate zeros 0 ++ rest)))
      (hrest : rest.head? ≠ some 0) (hlater : Members rest later) :
      Members (header ++ (deflated ++ (trailer data ++ (List.replicate zeros 0 ++ rest))))
        (data ++ later)

/-- Zeros, and what starts with something else. -/
theorem exists_zeros (bytes : Bytes) : ∃ zeros,
    bytes = List.replicate zeros 0 ++ bytes.dropWhile (· == 0) ∧
      (bytes.dropWhile (· == 0)).head? ≠ some 0 := by
  induction bytes with
  | nil => exact ⟨0, rfl, nofun⟩
  | cons b bytes ih =>
    by_cases hb : b = 0
    · obtain ⟨zeros, hzeros, hrest⟩ := ih
      refine ⟨zeros + 1, ?_, by simpa [hb] using hrest⟩
      simpa [hb, List.replicate_succ] using hzeros
    · exact ⟨0, by simp [hb], by simp [hb]⟩

theorem dropWhile_zeros (zeros : Nat) (hrest : rest.head? ≠ some 0) :
    (List.replicate zeros 0 ++ rest).dropWhile (· == 0) = rest := by
  have hzeros : ∀ b ∈ List.replicate zeros (0 : UInt8), (b == 0) = true := fun b hb =>
    beq_iff_eq.mpr (List.eq_of_mem_replicate hb)
  rw [List.dropWhile_append_of_pos hzeros]
  cases rest with
  | nil => rfl
  | cons b rest =>
    have hb : b ≠ 0 := fun hb => hrest (congrArg some hb)
    simp [hb]

theorem members_of_members? {steps : Nat} (h : members? steps bytes = some content) :
    Members bytes content := by
  induction steps generalizing bytes content with
  | zero =>
    cases bytes with
    | nil =>
      obtain rfl := Option.some.inj h
      exact .none
    | cons b bytes => cases h
  | succ steps ih =>
    cases bytes with
    | nil =>
      obtain rfl := Option.some.inj h
      exact .none
    | cons b bytes =>
      obtain ⟨⟨data, rest⟩, hmember, h⟩ := Option.bind_eq_some_iff.mp h
      obtain ⟨later, hlater, h⟩ := Option.bind_eq_some_iff.mp h
      obtain rfl := Option.some.inj h
      obtain ⟨header, deflated, hheader, hinflate, hbytes⟩ := member?_eq_some_iff.mp hmember
      obtain ⟨zeros, hzeros, hrest⟩ := exists_zeros rest
      rw [hzeros] at hinflate hbytes
      rw [hbytes]
      exact .member zeros hheader hinflate hrest (ih hlater)

/-- More steps than bytes are enough. -/
theorem members?_of_members (h : Members bytes content) {steps : Nat}
    (hsteps : bytes.length ≤ steps) : members? steps bytes = some content := by
  induction h generalizing steps with
  | none => cases steps <;> rfl
  | @member header deflated data rest later zeros hheader hinflate hrest hlater ih =>
    obtain ⟨b, header, rfl⟩ := List.exists_cons_of_length_pos (length_header_pos hheader)
    have hmember := member?_eq_some_iff.mpr ⟨_, deflated, hheader, hinflate, rfl⟩
    simp only [List.length_cons, List.length_append] at hsteps
    cases steps with
    | zero => omega
    | succ steps =>
      have hnext : members? steps rest = some later := ih (by omega)
      rw [List.cons_append] at hmember ⊢
      rw [members?, hmember]
      simp only [Option.bind_eq_bind, Option.bind_some, dropWhile_zeros zeros hrest, hnext]
      rfl

/-- What an archive holds is what its members hold. -/
theorem decompress?_eq_some_iff : decompress? bytes = some content ↔ Members bytes content :=
  ⟨members_of_members?, fun h => members?_of_members h (Nat.le_refl _)⟩

end LoginGate.Gzip
