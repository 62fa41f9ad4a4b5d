import LoginGate.Jwt.Document
import LoginGate.Proofs.Base64.RoundTrip
import LoginGate.Proofs.Result

/-!
# The segments of a token

A token that can be taken apart has three segments, none of which holds a point: a header, which is
an object, a payload, and a signature of the text before it. Each segment is the one encoding of its
bytes, up to padding, and a token that is made of three encoded segments is taken apart again.

## Main definitions

* `Jwt.Consists` : what a token consists of.
* `Jwt.compose` : the token of a header, a payload and a signature.

## Main results

* `Jwt.segment?_eq_some_iff` : the texts that are read as given bytes.
* `Jwt.consists_of_load` : a token that is taken apart consists of its parts.
* `Jwt.load_compose` : a token that is put together is taken apart.
-/

namespace LoginGate.Jwt

/-! ### Points -/

theorem splitPoint?_eq_some_iff {cs first rest : List Char} :
    splitPoint? cs = some (first, rest) ↔ cs = first ++ '.' :: rest ∧ '.' ∉ first := by
  have hall : ∀ {part : List Char}, '.' ∉ part → ∀ c ∈ part, decide (c ≠ '.') = true := by
    intro part hpart c hc
    exact decide_eq_true (ne_of_mem_of_not_mem hc hpart)
  constructor
  · intro h
    have hsplit := List.takeWhile_append_dropWhile (p := fun c : Char => decide (c ≠ '.')) (l := cs)
    have hpoint := List.head?_dropWhile_not (fun c : Char => decide (c ≠ '.')) cs
    rw [splitPoint?] at h
    split at h
    · rename_i c later hlater
      rw [hlater] at hsplit hpoint
      cases h
      refine ⟨?_, fun hmem => ?_⟩
      · obtain rfl : c = '.' := by simpa using hpoint
        exact hsplit.symm
      · simpa using List.all_eq_true.mp List.all_takeWhile _ hmem
    · cases h
  · rintro ⟨rfl, hfirst⟩
    rw [splitPoint?, List.dropWhile_append_of_pos (hall hfirst),
      List.takeWhile_append_of_pos (hall hfirst)]
    simp

/-- The last point of a text is the first one from behind. -/
theorem splitLastPoint?_reverse (cs : List Char) :
    splitLastPoint? cs.reverse =
      (splitPoint? cs).map fun (last, rest) => (rest.reverse, last.reverse) := by
  have hsplit := List.takeWhile_append_dropWhile (p := fun c : Char => decide (c ≠ '.')) (l := cs)
  simp only [splitLastPoint?, splitPoint?, List.reverse_reverse, List.length_reverse]
  cases hafter : cs.dropWhile (fun c => decide (c ≠ '.')) with
  | nil =>
    rw [hafter, List.append_nil] at hsplit
    rw [hsplit, if_neg (Nat.lt_irrefl _)]
    rfl
  | cons c rest =>
    rw [hafter] at hsplit
    generalize cs.takeWhile (fun c => decide (c ≠ '.')) = last at hsplit ⊢
    subst hsplit
    have hlength : (last ++ c :: rest).length - last.length - 1 = rest.reverse.length := by
      simp
    rw [if_pos (by simp), hlength]
    simp

theorem splitLastPoint?_eq_some_iff {cs front last : List Char} :
    splitLastPoint? cs = some (front, last) ↔ cs = front ++ '.' :: last ∧ '.' ∉ last := by
  rw [← List.reverse_reverse cs, splitLastPoint?_reverse, Option.map_eq_some_iff]
  constructor
  · rintro ⟨⟨first, rest⟩, hsplit, heq⟩
    cases heq
    obtain ⟨hcs, hpoint⟩ := splitPoint?_eq_some_iff.mp hsplit
    rw [hcs]
    exact ⟨by simp, by simpa using hpoint⟩
  · rintro ⟨hcs, hpoint⟩
    refine ⟨(last.reverse, front.reverse), splitPoint?_eq_some_iff.mpr ⟨?_, by simpa using hpoint⟩,
      by simp⟩
    rw [← List.reverse_reverse cs, hcs]
    simp

/-- A text is split at its last point, and what precedes that at its first point. -/
theorem splits_iff {cs front first middle last : List Char} :
    splitLastPoint? cs = some (front, last) ∧ splitPoint? front = some (first, middle) ↔
      front = first ++ '.' :: middle ∧ cs = first ++ '.' :: (middle ++ '.' :: last) ∧
        '.' ∉ first ∧ '.' ∉ last := by
  rw [splitLastPoint?_eq_some_iff, splitPoint?_eq_some_iff]
  constructor
  · rintro ⟨⟨rfl, hlast⟩, rfl, hfirst⟩
    exact ⟨rfl, by simp, hfirst, hlast⟩
  · rintro ⟨rfl, rfl, hfirst, hlast⟩
    exact ⟨⟨by simp, hlast⟩, rfl, hfirst⟩

/-! ### Segments -/

/-- What stands before the padding of an encoding is the encoding. -/
theorem dropPadding_encodeChars (alphabet : Base64.Alphabet) (bytes : Bytes) (count : Nat) :
    ((Base64.encodeChars alphabet bytes ++ List.replicate count '=').reverse.dropWhile
      (· = '=')).reverse = Base64.encodeChars alphabet bytes := by
  have hpads : ∀ c ∈ (List.replicate count '=').reverse, decide (c = '=') = true := by
    intro c hc
    exact decide_eq_true (List.eq_of_mem_replicate (List.mem_reverse.mp hc))
  rw [List.reverse_append, List.dropWhile_append_of_pos hpads]
  cases hreverse : (Base64.encodeChars alphabet bytes).reverse with
  | nil => rw [List.reverse_eq_nil_iff.mp hreverse]; rfl
  | cons c rest =>
    have hmem : c ∈ Base64.encodeChars alphabet bytes := by
      rw [← List.mem_reverse, hreverse]
      exact List.mem_cons_self
    obtain ⟨n, hn, rfl⟩ := Base64.exists_char_of_mem hmem
    rw [List.dropWhile_cons_of_neg (by simp [Base64.char_ne_pad alphabet hn]), ← hreverse,
      List.reverse_reverse]

/-- A segment is the encoding of its bytes, with all of the padding or without any. -/
theorem segment?_eq_some_iff {cs : List Char} {bytes : Bytes} :
    segment? cs = some bytes ↔ cs = Base64.encodeChars .urlSafe bytes ∨
      cs = Base64.padded (Base64.encodeChars .urlSafe bytes) := by
  constructor
  · intro h
    simp only [segment?, Option.bind_eq_bind, Option.bind_eq_some_iff] at h
    obtain ⟨found, -, h⟩ := h
    split at h
    · rename_i hspelling
      cases h
      rw [Bool.and_eq_true, Bool.or_eq_true, decide_eq_true_eq, decide_eq_true_eq,
        decide_eq_true_eq] at hspelling
      obtain ⟨hbody, hcs⟩ := hspelling
      rwa [← hbody] at hcs
    · cases h
  · intro h
    have hbody : (cs.reverse.dropWhile (· = '=')).reverse = Base64.encodeChars .urlSafe bytes := by
      rcases h with rfl | rfl
      · simpa using dropPadding_encodeChars .urlSafe bytes 0
      · exact dropPadding_encodeChars .urlSafe bytes _
    simp only [segment?, hbody, Base64.readLenient?_padded, Option.bind_eq_bind, Option.bind_some]
    rw [if_pos (by simpa using h)]

/-- There is no point in a segment. -/
theorem point_notMem_of_segment? {cs : List Char} {bytes : Bytes} (h : segment? cs = some bytes) :
    '.' ∉ cs := by
  have hencoded : '.' ∉ Base64.encodeChars .urlSafe bytes := by
    intro hmem
    exact absurd (Base64.isTokenChar_of_mem hmem) (by decide)
  rcases segment?_eq_some_iff.mp h with rfl | rfl
  · exact hencoded
  · intro hmem
    rcases List.mem_append.mp hmem with hmem | hmem
    · exact hencoded hmem
    · exact absurd (List.eq_of_mem_replicate hmem) (by decide)

/-! ### Tokens -/

variable {platform : Platform}

/-- A segment holds an object. -/
def HoldsObject (platform : Platform) (segment : List Char) (members : List (String × Json)) :
    Prop :=
  ∃ bytes, segment? segment = some bytes ∧ Json.ofBytes platform.nesting bytes = .ok (.obj members)

/-- A token consists of three segments with points between them: a header and a payload, each of
which holds an object, and a signature. What has been signed is the text before the signature. -/
def Consists (platform : Platform) (token : String) (header claims : List (String × Json))
    (signed signature : Bytes) : Prop :=
  ∃ first middle last, token.toList = first ++ '.' :: (middle ++ '.' :: last) ∧
    HoldsObject platform first header ∧ HoldsObject platform middle claims ∧
    segment? last = some signature ∧
    signed = Utf8.encode (String.ofList (first ++ '.' :: middle))

theorem found_eq_ok_iff {F α : Type} {reason : F} {option : Option α} {a : α} :
    found reason option = .ok a ↔ option = some a := by
  cases option <;> simp [found]

/-- A part of a token is read as an object exactly if it is one that nests no deeper than
allowed. -/
theorem readPart_bind_asObject_eq_ok_iff {text kind : Fault} {bytes : Bytes} {json : Json} :
    (readPart platform text bytes).bind (asObject kind) = .ok json ↔
      ∃ members, json = .obj members ∧
        Json.ofBytes platform.nesting bytes = .ok (.obj members) := by
  rw [readPart]
  cases Json.ofBytes platform.nesting bytes with
  | ok value => cases value <;> simp [Except.bind, asObject, eq_comm]
  | error failure =>
    cases failure with
    | malformed => simp [Except.bind]
    | tooDeep =>
      simp only
      split <;> simp [Except.bind]

theorem headerOf_eq_ok_iff {bytes : Bytes} {header : Json} :
    headerOf platform bytes = .ok header ↔
      ∃ members, header = .obj members ∧
        Json.ofBytes platform.nesting bytes = .ok (.obj members) :=
  readPart_bind_asObject_eq_ok_iff

theorem claims_eq_ok_iff {document : Document} {claims : Json} :
    document.claims platform = .ok claims ↔
      ∃ members, claims = .obj members ∧
        Json.ofBytes platform.nesting document.payload = .ok (.obj members) :=
  readPart_bind_asObject_eq_ok_iff

/-- A token is taken apart at its points if all of its parts are read and the header is in order. -/
theorem load_eq_ok_iff {token : String} {document : Document} :
    load platform token = .ok document ↔
      ∃ first middle last, token.toList = first ++ '.' :: (middle ++ '.' :: last) ∧
        '.' ∉ first ∧ '.' ∉ last ∧
        (∃ header, document.header = .obj header ∧ HoldsObject platform first header) ∧
        (isDetached document.header && !middle.isEmpty) = false ∧
        segment? middle = some document.payload ∧ segment? last = some document.signature ∧
        checkHeader document.header = .ok () ∧
        document.signed = Utf8.encode (String.ofList (first ++ '.' :: middle)) := by
  constructor
  · intro h
    rw [load] at h
    obtain ⟨⟨front, last⟩, hlast, h⟩ := Result.bind_eq_ok_iff.mp h
    obtain ⟨⟨first, middle⟩, hfirst, h⟩ := Result.bind_eq_ok_iff.mp h
    obtain ⟨headerBytes, hsegment, h⟩ := Result.bind_eq_ok_iff.mp h
    obtain ⟨json, hjson, h⟩ := Result.bind_eq_ok_iff.mp h
    cases hdetached : isDetached json && !middle.isEmpty with
    | true =>
      simp only [hdetached, if_true] at h
      cases h
    | false =>
      simp only [hdetached, Bool.false_eq_true, if_false] at h
      obtain ⟨payload, hpayload, h⟩ := Result.bind_eq_ok_iff.mp h
      obtain ⟨signature, hsignature, h⟩ := Result.bind_eq_ok_iff.mp h
      obtain ⟨⟨⟩, hcheck, h⟩ := Result.bind_eq_ok_iff.mp h
      rw [Result.mapError_eq_ok_iff] at hcheck
      cases h
      obtain ⟨header, rfl, hheader⟩ := headerOf_eq_ok_iff.mp hjson
      obtain ⟨rfl, htoken, hpoint, hpoint'⟩ :=
        splits_iff.mp ⟨found_eq_ok_iff.mp hlast, found_eq_ok_iff.mp hfirst⟩
      exact ⟨first, middle, last, htoken, hpoint, hpoint',
        ⟨header, rfl, headerBytes, found_eq_ok_iff.mp hsegment, hheader⟩,
        hdetached, found_eq_ok_iff.mp hpayload, found_eq_ok_iff.mp hsignature, hcheck, rfl⟩
  · rintro ⟨first, middle, last, htoken, hfirst, hlast, ⟨header, hheader, hobject⟩, hdetached,
      hpayload, hsignature, hcheck, hsigned⟩
    obtain ⟨headerBytes, hsegment, hbytes⟩ := hobject
    obtain ⟨hfront, hparts⟩ := splits_iff.mpr ⟨rfl, htoken, hfirst, hlast⟩
    have hjson : headerOf platform headerBytes = .ok document.header :=
      headerOf_eq_ok_iff.mpr ⟨header, hheader, hbytes⟩
    obtain ⟨json, payload, signature, signed⟩ := document
    simp only [load, hfront, hparts, hsegment, found, bind, Except.bind, hjson, hdetached,
      Bool.false_eq_true, if_false, hpayload, hsignature, hcheck, Result.mapError_ok, pure,
      Except.pure, ← hsigned]

/-- A token that is taken apart and whose claims are read consists of its parts. -/
theorem consists_of_load {token : String} {document : Document} {claims : Json}
    (hload : load platform token = .ok document) (hclaims : document.claims platform = .ok claims) :
    ∃ header members, document.header = .obj header ∧ claims = .obj members ∧
      Consists platform token header members document.signed document.signature := by
  obtain ⟨members, rfl, hpayload⟩ := claims_eq_ok_iff.mp hclaims
  obtain ⟨first, middle, last, htoken, -, -, ⟨header, hheader, hobject⟩, -, hmiddle, hsignature, -,
    hsigned⟩ := load_eq_ok_iff.mp hload
  exact ⟨header, members, hheader, rfl, first, middle, last, htoken, hobject,
    ⟨document.payload, hmiddle, hpayload⟩, hsignature, hsigned⟩

/-- What is read of a token is taken from its parts. -/
theorem read_eq_ok_iff {token : String} {header claims : Json} :
    read platform token = .ok (header, claims) ↔
      ∃ document, load platform token = .ok document ∧ document.checkAttached = .ok () ∧
        document.header = header ∧ document.claims platform = .ok claims := by
  rw [read]
  constructor
  · intro h
    obtain ⟨document, hload, h⟩ := Result.bind_eq_ok_iff.mp h
    obtain ⟨hattached, h⟩ := Result.bind_unit_eq_ok_iff.mp h
    obtain ⟨found, hclaims, h⟩ := Result.bind_eq_ok_iff.mp h
    cases h
    exact ⟨document, hload, Result.mapError_eq_ok_iff.mp hattached, rfl, hclaims⟩
  · rintro ⟨document, hload, hattached, rfl, hclaims⟩
    simp only [hload, hattached, hclaims, Result.mapError_ok, bind, Except.bind]
    rfl

/-! ### Tokens that are put together -/

/-- What is signed of a header and a payload. -/
def signedChars (header payload : Bytes) : List Char :=
  Base64.encodeChars .urlSafe header ++ '.' :: Base64.encodeChars .urlSafe payload

/-- The token of a header, a payload and a signature. -/
def compose (header payload signature : Bytes) : String :=
  String.ofList (signedChars header payload ++ '.' :: Base64.encodeChars .urlSafe signature)

theorem segment?_encodeChars (bytes : Bytes) :
    segment? (Base64.encodeChars .urlSafe bytes) = some bytes :=
  segment?_eq_some_iff.mpr (.inl rfl)

/-- A token that is put together is taken apart, if its header is in order. -/
theorem load_compose {headerBytes payload signature : Bytes} {header : List (String × Json)}
    (hheader : Json.ofBytes platform.nesting headerBytes = .ok (.obj header))
    (hdetached : isDetached (.obj header) = false) (hcheck : checkHeader (.obj header) = .ok ()) :
    load platform (compose headerBytes payload signature) =
      .ok ⟨.obj header, payload, signature,
        Utf8.encode (String.ofList (signedChars headerBytes payload))⟩ := by
  have hfirst := segment?_encodeChars headerBytes
  have hlast := segment?_encodeChars signature
  exact load_eq_ok_iff.mpr ⟨_, _, _, by simp [compose, signedChars],
    point_notMem_of_segment? hfirst, point_notMem_of_segment? hlast,
    ⟨header, rfl, headerBytes, hfirst, hheader⟩, by rw [hdetached, Bool.false_and],
    segment?_encodeChars payload, hlast, hcheck, rfl⟩

end LoginGate.Jwt
