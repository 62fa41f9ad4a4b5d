import LoginGate.Json.Encoding
import LoginGate.Json.Printer
import LoginGate.Proofs.Numeral.Decimal
import LoginGate.Proofs.Result
import Mathlib.Tactic.Set
import Mathlib.Tactic.SplitIfs

/-!
# JSON is read back

A value that is written without blanks is read back, if it holds neither a float nor a string that
is no text. Two limits of the reader stand in the way: how deep values nest, and how many digits a
whole number has. Where a value does not fit, nothing is read.

Every statement is about a text that goes on after the part at hand. What follows a number may not
go on with it.

## Main definitions

* `Json.isPlain` : neither floats nor strings that are no texts.
* `Json.fits` : the two limits.

## Main results

* `Json.stringPieces?_flatMap` : an escaped string is read back.
* `Json.value?_render`, `Json.parse?_render` : a value is read back.
* `Json.ofBytes_of_render` : so is a document that was written.
-/

namespace LoginGate.Json

/-! ### Strings -/

theorem hexValue?_hexDigit {n : Nat} (h : n < 16) :
    Bytes.hexValue? (Bytes.hexDigit n) = some n := by
  revert n; decide

theorem hexCode_four (n : Nat) :
    Quoted.hexCode 4 n =
    [Bytes.hexDigit (n / 4096 % 16), Bytes.hexDigit (n / 256 % 16), Bytes.hexDigit (n / 16 % 16),
      Bytes.hexDigit (n % 16)] := by
  simp [Quoted.hexCode, List.range, List.range.loop]

theorem hexQuad?_hexDigit {n : Nat} (h : n < 0x10000) :
    hexQuad? (.char (Bytes.hexDigit (n / 4096 % 16))) (.char (Bytes.hexDigit (n / 256 % 16)))
      (.char (Bytes.hexDigit (n / 16 % 16))) (.char (Bytes.hexDigit (n % 16))) = some n := by
  simp only [hexQuad?, Symbol.hexValue?, Symbol.char?, Option.bind_some]
  rw [hexValue?_hexDigit (by omega), hexValue?_hexDigit (by omega),
    hexValue?_hexDigit (by omega), hexValue?_hexDigit (by omega)]
  simp only [Option.bind_eq_bind, Option.bind_some, Option.pure_def, Option.some.injEq]
  omega

@[simp]
theorem toOption_found {α : Type} (a : Option α) : (found a).toOption = a := by
  cases a <;> rfl

theorem found_eq_ok_iff {α : Type} {result : Option α} {a : α} :
    found result = .ok a ↔ result = some a := by
  cases result <;> simp [found]

@[simp]
theorem symbols_nil : symbols [] = [] := rfl

@[simp]
theorem symbols_cons (c : Char) (cs : List Char) : symbols (c :: cs) = .char c :: symbols cs := rfl

@[simp]
theorem symbols_append (cs ds : List Char) : symbols (cs ++ ds) = symbols cs ++ symbols ds :=
  List.map_append

@[simp]
theorem length_symbols (cs : List Char) : (symbols cs).length = cs.length := List.length_map _

/-- One more piece in front of a string. -/
def consPiece (piece : Piece) (read : Option (List Piece × List Symbol)) :
    Option (List Piece × List Symbol) :=
  read.map fun read => (piece :: read.1, read.2)

theorem stringPieces?_unicodeEscape {n : Nat} (h : n < 0x10000) (rest : List Symbol) :
    stringPieces? (symbols (unicodeEscape n) ++ rest) =
      consPiece ⟨n, true⟩ (stringPieces? rest) := by
  rw [unicodeEscape, hexCode_four]
  simp only [symbols_cons, symbols_nil, List.cons_append, List.nil_append]
  rw [stringPieces?, hexQuad?_hexDigit h]
  cases stringPieces? rest <;> rfl

theorem stringPieces?_shortEscape {c : Char} {code : Nat} (h : shortEscape? c = some code)
    (rest : List Symbol) :
    stringPieces? (.char '\\' :: .char c :: rest) =
      consPiece ⟨code, false⟩ (stringPieces? rest) := by
  rw [stringPieces?]
  · simp only [Symbol.char?, Option.bind_some, h]
    cases stringPieces? rest <;> rfl
  · rintro a b d e rest' ⟨⟩ -
    exact absurd h nofun

theorem stringPieces?_char {c : Char} (hquote : c ≠ '"') (hback : c ≠ '\\')
    (hlow : ¬ c.toNat < 0x20) (rest : List Symbol) :
    stringPieces? (.char c :: rest) = consPiece ⟨c.toNat, false⟩ (stringPieces? rest) := by
  rw [stringPieces?]
  · rw [if_neg (show ¬ (Symbol.char c).code < 0x20 from hlow)]
    cases stringPieces? rest <;> rfl
  · exact fun h => hquote (Symbol.char.inj h)
  · intro a b d e rest' h
    exact absurd (Symbol.char.inj h) hback
  · intro d rest' h
    exact absurd (Symbol.char.inj h) hback

/-- A character is one piece of a string, escaped or not. -/
theorem stringPieces?_escapeChar (c : Char) :
    ∃ inDigits, ∀ rest, stringPieces? (symbols (escapeChar false c) ++ rest) =
      consPiece ⟨c.toNat, inDigits⟩ (stringPieces? rest) := by
  rw [escapeChar]
  split_ifs with h1 h2 h3 h4 h5 h6 h7 h8 h9
  · subst h1
    exact ⟨false, stringPieces?_shortEscape rfl⟩
  · subst h2
    exact ⟨false, stringPieces?_shortEscape rfl⟩
  · subst h3
    exact ⟨false, stringPieces?_shortEscape rfl⟩
  · subst h4
    exact ⟨false, stringPieces?_shortEscape rfl⟩
  · subst h5
    exact ⟨false, stringPieces?_shortEscape rfl⟩
  · rw [h6]
    exact ⟨false, stringPieces?_shortEscape rfl⟩
  · rw [h7]
    exact ⟨false, stringPieces?_shortEscape rfl⟩
  · exact ⟨true, stringPieces?_unicodeEscape (by omega)⟩
  · simp at h9
  · exact ⟨false, stringPieces?_char h1 h2 h8⟩

theorem isHighSurrogate_toNat (c : Char) : isHighSurrogate c.toNat = false := by
  have h := c.valid
  simp only [UInt32.isValidChar, Nat.isValidChar] at h
  have hc : c.toNat = c.val.toNat := rfl
  simp only [isHighSurrogate, Bool.and_eq_false_iff, decide_eq_false_iff_not]
  omega

/-- Without the first half of a pair there is nothing to join. -/
theorem joinPieces_of_not_high {pieces : List Piece}
    (h : ∀ piece ∈ pieces, isHighSurrogate piece.code = false) :
    joinPieces pieces = pieces.map (·.code) := by
  induction pieces with
  | nil => rfl
  | cons first pieces ih =>
    cases pieces with
    | nil => rfl
    | cons second pieces =>
      have hpair : first.arePair second = false := by
        simp [Piece.arePair, h first (List.mem_cons_self ..)]
      rw [joinPieces, hpair, if_neg Bool.false_ne_true,
        ih fun piece hpiece => h piece (.tail _ hpiece)]
      rfl

/-- An escaped text is read back. -/
theorem stringPieces?_flatMap (cs : List Char) (rest : List Symbol) :
    ∃ pieces, joinPieces pieces = cs.map Char.toNat ∧
      stringPieces? (symbols (cs.flatMap (escapeChar false)) ++ .char '"' :: rest) =
        some (pieces, rest) := by
  suffices ∃ pieces : List Piece, pieces.map (·.code) = cs.map Char.toNat ∧
      stringPieces? (symbols (cs.flatMap (escapeChar false)) ++ .char '"' :: rest) =
        some (pieces, rest) by
    obtain ⟨pieces, hcodes, hread⟩ := this
    refine ⟨pieces, (joinPieces_of_not_high fun piece hpiece => ?_).trans hcodes, hread⟩
    obtain ⟨c, -, hc⟩ := List.mem_map.mp (hcodes ▸ List.mem_map_of_mem hpiece)
    rw [← hc]
    exact isHighSurrogate_toNat c
  induction cs with
  | nil => exact ⟨[], rfl, by simp [stringPieces?]⟩
  | cons c cs ih =>
    obtain ⟨pieces, hcodes, hread⟩ := ih
    obtain ⟨inDigits, hpiece⟩ := stringPieces?_escapeChar c
    refine ⟨⟨c.toNat, inDigits⟩ :: pieces, by rw [List.map_cons, List.map_cons, hcodes], ?_⟩
    rw [List.flatMap_cons, symbols_append, List.append_assoc, hpiece, hread]
    rfl

theorem chars?_map_toNat (cs : List Char) : chars? (cs.map Char.toNat) = some cs := by
  induction cs with
  | nil => rfl
  | cons c cs ih =>
    have hc : c.toNat.isValidChar := c.valid
    rw [chars?] at ih ⊢
    rw [List.map_cons, List.mapM_cons, ih, dif_pos hc]
    rfl

theorem ofCodes?_map_toNat (unpaired : Bool) (cs : List Char) :
    ofCodes? unpaired (cs.map Char.toNat) = some (.str (String.ofList cs)) := by
  simp only [ofCodes?, chars?_map_toNat]

theorem nameOfCodes?_map_toNat (unpaired : Bool) (cs : List Char) :
    nameOfCodes? unpaired (cs.map Char.toNat) = some (String.ofList cs) := by
  simp only [nameOfCodes?, chars?_map_toNat]

/-! ### Numbers -/

/-- Whether a text cannot go on with a number that ends before it. -/
def EndsNumber (rest : List Symbol) : Prop :=
  ∀ c ∈ rest.head?, c.isOf isAsciiDigit = false ∧ c ≠ .char '.' ∧ c ≠ .char 'e' ∧ c ≠ .char 'E'

theorem spanDigits_append {ds : List Char} {rest : List Symbol} (h : ∀ c ∈ ds, isAsciiDigit c)
    (hrest : EndsNumber rest) : spanDigits (symbols ds ++ rest) = (ds, rest) := by
  have hall : ∀ symbol ∈ symbols ds, symbol.isOf isAsciiDigit := by
    intro symbol hsymbol
    obtain ⟨c, hc, rfl⟩ := List.mem_map.mp hsymbol
    exact h c hc
  have hchars : (symbols ds).filterMap Symbol.char? = ds := by
    rw [symbols, List.filterMap_map]
    exact List.filterMap_some
  rw [spanDigits, List.takeWhile_append_of_pos hall, List.dropWhile_append_of_pos hall]
  cases rest with
  | nil => simp [hchars]
  | cons c rest => simp [(hrest c rfl).1, hchars]

theorem fraction?_of_endsNumber {rest : List Symbol} (h : EndsNumber rest) :
    fraction? rest = some ([], rest) := by
  cases rest with
  | nil => rfl
  | cons c rest =>
    rw [fraction?]
    rintro rest' ⟨⟩
    exact (h _ rfl).2.1 rfl

theorem exponent?_of_endsNumber {rest : List Symbol} (h : EndsNumber rest) :
    exponent? rest = some (none, rest) := by
  cases rest with
  | nil => rfl
  | cons symbol rest =>
    cases symbol with
    | surrogate code => rfl
    | char c =>
      obtain ⟨-, -, he, hE⟩ := h _ rfl
      rw [exponent?, if_neg]
      rintro (rfl | rfl)
      · exact he rfl
      · exact hE rfl

theorem unsigned?_toDigits (negative : Bool) (n : Nat) {rest : List Symbol} (h : EndsNumber rest) :
    unsigned? negative (symbols (Nat.toDigits 10 n) ++ rest) =
      if (Nat.toDigits 10 n).length ≤ Numeral.maxDigits then
        some (.int (Numeral.signed negative n), rest)
      else none := by
  have hdigits : ∀ c ∈ Nat.toDigits 10 n, isAsciiDigit c :=
    fun c hc => Numeral.isAsciiDigit_of_mem_toDigits hc
  have hne : Nat.toDigits 10 n ≠ [] := Nat.toDigits_ne_nil
  have hfirst : ¬ ((Nat.toDigits 10 n).head? = some '0' ∧ (Nat.toDigits 10 n).length ≠ 1) := by
    rintro ⟨hzero, hlength⟩
    rw [Numeral.head?_toDigits hzero] at hlength
    exact hlength rfl
  rw [unsigned?, spanDigits_append hdigits h]
  simp only [Numeral.digitsValue_toDigits, fraction?_of_endsNumber h, Option.bind_eq_bind,
    Option.bind_some, exponent?_of_endsNumber h]
  rw [if_neg (by simpa [hne] using hfirst)]
  by_cases hlen : (Nat.toDigits 10 n).length ≤ Numeral.maxDigits
  · have hnot : ¬ Numeral.maxDigits < (Nat.toDigits 10 n).length := by omega
    simp [hlen, hnot]
  · have hlt : Numeral.maxDigits < (Nat.toDigits 10 n).length := by omega
    simp [hlen, hlt]

theorem scalar?_digit {c : Char} (h : isAsciiDigit c) (rest : List Symbol) :
    scalar? (.char c :: rest) = unsigned? false (.char c :: rest) := by
  rw [scalar?]
  all_goals
    rintro rest' ⟨⟩
    exact absurd h (by decide)

theorem scalar?_minus {c : Char} (h : isAsciiDigit c) (rest : List Symbol) :
    scalar? (.char '-' :: .char c :: rest) = unsigned? true (.char c :: rest) := by
  rw [scalar?]
  rintro rest' ⟨⟩
  exact absurd h (by decide)

/-- Whether a whole number has no more digits than are read. -/
def isReadableInt (i : Int) : Bool := (Nat.toDigits 10 i.natAbs).length ≤ Numeral.maxDigits

theorem scalar?_toString (i : Int) {rest : List Symbol} (h : EndsNumber rest) :
    scalar? (symbols (toString i).toList ++ rest) =
      if isReadableInt i then some (.int i, rest) else none := by
  have hread : ∀ negative, i = Numeral.signed negative i.natAbs →
      unsigned? negative (symbols (Nat.toDigits 10 i.natAbs) ++ rest) =
        if isReadableInt i then some (.int i, rest) else none := by
    intro negative hi
    rw [unsigned?_toDigits negative _ h, ← hi]
    simp only [isReadableInt, decide_eq_true_eq]
  obtain ⟨c, ds, hds⟩ := List.exists_cons_of_ne_nil (Nat.toDigits_ne_nil (n := i.natAbs) (b := 10))
  have hc : isAsciiDigit c :=
    Numeral.isAsciiDigit_of_mem_toDigits (by rw [hds]; exact List.mem_cons_self ..)
  rw [Numeral.toList_toString_int]
  by_cases hneg : i < 0
  · rw [if_pos hneg, ← hread true (by simp only [Numeral.signed, if_true]; omega), hds]
    exact scalar?_minus hc _
  · have hpositive : i = Numeral.signed false i.natAbs := by
      rw [Numeral.signed, if_neg Bool.false_ne_true]
      omega
    rw [if_neg hneg, ← hread false hpositive, hds]
    exact scalar?_digit hc _

/-! ### Values that are read back -/

mutual

/-- Whether a value holds neither a float nor a string that is no text. -/
def isPlain : Json → Bool
  | .float _ => false
  | .unpaired _ => false
  | .arr items => arePlain items
  | .obj members => membersArePlain members
  | _ => true

/-- Whether no item holds a float or a string that is no text. -/
def arePlain : List Json → Bool
  | [] => true
  | item :: items => isPlain item && arePlain items

/-- Whether no member holds a float or a string that is no text. -/
def membersArePlain : List (String × Json) → Bool
  | [] => true
  | (_, value) :: members => isPlain value && membersArePlain members

end

mutual

/-- Whether a value nests no deeper than allowed, and holds no number of too many digits. -/
def fits : (depth : Nat) → Json → Bool
  | _, .int i => isReadableInt i
  | 0, .arr _ => false
  | depth + 1, .arr items => itemsFit depth items
  | 0, .obj _ => false
  | depth + 1, .obj members => membersFit depth members
  | _, _ => true

/-- Whether all items fit. -/
def itemsFit : (depth : Nat) → List Json → Bool
  | _, [] => true
  | depth, item :: items => fits depth item && itemsFit depth items

/-- Whether the values of all members fit. -/
def membersFit : (depth : Nat) → List (String × Json) → Bool
  | _, [] => true
  | depth, (_, value) :: members => fits depth value && membersFit depth members

end

/-! ### Starts -/

theorem skipSpace_cons {c : Char} (h : isSpace c = false) (cs : List Symbol) :
    skipSpace (.char c :: cs) = .char c :: cs := by
  rw [skipSpace, List.dropWhile_cons_of_neg (by simp [Symbol.isOf, h])]

theorem skipSpace_of_head? {cs : List Symbol} (h : ∀ c ∈ cs.head?, c.isOf isSpace = false) :
    skipSpace cs = cs := by
  cases cs with
  | nil => rfl
  | cons c cs => rw [skipSpace, List.dropWhile_cons_of_neg (by simp [h c rfl])]

theorem toList_quote (s : String) :
    (quote compact.ascii s).toList = '"' :: (s.toList.flatMap (escapeChar false) ++ ['"']) := by
  rw [quote, String.toList_ofList]
  rfl

theorem exists_cons_toString (i : Int) :
    ∃ c cs, (toString i).toList = c :: cs ∧ (c = '-' ∨ isAsciiDigit c) := by
  rw [Numeral.toList_toString_int]
  by_cases hneg : i < 0
  · exact ⟨'-', _, by rw [if_pos hneg]; rfl, .inl rfl⟩
  · obtain ⟨c, ds, hds⟩ :=
      List.exists_cons_of_ne_nil (Nat.toDigits_ne_nil (n := i.natAbs) (b := 10))
    refine ⟨c, ds, by rw [if_neg hneg, hds]; rfl, .inr ?_⟩
    exact Numeral.isAsciiDigit_of_mem_toDigits (by rw [hds]; exact List.mem_cons_self ..)

/-- What starts a whole number is no blank and no other mark. -/
theorem not_mark_of_number {c : Char} (h : c = '-' ∨ isAsciiDigit c) :
    isSpace c = false ∧ c ∉ ['"', '[', ']', '{', '}'] := by
  rcases h with rfl | h
  · decide
  · refine ⟨?_, ?_⟩
    · rw [Bool.eq_false_iff]
      intro hspace
      simp only [isSpace, Bool.or_eq_true, decide_eq_true_eq] at hspace
      rcases hspace with ((rfl | rfl) | rfl) | rfl <;> exact absurd h (by decide)
    · intro hmem
      simp only [List.mem_cons, List.not_mem_nil, or_false] at hmem
      rcases hmem with rfl | rfl | rfl | rfl | rfl <;> exact absurd h (by decide)

/-- What a value starts with is neither a blank nor a closing mark. -/
theorem exists_cons_render {json : Json} (h : json.isPlain) :
    ∃ c cs, (json.render compact).toList = c :: cs ∧ isSpace c = false ∧ c ≠ ']' ∧ c ≠ '}' := by
  cases json with
  | null => exact ⟨'n', _, rfl, by decide⟩
  | bool value =>
    cases value
    · exact ⟨'f', _, rfl, by decide⟩
    · exact ⟨'t', _, rfl, by decide⟩
  | int i =>
    obtain ⟨c, cs, hcs, hc⟩ := exists_cons_toString i
    obtain ⟨hspace, hmark⟩ := not_mark_of_number hc
    exact ⟨c, cs, by rw [render]; exact hcs, hspace, by simp_all, by simp_all⟩
  | float x => simp [isPlain] at h
  | str s => exact ⟨'"', _, by rw [render, toList_quote], by decide⟩
  | unpaired codes => simp [isPlain] at h
  | arr items =>
    exact ⟨'[', _, by rw [render, String.toList_append, String.toList_append]; rfl, by decide⟩
  | obj members =>
    exact ⟨'{', _, by rw [render, String.toList_append, String.toList_append]; rfl, by decide⟩

/-! ### Reading one level -/

/-- What is read of a value, if it is one. -/
def value? (d : Dialect) (depth : Nat) (cs : List Symbol) : Option (Json × List Symbol) :=
  (value d depth cs).toOption

/-- What is read of the items of an array, if they are some. -/
def items? (d : Dialect) (depth bound : Nat) (cs : List Symbol) :
    Option (List Json × List Symbol) :=
  (items d depth bound cs).toOption

/-- What is read of the members of an object, if they are some. -/
def members? (d : Dialect) (depth bound : Nat) (cs : List Symbol) :
    Option (List (String × Json) × List Symbol) :=
  (members d depth bound cs).toOption

theorem value?_string (d : Dialect) (depth : Nat) (s : String) (rest : List Symbol) :
    value? d depth (symbols (quote compact.ascii s).toList ++ rest) = some (.str s, rest) := by
  obtain ⟨pieces, hcodes, hread⟩ := stringPieces?_flatMap s.toList rest
  rw [toList_quote, value?, value, symbols_cons, List.cons_append, skipSpace_cons (by decide)]
  simp only [symbols_append, symbols_cons, symbols_nil, List.append_assoc, List.cons_append,
    List.nil_append, hread, found, bind, Except.bind, hcodes, ofCodes?_map_toNat,
    String.ofList_toList]
  rfl

theorem value?_int (d : Dialect) (depth : Nat) (i : Int) {rest : List Symbol}
    (h : EndsNumber rest) :
    value? d depth (symbols (toString i).toList ++ rest) =
      if isReadableInt i then some (.int i, rest) else none := by
  obtain ⟨c, cs, hcs, hc⟩ := exists_cons_toString i
  obtain ⟨hspace, hmark⟩ := not_mark_of_number hc
  have hstart : c ≠ '"' ∧ c ≠ '[' ∧ c ≠ '{' := by simp_all
  rw [← scalar?_toString i h, value?, value, hcs, symbols_cons, List.cons_append,
    skipSpace_cons hspace]
  simp [hstart]

theorem value?_arr (d : Dialect) (depth : Nat) (rest : List Symbol)
    (h : ∀ c ∈ rest.head?, c.isOf isSpace = false ∧ c ≠ .char ']') :
    value? d (depth + 1) (.char '[' :: rest) =
      (items? d depth rest.length rest).map fun (items, rest) => (.arr items, rest) := by
  have hskip : skipSpace rest = rest := skipSpace_of_head? fun c hc => (h c hc).1
  rw [value?, value, skipSpace_cons (by decide)]
  simp only [hskip]
  split
  · exact absurd rfl (h _ rfl).2
  · rw [items?]
    cases items d depth rest.length rest <;> rfl

theorem value?_obj (d : Dialect) (depth : Nat) (rest : List Symbol)
    (h : ∀ c ∈ rest.head?, c.isOf isSpace = false ∧ c ≠ .char '}') :
    value? d (depth + 1) (.char '{' :: rest) =
      (members? d depth rest.length rest).map fun (items, rest) => (.obj items, rest) := by
  have hskip : skipSpace rest = rest := skipSpace_of_head? fun c hc => (h c hc).1
  rw [value?, value, skipSpace_cons (by decide)]
  simp only [hskip]
  split
  · exact absurd rfl (h _ rfl).2
  · rw [members?]
    cases members d depth rest.length rest <;> rfl

theorem endsNumber_cons {c : Char} (h : c ∈ [',', ']', '}']) (rest : List Symbol) :
    EndsNumber (.char c :: rest) := by
  intro symbol hsymbol
  obtain rfl : .char c = symbol := Option.some.inj hsymbol
  simp only [List.mem_cons, List.not_mem_nil, or_false] at h
  rcases h with rfl | rfl | rfl <;> decide

theorem items?_succ (d : Dialect) (depth bound : Nat) {cs rest : List Symbol} {json : Json}
    {fit : Bool} (h : value? d depth cs = if fit then some (json, .char ']' :: rest) else none) :
    items? d depth (bound + 1) cs = if fit then some ([json], rest) else none := by
  rw [items?, items]
  obtain ⟨rfl, hvalue⟩ | ⟨rfl, failure, hvalue⟩ := Result.eq_of_toOption_eq_ite h
  · simp only [hvalue, bind, Except.bind, skipSpace_cons (c := ']') (by decide)]
    rfl
  · rw [hvalue]
    rfl

theorem items?_comma (d : Dialect) (depth bound : Nat) {cs rest later : List Symbol} {json : Json}
    {items : List Json} {fit fits : Bool}
    (h : value? d depth cs = if fit then some (json, .char ',' :: rest) else none)
    (hrest : items? d depth bound rest = if fits then some (items, later) else none) :
    items? d depth (bound + 1) cs = if fit && fits then some (json :: items, later) else none := by
  rw [items?, Json.items]
  obtain ⟨rfl, hvalue⟩ | ⟨rfl, failure, hvalue⟩ := Result.eq_of_toOption_eq_ite h
  · simp only [hvalue, bind, Except.bind, skipSpace_cons (c := ',') (by decide)]
    obtain ⟨rfl, hitems⟩ | ⟨rfl, failure, hitems⟩ := Result.eq_of_toOption_eq_ite hrest
    all_goals
      rw [hitems]
      rfl
  · rw [hvalue]
    rfl

/-- The members of an object go on after a name with its value. -/
theorem members_quote (d : Dialect) (depth bound : Nat) (name : String) (cs : List Symbol) :
    members d depth (bound + 1) (symbols (quote compact.ascii name).toList ++ .char ':' :: cs) =
      (do
        let (value, rest) ← value d depth cs
        match skipSpace rest with
        | .char ',' :: rest =>
          let (members, rest) ← members d depth bound rest
          return ((name, value) :: members, rest)
        | .char '}' :: rest => return ([(name, value)], rest)
        | _ => .error .malformed) := by
  obtain ⟨pieces, hcodes, hread⟩ := stringPieces?_flatMap name.toList (.char ':' :: cs)
  generalize hmembers : members d depth (bound + 1)
    (symbols (quote compact.ascii name).toList ++ .char ':' :: cs) = result
  rw [toList_quote, members, symbols_cons, List.cons_append, skipSpace_cons (by decide)] at hmembers
  simp only [symbols_append, symbols_cons, symbols_nil, List.append_assoc, List.cons_append,
    List.nil_append, hread, found, bind, Except.bind, hcodes, nameOfCodes?_map_toNat,
    skipSpace_cons (c := ':') (by decide), String.ofList_toList] at hmembers
  exact hmembers.symm

theorem members?_succ (d : Dialect) (depth bound : Nat) (name : String) {cs rest : List Symbol}
    {json : Json} {fit : Bool}
    (h : value? d depth cs = if fit then some (json, .char '}' :: rest) else none) :
    members? d depth (bound + 1) (symbols (quote compact.ascii name).toList ++ .char ':' :: cs) =
      if fit then some ([(name, json)], rest) else none := by
  rw [members?, members_quote]
  obtain ⟨rfl, hvalue⟩ | ⟨rfl, failure, hvalue⟩ := Result.eq_of_toOption_eq_ite h
  · simp only [hvalue, bind, Except.bind, skipSpace_cons (c := '}') (by decide)]
    rfl
  · rw [hvalue]
    rfl

theorem members?_comma (d : Dialect) (depth bound : Nat) (name : String)
    {cs rest later : List Symbol} {json : Json} {members : List (String × Json)} {fit fits : Bool}
    (h : value? d depth cs = if fit then some (json, .char ',' :: rest) else none)
    (hrest : members? d depth bound rest = if fits then some (members, later) else none) :
    members? d depth (bound + 1) (symbols (quote compact.ascii name).toList ++ .char ':' :: cs) =
      if fit && fits then some ((name, json) :: members, later) else none := by
  rw [members?, members_quote]
  obtain ⟨rfl, hvalue⟩ | ⟨rfl, failure, hvalue⟩ := Result.eq_of_toOption_eq_ite h
  · simp only [hvalue, bind, Except.bind, skipSpace_cons (c := ',') (by decide)]
    obtain ⟨rfl, hmembers⟩ | ⟨rfl, failure, hmembers⟩ := Result.eq_of_toOption_eq_ite hrest
    all_goals
      rw [hmembers]
      rfl
  · rw [hvalue]
    rfl

/-! ### Items and members -/

theorem head?_renderItems {items : List Json} (hplain : arePlain items) (hne : items ≠ [])
    (rest : List Symbol) :
    ∀ c ∈ (symbols (renderItems compact items).toList ++ rest).head?,
      c.isOf isSpace = false ∧ c ≠ .char ']' := by
  have hfirst : ∀ {item : Json} (later : List Symbol), item.isPlain →
      ∀ c ∈ (symbols (item.render compact).toList ++ later).head?,
        c.isOf isSpace = false ∧ c ≠ .char ']' := by
    intro item later hitem symbol hsymbol
    obtain ⟨c, cs, hcs, hspace, hclose, -⟩ := exists_cons_render hitem
    rw [hcs] at hsymbol
    obtain rfl : .char c = symbol := Option.some.inj hsymbol
    exact ⟨hspace, fun h => hclose (Symbol.char.inj h)⟩
  match items with
  | [] => exact absurd rfl hne
  | [item] =>
    rw [arePlain, arePlain, Bool.and_true] at hplain
    exact hfirst rest hplain
  | item :: second :: items =>
    rw [arePlain, Bool.and_eq_true] at hplain
    rw [renderItems]
    · simp only [String.toList_append, symbols_append, List.append_assoc]
      exact hfirst _ hplain.1
    · simp

theorem head?_renderMembers {members : List (String × Json)} (hne : members ≠ [])
    (rest : List Symbol) :
    ∀ c ∈ (symbols (renderMembers compact members).toList ++ rest).head?,
      c.isOf isSpace = false ∧ c ≠ .char '}' := by
  have hfirst : (symbols (renderMembers compact members).toList ++ rest).head? =
      some (.char '"') := by
    match members with
    | [] => exact absurd rfl hne
    | [(name, value)] => simp [renderMembers, toList_quote]
    | (name, value) :: second :: members => simp [renderMembers, toList_quote]
  intro symbol hsymbol
  rw [hfirst] at hsymbol
  obtain rfl : .char '"' = symbol := Option.some.inj hsymbol
  decide

theorem length_le_renderItems (items : List Json) (hplain : arePlain items) :
    items.length ≤ (renderItems compact items).toList.length := by
  match items with
  | [] => simp
  | [item] =>
    simp only [arePlain, Bool.and_true] at hplain
    obtain ⟨c, cs, hcs, -⟩ := exists_cons_render hplain
    rw [renderItems, hcs]
    simp
  | item :: second :: items =>
    rw [arePlain, Bool.and_eq_true] at hplain
    have ih := length_le_renderItems (second :: items) hplain.2
    rw [renderItems]
    · simp only [String.toList_append, List.length_append]
      have hcomma : compact.comma.toList.length = 1 := rfl
      rw [List.length_cons]
      omega
    · simp

theorem length_le_renderMembers (members : List (String × Json)) :
    members.length ≤ (renderMembers compact members).toList.length := by
  have hname : ∀ name, 0 < (quote compact.ascii name).toList.length := by
    intro name
    rw [toList_quote]
    simp
  match members with
  | [] => simp
  | [(name, value)] =>
    have := hname name
    rw [renderMembers]
    simp only [String.toList_append, List.length_append, List.length_singleton]
    omega
  | (name, value) :: second :: members =>
    have := hname name
    have ih := length_le_renderMembers (second :: members)
    rw [renderMembers]
    · simp only [String.toList_append, List.length_append]
      rw [List.length_cons]
      omega
    · simp

/-! ### Whole values -/

mutual

/-- A value that fits is read back. -/
theorem value?_render (d : Dialect) (depth : Nat) (json : Json) (hplain : json.isPlain)
    {rest : List Symbol} (hrest : EndsNumber rest) :
    value? d depth (symbols (json.render compact).toList ++ rest) =
      if fits depth json then some (json, rest) else none := by
  cases json with
  | null => simp [render, value?, value, skipSpace, Symbol.isOf, isSpace, scalar?, afterWord?, fits]
  | bool value =>
    cases value <;>
      simp [render, value?, Json.value, skipSpace, Symbol.isOf, isSpace, scalar?, afterWord?, fits]
  | int i =>
    rw [render, fits]
    exact value?_int d depth i hrest
  | float x => simp [isPlain] at hplain
  | str s =>
    rw [render, value?_string, fits, if_pos rfl]
    all_goals simp
  | unpaired codes => simp [isPlain] at hplain
  | arr items =>
    rw [isPlain] at hplain
    rw [render, String.toList_append, String.toList_append, symbols_append, symbols_append,
      List.append_assoc, List.append_assoc]
    cases depth with
    | zero => simp [value?, value, skipSpace, Symbol.isOf, isSpace, fits]
    | succ depth =>
      rw [fits]
      by_cases hne : items = []
      · subst hne
        simp [renderItems, value?, value, skipSpace, Symbol.isOf, isSpace, itemsFit]
      · have hstart := head?_renderItems hplain hne (.char ']' :: rest)
        have hbound : items.length ≤
            (symbols (renderItems compact items).toList ++ .char ']' :: rest).length :=
          Nat.le_trans (length_le_renderItems items hplain) (by simp)
        refine (value?_arr d depth _ hstart).trans ?_
        rw [items?_renderItems d depth _ items hplain hbound hne rest]
        cases itemsFit depth items <;> rfl
  | obj members =>
    rw [isPlain] at hplain
    rw [render, String.toList_append, String.toList_append, symbols_append, symbols_append,
      List.append_assoc, List.append_assoc]
    cases depth with
    | zero => simp [value?, value, skipSpace, Symbol.isOf, isSpace, fits]
    | succ depth =>
      rw [fits]
      by_cases hne : members = []
      · subst hne
        simp [renderMembers, value?, value, skipSpace, Symbol.isOf, isSpace, membersFit]
      · have hstart := head?_renderMembers hne (.char '}' :: rest)
        have hbound : members.length ≤
            (symbols (renderMembers compact members).toList ++ .char '}' :: rest).length :=
          Nat.le_trans (length_le_renderMembers members) (by simp)
        refine (value?_obj d depth _ hstart).trans ?_
        rw [members?_renderMembers d depth _ members hplain hbound hne rest]
        cases membersFit depth members <;> rfl

theorem items?_renderItems (d : Dialect) (depth bound : Nat) (items : List Json)
    (hplain : arePlain items) (hbound : items.length ≤ bound) (hne : items ≠ [])
    (rest : List Symbol) :
    items? d depth bound (symbols (renderItems compact items).toList ++ .char ']' :: rest) =
      if itemsFit depth items then some (items, rest) else none := by
  match items, bound with
  | [], _ => exact absurd rfl hne
  | [item], bound + 1 =>
    simp only [arePlain, Bool.and_true] at hplain
    rw [renderItems, itemsFit, itemsFit, Bool.and_true]
    exact items?_succ d depth bound
      (value?_render d depth item hplain (endsNumber_cons (by decide) rest))
  | item :: second :: items, bound + 1 =>
    rw [arePlain, Bool.and_eq_true] at hplain
    rw [renderItems, itemsFit, String.toList_append, String.toList_append, symbols_append,
      symbols_append, List.append_assoc, List.append_assoc]
    · refine items?_comma d depth bound
        (value?_render d depth item hplain.1 (endsNumber_cons (by decide) _)) ?_
      exact items?_renderItems d depth bound (second :: items) hplain.2 (by simpa using hbound)
        (by simp) rest
    · simp

theorem members?_renderMembers (d : Dialect) (depth bound : Nat) (members : List (String × Json))
    (hplain : membersArePlain members) (hbound : members.length ≤ bound) (hne : members ≠ [])
    (rest : List Symbol) :
    members? d depth bound (symbols (renderMembers compact members).toList ++ .char '}' :: rest) =
      if membersFit depth members then some (members, rest) else none := by
  match members, bound with
  | [], _ => exact absurd rfl hne
  | [(name, value)], bound + 1 =>
    simp only [membersArePlain, Bool.and_true] at hplain
    rw [renderMembers, membersFit, membersFit, Bool.and_true, String.toList_append,
      String.toList_append, symbols_append, symbols_append, List.append_assoc, List.append_assoc]
    exact members?_succ d depth bound name
      (value?_render d depth value hplain (endsNumber_cons (by decide) rest))
  | (name, value) :: second :: members, bound + 1 =>
    rw [membersArePlain, Bool.and_eq_true] at hplain
    rw [renderMembers, membersFit]
    · simp only [String.toList_append, symbols_append, List.append_assoc]
      refine members?_comma d depth bound name
        (value?_render d depth value hplain.1 (endsNumber_cons (by decide) _)) ?_
      exact members?_renderMembers d depth bound (second :: members) hplain.2
        (by simpa using hbound) (by simp) rest
    · simp

end

/-- What is read of a whole document, if it is one value. -/
theorem parseSymbols_of_value? {d : Dialect} {cs : List Symbol} {json : Json} {fit : Bool}
    (h : value? d d.depth cs = if fit then some (json, []) else none) :
    (parseSymbols d cs).toOption = if fit then some json else none := by
  rw [parseSymbols]
  obtain ⟨rfl, hvalue⟩ | ⟨rfl, failure, hvalue⟩ := Result.eq_of_toOption_eq_ite h
  all_goals
    rw [hvalue]
    rfl

/-- A value that fits is read back from its text, and no other is. -/
theorem parse?_render (d : Dialect) {json : Json} (hplain : json.isPlain) :
    parse? d (json.render compact) = if fits d.depth json then some json else none := by
  have hend : EndsNumber [] := by simp [EndsNumber]
  have hread := value?_render d d.depth json hplain hend
  rw [List.append_nil] at hread
  exact parseSymbols_of_value? hread

/-- A document whose symbols give a value is read as that value. -/
theorem ofBytes_of_symbols {depth : Nat} {bytes : Bytes} {cs : List Symbol} {json : Json}
    (hsymbols : Encoding.symbols? bytes = some cs)
    (hread : (parseSymbols ⟨depth, true⟩ cs).toOption = some json) :
    ofBytes depth bytes = .ok json := by
  rw [ofBytes, hsymbols]
  exact Result.toOption_eq_some_iff.mp hread

/-- A document that was written is read as the value that it is, if the value fits. -/
theorem ofBytes_of_render {depth : Nat} {bytes : Bytes} (json : Json) (hplain : json.isPlain)
    (hfit : fits depth json)
    (hsymbols : Encoding.symbols? bytes = some (symbols (json.render compact).toList)) :
    ofBytes depth bytes = .ok json := by
  refine ofBytes_of_symbols hsymbols ?_
  have hparse := parse?_render ⟨depth, true⟩ hplain
  rwa [if_pos hfit] at hparse

/-- An object is read whose first value is written in some other way, if that value is read and the
others fit. -/
theorem ofBytes_of_first {depth : Nat} {bytes : Bytes} {name : String} {value : Json}
    {text : List Char} {members : List (String × Json)}
    (hvalue : ∀ rest, value? ⟨depth + 1, true⟩ depth (symbols text ++ .char ',' :: rest) =
      some (value, .char ',' :: rest))
    (hplain : membersArePlain members) (hfit : membersFit depth members) (hne : members ≠ [])
    (hsymbols : Encoding.symbols? bytes =
      some (symbols ('{' :: ((quote compact.ascii name).toList ++
        ':' :: (text ++ ',' :: ((renderMembers compact members).toList ++ ['}'])))))) :
    ofBytes (depth + 1) bytes = .ok (.obj ((name, value) :: members)) := by
  refine ofBytes_of_symbols hsymbols ?_
  have hlength := length_le_renderMembers members
  set d : Dialect := ⟨depth + 1, true⟩
  set after := symbols (renderMembers compact members).toList ++ [.char '}'] with hafter
  set inside := symbols (quote compact.ascii name).toList ++
    .char ':' :: (symbols text ++ .char ',' :: after) with hinside
  obtain ⟨bound, hbound⟩ : ∃ bound, inside.length = bound + 1 :=
    Nat.exists_eq_succ_of_ne_zero (by simp [hinside])
  have hrest := members?_renderMembers d depth bound members hplain
    (by simp [hinside, hafter] at hbound; omega) hne []
  have hfirst : value? d depth (symbols text ++ .char ',' :: after) =
      if true then some (value, .char ',' :: after) else none := hvalue _
  have hobject : value? d d.depth (.char '{' :: inside) =
      if true then some (.obj ((name, value) :: members), []) else none := by
    refine (value?_obj d depth _ ?_).trans ?_
    · rw [hinside, toList_quote]
      rintro c ⟨⟩
      decide
    · rw [hbound, hinside, members?_comma d depth bound name hfirst hrest, hfit]
      rfl
  simp only [symbols_cons, symbols_append, symbols_nil, ← hafter, ← hinside]
  exact parseSymbols_of_value? hobject

end LoginGate.Json
