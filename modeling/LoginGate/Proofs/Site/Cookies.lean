import LoginGate.Proofs.Base64.RoundTrip
import LoginGate.Proofs.Gate.Cookies
import LoginGate.Proofs.Numeral.Decimal
import LoginGate.Proofs.Result
import LoginGate.Proofs.Text.NameMap
import LoginGate.Proofs.Url.Form
import LoginGate.Site.SetCookie

/-!
# Cookies come back as they were told

An answer tells a cookie in a header of its own. A browser keeps the value as it is written there,
and sends back all of its names with their values in one header. The gate's values are made of
letters, digits, hyphens and underscores, so none of them is quoted, and the header falls apart
where it was joined.

## Main definitions

* `CookieHeader.isToken` : the texts that stand in a header as they are.
* `CookieJar.Writable` : the jars that come back from a header.

## Main results

* `CookieJar.Writable.read_write` : such a jar is read from its header.
* `CookieJar.foldl_store` : a browser does what the cookies tell.
* `CookieJar.Writable.applyAll` : cookies leave a jar of the kind that they find.
* `Gate.Tells.value` : the values of the gate's cookies.
* `Gate.Tells.exists_ofCookie` : the gate's cookies can be told.
-/

namespace LoginGate

/-! ### Blanks around names and values -/

theorem trimStartChars_of_not_isBlank {cs : List Char} (h : ∀ c ∈ cs, isBlank c = false) :
    trimStartChars cs = cs := by
  cases cs with
  | nil => rfl
  | cons c cs => simp [trimStartChars, h c List.mem_cons_self]

theorem trimChars_of_not_isBlank {cs : List Char} (h : ∀ c ∈ cs, isBlank c = false) :
    trimChars cs = cs := by
  have hreverse : ∀ c ∈ cs.reverse, isBlank c = false := fun c hc => h c (List.mem_reverse.mp hc)
  rw [trimChars, trimStartChars_of_not_isBlank h, trimStartChars_of_not_isBlank hreverse,
    List.reverse_reverse]

theorem trimChars_space (cs : List Char) : trimChars (' ' :: cs) = trimChars cs := rfl

namespace CookieHeader

/-! ### Plain characters -/

theorem toNat_lt_of_isPlain {c : Char} (h : isPlain c) : c.toNat < 128 := by
  rw [isPlain, Bool.or_eq_true] at h
  rcases h with h | h
  · exact toNat_lt_of_isAlphanum h
  · have hmarks : "!#$%&'*+-.^_\x60|~:".toList.all (·.toNat < 128) := by decide
    exact of_decide_eq_true (List.all_eq_true.mp hmarks c (List.contains_iff_mem.mp h))

theorem isBlank_of_isPlain {c : Char} (h : isPlain c) : isBlank c = false := by
  have hall : ∀ n < 128, isPlain (Char.ofNat n) → isBlank (Char.ofNat n) = false := by
    decide +kernel
  have hc := hall c.toNat (toNat_lt_of_isPlain h)
  rw [Char.ofNat_toNat] at hc
  exact hc h

theorem isPlain_of_isTokenChar {c : Char} (h : Base64.isTokenChar c) : isPlain c := by
  simp only [Base64.isTokenChar, Bool.or_eq_true, decide_eq_true_eq] at h
  rcases h with (h | rfl) | rfl
  · rw [isPlain, h, Bool.true_or]
  · decide
  · decide

/-- Whether a text stands in a header as it is: it is not empty, and its characters are plain. -/
def isToken (text : String) : Bool := !text.isEmpty && text.toList.all isPlain

theorem isPlain_of_isToken {text : String} (h : isToken text) : ∀ c ∈ text.toList, isPlain c :=
  List.all_eq_true.mp (Bool.and_eq_true_iff.mp h).2

theorem ne_nil_of_isToken {text : String} (h : isToken text) : text.toList ≠ [] := by
  intro hnil
  rw [isToken, String.toList_eq_nil_iff.mp hnil] at h
  cases h

theorem not_mem_of_isToken {text : String} {mark : Char} (h : isToken text)
    (hmark : isPlain mark = false) : mark ∉ text.toList := by
  intro hmem
  rw [isPlain_of_isToken h mark hmem] at hmark
  cases hmark

theorem quote_of_isToken {value : String} (h : isToken value) : quote value = value := if_pos h

theorem unquote_of_isToken {value : String} (h : isToken value) :
    unquote value.toList = value.toList := by
  have hhead : value.toList.head? ≠ some '"' := fun hhead =>
    not_mem_of_isToken h (by decide) (List.mem_of_head? hhead)
  rw [unquote, if_neg]
  simp [hhead]

theorem trimChars_of_isToken {text : String} (h : isToken text) :
    trimChars text.toList = text.toList :=
  trimChars_of_not_isBlank fun c hc => isBlank_of_isPlain (isPlain_of_isToken h c hc)

/-! ### One cookie in a header -/

theorem readPair_eq {name value : String} (hname : isToken name) (hvalue : isToken value) :
    readPair (name ++ "=" ++ value).toList = (name.toList, value.toList) := by
  have hchars : (name ++ "=" ++ value).toList = name.toList ++ '=' :: value.toList := by simp
  have hall : ∀ c ∈ name.toList, decide (c ≠ '=') := by
    intro c hc
    rw [decide_eq_true_eq]
    rintro rfl
    exact not_mem_of_isToken hname (by decide) hc
  rw [readPair, hchars, if_pos (by simp), List.takeWhile_append_of_pos hall,
    List.dropWhile_append_of_pos hall]
  simp [trimChars_of_isToken hname, trimChars_of_isToken hvalue]

theorem readPair_space (cs : List Char) : readPair (' ' :: cs) = readPair cs := by
  simp [readPair, trimChars_space]

/-- The blank belongs to the first piece. -/
theorem map_readPair_space (cs : List Char) :
    (splitAt ';' (' ' :: cs)).map readPair = (splitAt ';' cs).map readPair := by
  obtain ⟨piece, pieces, hpieces⟩ := List.exists_cons_of_ne_nil (splitAt_ne_nil ';' cs)
  rw [splitAt, if_neg (by decide), hpieces]
  simp [readPair_space]

/-- Pieces without semicolons are found again, and the blanks between them do not matter. -/
theorem map_readPair_intercalate {pieces : List String} (hne : pieces ≠ [])
    (h : ∀ piece ∈ pieces, ';' ∉ piece.toList) :
    (splitAt ';' ("; ".intercalate pieces).toList).map readPair =
      pieces.map fun piece => readPair piece.toList := by
  match pieces with
  | [] => exact absurd rfl hne
  | [piece] =>
    rw [String.intercalate_singleton, splitAt_eq_singleton (h piece List.mem_cons_self)]
    rfl
  | piece :: next :: pieces =>
    have hchars : ("; ".intercalate (piece :: next :: pieces)).toList =
        piece.toList ++ ';' :: ' ' :: ("; ".intercalate (next :: pieces)).toList := by
      rw [String.intercalate_cons_cons]
      simp
    rw [hchars, splitAt_append_cons, List.map_append, map_readPair_space,
      splitAt_eq_singleton (h piece List.mem_cons_self),
      map_readPair_intercalate (List.cons_ne_nil _ _) fun other hother =>
        h other (List.mem_cons_of_mem _ hother)]
    rfl

theorem write_eq (jar : NameMap) :
    write jar = "; ".intercalate (jar.map fun pair => pair.1 ++ "=" ++ pair.2) := rfl

theorem read_singleton (header : String) :
    read [header] = NameMap.ofPairs
      ((((splitAt ';' header.toList).map readPair).filter fun pair =>
        !pair.1.isEmpty || !pair.2.isEmpty).map fun pair =>
          (String.ofList pair.1, String.ofList (unquote pair.2))) := by
  rw [read, String.intercalate_singleton]

end CookieHeader

/-! ### The jar in a header -/

namespace CookieJar

open CookieHeader

/-- A jar that comes back from a header: no name comes twice, and names and values stand there as
they are. -/
structure Writable (jar : CookieJar) : Prop where
  names : (jar.map Prod.fst).Nodup
  tokens : ∀ pair ∈ jar, isToken pair.1 ∧ isToken pair.2

theorem writable_nil : Writable [] := ⟨List.nodup_nil, nofun⟩

/-- Such a jar is read from its header. -/
theorem Writable.read_write {jar : CookieJar} (h : jar.Writable) (hne : jar ≠ []) :
    CookieHeader.read [write jar] = jar := by
  have hpieces : ∀ piece ∈ jar.map (fun pair => pair.1 ++ "=" ++ pair.2), ';' ∉ piece.toList := by
    intro piece hpiece
    obtain ⟨pair, hpair, rfl⟩ := List.mem_map.mp hpiece
    obtain ⟨hname, hvalue⟩ := h.tokens pair hpair
    simp [not_mem_of_isToken hname, not_mem_of_isToken hvalue, show isPlain ';' = false by decide]
  have hpairs : (splitAt ';' (write jar).toList).map readPair =
      jar.map fun pair => (pair.1.toList, pair.2.toList) := by
    rw [write_eq, map_readPair_intercalate (by simpa using hne) hpieces, List.map_map]
    exact List.map_congr_left fun pair hpair =>
      readPair_eq (h.tokens pair hpair).1 (h.tokens pair hpair).2
  have hfilter : (jar.map fun pair => (pair.1.toList, pair.2.toList)).filter
      (fun pair => !pair.1.isEmpty || !pair.2.isEmpty) =
        jar.map fun pair => (pair.1.toList, pair.2.toList) := by
    refine List.filter_eq_self.mpr fun chars hchars => ?_
    obtain ⟨pair, hpair, rfl⟩ := List.mem_map.mp hchars
    simp [ne_nil_of_isToken (h.tokens pair hpair).1]
  have hback : (jar.map fun pair => (pair.1.toList, pair.2.toList)).map
      (fun pair => (String.ofList pair.1, String.ofList (unquote pair.2))) = jar := by
    rw [List.map_map]
    refine (List.map_congr_left fun pair hpair => ?_).trans (List.map_id jar)
    simp [unquote_of_isToken (h.tokens pair hpair).2]
  rw [read_singleton, hpairs, hfilter, hback, NameMap.ofPairs_of_nodup h.names]

/-- A cookie leaves a jar of the kind that it finds. -/
theorem Writable.apply {jar : CookieJar} (h : jar.Writable) {cookie : Cookie}
    (hname : isToken cookie.name) (hvalue : cookie.isDeletion ∨ isToken cookie.value) :
    (jar.apply cookie).Writable := by
  rw [CookieJar.apply]
  split
  · exact ⟨NameMap.nodup_erase h.names _, fun pair hpair =>
      h.tokens pair (List.mem_filter.mp hpair).1⟩
  · rename_i hkept
    refine ⟨NameMap.nodup_insert h.names _ _, fun pair hpair => ?_⟩
    rcases NameMap.mem_of_mem_insert hpair with hpair | rfl
    · exact h.tokens pair hpair
    · exact ⟨hname, hvalue.resolve_left hkept⟩

/-- So do several, one after the other. -/
theorem Writable.applyAll {jar : CookieJar} (h : jar.Writable) {cookies : List Cookie}
    (hcookies : ∀ cookie ∈ cookies,
      isToken cookie.name ∧ (cookie.isDeletion ∨ isToken cookie.value)) :
    (jar.applyAll cookies).Writable := by
  induction cookies generalizing jar with
  | nil => exact h
  | cons cookie cookies ih =>
    obtain ⟨hname, hvalue⟩ := hcookies cookie List.mem_cons_self
    exact ih (h.apply hname hvalue) fun other hother =>
      hcookies other (List.mem_cons_of_mem _ hother)

end CookieJar

/-! ### Cookies in answers -/

namespace SetCookie

open CookieHeader

theorem isToken_of_isLegalName {name : String} (h : isLegalName name) : isToken name :=
  (Bool.and_eq_true_iff.mp h).1

/-- How a cookie is told, if it is. -/
theorem ofCookie_eq_ok {cookie : Cookie} {set : SetCookie} (h : ofCookie cookie = .ok set) :
    isLegalName cookie.name ∧ set = ⟨cookie.name, quote cookie.value, attributesOf cookie⟩ := by
  rw [ofCookie] at h
  split at h
  · cases h
  · rename_i hname
    split at h
    · cases h
    · exact ⟨by simpa using hname, (Except.ok.inj h).symm⟩

theorem toString_int_eq_zero_iff {i : Int} : toString i = "0" ↔ i = 0 := by
  constructor
  · intro h
    have hchars := congrArg String.toList h
    rw [Numeral.toList_toString_int] at hchars
    split at hchars
    · cases hchars
    · have hzero := Numeral.digitsValue_toDigits i.natAbs
      rw [List.nil_append] at hchars
      rw [hchars] at hzero
      exact Int.natAbs_eq_zero.mp hzero.symm
  · rintro rfl
    rfl

/-- The attributes tell to forget if the cookie does. -/
theorem contains_attributesOf (cookie : Cookie) :
    (attributesOf cookie).contains ("Max-Age", some "0") = cookie.isDeletion := by
  rw [Bool.eq_iff_iff, List.contains_iff_mem, Cookie.isDeletion, beq_iff_eq,
    ← toString_int_eq_zero_iff]
  cases hdomain : cookie.domain <;> cases hhttp : cookie.httpOnly <;>
    cases hsecure : cookie.secure <;> simp [attributesOf, hdomain, hhttp, hsecure, eq_comm]

end SetCookie

namespace CookieJar

open CookieHeader SetCookie

/-- A browser does what a cookie tells. -/
theorem store_eq_apply {cookie : Cookie} {set : SetCookie} (h : ofCookie cookie = .ok set)
    (hvalue : cookie.isDeletion ∨ isToken cookie.value) (jar : CookieJar) :
    jar.store set = jar.apply cookie := by
  obtain ⟨-, rfl⟩ := ofCookie_eq_ok h
  rw [store, SetCookie.isDeletion, contains_attributesOf, CookieJar.apply]
  split
  · rfl
  · rename_i hkept
    rw [quote_of_isToken (hvalue.resolve_left hkept)]

/-- A browser does what several cookies tell, one after the other. -/
theorem foldl_store {cookies : List Cookie} {sets : List SetCookie}
    (h : cookies.mapM ofCookie = .ok sets)
    (hvalue : ∀ cookie ∈ cookies, cookie.isDeletion ∨ isToken cookie.value) (jar : CookieJar) :
    sets.foldl store jar = jar.applyAll cookies := by
  induction cookies generalizing sets jar with
  | nil =>
    cases h
    rfl
  | cons cookie cookies ih =>
    obtain ⟨set, rest, hset, hrest, rfl⟩ := Result.mapM_cons_eq_ok_iff.mp h
    rw [List.foldl_cons, store_eq_apply hset (hvalue cookie List.mem_cons_self),
      ih hrest fun other hother => hvalue other (List.mem_cons_of_mem _ hother)]
    rfl

end CookieJar

/-! ### Which cookies can be told -/

/-- Whether every character of a text is one byte of a header. -/
def isOneByte (text : String) : Bool := text.toList.all (·.toNat < 256)

theorem isOneByte_append {first second : String} :
    isOneByte (first ++ second) = (isOneByte first && isOneByte second) := by
  rw [isOneByte, String.toList_append, List.all_append]
  rfl

theorem isOneByte_intercalate {pieces : List String}
    (h : ∀ piece ∈ pieces, isOneByte piece) : isOneByte ("; ".intercalate pieces) := by
  match pieces with
  | [] => decide
  | [piece] =>
    rw [String.intercalate_singleton]
    exact h piece List.mem_cons_self
  | piece :: next :: pieces =>
    have hrest : isOneByte ("; ".intercalate (next :: pieces)) :=
      isOneByte_intercalate fun other hother => h other (List.mem_cons_of_mem _ hother)
    rw [String.intercalate_cons_cons, isOneByte_append, isOneByte_append,
      h piece List.mem_cons_self, hrest]
    decide

theorem CookieHeader.isOneByte_of_isToken {text : String} (h : CookieHeader.isToken text) :
    isOneByte text := by
  refine List.all_eq_true.mpr fun c hc => decide_eq_true ?_
  have hascii := CookieHeader.toNat_lt_of_isPlain (CookieHeader.isPlain_of_isToken h c hc)
  omega

theorem isOneByte_toString_int (i : Int) : isOneByte (toString i) := by
  refine List.all_eq_true.mpr fun c hc => decide_eq_true ?_
  rw [Numeral.toList_toString_int] at hc
  rcases List.mem_append.mp hc with hc | hc
  · split at hc
    · rw [List.mem_singleton.mp hc]
      decide
    · cases hc
  · have hdigit := Nat.isDigit_of_mem_toDigits (by decide) (by decide) hc
    have halphanum : c.isAlphanum := by rw [Char.isAlphanum, hdigit, Bool.or_true]
    have hascii := toNat_lt_of_isAlphanum halphanum
    omega

namespace SetCookie

open CookieHeader

theorem isOneByte_attributesText {cookie : Cookie} (hpath : isOneByte cookie.path)
    (hdomain : cookie.domain.all isOneByte) :
    isOneByte ("; ".intercalate ((attributesOf cookie).map attributeText)) := by
  have hage := isOneByte_toString_int cookie.maxAge
  have hsite : isOneByte cookie.sameSite.name := by cases cookie.sameSite <;> decide
  refine isOneByte_intercalate fun piece hpiece => ?_
  obtain ⟨pair, hpair, rfl⟩ := List.mem_map.mp hpiece
  simp only [attributesOf, List.mem_append, List.mem_map, Option.mem_toList] at hpair
  rcases hpair with ((⟨domain, hsome, rfl⟩ | hpair) | hpair) | hpair
  · rw [hsome] at hdomain
    rw [attributeText, isOneByte_append, isOneByte_append, Option.all_some.symm.trans hdomain]
    decide
  · split at hpair
    · rw [List.mem_singleton.mp hpair]
      decide
    · cases hpair
  · simp only [List.mem_cons, List.not_mem_nil, or_false] at hpair
    rcases hpair with rfl | rfl | rfl
    · rw [attributeText, isOneByte_append, isOneByte_append, hage]
      decide
    · rw [attributeText, isOneByte_append, isOneByte_append, hpath]
      decide
    · rw [attributeText, isOneByte_append, isOneByte_append, hsite]
      decide
  · split at hpair
    · rw [List.mem_singleton.mp hpair]
      decide
    · cases hpair

/-- A cookie with a legal name, without value or with one that is not quoted, can be told if its
path and its domain have only characters of one byte. -/
theorem exists_ofCookie {cookie : Cookie} (hname : isLegalName cookie.name)
    (hvalue : cookie.value = "" ∨ isToken cookie.value) (hpath : isOneByte cookie.path)
    (hdomain : cookie.domain.all isOneByte) :
    ∃ set, ofCookie cookie = .ok set := by
  have hquoted : isOneByte (quote cookie.value) := by
    rcases hvalue with hvalue | hvalue
    · rw [hvalue]
      decide
    · rw [quote_of_isToken hvalue]
      exact isOneByte_of_isToken hvalue
  have hline : isOneByte
      (SetCookie.mk cookie.name (quote cookie.value) (attributesOf cookie)).line := by
    rw [line, attributesText, isOneByte_append, isOneByte_append, isOneByte_append,
      isOneByte_append, isOneByte_of_isToken (isToken_of_isLegalName hname), hquoted,
      isOneByte_attributesText hpath hdomain]
    decide
  have hany : (SetCookie.mk cookie.name (quote cookie.value)
      (attributesOf cookie)).line.toList.any (256 ≤ ·.toNat) = false := by
    rw [List.any_eq_false]
    intro c hc
    have hbyte := of_decide_eq_true (List.all_eq_true.mp hline c hc)
    simpa using hbyte
  exact ⟨_, by rw [ofCookie, hname, hany]; rfl⟩

end SetCookie

/-! ### The cookies of the gate -/

theorem CookieHeader.isToken_encrypt (key : CookieKey) {iv : Bytes}
    (hiv : iv.length = CookieCipher.ivBytes) (content : Bytes) :
    CookieHeader.isToken (CookieCipher.encrypt key iv content) := by
  rw [isToken, CookieCipher.encrypt_ne_empty key hiv content, Bool.not_false, Bool.true_and,
    List.all_eq_true]
  intro c hc
  rw [CookieCipher.encrypt, CookieCipher.frame, Base64.encode, String.toList_ofList] at hc
  exact isPlain_of_isTokenChar (Base64.isTokenChar_of_mem hc)

namespace Gate

open CookieHeader

variable {gate : Gate} {record : Record} {cookie : Cookie}

/-- The cookies of a visit tell to forget, or keep a value that is not quoted. -/
theorem Tells.value (h : gate.Tells record cookie) :
    cookie.isDeletion ∧ cookie.value = "" ∨ isToken cookie.value := by
  cases h with
  | forgetSession => exact .inl ⟨rfl, rfl⟩
  | forgetAttempt => exact .inl ⟨rfl, rfl⟩
  | keepSession _ => exact .inr (isToken_encrypt _ (length_iv gate record) _)
  | keepAttempt _ => exact .inr (isToken_encrypt _ (length_iv gate record) _)

theorem Tells.isDeletion_or_isToken (h : gate.Tells record cookie) :
    cookie.isDeletion ∨ isToken cookie.value := h.value.imp_left And.left

/-- If the name of the session's cookie is legal, so is that of the attempt's. -/
theorem isLegalName_stateCookieName {settings : Settings}
    (h : SetCookie.isLegalName settings.cookieName) :
    SetCookie.isLegalName settings.stateCookieName := by
  have hplain := isPlain_of_isToken (SetCookie.isToken_of_isLegalName h)
  have hreserved : SetCookie.reservedNames.all fun name => !name.toList.contains '_' := by decide
  have hchars : settings.stateCookieName.toList =
      settings.cookieName.toList ++ "_STATE".toList := by
    rw [Settings.stateCookieName, String.toList_append]
  rw [SetCookie.isLegalName, Bool.and_eq_true, Bool.and_eq_true, Bool.not_eq_true',
    Bool.not_eq_true']
  refine ⟨⟨?_, ?_⟩, ?_⟩
  · rw [Bool.eq_false_iff, ne_eq, String.isEmpty_iff, ← String.toList_eq_nil_iff, hchars]
    simp
  · rw [hchars, List.all_append, List.all_eq_true.mpr hplain]
    decide
  · -- No reserved name has an underscore, and letters in lower case keep it.
    rw [Bool.eq_false_iff]
    intro hmem
    have hclean := List.all_eq_true.mp hreserved _ (List.contains_iff_mem.mp hmem)
    rw [hchars] at hclean
    simp at hclean

/-- The cookies of a visit can be told if the names are legal and the domain has only characters of
one byte. -/
theorem Tells.exists_ofCookie (hname : SetCookie.isLegalName gate.settings.cookieName)
    (hdomain : gate.plan.domain.all isOneByte)
    (h : gate.Tells record cookie) : ∃ set, SetCookie.ofCookie cookie = .ok set := by
  have hstate := isLegalName_stateCookieName hname
  have hroot : isOneByte "/" := by decide
  refine SetCookie.exists_ofCookie ?_ (h.value.imp_left And.right) ?_ ?_
  · cases h <;> assumption
  · cases h <;> exact hroot
  · cases h <;> exact hdomain

end Gate

end LoginGate
