import LoginGate.Proofs.Session.RoundTrip

/-!
# Sessions and login attempts are kept apart

Both cookies are encrypted under one key, and nothing in a value says which of the two it is. What
keeps them apart are the contents: a login attempt is a JSON object, which has a brace, and a
session is packed in base64, which has none. So no content that can be unpacked is a login attempt,
however it was compressed, and no content that is a login attempt can be unpacked.

## Main results

* `Schema.brace_mem_of_jsonOf?` : an object's document has a brace.
* `Packing.brace_not_mem_of_unpack?` : what can be unpacked has none.
* `LoginAttempt.ofContent_of_unpack?`, `Session.ofContent_of_attempt` : contents are not mistaken.
* `CookieKey.keeps_apart` : under every key, no cookie value is.
-/

namespace LoginGate

/-! ### Base64 has no brace -/

/-- The strict reader takes nothing but padding and characters that have a value. -/
theorem Base64.eq_pad_or_isSome_of_scanStrict {value? : Char → Option Nat} {held : List Nat}
    {pads : Nat} {cs : List Char} {bytes : Bytes}
    (h : scanStrict value? held pads cs = some bytes) :
    ∀ c ∈ cs, c = '=' ∨ (value? c).isSome := by
  fun_induction scanStrict value? held pads cs generalizing bytes with
  | case1 => simp
  | case2 => cases h
  | case3 held pads rest hfull hrest =>
    intro c hc
    rw [List.isEmpty_iff.mp hrest, List.mem_singleton] at hc
    exact .inl hc
  | case4 => cases h
  | case5 held pads rest hfull ih =>
    intro c hc
    rcases List.mem_cons.mp hc with rfl | hc
    · exact .inl rfl
    · exact ih h c hc
  | case6 => cases h
  | case7 => cases h
  | case8 held pads c rest hpad hpads w hw done held' hextend ih =>
    obtain ⟨later, hlater, -⟩ := Option.map_eq_some_iff.mp h
    intro d hd
    rcases List.mem_cons.mp hd with rfl | hd
    · exact .inr (Option.isSome_of_mem hw)
    · exact ih hlater d hd

/-- What can be unpacked has no brace. -/
theorem Packing.brace_not_mem_of_unpack? {content inner : Bytes}
    (h : unpack? content = some inner) : 0x7B ∉ content := by
  intro hmem
  obtain ⟨compressed, hread, -⟩ := Option.bind_eq_some_iff.mp h
  rw [Base64.readStrict?] at hread
  split at hread
  · cases hread
  · have hchar : '{' ∈ charsOf content := List.mem_map.mpr ⟨0x7B, hmem, by decide⟩
    rcases Base64.eq_pad_or_isSome_of_scanStrict hread '{' hchar with hpad | hvalue
    · exact absurd hpad (by decide)
    · exact absurd hvalue (by decide)

/-! ### Objects have a brace -/

namespace Json

variable {cs rest : List Symbol} {json : Json}

theorem ne_obj_of_unsigned? {negative : Bool} (h : unsigned? negative cs = some (json, rest))
    (members : List (String × Json)) : json ≠ .obj members := by
  rintro rfl
  simp only [unsigned?, Option.bind_eq_bind] at h
  split at h
  · cases h
  · obtain ⟨⟨fraction, afterFraction⟩, -, h⟩ := Option.bind_eq_some_iff.mp h
    obtain ⟨⟨exponent, afterExponent⟩, -, h⟩ := Option.bind_eq_some_iff.mp h
    dsimp only at h
    split at h
    · split at h <;> cases h
    · cases h

theorem ne_obj_of_scalar? (h : scalar? cs = some (json, rest)) (members : List (String × Json)) :
    json ≠ .obj members := by
  rw [scalar?.eq_def] at h
  split at h
  case h_7 => exact ne_obj_of_unsigned? h members
  case h_8 => exact ne_obj_of_unsigned? h members
  all_goals
    obtain ⟨_, -, hpair⟩ := Option.map_eq_some_iff.mp h
    cases hpair
    simp

theorem ne_obj_of_ofCodes? {unpaired : Bool} {codes : List Nat}
    (h : ofCodes? unpaired codes = some json) (members : List (String × Json)) :
    json ≠ .obj members := by
  rintro rfl
  simp only [ofCodes?] at h
  split at h
  · cases h
  · split at h <;> cases h

/-- A text that starts with an object has a brace. -/
theorem brace_mem_of_value {d : Dialect} {depth : Nat} {members : List (String × Json)}
    (h : value d depth cs = .ok (.obj members, rest)) : .char '{' ∈ cs := by
  have hskip : (skipSpace cs).Sublist cs := List.dropWhile_sublist _
  refine hskip.subset ?_
  rw [value] at h
  split at h
  · obtain ⟨⟨pieces, after⟩, -, h⟩ := Result.bind_eq_ok_iff.mp h
    obtain ⟨json, hjson, h⟩ := Result.bind_eq_ok_iff.mp h
    cases h
    exact absurd rfl (ne_obj_of_ofCodes? (found_eq_ok_iff.mp hjson) members)
  · split at h
    · cases h
    · split at h
      · cases h
      · obtain ⟨_, -, hpair⟩ := Result.map_eq_ok_iff.mp h
        cases hpair
  · rename_i hcs
    rw [hcs]
    exact List.mem_cons_self ..
  · exact absurd rfl (ne_obj_of_scalar? (found_eq_ok_iff.mp h) members)

end Json

/-- An object's document has a brace. -/
theorem Schema.brace_mem_of_jsonOf? {bytes : Bytes} {members : List (String × Json)}
    (h : jsonOf? bytes = some (.obj members)) : 0x7B ∈ bytes := by
  obtain ⟨text, htext, hjson⟩ := Option.bind_eq_some_iff.mp h
  obtain ⟨⟨json, rest⟩, hvalue, hend⟩ :=
    Result.bind_eq_ok_iff.mp (Result.toOption_eq_some_iff.mp hjson)
  dsimp only at hend
  split at hend
  · cases hend
    obtain ⟨c, hc, hbrace⟩ := List.mem_map.mp (Json.brace_mem_of_value hvalue)
    cases hbrace
    rw [← Utf8.encode_of_decode? htext]
    exact Utf8.mem_encode_of_ascii (by decide) hc
  · cases hend

/-- What is a login attempt has a brace. -/
theorem LoginAttempt.brace_mem_of_ofContent {content : Bytes} {attempt : LoginAttempt}
    (h : ofContent content = .ok attempt) : 0x7B ∈ content := by
  rw [ofContent, Schema.document] at h
  cases hjson : Schema.jsonOf? content with
  | none =>
    rw [hjson] at h
    cases h
  | some json =>
    cases json with
    | obj members => exact Schema.brace_mem_of_jsonOf? hjson
    | _ =>
      rw [hjson] at h
      cases h

/-! ### No content is mistaken -/

/-- What can be unpacked is no login attempt. -/
theorem LoginAttempt.ofContent_of_unpack? {content inner : Bytes}
    (h : Packing.unpack? content = some inner) : ofContent content = .error .notAttempt := by
  cases hread : ofContent content with
  | ok attempt =>
    exact absurd (brace_mem_of_ofContent hread) (Packing.brace_not_mem_of_unpack? h)
  | error fault =>
    rw [ofContent] at hread
    split at hread <;> cases hread
    rfl

/-- What is a login attempt can not be unpacked. -/
theorem Session.ofContent_of_attempt {content : Bytes} {attempt : LoginAttempt}
    (h : LoginAttempt.ofContent content = .ok attempt) : ofContent content = .error .notPacked := by
  cases hunpack : Packing.unpack? content with
  | none => rw [ofContent, hunpack]
  | some inner =>
    rw [LoginAttempt.ofContent_of_unpack? hunpack] at h
    cases h

/-- A packed content is no login attempt. -/
theorem LoginAttempt.ofContent_pack (content : Bytes) :
    LoginAttempt.ofContent (Packing.pack content) = .error .notAttempt :=
  ofContent_of_unpack? (Packing.unpack?_pack content)

/-- A written login attempt is not packed. -/
theorem Session.ofContent_text (attempt : LoginAttempt) :
    Session.ofContent (Utf8.encode attempt.text) = .error .notPacked :=
  ofContent_of_attempt (LoginAttempt.ofContent_text attempt)

/-! ### No cookie value is mistaken -/

/-- One key serves both cookies, and under every key and every initialisation vector the value of
one is refused as the other: it decrypts, but its content is of the wrong kind. This does not depend
on how sessions are compressed, as no value whose content can be unpacked is accepted as a login
attempt, nor on who made a login attempt's value. -/
theorem CookieKey.keeps_apart (key : CookieKey) {iv : Bytes} (hiv : iv.length = 12) :
    (∀ attempt : LoginAttempt,
      Session.ofCookieValue key (attempt.toCookieValue key iv) = .error .notPacked) ∧
      (∀ session : Session,
        LoginAttempt.ofCookieValue key (session.toCookieValue key iv) = .error .notAttempt) ∧
      (∀ value attempt, LoginAttempt.ofCookieValue key value = .ok attempt →
        Session.ofCookieValue key value = .error .notPacked) ∧
      ∀ value content inner, CookieCipher.decrypt key value = .ok content →
        Packing.unpack? content = some inner →
        LoginAttempt.ofCookieValue key value = .error .notAttempt := by
  have hnotSession : ∀ value attempt, LoginAttempt.ofCookieValue key value = .ok attempt →
      Session.ofCookieValue key value = .error .notPacked := by
    intro value attempt hattempt
    obtain ⟨content, hcontent, hread⟩ := LoginAttempt.exists_content_of_ofCookieValue hattempt
    rw [Session.ofCookieValue_of_decrypt hcontent, Session.ofContent_of_attempt hread]
  have hnotAttempt : ∀ value content inner, CookieCipher.decrypt key value = .ok content →
      Packing.unpack? content = some inner →
      LoginAttempt.ofCookieValue key value = .error .notAttempt := by
    intro value content inner hcontent hunpack
    rw [LoginAttempt.ofCookieValue_of_decrypt hcontent, LoginAttempt.ofContent_of_unpack? hunpack]
  refine ⟨fun attempt => ?_, fun session => ?_, hnotSession, hnotAttempt⟩
  · exact hnotSession _ attempt (LoginAttempt.ofCookieValue_toCookieValue key hiv attempt)
  · exact hnotAttempt _ _ _ (CookieCipher.decrypt_encrypt key hiv _) (Packing.unpack?_pack _)

/-- The attempt here consists of what packed contents start with, and still it is none. -/
theorem CookieKey.keeps_apart_last_session :
    (List.replicate 12 (0 : UInt8)).length = 12 ∧
      LoginAttempt.ofCookieValue .sample (LoginAttempt.toCookieValue .sample
          (List.replicate 12 0) ⟨"H4sI", "H4sI", "", "H4sI"⟩) =
        .ok ⟨"H4sI", "H4sI", "", "H4sI"⟩ ∧
      Session.ofCookieValue .sample (LoginAttempt.toCookieValue .sample
          (List.replicate 12 0) ⟨"H4sI", "H4sI", "", "H4sI"⟩) = .error .notPacked ∧
      CookieCipher.decrypt .sample
          (sampleLastSession.toCookieValue .sample (List.replicate 12 0)) =
        .ok (Packing.pack (Utf8.encode sampleLastSession.text)) ∧
      Packing.unpack? (Packing.pack (Utf8.encode sampleLastSession.text)) =
        some (Utf8.encode sampleLastSession.text) ∧
      LoginAttempt.ofCookieValue .sample
          (sampleLastSession.toCookieValue .sample (List.replicate 12 0)) =
        .error .notAttempt := by
  have hiv : (List.replicate 12 (0 : UInt8)).length = 12 := rfl
  have hread := LoginAttempt.ofCookieValue_toCookieValue .sample hiv ⟨"H4sI", "H4sI", "", "H4sI"⟩
  have hdecrypt := CookieCipher.decrypt_encrypt .sample hiv
    (Packing.pack (Utf8.encode sampleLastSession.text))
  have hunpack := Packing.unpack?_pack (Utf8.encode sampleLastSession.text)
  obtain ⟨-, -, hnotSession, hnotAttempt⟩ := CookieKey.keeps_apart .sample hiv
  exact ⟨hiv, hread, hnotSession _ _ hread, hdecrypt, hunpack,
    hnotAttempt _ _ _ hdecrypt hunpack⟩

end LoginGate
