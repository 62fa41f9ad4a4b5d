import LoginGate.Proofs.Base64.Strict
import LoginGate.Proofs.Compression.Members
import LoginGate.Proofs.Session.Documents
import LoginGate.Proofs.Session.RoundTrip

/-!
# What becomes of a cookie value

A cookie value goes through five stages. It has to be the one text of its bytes, to have room for an
initialisation vector, to be decrypted, for a session to be unpacked, and to hold the right
document. Each stage refuses what it cannot take with a fault of its own, and no stage ends in any
other way, whatever the value is and whoever has encrypted it.

The stages are described here without the readers: what a value, a packed content and a document
have to look like. By this a value is taken for a session exactly if it is the encryption of a
base64 text of an archive of a document that describes the session.

## Main definitions

* `CookieCipher.Refuses` : why a value is not decrypted.
* `Packing.Holds` : a packed content and what is inside.
* `Schema.Judged`, `Session.Content`, `LoginAttempt.Content` : what becomes of a decrypted content.
* `Decoded` : what becomes of a value.

## Main results

* `Gcm.decrypt?_eq_some_iff`, `CookieCipher.decrypt_eq_error_iff` : what is decrypted, and what not.
* `Packing.unpack?_eq_some_iff` : what is unpacked.
* `Session.ofContent_eq_iff`, `LoginAttempt.ofContent_eq_iff` : what becomes of a content.
* `Session.ofCookieValue_eq_iff`, `LoginAttempt.ofCookieValue_eq_iff` : what becomes of a value.
* `Session.ofCookieValue_eq_ok_iff`, `LoginAttempt.ofCookieValue_eq_ok_iff` : what is accepted.
* `CookieKey.decodes` : both, and which values are sessions.
-/

namespace LoginGate

/-! ### Decryption -/

/-- What is decrypted is an encryption. -/
theorem Gcm.decrypt?_eq_some_iff {keys : List Aes.Block} {iv data content : Bytes} :
    decrypt? keys iv data = some content ↔ data = encrypt keys iv content := by
  constructor
  · intro h
    rw [decrypt?] at h
    split at h
    · rename_i htag
      obtain rfl := Option.some.inj h
      rw [encrypt, crypt_crypt, ← htag.2, List.take_append_drop]
    · cases h
  · rintro rfl
    exact decrypt?_encrypt keys iv content

namespace CookieCipher

variable {key : CookieKey} {value : String} {content : Bytes} {fault : CookieFault}

/-- What is decrypted is the text of an encryption. -/
theorem decrypt_eq_ok_iff_encrypt : decrypt key value = .ok content ↔
    ∃ iv, iv.length = ivBytes ∧ value = encrypt key iv content := by
  rw [decrypt_eq_ok_iff_unframe]
  constructor
  · rintro ⟨iv, data, hparts, hdata⟩
    obtain ⟨hvalue, hiv, -⟩ := unframe_eq_ok_iff.mp hparts
    rw [Gcm.decrypt?_eq_some_iff] at hdata
    exact ⟨iv, hiv, by rw [hvalue, hdata, encrypt]⟩
  · rintro ⟨iv, hiv, rfl⟩
    exact ⟨iv, _, unframe_frame hiv (encrypt_ne_nil _ _ _), Gcm.decrypt?_encrypt _ _ _⟩

/-- Why a value is not decrypted. -/
inductive Refuses (key : CookieKey) (value : String) : CookieFault → Prop
  /-- There are no bytes in it. -/
  | malformed (h : Base64.Canonical.read? value = none) : Refuses key value .malformed
  /-- It is not the text of the bytes in it. -/
  | otherSpelling {bytes : Bytes} (h : Base64.Canonical.read? value = some bytes)
      (hother : value ≠ Base64.encode .urlSafe bytes) : Refuses key value .otherSpelling
  /-- There is nothing behind the initialisation vector. -/
  | tooShort {bytes : Bytes} (h : value = Base64.encode .urlSafe bytes)
      (hlength : bytes.length ≤ ivBytes) : Refuses key value .tooShort
  /-- What stands behind the initialisation vector is no encryption under it. -/
  | notAuthentic {iv data : Bytes} (h : value = frame iv data) (hiv : iv.length = ivBytes)
      (hdata : data ≠ []) (hother : ∀ content, data ≠ Gcm.encrypt key.roundKeys iv content) :
      Refuses key value .notAuthentic

theorem frameBytes_eq_error_iff : frameBytes value = .error fault ↔
    (fault = .malformed ∧ Base64.Canonical.read? value = none) ∨
      (fault = .otherSpelling ∧ ∃ bytes, Base64.Canonical.read? value = some bytes ∧
        value ≠ Base64.encode .urlSafe bytes) := by
  rw [frameBytes, Base64.Canonical.decode]
  cases Base64.Canonical.read? value with
  | none => simp [eq_comm]
  | some bytes =>
    by_cases h : Base64.encode .urlSafe bytes = value
    · simp [h]
    · simp [h, eq_comm, Ne.symm h]

theorem unframe_eq_error_iff : unframe value = .error fault ↔
    frameBytes value = .error fault ∨
      (fault = .tooShort ∧ ∃ bytes, value = Base64.encode .urlSafe bytes ∧
        bytes.length ≤ ivBytes) := by
  rw [unframe]
  refine Result.bind_eq_error_iff.trans (or_congr_right ?_)
  constructor
  · rintro ⟨bytes, hbytes, h⟩
    obtain ⟨-, htext⟩ := Base64.Canonical.decode_eq_ok_iff.mp (frameBytes_eq_ok_iff.mp hbytes)
    split at h
    · rename_i hlength
      exact ⟨(Except.error.inj h).symm, bytes, htext.symm, hlength⟩
    · cases h
  · rintro ⟨rfl, bytes, rfl, hlength⟩
    exact ⟨bytes, frameBytes_eq_ok_iff.mpr (Base64.Canonical.decode_encode bytes), if_pos hlength⟩

/-- A value is refused exactly for one of these reasons. -/
theorem decrypt_eq_error_iff : decrypt key value = .error fault ↔ Refuses key value fault := by
  constructor
  · intro h
    -- The value fails as a text, by its length, or by its tag.
    rcases Result.bind_eq_error_iff.mp h with h | ⟨⟨iv, data⟩, hparts, h⟩
    · rcases unframe_eq_error_iff.mp h with h | ⟨rfl, bytes, htext, hlength⟩
      · rcases frameBytes_eq_error_iff.mp h with ⟨rfl, hread⟩ | ⟨rfl, bytes, hread, hother⟩
        · exact .malformed hread
        · exact .otherSpelling hread hother
      · exact .tooShort htext hlength
    · obtain ⟨hvalue, hiv, hdata⟩ := unframe_eq_ok_iff.mp hparts
      dsimp only at h
      split at h
      · cases h
      · rename_i hnone
        obtain rfl := Except.error.inj h
        refine .notAuthentic hvalue hiv hdata fun content hcontent => ?_
        cases hnone.symm.trans (Gcm.decrypt?_eq_some_iff.mpr hcontent)
  · intro h
    refine Result.bind_eq_error_iff.mpr ?_
    cases h with
    | malformed h =>
      exact .inl (unframe_eq_error_iff.mpr (.inl (frameBytes_eq_error_iff.mpr (.inl ⟨rfl, h⟩))))
    | otherSpelling h hother =>
      have hbytes := frameBytes_eq_error_iff.mpr (.inr ⟨rfl, _, h, hother⟩)
      exact .inl (unframe_eq_error_iff.mpr (.inl hbytes))
    | tooShort h hlength =>
      exact .inl (unframe_eq_error_iff.mpr (.inr ⟨rfl, _, h, hlength⟩))
    | @notAuthentic iv data h hiv hdata hother =>
      refine .inr ⟨(iv, data), h ▸ unframe_frame hiv hdata, ?_⟩
      have hnone : Gcm.decrypt? key.roundKeys iv data = none := by
        rw [Option.eq_none_iff_forall_ne_some]
        exact fun content hcontent => hother content (Gcm.decrypt?_eq_some_iff.mp hcontent)
      simp only [hnone]

end CookieCipher

/-! ### Packed contents -/

/-- A packed content is a base64 text of an archive of what is inside. -/
def Packing.Holds (packed document : Bytes) : Prop :=
  ∃ archive, (charsOf packed).head? ≠ some '=' ∧ Base64.StrictText (charsOf packed) archive ∧
    Gzip.Members archive document

/-- A content is unpacked exactly if it holds something. -/
theorem Packing.unpack?_eq_some_iff {packed document : Bytes} :
    unpack? packed = some document ↔ Holds packed document := by
  simp only [unpack?, Option.bind_eq_bind, Option.bind_eq_some_iff, Base64.readStrict?_eq_some_iff,
    Gzip.decompress?_eq_some_iff, Holds, and_assoc]

/-- A document is the UTF-8 text of a JSON value. -/
def Schema.IsDocument (document : Bytes) (json : Json) : Prop :=
  ∃ text, document = Utf8.encode text ∧ Json.parse? dialect text = some json

theorem Schema.jsonOf?_eq_some_iff {document : Bytes} {json : Json} :
    jsonOf? document = some json ↔ IsDocument document json := by
  rw [jsonOf?]
  constructor
  · intro h
    obtain ⟨text, htext, hjson⟩ := Option.bind_eq_some_iff.mp h
    exact ⟨text, (Utf8.encode_of_decode? htext).symm, hjson⟩
  · rintro ⟨text, rfl, hjson⟩
    exact Option.bind_eq_some_iff.mpr ⟨text, Utf8.decode?_encode text, hjson⟩

/-! ### Contents -/

/-- A checked value, or the fault for those that are not valid. -/
def Schema.Checked.orFault {α : Type} (fault : CookieFault) : Checked α → Except CookieFault α
  | .valid a => .ok a
  | .invalid _ => .error fault

/-- What becomes of a document that has to describe something, with the fault for those that do
not. -/
inductive Schema.Judged {α : Type} (IsIn : Json → α → Prop) (fault : CookieFault)
    (document : Bytes) : Except CookieFault α → Prop
  /-- It is no document, or describes nothing. -/
  | refused (h : ∀ json a, IsDocument document json → ¬ IsIn json a) :
      Judged IsIn fault document (.error fault)
  /-- It describes something. -/
  | accepted {json : Json} {a : α} (hdocument : IsDocument document json) (h : IsIn json a) :
      Judged IsIn fault document (.ok a)

/-- A document is judged by what it describes. -/
theorem Schema.judged_iff {α : Type} {reader : Reader α} {IsIn : Json → α → Prop}
    (hreader : ∀ json a, reader json = .valid a ↔ IsIn json a) {fault : CookieFault}
    {bytes : Bytes} {result : Except CookieFault α} :
    (document reader bytes).orFault fault = result ↔ Judged IsIn fault bytes result := by
  have hread (a : α) : document reader bytes = .valid a ↔
      ∃ json, IsDocument bytes json ∧ IsIn json a := by
    simp only [document_eq_valid_iff, jsonOf?_eq_some_iff, hreader]
  cases hdocument : document reader bytes with
  | valid found =>
    obtain ⟨json, hjson, hin⟩ := (hread found).mp hdocument
    constructor
    · rintro rfl
      exact .accepted hjson hin
    · rintro (hnone | ⟨hother, hotherIn⟩)
      · exact absurd hin (hnone json found hjson)
      · cases hdocument.symm.trans ((hread _).mpr ⟨_, hother, hotherIn⟩)
        rfl
  | invalid issues =>
    constructor
    · rintro rfl
      refine .refused fun json a hjson hin => ?_
      cases hdocument.symm.trans ((hread a).mpr ⟨json, hjson, hin⟩)
    · rintro (hnone | ⟨hother, hotherIn⟩)
      · rfl
      · cases hdocument.symm.trans ((hread _).mpr ⟨_, hother, hotherIn⟩)

/-- What becomes of the content of a session's value. -/
inductive Session.Content (packed : Bytes) : Except CookieFault Session → Prop
  /-- It holds nothing. -/
  | notPacked (h : ∀ document, ¬ Packing.Holds packed document) :
      Content packed (.error .notPacked)
  /-- It holds a document, which describes a session or does not. -/
  | packed {document : Bytes} {result : Except CookieFault Session}
      (hholds : Packing.Holds packed document)
      (h : Schema.Judged IsIn .notSession document result) : Content packed result

/-- What becomes of the content of a login attempt's value. -/
abbrev LoginAttempt.Content : Bytes → Except CookieFault LoginAttempt → Prop :=
  Schema.Judged IsIn .notAttempt

theorem Session.ofContent_of_unpack?_eq_none {packed : Bytes}
    (h : Packing.unpack? packed = none) : ofContent packed = .error .notPacked := by
  rw [ofContent, h]

theorem Session.ofContent_of_unpack?_eq_some {packed document : Bytes}
    (h : Packing.unpack? packed = some document) :
    ofContent packed = (Schema.document reader document).orFault .notSession := by
  simp only [ofContent, h]
  cases Schema.document reader document <;> rfl

theorem LoginAttempt.ofContent_eq_orFault (document : Bytes) :
    ofContent document = (Schema.document reader document).orFault .notAttempt := by
  rw [ofContent]
  cases Schema.document reader document <;> rfl

/-- A content becomes what is described. -/
theorem Session.ofContent_eq_iff {packed : Bytes} {result : Except CookieFault Session} :
    ofContent packed = result ↔ Content packed result := by
  cases hunpack : Packing.unpack? packed with
  | none =>
    rw [ofContent_of_unpack?_eq_none hunpack]
    constructor
    · rintro rfl
      refine .notPacked fun document hholds => ?_
      cases hunpack.symm.trans (Packing.unpack?_eq_some_iff.mpr hholds)
    · rintro (_ | ⟨hholds, _⟩)
      · rfl
      · cases hunpack.symm.trans (Packing.unpack?_eq_some_iff.mpr hholds)
  | some document =>
    have hholds := Packing.unpack?_eq_some_iff.mp hunpack
    rw [ofContent_of_unpack?_eq_some hunpack, Schema.judged_iff @reader_eq_valid_iff]
    constructor
    · exact .packed hholds
    · rintro (hnone | ⟨hother, h⟩)
      · exact absurd hholds (hnone document)
      · cases hunpack.symm.trans (Packing.unpack?_eq_some_iff.mpr hother)
        exact h

/-- A content becomes what is described. -/
theorem LoginAttempt.ofContent_eq_iff {document : Bytes}
    {result : Except CookieFault LoginAttempt} :
    ofContent document = result ↔ Content document result := by
  rw [ofContent_eq_orFault, Schema.judged_iff @reader_eq_valid_iff]

/-! ### Values -/

section Decoded

variable {α : Type} {key : CookieKey} {value : String} {absent : CookieFault}

/-- What becomes of a value, if the empty one has the fault `absent` and `Content` says what becomes
of a decrypted content. -/
inductive Decoded (key : CookieKey) (absent : CookieFault)
    (Content : Bytes → Except CookieFault α → Prop) (value : String) :
    Except CookieFault α → Prop
  /-- It is empty. -/
  | absent (h : value = "") : Decoded key absent Content value (.error absent)
  /-- It is not decrypted. -/
  | refused {fault : CookieFault} (hvalue : value ≠ "")
      (h : CookieCipher.Refuses key value fault) : Decoded key absent Content value (.error fault)
  /-- It is the encryption of a content. -/
  | decrypted {iv content : Bytes} {result : Except CookieFault α}
      (hiv : iv.length = CookieCipher.ivBytes)
      (hvalue : value = CookieCipher.encrypt key iv content) (h : Content content result) :
      Decoded key absent Content value result

/-- A value is decoded as described if its content is. -/
theorem decode_eq_iff {ofContent : Bytes → Except CookieFault α}
    {Content : Bytes → Except CookieFault α → Prop}
    (hcontent : ∀ content result, ofContent content = result ↔ Content content result)
    {result : Except CookieFault α} :
    (if value.isEmpty then .error absent
      else (CookieCipher.decrypt key value).bind ofContent) = result ↔
      Decoded key absent Content value result := by
  constructor
  · rintro rfl
    split
    · rename_i hempty
      exact .absent (String.isEmpty_iff.mp hempty)
    · rename_i hempty
      cases hdecrypt : CookieCipher.decrypt key value with
      | error fault =>
        exact .refused (fun h => hempty (String.isEmpty_iff.mpr h))
          (CookieCipher.decrypt_eq_error_iff.mp hdecrypt)
      | ok content =>
        obtain ⟨iv, hiv, hvalue⟩ := CookieCipher.decrypt_eq_ok_iff_encrypt.mp hdecrypt
        exact .decrypted hiv hvalue ((hcontent _ _).mp rfl)
  · intro h
    cases h with
    | absent h =>
      subst h
      rfl
    | refused hvalue h =>
      rw [if_neg fun hempty => hvalue (String.isEmpty_iff.mp hempty),
        CookieCipher.decrypt_eq_error_iff.mpr h]
      rfl
    | decrypted hiv hvalue h =>
      have hdecrypt := CookieCipher.decrypt_eq_ok_iff_encrypt.mpr ⟨_, hiv, hvalue⟩
      rw [CookieCipher.isEmpty_of_decrypt hdecrypt, if_neg Bool.false_ne_true, hdecrypt]
      exact (hcontent _ _).mpr h

theorem Session.ofCookieValue_eq_iff {result : Except CookieFault Session} :
    ofCookieValue key value = result ↔ Decoded key .noSession Content value result :=
  decode_eq_iff fun _ _ => ofContent_eq_iff

theorem LoginAttempt.ofCookieValue_eq_iff {result : Except CookieFault LoginAttempt} :
    ofCookieValue key value = result ↔ Decoded key .noAttempt Content value result :=
  decode_eq_iff fun _ _ => ofContent_eq_iff

theorem Session.content_of_encrypt {iv : Bytes} (hiv : iv.length = CookieCipher.ivBytes)
    (packed : Bytes) :
    Content packed (ofCookieValue key (CookieCipher.encrypt key iv packed)) := by
  rw [ofCookieValue_of_decrypt (CookieCipher.decrypt_encrypt key hiv packed)]
  exact ofContent_eq_iff.mp rfl

theorem LoginAttempt.content_of_encrypt {iv : Bytes} (hiv : iv.length = CookieCipher.ivBytes)
    (document : Bytes) :
    Content document (ofCookieValue key (CookieCipher.encrypt key iv document)) := by
  rw [ofCookieValue_of_decrypt (CookieCipher.decrypt_encrypt key hiv document)]
  exact ofContent_eq_iff.mp rfl

theorem Session.ofCookieValue_eq_ok_iff {session : Session} :
    ofCookieValue key value = .ok session ↔
      ∃ iv packed document json, iv.length = CookieCipher.ivBytes ∧
        value = CookieCipher.encrypt key iv packed ∧ Packing.Holds packed document ∧
        Schema.IsDocument document json ∧ session.IsIn json := by
  rw [ofCookieValue_eq_iff]
  constructor
  · rintro (_ | _ | ⟨hiv, hvalue, _ | ⟨hholds, _ | ⟨hdocument, h⟩⟩⟩)
    exact ⟨_, _, _, _, hiv, hvalue, hholds, hdocument, h⟩
  · rintro ⟨iv, packed, document, json, hiv, hvalue, hholds, hdocument, h⟩
    exact .decrypted hiv hvalue (.packed hholds (.accepted hdocument h))

theorem LoginAttempt.ofCookieValue_eq_ok_iff {attempt : LoginAttempt} :
    ofCookieValue key value = .ok attempt ↔
      ∃ iv document json, iv.length = CookieCipher.ivBytes ∧
        value = CookieCipher.encrypt key iv document ∧
        Schema.IsDocument document json ∧ attempt.IsIn json := by
  rw [ofCookieValue_eq_iff]
  constructor
  · rintro (_ | _ | ⟨hiv, hvalue, _ | ⟨hdocument, h⟩⟩)
    exact ⟨_, _, _, hiv, hvalue, hdocument, h⟩
  · rintro ⟨iv, document, json, hiv, hvalue, hdocument, h⟩
    exact .decrypted hiv hvalue (.accepted hdocument h)

end Decoded

/-- Under every key, every value becomes what is described, also as a login attempt, and so does
every content that somebody has encrypted. A value is accepted as a session exactly if it is the one
text of an initialisation vector and of an encryption, under it, of a strict base64 text of an
archive of a document that describes the session; and the session then ends at a date that
exists. -/
theorem CookieKey.decodes (key : CookieKey) :
    (∀ value, (∀ result, Session.ofCookieValue key value = result ↔
        Decoded key .noSession Session.Content value result) ∧
      ∀ result, LoginAttempt.ofCookieValue key value = result ↔
        Decoded key .noAttempt LoginAttempt.Content value result) ∧
    (∀ iv content, iv.length = 12 →
      Session.Content content
          (Session.ofCookieValue key (CookieCipher.encrypt key iv content)) ∧
        LoginAttempt.Content content
          (LoginAttempt.ofCookieValue key (CookieCipher.encrypt key iv content))) ∧
    (∀ value session, Session.ofCookieValue key value = .ok session ↔
      ∃ iv data packed archive document json, iv.length = 12 ∧
        value = Base64.encode .urlSafe (iv ++ data) ∧
        Gcm.decrypt? key.roundKeys iv data = some packed ∧
        (Packing.charsOf packed).head? ≠ some '=' ∧
        Base64.StrictText (Packing.charsOf packed) archive ∧ Gzip.Members archive document ∧
        Schema.IsDocument document json ∧ session.IsIn json) ∧
    ∀ value session, Session.ofCookieValue key value = .ok session →
      session.expiresAt.IsProper := by
  refine ⟨fun value => ⟨fun _ => Session.ofCookieValue_eq_iff,
    fun _ => LoginAttempt.ofCookieValue_eq_iff⟩, fun iv content hiv =>
    ⟨Session.content_of_encrypt hiv content, LoginAttempt.content_of_encrypt hiv content⟩,
    fun value session => ?_, fun value session h => ?_⟩
  · rw [Session.ofCookieValue_eq_ok_iff]
    constructor
    · rintro ⟨iv, packed, document, json, hiv, hvalue, ⟨archive, hstart, htext, hmembers⟩,
        hdocument, hin⟩
      exact ⟨iv, _, packed, archive, document, json, hiv, hvalue, Gcm.decrypt?_encrypt _ _ _,
        hstart, htext, hmembers, hdocument, hin⟩
    · rintro ⟨iv, data, packed, archive, document, json, hiv, hvalue, hdata, hstart, htext,
        hmembers, hdocument, hin⟩
      rw [Gcm.decrypt?_eq_some_iff] at hdata
      refine ⟨iv, packed, document, json, hiv, ?_, ⟨archive, hstart, htext, hmembers⟩, hdocument,
        hin⟩
      rw [hvalue, hdata]
      rfl
  · obtain ⟨_, _, _, _, _, _, _, _, hin⟩ := Session.ofCookieValue_eq_ok_iff.mp h
    obtain ⟨member, -, hdate⟩ := hin.expiresAt
    exact hdate.isProper

/-- An encrypted text that is not packed is refused for that, and as a login attempt because it is
no document. -/
theorem CookieKey.decodes_not_compressed :
    (List.replicate 12 (0 : UInt8)).length = 12 ∧
      Session.ofCookieValue .sample
          (CookieCipher.encrypt .sample (List.replicate 12 0) (Utf8.encode "not compressed")) =
        .error .notPacked ∧
      LoginAttempt.ofCookieValue .sample
          (CookieCipher.encrypt .sample (List.replicate 12 0) (Utf8.encode "not compressed")) =
        .error .notAttempt := by
  have hiv : (List.replicate 12 (0 : UInt8)).length = 12 := rfl
  have hunpack : Packing.unpack? (Utf8.encode "not compressed") = none := by decide
  have hjson : Schema.jsonOf? (Utf8.encode "not compressed") = none := by
    rw [Schema.jsonOf?, Utf8.decode?_encode]
    simp only [Option.bind_eq_bind, Option.bind_some, Json.parse?, Json.parseSymbols, Json.value]
    decide
  obtain ⟨hverdicts, -, -, -⟩ := CookieKey.decodes .sample
  obtain ⟨hsession, hattempt⟩ := hverdicts
    (CookieCipher.encrypt .sample (List.replicate 12 0) (Utf8.encode "not compressed"))
  refine ⟨hiv, (hsession _).mpr (.decrypted hiv rfl (.notPacked fun document hholds => ?_)),
    (hattempt _).mpr (.decrypted hiv rfl (.refused fun json attempt hdocument => ?_))⟩
  · cases hunpack.symm.trans (Packing.unpack?_eq_some_iff.mpr hholds)
  · cases hjson.symm.trans (Schema.jsonOf?_eq_some_iff.mpr hdocument)

end LoginGate
