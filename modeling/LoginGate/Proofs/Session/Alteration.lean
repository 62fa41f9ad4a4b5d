import LoginGate.Proofs.Gate.Unforged
import Mathlib.Data.Set.Defs

/-!
# Altered cookie values

A site has sealed sessions and login attempts under its key, each with an initialisation vector, and
gives their cookie values to browsers. Whoever brings another value, be it one of these with a
character more, less or changed, brings another ciphertext, as no two values frame the same bytes.
If the cipher takes no ciphertexts but those that the site has made, every such value is refused,
and nothing of what is inside is looked at.

## Main definitions

* `Sealing` : what is sealed, with its initialisation vector, and `Sealing.value`, its cookie value.
* `CookieKey.UnforgedIn` : the assumption on the cipher, for one value.

## Main results

* `Gcm.decrypt?_of_other_tag` : a ciphertext under another tag is not decrypted.
* `CookieKey.exists_decrypt_iff` : the values that are decrypted are those that the site gives out.
* `CookieKey.refuses_altered` : no other value is taken for a session or for a login attempt.
-/

namespace LoginGate

/-- A ciphertext under another tag is not decrypted. -/
theorem Gcm.decrypt?_of_other_tag {keys : List Aes.Block} {iv ciphertext other : Bytes}
    (hlength : other.length = tagBytes) (h : other ≠ tag keys iv ciphertext) :
    decrypt? keys iv (ciphertext ++ other) = none := by
  have hsize : (ciphertext ++ other).length - tagBytes = ciphertext.length := by
    rw [List.length_append, hlength, Nat.add_sub_cancel]
  rw [decrypt?, hsize, List.take_left, List.drop_left, if_neg fun htag => h htag.2]

/-- What is sealed, with its initialisation vector. -/
structure Sealing where
  sealed : Sealed
  iv : Bytes
  length_iv : iv.length = CookieCipher.ivBytes

namespace Sealing

/-- The cookie value of a session or a login attempt. -/
def value (key : CookieKey) (sealing : Sealing) : String :=
  match sealing.sealed with
  | .session session => session.toCookieValue key sealing.iv
  | .attempt attempt => attempt.toCookieValue key sealing.iv

/-- The ciphertext in it. -/
def data (key : CookieKey) (sealing : Sealing) : Bytes :=
  Gcm.encrypt key.roundKeys sealing.iv sealing.sealed.content

theorem value_eq_frame (key : CookieKey) (sealing : Sealing) :
    sealing.value key = CookieCipher.frame sealing.iv (sealing.data key) := by
  obtain ⟨sealed, iv, hiv⟩ := sealing
  cases sealed <;> rfl

/-- What is given out is decrypted. -/
theorem decrypt_value (key : CookieKey) (sealing : Sealing) :
    CookieCipher.decrypt key (sealing.value key) = .ok sealing.sealed.content := by
  rw [value_eq_frame]
  exact CookieCipher.decrypt_encrypt key sealing.length_iv _

end Sealing

namespace CookieKey

variable {key : CookieKey} {sealings : Set Sealing} {value : String}

/-- Nobody but the site makes a ciphertext: if the initialisation vector and the ciphertext in a
value are accepted, they are those of something that the site has sealed. This is assumed of the
value that is brought and not of all pairs of bytes, among which there are ciphertexts of every
content. -/
def UnforgedIn (key : CookieKey) (sealings : Set Sealing) (value : String) : Prop :=
  ∀ iv data content, CookieCipher.unframe value = .ok (iv, data) →
    Gcm.decrypt? key.roundKeys iv data = some content →
    ∃ sealing ∈ sealings, sealing.iv = iv ∧ sealing.data key = data

/-- The values that are decrypted are those that the site gives out. -/
theorem exists_decrypt_iff (hunforged : key.UnforgedIn sealings value) :
    (∃ content, CookieCipher.decrypt key value = .ok content) ↔
      ∃ sealing ∈ sealings, value = sealing.value key := by
  constructor
  · rintro ⟨content, hcontent⟩
    obtain ⟨iv, data, hparts, hdecrypt⟩ := CookieCipher.decrypt_eq_ok_iff_unframe.mp hcontent
    obtain ⟨sealing, hsealing, rfl, rfl⟩ := hunforged iv data content hparts hdecrypt
    obtain ⟨hvalue, -, -⟩ := CookieCipher.unframe_eq_ok_iff.mp hparts
    exact ⟨sealing, hsealing, hvalue.trans (sealing.value_eq_frame key).symm⟩
  · rintro ⟨sealing, -, rfl⟩
    exact ⟨_, sealing.decrypt_value key⟩

/-- What the site gives out is decrypted, and every other value is refused, as a session and as a
login attempt, before anything is read of what is inside. -/
theorem refuses_altered (hunforged : key.UnforgedIn sealings value) :
    ((∃ content, CookieCipher.decrypt key value = .ok content) ↔
        ∃ sealing ∈ sealings, value = sealing.value key) ∧
      ((∀ sealing ∈ sealings, value ≠ sealing.value key) →
        (∃ fault, Session.ofCookieValue key value = .error fault) ∧
          ∃ fault, LoginAttempt.ofCookieValue key value = .error fault) := by
  refine ⟨exists_decrypt_iff hunforged, fun hother => ?_⟩
  have hclosed : ∀ content, CookieCipher.decrypt key value ≠ .ok content := by
    intro content hcontent
    obtain ⟨sealing, hsealing, hvalue⟩ := (exists_decrypt_iff hunforged).mp ⟨content, hcontent⟩
    exact hother sealing hsealing hvalue
  refine ⟨Result.exists_error_iff.mpr fun session hread => ?_,
    Result.exists_error_iff.mpr fun attempt hread => ?_⟩
  · obtain ⟨content, hcontent, -⟩ := Session.exists_content_of_ofCookieValue hread
    exact hclosed content hcontent
  · obtain ⟨content, hcontent, -⟩ := LoginAttempt.exists_content_of_ofCookieValue hread
    exact hclosed content hcontent

/-! ### A tag that is turned over -/

/-- A login attempt that a site has sealed. -/
def sampleSealing : Sealing := ⟨.attempt ⟨"s", "v", "c", "S256"⟩, List.replicate 12 0, rfl⟩

/-- Its ciphertext without tag. -/
def sampleCiphertext : Bytes :=
  Gcm.crypt sample.roundKeys sampleSealing.iv sampleSealing.sealed.content

/-- Its tag, with every bit turned over. -/
def sampleTag : Bytes :=
  (Gcm.tag sample.roundKeys sampleSealing.iv sampleCiphertext).map (~~~ ·)

/-- The cookie value with that tag. -/
def sampleAltered : String := CookieCipher.frame sampleSealing.iv (sampleCiphertext ++ sampleTag)

theorem length_sampleTag : sampleTag.length = Gcm.tagBytes := by
  rw [sampleTag, List.length_map, Gcm.length_tag]

theorem sampleTag_ne :
    sampleTag ≠ Gcm.tag sample.roundKeys sampleSealing.iv sampleCiphertext := by
  have hlength := length_sampleTag
  rw [sampleTag] at hlength ⊢
  cases htag : Gcm.tag sample.roundKeys sampleSealing.iv sampleCiphertext with
  | nil =>
    rw [htag] at hlength
    cases hlength
  | cons byte rest => simp

theorem unframe_sampleAltered : CookieCipher.unframe sampleAltered =
    .ok (sampleSealing.iv, sampleCiphertext ++ sampleTag) := by
  refine CookieCipher.unframe_frame sampleSealing.length_iv fun hempty => ?_
  have hlength := length_sampleTag
  rw [(List.append_eq_nil_iff.mp hempty).2] at hlength
  cases hlength

theorem decrypt?_sampleAltered : Gcm.decrypt? sample.roundKeys sampleSealing.iv
    (sampleCiphertext ++ sampleTag) = none :=
  Gcm.decrypt?_of_other_tag length_sampleTag sampleTag_ne

/-- The value is none of those that are given out, and it is refused. -/
theorem refuses_altered_tag :
    sample.UnforgedIn {sampleSealing} sampleAltered ∧
      (∀ sealing ∈ ({sampleSealing} : Set Sealing), sampleAltered ≠ sealing.value sample) ∧
      (∃ fault, Session.ofCookieValue sample sampleAltered = .error fault) ∧
      ∃ fault, LoginAttempt.ofCookieValue sample sampleAltered = .error fault := by
  have hunforged : sample.UnforgedIn {sampleSealing} sampleAltered := by
    intro iv data content hparts hdecrypt
    cases unframe_sampleAltered.symm.trans hparts
    cases decrypt?_sampleAltered.symm.trans hdecrypt
  have hother : ∀ sealing ∈ ({sampleSealing} : Set Sealing),
      sampleAltered ≠ sealing.value sample := by
    rintro sealing - hvalue
    obtain ⟨iv, data, hparts, hdecrypt⟩ :=
      CookieCipher.decrypt_eq_ok_iff_unframe.mp (hvalue ▸ sealing.decrypt_value sample)
    cases unframe_sampleAltered.symm.trans hparts
    cases decrypt?_sampleAltered.symm.trans hdecrypt
  exact ⟨hunforged, hother, (refuses_altered hunforged).2 hother⟩

end CookieKey

end LoginGate
