import LoginGate.Cookie.Cipher
import LoginGate.Proofs.Base64.RoundTrip
import LoginGate.Proofs.Result

/-!
# Encrypted cookie values are read back

A cookie value is the text of an initialisation vector with the ciphertext behind it. It is taken
apart into these two, and what was encrypted is decrypted.

## Main results

* `CookieCipher.unframe_frame` : a value is taken apart again.
* `CookieCipher.unframe_eq_ok_iff` : no other value has the same parts.
* `CookieCipher.decrypt_eq_ok_iff_unframe` : what decrypting means for the two parts.
* `CookieCipher.decrypt_encrypt` : a value is decrypted.
* `CookieCipher.isEmpty_of_decrypt` : the empty value is not.
-/

namespace LoginGate.CookieCipher

/-- A value is taken apart again. -/
theorem unframe_frame {iv data : Bytes} (hiv : iv.length = ivBytes) (hdata : data ≠ []) :
    unframe (frame iv data) = .ok (iv, data) := by
  have hbytes : frameBytes (frame iv data) = .ok (iv ++ data) :=
    frameBytes_eq_ok_iff.mpr (Base64.Canonical.decode_encode _)
  have hlength : ¬ (iv ++ data).length ≤ ivBytes := by
    have hpos : 0 < data.length := List.length_pos_iff.mpr hdata
    rw [List.length_append]
    omega
  rw [unframe, hbytes]
  simp only [bind, Except.bind, if_neg hlength, List.take_left' hiv, List.drop_left' hiv]

/-- The parts of a value are those that it is the text of, so no other value has them. -/
theorem unframe_eq_ok_iff {value : String} {iv data : Bytes} :
    unframe value = .ok (iv, data) ↔
      value = frame iv data ∧ iv.length = ivBytes ∧ data ≠ [] := by
  constructor
  · intro h
    obtain ⟨bytes, hbytes, h⟩ := Result.bind_eq_ok_iff.mp h
    split at h
    · cases h
    · rename_i hlength
      cases h
      obtain ⟨-, htext⟩ := Base64.Canonical.decode_eq_ok_iff.mp (frameBytes_eq_ok_iff.mp hbytes)
      refine ⟨?_, ?_, ?_⟩
      · rw [frame, List.take_append_drop, htext]
      · rw [List.length_take]
        omega
      · rw [ne_eq, List.drop_eq_nil_iff]
        exact hlength
  · rintro ⟨rfl, hiv, hdata⟩
    exact unframe_frame hiv hdata

/-- A value is decrypted by its two parts. -/
theorem decrypt_eq_ok_iff_unframe {key : CookieKey} {value : String} {content : Bytes} :
    decrypt key value = .ok content ↔
      ∃ iv data, unframe value = .ok (iv, data) ∧
        Gcm.decrypt? key.roundKeys iv data = some content := by
  simp only [decrypt, bind, Except.bind]
  cases unframe value with
  | error fault => simp
  | ok parts =>
    obtain ⟨iv, data⟩ := parts
    simp only [Except.ok.injEq, Prod.mk.injEq]
    constructor
    · intro h
      refine ⟨iv, data, ⟨rfl, rfl⟩, ?_⟩
      cases hread : Gcm.decrypt? key.roundKeys iv data with
      | none => simp [hread] at h
      | some found => simpa [hread] using h
    · rintro ⟨_, _, ⟨rfl, rfl⟩, h⟩
      simp [h]

theorem encrypt_ne_nil (keys : List Aes.Block) (iv content : Bytes) :
    Gcm.encrypt keys iv content ≠ [] := by
  have hlength : 0 < (Gcm.encrypt keys iv content).length := by simp [Gcm.encrypt, Gcm.tagBytes]
  exact List.length_pos_iff.mp hlength

/-- A value is decrypted. -/
theorem decrypt_encrypt (key : CookieKey) {iv : Bytes} (hiv : iv.length = ivBytes)
    (content : Bytes) : decrypt key (encrypt key iv content) = .ok content :=
  decrypt_eq_ok_iff_unframe.mpr ⟨iv, _, unframe_frame hiv (encrypt_ne_nil _ _ _),
    Gcm.decrypt?_encrypt _ _ _⟩

/-- What is decrypted is not empty. -/
theorem isEmpty_of_decrypt {key : CookieKey} {value : String} {content : Bytes}
    (h : decrypt key value = .ok content) : value.isEmpty = false := by
  obtain ⟨bytes, hdecode, hlength, -⟩ := decrypt_eq_ok_iff.mp h
  rw [Bool.eq_false_iff]
  intro hempty
  rw [String.isEmpty_iff.mp hempty] at hdecode
  cases hdecode
  exact absurd hlength (by decide)

theorem encrypt_ne_empty (key : CookieKey) {iv : Bytes} (hiv : iv.length = ivBytes)
    (content : Bytes) : (encrypt key iv content).isEmpty = false :=
  isEmpty_of_decrypt (decrypt_encrypt key hiv content)

end LoginGate.CookieCipher
