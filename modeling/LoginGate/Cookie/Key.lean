import LoginGate.Crypto.Aes
import LoginGate.Text.Utf8

/-!
# Keys for cookie values

## Main definitions

* `CookieKey` : 16, 24 or 32 bytes.
* `CookieKey.ofSecret` : the key of a secret text.

## Main results

* `CookieKey.ofSecret_eq_ok_iff` : a secret is a key exactly when its size is one of the three.
-/

namespace LoginGate

/-- A key for cookie values. -/
structure CookieKey where
  bytes : Bytes
  /-- The three sizes that the block cipher takes. -/
  size_mem : bytes.length ∈ [16, 24, 32]

namespace CookieKey

/-- The key of a secret text, or the size that is no key size. -/
def ofSecret (secret : String) : Except Nat CookieKey :=
  let bytes := Utf8.encode secret
  if h : bytes.length ∈ [16, 24, 32] then .ok ⟨bytes, h⟩ else .error bytes.length

/-- A secret is a key exactly when its size is one of the three. -/
theorem ofSecret_eq_ok_iff {secret : String} {key : CookieKey} :
    ofSecret secret = .ok key ↔ key.bytes = Utf8.encode secret := by
  unfold ofSecret
  obtain ⟨bytes, h⟩ := key
  by_cases hs : (Utf8.encode secret).length ∈ [16, 24, 32]
  · simp only [hs, dite_true, Except.ok.injEq, mk.injEq]
    exact eq_comm
  · simp only [hs, dite_false, reduceCtorEq, false_iff]
    rintro rfl
    exact hs h

/-- The round keys of the block cipher. -/
def roundKeys (key : CookieKey) : List Aes.Block := Aes.expandKey key.bytes

end CookieKey

end LoginGate
