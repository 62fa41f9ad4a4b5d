import LoginGate.Base64.Basic

/-!
# Canonical base64

Texts in the URL-safe alphabet without padding, each of which is the only spelling of its bytes:
the lenient reader finds the bytes, and a text is accepted only if encoding them gives it back.

## Main definitions

* `Base64.Canonical.decode` : the bytes, or why there are none.

## Main results

* `Base64.Canonical.decode_eq_ok_iff` : accepted are the texts that encoding gives back.
-/

namespace LoginGate.Base64.Canonical

/-- Why a text is not canonical base64. -/
inductive Fault where
  /-- Not even the lenient reader finds whole bytes in it. -/
  | malformed
  /-- It is another spelling than the encoding of its bytes. -/
  | otherSpelling
  deriving DecidableEq, Repr

/-- The bytes that the lenient reader finds in an ASCII text, padding added. -/
def read? (text : String) : Option Bytes :=
  let cs := padded text.toList
  if cs.all (·.toNat < 128) then readLenient? cs else none

/-- The bytes of a canonical text. -/
def decode (text : String) : Except Fault Bytes :=
  match read? text with
  | none => .error .malformed
  | some bytes => if encode .urlSafe bytes = text then .ok bytes else .error .otherSpelling

/-- Accepted are the texts that encoding gives back. -/
theorem decode_eq_ok_iff {text : String} {bytes : Bytes} :
    decode text = .ok bytes ↔ read? text = some bytes ∧ encode .urlSafe bytes = text := by
  unfold decode
  cases h : read? text with
  | none => simp
  | some found =>
    by_cases hf : encode .urlSafe found = text
    · simp only [hf, if_true, Except.ok.injEq, Option.some.injEq]
      constructor
      · rintro rfl; exact ⟨rfl, hf⟩
      · exact fun hb => hb.1
    · simp only [hf, if_false, reduceCtorEq, Option.some.injEq, false_iff, not_and]
      rintro rfl; exact hf

end LoginGate.Base64.Canonical
