import LoginGate.Crypto.Aes

/-!
# Authenticated encryption in counter mode

Galois/Counter mode with an initialisation vector of twelve bytes, a tag of sixteen bytes and no
further authenticated data.

## Main definitions

* `Gcm.keystream` : the encrypted counters.
* `Gcm.tag` : the authentication tag of a ciphertext.
* `Gcm.encrypt`, `Gcm.decrypt?` : ciphertext with tag, and back.

## Main results

* `Gcm.decrypt?_encrypt` : what is encrypted can be decrypted.
-/

namespace LoginGate.Gcm

/-- Bytes of the tag. -/
def tagBytes : Nat := 16

/-- The encrypted block of an initialisation vector and a counter. -/
def counterBlock (keys : List Aes.Block) (iv : Bytes) (counter : Nat) : Bytes :=
  (Aes.encrypt keys (Aes.Block.ofBytes (iv ++ Bytes.ofNatBE 4 counter))).toBytes

/-- The encrypted blocks of `blocks` counters in a row. -/
def keystream (keys : List Aes.Block) (iv : Bytes) : (blocks counter : Nat) → Bytes
  | 0, _ => []
  | blocks + 1, counter => counterBlock keys iv counter ++ keystream keys iv blocks (counter + 1)

theorem length_keystream (keys : List Aes.Block) (iv : Bytes) (blocks counter : Nat) :
    (keystream keys iv blocks counter).length = 16 * blocks := by
  induction blocks generalizing counter with
  | zero => rfl
  | succ blocks ih => simp [keystream, counterBlock, ih]; omega

/-- A text under the key stream; the counter starts at two, one being used for the tag. -/
def crypt (keys : List Aes.Block) (iv text : Bytes) : Bytes :=
  Bytes.xor text (keystream keys iv ((text.length + 15) / 16) 2)

@[simp] theorem length_crypt (keys : List Aes.Block) (iv text : Bytes) :
    (crypt keys iv text).length = text.length := by
  simp only [crypt, Bytes.length_xor, length_keystream]
  omega

theorem crypt_crypt (keys : List Aes.Block) (iv text : Bytes) :
    crypt keys iv (crypt keys iv text) = text := by
  rw [crypt, length_crypt, crypt]
  exact Bytes.xor_xor_cancel _ _ (by rw [length_keystream]; omega)

/-! ### The tag -/

/-- Products in the field of 128 bits, most significant bit first: adds `v` for each of the `bits`
lowest bits of `x`, from the highest of them on, and moves `v` on by one power. -/
def multiplyBits : (bits : Nat) → (x v sum : Nat) → Nat
  | 0, _, _, sum => sum
  | bits + 1, x, v, sum =>
    multiplyBits bits x (if v % 2 = 0 then v / 2 else (v / 2) ^^^ (0xE1 <<< 120))
      (if x.testBit bits then sum ^^^ v else sum)

/-- The product of two field elements. -/
def multiply (x y : Nat) : Nat := multiplyBits 128 x y 0

/-- The hash of `blocks` blocks of sixteen bytes, the last one filled up with zeros, after `sum`. -/
def hashBlocks (h : Nat) : (blocks : Nat) → Bytes → (sum : Nat) → Nat
  | 0, _, sum => sum
  | blocks + 1, text, sum =>
    let block := text.take 16 ++ List.replicate (16 - text.length) 0
    hashBlocks h blocks (text.drop 16) (multiply (sum ^^^ Bytes.toNatBE block) h)

/-- The authentication tag of a ciphertext. -/
def tag (keys : List Aes.Block) (iv ciphertext : Bytes) : Bytes :=
  let h := Bytes.toNatBE (Aes.encrypt keys (Aes.Block.ofBytes [])).toBytes
  let sum := hashBlocks h ((ciphertext.length + 15) / 16) ciphertext 0
  let sum := multiply (sum ^^^ (8 * ciphertext.length)) h
  Bytes.xor (counterBlock keys iv 1) (Bytes.ofNatBE 16 sum)

@[simp] theorem length_tag (keys : List Aes.Block) (iv ciphertext : Bytes) :
    (tag keys iv ciphertext).length = tagBytes := by
  simp [tag, counterBlock, tagBytes]

/-! ### Texts with their tags -/

/-- The ciphertext of a text, with its tag at the end. -/
def encrypt (keys : List Aes.Block) (iv text : Bytes) : Bytes :=
  crypt keys iv text ++ tag keys iv (crypt keys iv text)

/-- The text of a ciphertext with its tag at the end, if the tag is right. -/
def decrypt? (keys : List Aes.Block) (iv data : Bytes) : Option Bytes :=
  let size := data.length - tagBytes
  let ciphertext := data.take size
  if tagBytes ≤ data.length ∧ data.drop size = tag keys iv ciphertext then
    some (crypt keys iv ciphertext)
  else none

/-- What is encrypted can be decrypted. -/
theorem decrypt?_encrypt (keys : List Aes.Block) (iv text : Bytes) :
    decrypt? keys iv (encrypt keys iv text) = some text := by
  simp [decrypt?, encrypt, crypt_crypt]

end LoginGate.Gcm
