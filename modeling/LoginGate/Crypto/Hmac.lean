import LoginGate.Crypto.Sha2

/-!
# Message authentication by a hash

## Main definitions

* `Hmac.code` : the code of a message under a key.
* `Hmac.sha256`, `Hmac.sha384`, `Hmac.sha512` : with the hashes in use.
-/

namespace LoginGate.Hmac

/-- A key of exactly one block: longer ones are hashed, shorter ones filled up with zeros. -/
def blockKey (hash : Bytes → Bytes) (blockBytes : Nat) (key : Bytes) : Bytes :=
  let key := if blockBytes < key.length then hash key else key
  key ++ List.replicate (blockBytes - key.length) 0

/-- The authentication code of a message under a key, for a hash that works on blocks. -/
def code (hash : Bytes → Bytes) (blockBytes : Nat) (key message : Bytes) : Bytes :=
  let key := blockKey hash blockBytes key
  hash (key.map (· ^^^ 0x5C) ++ hash (key.map (· ^^^ 0x36) ++ message))

def sha256 : (key message : Bytes) → Bytes := code Sha2.sha256 64

def sha384 : (key message : Bytes) → Bytes := code Sha2.sha384 128

def sha512 : (key message : Bytes) → Bytes := code Sha2.sha512 128

end LoginGate.Hmac
