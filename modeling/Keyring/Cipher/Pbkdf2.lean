import Keyring.Cipher.Sha256

/-!
# Keys from passwords

PBKDF2 with HMAC-SHA-256: a password is hashed with a salt many times over, so that guessing is
slow.
-/

namespace Keyring.Cipher

/-- The keyed hash of a message. A key longer than a block is hashed first. -/
def hmac (key message : Bytes) : Bytes :=
  let short := if 64 < key.length then Sha256.digest key else key
  let block := short ++ List.replicate (64 - short.length) 0
  let inner := Sha256.digest (block.map (· ^^^ 0x36) ++ message)
  Sha256.digest (block.map (· ^^^ 0x5c) ++ inner)

namespace Pbkdf2

def iterate (password : Bytes) : Nat → Bytes → Bytes → Bytes
  | 0, _, sum => sum
  | count + 1, last, sum =>
    let next := hmac password last
    iterate password count next (sum.xor next)

def block (password salt : Bytes) (iterations index : Nat) : Bytes :=
  let first := hmac password (salt ++ Bytes.ofNat 4 index)
  iterate password (iterations - 1) first first

def derive (password salt : Bytes) (iterations size : Nat) : Bytes :=
  ((List.range ((size + 31) / 32)).flatMap
    fun i => block password salt iterations (i + 1)).take size

end Pbkdf2

end Keyring.Cipher
