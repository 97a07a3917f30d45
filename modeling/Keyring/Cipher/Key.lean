import Keyring.Base64.Basic
import Keyring.Cipher.Pbkdf2

/-!
# Keys

A master key is thirty-two bytes. It is stored as base64, drawn at random, or derived from a
password.
-/

namespace Keyring.Cipher

def keySize : Nat := 32

inductive KeyFault where
  | notConfigured
  | notBase64 (fault : Base64.Fault)
  | wrongSize (size : Nat)
  | wrongCipherKey (size : Nat)
  deriving DecidableEq

def KeyFault.message : KeyFault → Text
  | notConfigured => "ENCRYPTION_KEY is not configured. Set it in environment variables."
  | notBase64 fault => "Invalid key string: " ++ fault.message
  | wrongSize size => "Key must be 32 bytes, got " ++ Text.ofNat size
  | wrongCipherKey size => "Encryption key must be 32 bytes, got " ++ Text.ofNat size

namespace Key

def toText (key : Bytes) : Text :=
  Base64.encode .standard key

def ofText (t : Text) : Except KeyFault Bytes :=
  match Base64.decodeStrict t with
  | .error fault => .error (.notBase64 fault)
  | .ok key => if key.length = keySize then .ok key else .error (.wrongSize key.length)

def generate (random : Random) : Bytes × Random :=
  random.next keySize

structure Derivation where
  password : Bytes
  salt : Bytes
  iterations : Nat
  size : Nat
  deriving DecidableEq

def iterations : Nat := 600000

/-- The derivation of a key from a password and a salt, a random one if none is given. A password
with half of a surrogate pair has no bytes. -/
def derivation? (password : Text) (salt : Option Bytes) (random : Random) : Option Derivation :=
  match password.utf8? with
  | none => none
  | some bytes => some ⟨bytes, salt.getD (random.next 16).1, iterations, keySize⟩

def derive (d : Derivation) : Bytes :=
  Pbkdf2.derive d.password d.salt d.iterations d.size

end Key

end Keyring.Cipher
