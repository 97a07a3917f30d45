import Keyring.Cipher.Aes
import Keyring.Cipher.Gcm
import Keyring.Cipher.Key

/-!
# The encryptor

Authenticated encryption under a master key. A sealed message is a random nonce, the ciphertext and
its tag; opening it needs the same key and the same associated data. No associated data is the same
as empty data.
-/

namespace Keyring.Cipher

def nonceSize : Nat := 12

/-- How much longer a sealed message is than its text. -/
def overhead : Nat := nonceSize + Gcm.tagSize

structure Encryptor where
  key : Bytes
  key_length : key.length = keySize
  deriving DecidableEq

inductive OpenFault where
  | tooShort
  | notAuthentic
  deriving DecidableEq

def OpenFault.message : OpenFault → Text
  | tooShort => "Ciphertext too short"
  | notAuthentic => "Decryption failed: authentication check failed"

namespace Encryptor

def shown : Text := "Encryptor(algorithm='AES-256-GCM')"

def ofKey (key : Bytes) : Except KeyFault Encryptor :=
  if h : key.length = keySize then .ok ⟨key, h⟩ else .error (.wrongCipherKey key.length)

def cipher (e : Encryptor) : Bytes → Bytes :=
  let keys := Aes.roundKeys e.key
  Aes.encryptBlock keys

def sealWith (e : Encryptor) (nonce associated plaintext : Bytes) : Bytes :=
  nonce ++ Gcm.encrypt e.cipher nonce associated plaintext

def encrypt (e : Encryptor) (associated : Option Bytes) (plaintext : Bytes) (random : Random) :
    Bytes × Random :=
  let drawn := random.next nonceSize
  (e.sealWith drawn.1 (associated.getD []) plaintext, drawn.2)

def decrypt (e : Encryptor) (associated : Option Bytes) (message : Bytes) :
    Except OpenFault Bytes :=
  if message.length < overhead then .error .tooShort
  else
    match Gcm.decrypt? e.cipher (message.take nonceSize) (associated.getD [])
        (message.drop nonceSize) with
    | some plaintext => .ok plaintext
    | none => .error .notAuthentic

end Encryptor

end Keyring.Cipher
