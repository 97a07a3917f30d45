import Keyring.Cipher.Encryptor

/-!
# Confidentiality services

What seals and opens secrets under a key that its user never sees. A service may refuse a message it
did not seal, or fail in another way.
-/

namespace Keyring.Secret

inductive ServiceFault where
  /-- It did not seal the message. -/
  | refused (message : Text)
  /-- The message is no value for it. -/
  | invalid (message : Text)
  | broken (message : Text)
  deriving DecidableEq

namespace ServiceFault

def name : ServiceFault → Text
  | refused _ => "DecryptionError"
  | invalid _ => "ValueError"
  | broken _ => "RuntimeError"

def message : ServiceFault → Text
  | refused m => m
  | invalid m => m
  | broken m => m

def isAboutMessage : ServiceFault → Bool
  | broken _ => false
  | _ => true

end ServiceFault

/-- A service. Sealing may draw on random bytes. -/
structure Service where
  shown : Text
  encrypt : Bytes → Random → Bytes × Random
  decrypt : Bytes → Except ServiceFault Bytes

def Service.ofEncryptor (e : Cipher.Encryptor) : Service where
  shown := Cipher.Encryptor.shown
  encrypt plaintext random := e.encrypt none plaintext random
  decrypt message :=
    match e.decrypt none message with
    | .ok plaintext => .ok plaintext
    | .error fault => .error (.refused fault.message)

end Keyring.Secret
