import Keyring.Base64.Form
import Keyring.Cipher.Encryptor

/-!
# Envelopes

Stored secrets are base64 of sealed bytes between braces. Whether a text is an envelope is a matter
of shape alone: braces, a body in one of the forms of base64, and enough bytes for the service to
have sealed them.
-/

namespace Keyring.Secret

def openBrace : CodePoint := '\x7b'

def closeBrace : CodePoint := '\x7d'

def isBodyChar (c : CodePoint) : Bool :=
  (Base64.Alphabet.standard.value? c).isSome || (Base64.Alphabet.urlSafe.value? c).isSome ||
    c == Base64.padding || c == '\r' || c == '\n'

/-- Whether a text stands in braces, an envelope or not. Legacy values never do. -/
def isBraced (t : Text) : Bool :=
  2 ≤ t.length && t.head? == some openBrace && t.getLast? == some closeBrace

def body (t : Text) : Text :=
  (t.drop 1).dropLast

def standardMinimum : Nat := Cipher.overhead

def unwrapEnvelope (minimum : Nat) (t : Text) : Option Bytes :=
  if 3 ≤ t.length && isBraced t && (body t).all isBodyChar then
    match Base64.decode (body t) with
    | some payload => if payload.length < minimum then none else some payload
    | none => none
  else none

def isEnvelope (minimum : Nat) (t : Text) : Bool :=
  (unwrapEnvelope minimum t).isSome

def wrapEnvelope (sealed : Bytes) : Text :=
  openBrace :: (Base64.encode .standard sealed ++ [closeBrace])

end Keyring.Secret
