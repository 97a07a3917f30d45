import Keyring.Secret.Codec

/-!
# Secret bytes

A secret that is kept sealed. Two of them are equal when their sealed bytes are.
-/

namespace Keyring

open Secret

structure SecretBytes where
  sealed : Bytes
  codec : Codec

namespace SecretBytes

def ofPlain (codec : Codec) (plaintext : Bytes) (random : Random) : SecretBytes × Random :=
  let drawn := codec.encrypt plaintext random
  (⟨drawn.1, codec⟩, drawn.2)

/-- Bytes that the codec opens are kept as they are; all others, and none at all, are sealed. -/
def ofBytes (codec : Codec) (data : Option Bytes) (random : Random) :
    Traced Secret.Observation (Except DecodeFault SecretBytes × Random) :=
  let bytes := data.getD []
  if bytes.isEmpty then
    let drawn := ofPlain codec [] random
    return (.ok drawn.1, drawn.2)
  else do
    match ← codec.tryDecrypt bytes with
    | .error fault => return (.error fault, random)
    | .ok (some _) => return (.ok ⟨bytes, codec⟩, random)
    | .ok none =>
      let drawn := ofPlain codec bytes random
      return (.ok drawn.1, drawn.2)

/-- The secret of stored text. An envelope that opens keeps its sealed bytes, and the secret of
legacy text is sealed. -/
def ofText (codec : Codec) (stored : Option Text) (random : Random) :
    Traced Secret.Observation (Except DecodeFault SecretBytes × Random) :=
  match codec.unwrap stored with
  | some message => do
    match ← codec.decrypt message with
    | .error fault => return (.error fault, random)
    | .ok _ => return (.ok ⟨message, codec⟩, random)
  | none => do
    match ← codec.decodeEnvelope stored with
    | .error fault => return (.error fault, random)
    | .ok plaintext =>
      let drawn := ofPlain codec plaintext random
      return (.ok drawn.1, drawn.2)

def plain (s : SecretBytes) : Traced Secret.Observation (Except DecodeFault Bytes) :=
  s.codec.decrypt s.sealed

def toText (s : SecretBytes) : Text :=
  s.codec.wrap s.sealed

def shown (s : SecretBytes) : Text :=
  "SecretBytes(<" ++ (Text.ofNat s.sealed.length ++ (" encrypted bytes>)" : Text))

instance : BEq SecretBytes := ⟨fun a b => a.sealed == b.sealed⟩

def key (s : SecretBytes) : UInt64 :=
  hash s.sealed

def plainOf : Option SecretBytes → Traced Secret.Observation (Except DecodeFault Bytes)
  | some s => s.plain
  | none => return .ok []

def toTextOf : Option SecretBytes → Text
  | some s => s.toText
  | none => []

end SecretBytes

end Keyring
