import Keyring.Secret.Redaction
import Keyring.Secret.SecretBytes
import Keyring.Validation

/-!
# Sessions

What a process keeps between calls: its environment, the settings once they are loaded, the
encryptor and the codec once they are made, and its source of random bytes. Each is made at its
first use and kept until it is reset; what could not be made is not kept.
-/

namespace Keyring

structure Held where
  encryptor : Cipher.Encryptor
  serial : Nat

/-- A codec, and the number of the encryptor of the session that it was made on, if it was. -/
structure HeldCodec where
  codec : Secret.Codec
  serial : Option Nat

structure Session where
  environment : Environment
  settings : Option Settings
  encryptor : Option Held
  codec : Option HeldCodec
  made : Nat
  random : Random

inductive SessionFault where
  | settings (faults : List (SettingName × SettingFault))
  | key (fault : Cipher.KeyFault)
  | secret (fault : Secret.DecodeFault)
  | width (width : Int)

namespace Session

def start (random : Random) : Session := ⟨[], none, none, none, 0, random⟩

def changeEnvironment (s : Session) :
    List (Text × Datum) → Except Environment.Refusal Unit × Session
  | [] => (.ok (), s)
  | change :: rest =>
    match s.environment.change change.1 change.2 with
    | .ok environment => { s with environment }.changeEnvironment rest
    | .error refusal => (.error refusal, s)

def clearSettings (s : Session) : Session := { s with settings := none }

def resetEncryptor (s : Session) : Session := { s with encryptor := none }

/-- Puts a codec in place of the one in use; with none, the next use makes one. -/
def setCodec (s : Session) (codec : Option Secret.Codec) : Session :=
  { s with codec := codec.map fun c => ⟨c, none⟩ }

def resetCodec (s : Session) : Session := s.setCodec none

def getSettings (s : Session) : Except SessionFault Settings × Session :=
  match s.settings with
  | some settings => (.ok settings, s)
  | none =>
    match Settings.load s.environment [] with
    | .ok settings => (.ok settings, { s with settings := some settings })
    | .error faults => (.error (.settings faults), s)

def encryptorOf (settings : Settings) : Except Cipher.KeyFault Cipher.Encryptor :=
  match settings.encryptionKey with
  | none => .error .notConfigured
  | some text =>
    match Cipher.Key.ofText text with
    | .ok key => Cipher.Encryptor.ofKey key
    | .error fault => .error fault

/-- The encryptor, made at the first use from the settings of that time. -/
def getEncryptor (s : Session) : Except SessionFault Held × Session :=
  match s.encryptor with
  | some held => (.ok held, s)
  | none =>
    match s.getSettings with
    | (.error fault, s) => (.error fault, s)
    | (.ok settings, s) =>
      match encryptorOf settings with
      | .error fault => (.error (.key fault), s)
      | .ok encryptor =>
        let held : Held := ⟨encryptor, s.made⟩
        (.ok held, { s with encryptor := some held, made := s.made + 1 })

/-- The codec, made at the first use on the encryptor of that time. -/
def getCodec (s : Session) : Except SessionFault HeldCodec × Session :=
  match s.codec with
  | some held => (.ok held, s)
  | none =>
    match s.getEncryptor with
    | (.error fault, s) => (.error fault, s)
    | (.ok encryptor, s) =>
      let held : HeldCodec := ⟨.ofEncryptor encryptor.encryptor, some encryptor.serial⟩
      (.ok held, { s with codec := some held })

def sharesEncryptor (s : Session) (held : HeldCodec) : Bool :=
  match held.serial, s.encryptor with
  | some serial, some encryptor => serial == encryptor.serial
  | _, _ => false

def encodeSecret (s : Session) (plaintext : Bytes) : Except SessionFault Text × Session :=
  match s.getCodec with
  | (.error fault, s) => (.error fault, s)
  | (.ok held, s) =>
    let drawn := held.codec.encodeBytes plaintext s.random
    (.ok drawn.1, { s with random := drawn.2 })

def ofDecoded {α : Type} : Except Secret.DecodeFault α → Except SessionFault α
  | .ok a => .ok a
  | .error fault => .error (.secret fault)

/-- The secret of stored text under the codec in use. Empty text needs none. -/
def decodeSecret (s : Session) (stored : Option Text) :
    Traced Secret.Observation (Except SessionFault Bytes × Session) :=
  if (stored.getD []).isEmpty then return (.ok [], s)
  else
    match s.getCodec with
    | (.error fault, s) => return (.error fault, s)
    | (.ok held, s) => do
      let decoded ← held.codec.decodeEnvelope stored
      return (ofDecoded decoded, s)

def looksEncoded (stored : Option Text) : Bool :=
  match stored with
  | some t => Secret.isEnvelope Secret.standardMinimum t
  | none => false

def withCodec (s : Session)
    (make : Secret.Codec → Random →
      Traced Secret.Observation (Except Secret.DecodeFault SecretBytes × Random)) :
    Traced Secret.Observation (Except SessionFault SecretBytes × Session) :=
  match s.getCodec with
  | (.error fault, s) => return (.error fault, s)
  | (.ok held, s) => do
    let (made, random) ← make held.codec s.random
    return (ofDecoded made, { s with random })

def secretOfBytes (s : Session) (data : Option Bytes) :
    Traced Secret.Observation (Except SessionFault SecretBytes × Session) :=
  s.withCodec fun codec random => SecretBytes.ofBytes codec data random

def secretOfText (s : Session) (stored : Option Text) :
    Traced Secret.Observation (Except SessionFault SecretBytes × Session) :=
  s.withCodec fun codec random => SecretBytes.ofText codec stored random

def secretOfSealed (s : Session) (sealed : Bytes) :
    Traced Secret.Observation (Except SessionFault SecretBytes × Session) :=
  s.withCodec fun codec random => return (.ok ⟨sealed, codec⟩, random)

/-- A document without its secrets, by the shape of envelopes alone. -/
def redact (document : Text) : Traced Log.Event Text :=
  Secret.redactDocument none document

def encodeBase64 (s : Session) (form : Base64.Form) (width : Option Int) (data : Bytes) :
    Except SessionFault Text × Session :=
  if !form.chunked then (.ok (Base64.encode form.alphabet data), s)
  else
    let withWidth (width : Int) : Except SessionFault Text :=
      match Base64.encodeLines form.alphabet width data with
      | .ok text => .ok text
      | .error width => .error (.width width)
    match width with
    | some width => (withWidth width, s)
    | none =>
      match s.getSettings with
      | (.error fault, s) => (.error fault, s)
      | (.ok settings, s) => (withWidth settings.chunkWidth, s)

def addEnvironment (s : Session) (fields : Log.Fields) :
    Except SessionFault Log.Fields × Session :=
  match s.getSettings with
  | (.error fault, s) => (.error fault, s)
  | (.ok settings, s) => (.ok (fields.set "environment" (.text settings.environment.name)), s)

end Session

end Keyring
