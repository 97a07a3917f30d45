import Keyring.Log.Event
import Keyring.Secret.Envelope
import Keyring.Secret.Service
import Keyring.Trace

/-!
# The secret codec

Secrets are written as envelopes and read from envelopes or from legacy text, which is base64 of the
plain bytes in any form, or the secret itself. Text in braces is never legacy text: damage is an
error and not a plaintext.
-/

namespace Keyring.Secret

structure Codec where
  service : Service
  minimum : Nat

inductive Observation where
  /-- The service is asked to open a message. -/
  | opening (message : Bytes)
  | event (event : Log.Event)
  deriving DecidableEq

def Observation.event? : Observation → Option Log.Event
  | event e => some e
  | opening _ => none

inductive DecodeFault where
  | unopened
  /-- Text in braces is no envelope. -/
  | malformed
  | noText
  /-- Legacy text has no bytes. -/
  | unencodable
  | service (fault : ServiceFault)
  deriving DecidableEq

/-- The sentence that reports it; text without bytes is reported without one. -/
def DecodeFault.message : DecodeFault → Text
  | unopened =>
    "Secret could not be decrypted; it is corrupted or was encrypted under a different master key"
  | malformed => "Secret envelope is malformed or truncated"
  | noText => "object of type 'NoneType' has no len()"
  | unencodable => []
  | service fault => fault.message

/-- The event of a message that the service does not open. -/
def unopenedEvent (size : Nat) (fault : ServiceFault) : Log.Event :=
  ⟨"secret_decode_failed", .warning,
    [("reason", .text "decryption_failed"), ("ciphertext_length", .int size),
      ("error_type", .text fault.name)]⟩

def malformedEvent (length : Nat) : Log.Event :=
  ⟨"secret_decode_failed", .warning,
    [("reason", .text "malformed_envelope"), ("text_length", .int length)]⟩

def plaintextEvent (length : Nat) : Log.Event :=
  ⟨"secret_legacy_plaintext", .debug, [("text_length", .int length)]⟩

namespace Codec

def ofEncryptor (e : Cipher.Encryptor) : Codec :=
  ⟨.ofEncryptor e, standardMinimum⟩

def shown (codec : Codec) : Text :=
  "SecretCodec(service=" ++ (codec.service.shown ++ (")" : Text))

def encrypt (codec : Codec) (plaintext : Bytes) (random : Random) : Bytes × Random :=
  codec.service.encrypt plaintext random

def decrypt (codec : Codec) (message : Bytes) : Traced Observation (Except DecodeFault Bytes) := do
  Traced.observe (.opening message)
  match codec.service.decrypt message with
  | .ok plaintext => return .ok plaintext
  | .error fault =>
    if fault.isAboutMessage then
      Traced.observe (.event (unopenedEvent message.length fault))
      return .error .unopened
    else return .error (.service fault)

def tryDecrypt (codec : Codec) (message : Bytes) :
    Traced Observation (Except DecodeFault (Option Bytes)) := do
  Traced.observe (.opening message)
  match codec.service.decrypt message with
  | .ok plaintext => return .ok (some plaintext)
  | .error fault =>
    if fault.isAboutMessage then return .ok none else return .error (.service fault)

def wrap (_ : Codec) (sealed : Bytes) : Text :=
  wrapEnvelope sealed

def unwrap (codec : Codec) : Option Text → Option Bytes
  | some t => unwrapEnvelope codec.minimum t
  | none => none

def isEnvelope (codec : Codec) (t : Option Text) : Bool :=
  (codec.unwrap t).isSome

def encodeBytes (codec : Codec) (plaintext : Bytes) (random : Random) : Text × Random :=
  let drawn := codec.encrypt plaintext random
  (codec.wrap drawn.1, drawn.2)

def decodeLegacy : Option Text → Traced Observation (Except DecodeFault Bytes)
  | none => return .error .noText
  | some t =>
    match Base64.decode t with
    | some bytes => return .ok bytes
    | none => do
      Traced.observe (.event (plaintextEvent t.length))
      match t.utf8? with
      | some bytes => return .ok bytes
      | none => return .error .unencodable

def decodeText (codec : Codec) (t : Text) : Traced Observation (Except DecodeFault Bytes) :=
  match codec.unwrap (some t) with
  | some message => codec.decrypt message
  | none =>
    if isBraced t then do
      Traced.observe (.event (malformedEvent t.length))
      return .error .malformed
    else decodeLegacy (some t)

/-- The secret of stored text. No text, and empty text, is the empty secret. -/
def decodeEnvelope (codec : Codec) (stored : Option Text) :
    Traced Observation (Except DecodeFault Bytes) :=
  match stored with
  | none => return .ok []
  | some t => if t.isEmpty then return .ok [] else codec.decodeText t

end Codec

end Keyring.Secret
