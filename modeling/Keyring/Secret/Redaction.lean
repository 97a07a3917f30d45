import Keyring.Secret.Codec

/-!
# Redaction

In a document of elements, an element whose whole text is an envelope is shown with a mask in place
of the envelope. All else stays as it is.
-/

namespace Keyring.Secret

def redactedMask : Text := "********"

def elementStart : CodePoint := '>'

def elementEnd : CodePoint := '<'

def bracedElement? (t : Text) : Option Text :=
  match t with
  | [] => none
  | c :: rest =>
    let inner := rest.takeWhile isBodyChar
    if c = openBrace && !inner.isEmpty &&
        (rest.drop inner.length).take 2 == [closeBrace, elementEnd] then
      some (openBrace :: (inner ++ [closeBrace]))
    else none

/-- A document with the text of each element that `isSecret` accepts under a mask, and the number of
masks. Texts in braces are looked at from left to right and never overlap. -/
def redactWith (isSecret : Text → Bool) (t : Text) : Text × Nat :=
  match t with
  | [] => ([], 0)
  | c :: rest =>
    match if c = elementStart then bracedElement? rest else none with
    | some braced =>
      let others := redactWith isSecret (rest.drop (braced.length + 1))
      if isSecret braced then
        (elementStart :: (redactedMask ++ elementEnd :: others.1), others.2 + 1)
      else (elementStart :: (braced ++ elementEnd :: others.1), others.2)
    | none =>
      let others := redactWith isSecret rest
      (c :: others.1, others.2)
termination_by t.length
decreasing_by
  · simp only [List.length_drop, List.length_cons]
    omega
  · simp only [List.length_cons]
    omega

def redactedEvent (count : Nat) : Log.Event :=
  ⟨"secrets_redacted", .debug, [("count", .int count)]⟩

def redact (isSecret : Text → Bool) (document : Text) : Traced Log.Event Text :=
  let redacted := redactWith isSecret document
  ⟨redacted.1, if redacted.2 = 0 then [] else [redactedEvent redacted.2]⟩

/-- Whether a text has the shape of an envelope: of a codec, or of the standard service. -/
def envelopeCheck : Option Codec → Text → Bool
  | some codec, t => codec.isEnvelope (some t)
  | none, t => isEnvelope standardMinimum t

def redactDocument (codec : Option Codec) (document : Text) : Traced Log.Event Text :=
  redact (envelopeCheck codec) document

end Keyring.Secret
