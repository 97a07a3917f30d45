import Keyring.Base64.Basic

/-!
# Forms of base64 text

Stored text may be in either alphabet, on one line or broken into lines. Reading tries the forms in
a fixed order, in which new forms come last; writing uses one form that the caller chooses.
-/

namespace Keyring.Base64

/-- Digits of one alphabet, and after them at most two marks of padding. -/
def isShaped (alphabet : Alphabet) (t : Text) : Bool :=
  let rest := t.dropWhile fun c => (alphabet.value? c).isSome
  rest.length ≤ 2 && rest.all (· == padding)

def standardDigit (c : CodePoint) : CodePoint :=
  if c = '-' then '+' else if c = '_' then '/' else c

def toStandard (t : Text) : Text :=
  t.map standardDigit

def decode? (t : Text) : Option Bytes :=
  match decodeStrict t with
  | .ok bytes => some bytes
  | .error _ => none

/-- The bytes of one line. In the URL-safe alphabet padding may be missing. -/
def decodeLine (alphabet : Alphabet) (t : Text) : Option Bytes :=
  match alphabet with
  | .standard => if t.length % 4 = 0 && isShaped .standard t then decode? t else none
  | .urlSafe =>
    if t.length % 4 ≠ 1 && isShaped .urlSafe t then
      decode? (toStandard t ++ List.replicate ((4 - t.length % 4) % 4) padding)
    else none

def hasBreak (t : Text) : Bool :=
  t.any (· == CodePoint.ofChar '\n')

def removeBreaks : Text → Text
  | [] => []
  | c :: rest =>
    if c = '\n' || (c = '\r' && rest.head? = some (CodePoint.ofChar '\n')) then removeBreaks rest
    else c :: removeBreaks rest

/-- One way to write bytes as text. -/
structure Form where
  alphabet : Alphabet
  chunked : Bool
  deriving DecidableEq

namespace Form

def standard : Form := ⟨.standard, false⟩

def lines : Form := ⟨.standard, true⟩

def urlSafe : Form := ⟨.urlSafe, false⟩

def urlSafeLines : Form := ⟨.urlSafe, true⟩

def all : List Form := [standard, lines, urlSafe, urlSafeLines]

def name (form : Form) : Text :=
  match form.alphabet, form.chunked with
  | .standard, false => "standard"
  | .standard, true => "chunked"
  | .urlSafe, false => "url_safe"
  | .urlSafe, true => "chunked_url_safe"

/-- The bytes of a text in a form. A text in lines has a break and something besides. -/
def decode (form : Form) (t : Text) : Option Bytes :=
  if form.chunked then
    if hasBreak t && !(removeBreaks t).isEmpty then decodeLine form.alphabet (removeBreaks t)
    else none
  else decodeLine form.alphabet t

end Form

def detectAmong (forms : List Form) (t : Text) : Option (Form × Bytes) :=
  forms.findSome? fun form => (form.decode t).map fun bytes => (form, bytes)

def detect (t : Text) : Option (Form × Bytes) :=
  detectAmong Form.all t

def decode (t : Text) : Option Bytes :=
  (detect t).map (·.2)

def noFormMessage : Text := "Text is not valid base64 in any supported form"

/-- A text cut into lines of the given width; the last line may be shorter. -/
def cut (width : Nat) (t : Text) : List Text :=
  if t = [] ∨ width = 0 then []
  else t.take width :: cut width (t.drop width)
termination_by t.length
decreasing_by
  rename_i h
  rw [not_or] at h
  have := List.length_pos_iff.mpr h.1
  rw [List.length_drop]
  omega

def lineSeparator : Text := "\r\n"

def encodeLines (alphabet : Alphabet) (width : Int) (b : Bytes) : Except Int Text :=
  if width ≤ 0 then .error width
  else .ok (Text.join lineSeparator (cut width.toNat (encode alphabet b)))

def widthMessage (width : Int) : Text :=
  "Chunk width must be positive, got " ++ Text.ofInt width

end Keyring.Base64
