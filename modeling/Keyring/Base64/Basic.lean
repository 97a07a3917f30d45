import Keyring.Text.Digits
import Keyring.Text.Utf8

/-!
# Base64

Bytes as text: three bytes are four digits of six bits, and padding fills up the last four. The
strict reader takes one alphabet, complete quads and padding only at the end; bits left over in the
last digit are not looked at.
-/

namespace Keyring.Base64

inductive Alphabet where
  | standard
  | urlSafe
  deriving DecidableEq

abbrev Sextet := Fin 64

namespace Alphabet

def lastDigits : Alphabet → CodePoint × CodePoint
  | standard => ('+', '/')
  | urlSafe => ('-', '_')

def digit (alphabet : Alphabet) (s : Sextet) : CodePoint :=
  if s.val < 26 then .ofNat (0x41 + s.val)
  else if s.val < 52 then .ofNat (0x61 + (s.val - 26))
  else if s.val < 62 then .ofNat (0x30 + (s.val - 52))
  else if s.val = 62 then alphabet.lastDigits.1
  else alphabet.lastDigits.2

def value? (alphabet : Alphabet) (c : CodePoint) : Option Sextet :=
  if h : 0x41 ≤ c.val ∧ c.val ≤ 0x5a then some ⟨c.val - 0x41, by omega⟩
  else if h : 0x61 ≤ c.val ∧ c.val ≤ 0x7a then some ⟨c.val - 0x61 + 26, by omega⟩
  else if h : 0x30 ≤ c.val ∧ c.val ≤ 0x39 then some ⟨c.val - 0x30 + 52, by omega⟩
  else if c = alphabet.lastDigits.1 then some 62
  else if c = alphabet.lastDigits.2 then some 63
  else none

end Alphabet

def padding : CodePoint := '='

def high (a : UInt8) : Sextet :=
  ⟨a.toNat / 4, by have := a.toNat_lt; omega⟩

/-- The last two bits of a byte and the first four of the next. -/
def middle (a b : UInt8) : Sextet :=
  ⟨a.toNat % 4 * 16 + b.toNat / 16, by have := b.toNat_lt; omega⟩

def lower (b c : UInt8) : Sextet :=
  ⟨b.toNat % 16 * 4 + c.toNat / 64, by have := c.toNat_lt; omega⟩

def low (c : UInt8) : Sextet :=
  ⟨c.toNat % 64, by omega⟩

def encode (alphabet : Alphabet) : Bytes → Text
  | [] => []
  | [a] => [alphabet.digit (high a), alphabet.digit (middle a 0), padding, padding]
  | [a, b] =>
    [alphabet.digit (high a), alphabet.digit (middle a b), alphabet.digit (lower b 0), padding]
  | a :: b :: c :: rest =>
    alphabet.digit (high a) :: alphabet.digit (middle a b) :: alphabet.digit (lower b c) ::
      alphabet.digit (low c) :: encode alphabet rest

/-- The whole bytes in a run of sextets; bits that make no byte are dropped. -/
def bytesOf : List Sextet → Bytes
  | a :: b :: c :: d :: rest =>
    .ofNat (a.val * 4 + b.val / 16) :: .ofNat (b.val % 16 * 16 + c.val / 4) ::
      .ofNat (c.val % 4 * 64 + d.val) :: bytesOf rest
  | [a, b, c] => [.ofNat (a.val * 4 + b.val / 16), .ofNat (b.val % 16 * 16 + c.val / 4)]
  | [a, b] => [.ofNat (a.val * 4 + b.val / 16)]
  | _ => []

inductive Fault where
  | notAscii
  | leadingPadding
  | excessData
  | foreignCharacter
  | discontinuousPadding
  | loneDigit (count : Nat)
  | incorrectPadding
  deriving DecidableEq

def Fault.message : Fault → Text
  | notAscii => "string argument should contain only ASCII characters"
  | leadingPadding => "Leading padding not allowed"
  | excessData => "Excess data after padding"
  | foreignCharacter => "Only base64 data is allowed"
  | discontinuousPadding => "Discontinuous padding not allowed"
  | loneDigit count =>
    "Invalid base64-encoded string: number of data characters (" ++
      (Text.ofNat count ++ (") cannot be 1 more than a multiple of 4" : Text))
  | incorrectPadding => "Incorrect padding"

/-- The sextets of a text after `count` digits. Padding before the third digit of a quad means
nothing; `pads` counts it from there on, and the quad that it fills up is the last one. After any
padding there are no more digits. -/
def sextets (count pads : Nat) (padded : Bool) : Text → Except Fault (List Sextet)
  | [] =>
    if count % 4 = 0 then .ok []
    else if count % 4 = 1 then .error (.loneDigit count)
    else .error .incorrectPadding
  | c :: rest =>
    if c = padding then
      if 2 ≤ count % 4 then
        if 4 ≤ count % 4 + (pads + 1) then
          if rest.isEmpty then .ok [] else .error .excessData
        else sextets count (pads + 1) true rest
      else sextets count pads true rest
    else
      match Alphabet.standard.value? c with
      | none => .error .foreignCharacter
      | some s =>
        if padded then .error .discontinuousPadding
        else
          match sextets (count + 1) 0 false rest with
          | .ok others => .ok (s :: others)
          | .error fault => .error fault

def decodeStrict (t : Text) : Except Fault Bytes :=
  if !t.all CodePoint.isAscii then .error .notAscii
  else if t.head? = some padding then .error .leadingPadding
  else
    match sextets 0 0 false t with
    | .ok digits => .ok (bytesOf digits)
    | .error fault => .error fault

end Keyring.Base64
