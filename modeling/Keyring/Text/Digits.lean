import Keyring.Text.CodePoint

/-!
# Numerals

Digits of a number in a base up to sixteen, most significant first, and the number that a run of
decimal digits stands for.
-/

namespace Keyring

namespace Text

def digitOf (n : Nat) : CodePoint :=
  if n < 10 then CodePoint.ofNat (0x30 + n) else CodePoint.ofNat (0x61 + (n - 10))

def hexFixed : Nat → Nat → Text
  | 0, _ => []
  | width + 1, n => hexFixed width (n / 16) ++ [digitOf (n % 16)]

def ofNat (n : Nat) : Text :=
  if n < 10 then [digitOf n] else ofNat (n / 10) ++ [digitOf (n % 10)]

def ofInt (n : Int) : Text :=
  if n < 0 then '-' :: ofNat n.natAbs else ofNat n.natAbs

def toNat (digits : Text) : Nat :=
  digits.foldl (fun n c => 10 * n + (c.digit?.getD 0)) 0

/-- The zeros beyond ASCII. In Unicode 14 the other nine digits of a script follow its zero. -/
def zerosBeyondAscii : List Nat :=
  [0x660, 0x6f0, 0x7c0, 0x966, 0x9e6, 0xa66, 0xae6, 0xb66, 0xbe6, 0xc66, 0xce6, 0xd66, 0xde6,
   0xe50, 0xed0, 0xf20, 0x1040, 0x1090, 0x17e0, 0x1810, 0x1946, 0x19d0, 0x1a80, 0x1a90, 0x1b50,
   0x1bb0, 0x1c40, 0x1c50, 0xa620, 0xa8d0, 0xa900, 0xa9d0, 0xa9f0, 0xaa50, 0xabf0, 0xff10,
   0x104a0, 0x10d30, 0x11066, 0x110f0, 0x11136, 0x111d0, 0x112f0, 0x11450, 0x114d0, 0x11650,
   0x116c0, 0x11730, 0x118e0, 0x11950, 0x11c50, 0x11d50, 0x11da0, 0x16a60, 0x16ac0, 0x16b50,
   0x1d7ce, 0x1d7d8, 0x1d7e2, 0x1d7ec, 0x1d7f6, 0x1e140, 0x1e2f0, 0x1e950, 0x1fbf0]

def asciiDigit (c : CodePoint) : CodePoint :=
  match zerosBeyondAscii.find? fun start => start ≤ c.val && c.val < start + 10 with
  | some start => digitOf (c.val - start)
  | none => c

/-- A text without the underscores that group its digits. Each must stand between two digits. -/
def ungroup (afterDigit : Bool) : Text → Option Text
  | [] => some []
  | c :: rest =>
    if c = '_' then
      if afterDigit && rest.head?.any CodePoint.isDigit then ungroup false rest else none
    else (ungroup c.isDigit rest).map (c :: ·)

def hex4? (a b c d : CodePoint) : Option Nat :=
  match a.hexDigit?, b.hexDigit?, c.hexDigit?, d.hexDigit? with
  | some a, some b, some c, some d => some (((a * 16 + b) * 16 + c) * 16 + d)
  | _, _, _, _ => none

end Text

end Keyring
