import Keyring.Bytes
import Keyring.Text.Digits

/-!
# Bytes in base sixteen

Two digits stand for a byte, the high half first. Blanks may stand between bytes.
-/

namespace Keyring

namespace Bytes

def toHex (b : Bytes) : Text :=
  b.flatMap fun x => Text.hexFixed 2 x.toNat

def isGap (c : CodePoint) : Bool :=
  c.val = 0x20 || (0x09 ≤ c.val && c.val ≤ 0x0d)

def readHex (position : Nat) : Text → Except Nat Bytes
  | [] => .ok []
  | c :: rest =>
    if isGap c then readHex (position + 1) rest
    else
      match c.hexDigit?, rest with
      | none, _ => .error position
      | some _, [] => .error (position + 1)
      | some high, d :: rest =>
        match d.hexDigit? with
        | none => .error (position + 1)
        | some low => (readHex (position + 2) rest).map (UInt8.ofNat (high * 16 + low) :: ·)

def ofHex? (t : Text) : Except Nat Bytes :=
  match t.findIdx? fun c => !c.isAscii with
  | some position => .error position
  | none => readHex 0 t

def misreadMessage (position : Nat) : Text :=
  "non-hexadecimal number found in fromhex() arg at position " ++ Text.ofNat position

end Bytes

end Keyring
