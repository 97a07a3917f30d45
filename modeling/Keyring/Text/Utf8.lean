import Keyring.Bytes
import Keyring.Text.CodePoint

/-!
# UTF-8

The bytes of a text, and the text of bytes. A surrogate has no bytes in UTF-8. Where any bytes must
be shown as text, those that are not UTF-8 are escaped: 128 of the surrogates stand for single bytes
from 0x80 on.
-/

namespace Keyring

def CodePoint.utf8? (c : CodePoint) : Option Bytes :=
  if c.val < 0x80 then some [.ofNat c.val]
  else if c.val < 0x800 then some [.ofNat (0xc0 + c.val / 64), .ofNat (0x80 + c.val % 64)]
  else if c.isSurrogate then none
  else if c.val < 0x10000 then
    some [.ofNat (0xe0 + c.val / 4096), .ofNat (0x80 + c.val / 64 % 64),
      .ofNat (0x80 + c.val % 64)]
  else
    some [.ofNat (0xf0 + c.val / 262144), .ofNat (0x80 + c.val / 4096 % 64),
      .ofNat (0x80 + c.val / 64 % 64), .ofNat (0x80 + c.val % 64)]

def Text.utf8? : Text → Option Bytes
  | [] => some []
  | c :: rest =>
    match c.utf8?, utf8? rest with
    | some front, some back => some (front ++ back)
    | _, _ => none

def CodePoint.escapedByte? (c : CodePoint) : Option UInt8 :=
  if 0xdc80 ≤ c.val && c.val ≤ 0xdcff then some (.ofNat (c.val - 0xdc00)) else none

def CodePoint.escapeOf (b : UInt8) : CodePoint :=
  .ofNat (0xdc00 + b.toNat)

/-- The bytes of a text with escapes, unless it holds another surrogate. -/
def Text.escapedUtf8? : Text → Option Bytes
  | [] => some []
  | c :: rest =>
    match c.escapedByte?, c.utf8?, escapedUtf8? rest with
    | some b, _, some back => some (b :: back)
    | none, some front, some back => some (front ++ back)
    | _, _, _ => none

namespace Bytes

/-- What the first byte of a code point tells: the number of bytes after it, the part of the value
that it holds, and the least value for which so many bytes are needed. -/
def leading? (b : UInt8) : Option (Nat × Nat × Nat) :=
  let n := b.toNat
  if n < 0x80 then some (0, n, 0)
  else if n < 0xc0 then none
  else if n < 0xe0 then some (1, n - 0xc0, 0x80)
  else if n < 0xf0 then some (2, n - 0xe0, 0x800)
  else if n < 0xf8 then some (3, n - 0xf0, 0x10000)
  else none

def isContinuation (b : UInt8) : Bool :=
  0x80 ≤ b.toNat && b.toNat < 0xc0

def codePoint? (first : UInt8) (rest : Bytes) : Option (CodePoint × Nat) :=
  match leading? first with
  | none => none
  | some (count, high, least) =>
    let others := rest.take count
    let value := others.foldl (fun n b => n * 64 + (b.toNat - 0x80)) high
    if others.length = count && others.all isContinuation && least ≤ value then
      if h : value < 0x110000 then
        let c : CodePoint := ⟨value, h⟩
        if c.isSurrogate then none else some (c, count)
      else none
    else none

/-- Bytes as text; a byte that belongs to no code point is escaped. -/
def toEscapedText (b : Bytes) : Text :=
  match b with
  | [] => []
  | first :: rest =>
    match codePoint? first rest with
    | some (c, count) => c :: toEscapedText (rest.drop count)
    | none => CodePoint.escapeOf first :: toEscapedText rest
termination_by b.length
decreasing_by
  · simp only [List.length_drop, List.length_cons]
    omega
  · simp

end Bytes

end Keyring
