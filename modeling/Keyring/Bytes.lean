/-!
# Bytes

Sequences of bytes, their bitwise sum, big-endian numerals, and a stream of random bytes.
-/

namespace Keyring

abbrev Bytes := List UInt8

namespace Bytes

def xor (a b : Bytes) : Bytes :=
  List.zipWith (· ^^^ ·) a b

/-- The `width` low bytes of a number, the most significant first. -/
def ofNat : Nat → Nat → Bytes
  | 0, _ => []
  | width + 1, n => ofNat width (n / 256) ++ [UInt8.ofNat (n % 256)]

def toNat (b : Bytes) : Nat :=
  b.foldl (fun n x => n * 256 + x.toNat) 0

def pieces (size : Nat) (b : Bytes) : List Bytes :=
  if b = [] ∨ size = 0 then []
  else b.take size :: pieces size (b.drop size)
termination_by b.length
decreasing_by
  rename_i h
  rw [not_or] at h
  have := List.length_pos_iff.mpr h.1
  rw [List.length_drop]
  omega

end Bytes

/-- A source of random bytes. Past its end it yields zeros. -/
structure Random where
  bytes : Bytes
  deriving DecidableEq

def Random.next (r : Random) (count : Nat) : Bytes × Random :=
  let taken := r.bytes.take count
  (taken ++ List.replicate (count - taken.length) 0, ⟨r.bytes.drop count⟩)

end Keyring
