import Keyring.Bytes

/-!
# Counter mode with authentication

Galois/counter mode over a block cipher of sixteen bytes. The text is added to a stream of encrypted
counters; the tag is a polynomial hash of what is authenticated, under a mask of the cipher.
-/

namespace Keyring.Cipher.Gcm

def blockSize : Nat := 16

def tagSize : Nat := 16

/-- The number that reduces products in the field of `2 ^ 128` elements; the most significant bit
stands for the constant term. -/
def reduction : Nat := 0xe1 <<< 120

def shiftOne (x : Nat) : Nat :=
  if x % 2 = 1 then (x >>> 1) ^^^ reduction else x >>> 1

def multiplyBits (x : Nat) : Nat → Nat → Nat → Nat
  | 0, _, sum => sum
  | count + 1, y, sum =>
    multiplyBits x count (shiftOne y) (if x.testBit count then sum ^^^ y else sum)

def multiply (x y : Nat) : Nat :=
  multiplyBits x 128 y 0

def elementOf (piece : Bytes) : Nat :=
  Bytes.toNat (piece ++ List.replicate (blockSize - piece.length) 0)

def hash (key : Nat) (authenticated ciphertext : Bytes) : Nat :=
  let lengths := authenticated.length * 8 * 0x10000000000000000 + ciphertext.length * 8
  let elements :=
    (Bytes.pieces blockSize authenticated).map elementOf ++
      ((Bytes.pieces blockSize ciphertext).map elementOf ++ [lengths])
  elements.foldl (fun sum element => multiply (sum ^^^ element) key) 0

def counterBlock (nonce : Bytes) (counter : Nat) : Bytes :=
  nonce ++ Bytes.ofNat 4 (counter % 0x100000000)

/-- The stream that hides a text of the given length. The first counter is kept for the tag. -/
def keyStream (cipher : Bytes → Bytes) (nonce : Bytes) (length : Nat) : Bytes :=
  ((List.range ((length + 15) / blockSize)).flatMap
    fun i => cipher (counterBlock nonce (i + 2))).take length

def mask (cipher : Bytes → Bytes) (nonce text : Bytes) : Bytes :=
  Bytes.xor text (keyStream cipher nonce text.length)

def tag (cipher : Bytes → Bytes) (nonce authenticated ciphertext : Bytes) : Bytes :=
  let key := Bytes.toNat (cipher (List.replicate blockSize 0))
  Bytes.xor (cipher (counterBlock nonce 1))
    (Bytes.ofNat tagSize (hash key authenticated ciphertext))

def encrypt (cipher : Bytes → Bytes) (nonce authenticated plaintext : Bytes) : Bytes :=
  let ciphertext := mask cipher nonce plaintext
  ciphertext ++ tag cipher nonce authenticated ciphertext

def decrypt? (cipher : Bytes → Bytes) (nonce authenticated sealed : Bytes) : Option Bytes :=
  let ciphertext := sealed.take (sealed.length - tagSize)
  if sealed.drop (sealed.length - tagSize) = tag cipher nonce authenticated ciphertext then
    some (mask cipher nonce ciphertext)
  else none

end Keyring.Cipher.Gcm
