/-!
# Code points and text

A `Text` is any list of Unicode code points. Surrogates are code points like any other: a quoted
literal may name half of a pair, so text is wider than `String`.
-/

namespace Keyring

structure CodePoint where
  val : Nat
  val_lt : val < 0x110000
  deriving DecidableEq

namespace CodePoint

def ofChar (c : Char) : CodePoint :=
  ⟨c.toNat, by
    have h := c.valid
    simp only [UInt32.isValidChar, Nat.isValidChar] at h
    show c.val.toNat < _
    omega⟩

instance : Coe Char CodePoint := ⟨ofChar⟩

instance : Hashable CodePoint := ⟨fun c => hash c.val⟩

def ofNat (n : Nat) : CodePoint :=
  if h : n < 0x110000 then ⟨n, h⟩ else ⟨0x10ffff, by decide⟩

theorem ofNat_val (c : CodePoint) : ofNat c.val = c :=
  dif_pos c.val_lt

theorem eq_ofNat {c : CodePoint} {n : Nat} (h : c.val = n) : c = ofNat n := by
  rw [← h, ofNat_val]

/-- Half of a surrogate pair, which no `Char` can be. -/
def isSurrogate (c : CodePoint) : Bool :=
  0xd800 ≤ c.val && c.val ≤ 0xdfff

def ofPair? (high low : CodePoint) : Option CodePoint :=
  if 0xd800 ≤ high.val && high.val < 0xdc00 && 0xdc00 ≤ low.val && low.val < 0xe000 then
    some (ofNat (0x10000 + (high.val - 0xd800) * 0x400 + (low.val - 0xdc00)))
  else none

def toChar? (c : CodePoint) : Option Char :=
  if c.isSurrogate then none else some (Char.ofNat c.val)

def isAscii (c : CodePoint) : Bool :=
  c.val < 0x80

def isDigit (c : CodePoint) : Bool :=
  0x30 ≤ c.val && c.val ≤ 0x39

def isLetter (c : CodePoint) : Bool :=
  (0x41 ≤ c.val && c.val ≤ 0x5a) || (0x61 ≤ c.val && c.val ≤ 0x7a)

def digit? (c : CodePoint) : Option Nat :=
  if c.isDigit then some (c.val - 0x30) else none

def hexDigit? (c : CodePoint) : Option Nat :=
  if c.isDigit then some (c.val - 0x30)
  else if 0x41 ≤ c.val && c.val ≤ 0x46 then some (c.val - 0x41 + 10)
  else if 0x61 ≤ c.val && c.val ≤ 0x66 then some (c.val - 0x61 + 10)
  else none

/-- A capital whose small letter is in ASCII becomes that letter: the ASCII capitals and the sign
of the kelvin. All else stays. -/
def toLower (c : CodePoint) : CodePoint :=
  if 0x41 ≤ c.val && c.val ≤ 0x5a then ofNat (c.val + 0x20)
  else if c.val = 0x212a then ofNat 0x6b
  else c

end CodePoint

abbrev Text := List CodePoint

namespace Text

def ofString (s : String) : Text :=
  s.toList.map CodePoint.ofChar

instance : Coe String Text := ⟨ofString⟩

def toString? (t : Text) : Option String :=
  (t.mapM CodePoint.toChar?).map String.ofList

def toLower (t : Text) : Text :=
  t.map CodePoint.toLower

/-- The code points beyond ASCII whose capital form is in ASCII, each with that form: sharp s,
dotless i, long s, and the ligatures of f, i, l, s and t. -/
def asciiCapitals : List (Nat × String) :=
  [(0xdf, "SS"), (0x131, "I"), (0x17f, "S"), (0xfb00, "FF"), (0xfb01, "FI"), (0xfb02, "FL"),
    (0xfb03, "FFI"), (0xfb04, "FFL"), (0xfb05, "ST"), (0xfb06, "ST")]

/-- The capital form of a code point if that is in ASCII, and else the code point. -/
def capital (c : CodePoint) : Text :=
  if 0x61 ≤ c.val && c.val ≤ 0x7a then [CodePoint.ofNat (c.val - 0x20)]
  else
    match asciiCapitals.find? fun entry => entry.1 == c.val with
    | some entry => ofString entry.2
    | none => [c]

def toUpper (t : Text) : Text :=
  t.flatMap capital

/-- A text in which every pair of surrogates is the code point that it stands for. -/
def joinPairs : Text → Text
  | [] => []
  | [c] => [c]
  | a :: b :: rest =>
    match CodePoint.ofPair? a b with
    | some c => c :: joinPairs rest
    | none => a :: joinPairs (b :: rest)

def splitOn (sep : CodePoint) : Text → List Text
  | [] => [[]]
  | c :: rest =>
    match splitOn sep rest with
    | [] => [[c]]
    | part :: parts => if c = sep then [] :: part :: parts else (c :: part) :: parts

/-- The parts in order, with `sep` between neighbours. -/
def join (sep : Text) : List Text → Text
  | [] => []
  | [part] => part
  | part :: parts => part ++ sep ++ join sep parts

def startsWith (t start : Text) : Bool :=
  start.isPrefixOf t

def contains (t part : Text) : Bool :=
  match t with
  | [] => part.isEmpty
  | _ :: rest => part.isPrefixOf t || contains rest part

def lastSegment (t : Text) : Text :=
  ((splitOn '.' t).getLast?).getD []

end Text

end Keyring
