import Keyring.Datum
import Keyring.Number.Rounded

/-!
# Message templates

A message may leave places for data. A place begins with a percent sign and ends with the letter of
a conversion; between them may stand the name of a member in parentheses, flags, a width, a
precision and a size mark that means nothing. Two percent signs stand for one. A template and its
data must fit: each place takes one piece of data, and none may be left over.
-/

namespace Keyring.Log

inductive Amount where
  | fixed (value : Nat)
  | taken
  deriving DecidableEq

structure Place where
  /-- The member that the data is, if it is named. -/
  name : Option Text
  flags : Text
  width : Option Amount
  precision : Option Amount
  conversion : CodePoint
  deriving DecidableEq

inductive Piece where
  | plain (c : CodePoint)
  | place (place : Place)
  deriving DecidableEq

namespace Place

def has (p : Place) (flag : Char) : Bool :=
  List.contains p.flags (CodePoint.ofChar flag)

def readName (depth : Nat) : Text → Option Text
  | [] => none
  | c :: rest =>
    if c = ')' then
      match depth with
      | 0 => some []
      | depth + 1 => (readName depth rest).map (c :: ·)
    else (readName (if c = '(' then depth + 1 else depth) rest).map (c :: ·)

def readAmount (t : Text) : Option Amount × Nat :=
  match t with
  | [] => (none, 0)
  | c :: _ =>
    let digits := Numeral.digitPart t
    if c = '*' then (some .taken, 1)
    else if digits.isEmpty then (none, 0)
    else (some (.fixed (Text.toNat digits)), digits.length)

/-- The precision that a text begins with, and its length. A point alone is a precision of zero. -/
def readPrecision (t : Text) : Option Amount × Nat :=
  match t with
  | [] => (none, 0)
  | c :: rest =>
    if c = '.' then
      let (amount, length) := readAmount rest
      (some (amount.getD (.fixed 0)), length + 1)
    else (none, 0)

def sizeMarks : Text := "hlL"

def flagMarks : Text := "-+ #0"

def readUnnamed (name : Option Text) (t : Text) : Option (Place × Nat) :=
  let flags := t.takeWhile fun c => List.contains flagMarks c
  let afterFlags := t.drop flags.length
  let (width, widthLength) := readAmount afterFlags
  let afterWidth := afterFlags.drop widthLength
  let (precision, precisionLength) := readPrecision afterWidth
  let afterPrecision := afterWidth.drop precisionLength
  let length := flags.length + (widthLength + precisionLength)
  match afterPrecision with
  | [] => none
  | c :: rest =>
    if List.contains sizeMarks c then
      match rest with
      | [] => none
      | d :: _ => some (⟨name, flags, width, precision, d⟩, length + 2)
    else some (⟨name, flags, width, precision, c⟩, length + 1)

def read (t : Text) : Option (Place × Nat) :=
  match t with
  | [] => none
  | c :: rest =>
    if c = '(' then
      match readName 0 rest with
      | none => none
      | some name =>
        (readUnnamed (some name) (rest.drop (name.length + 1))).map fun (place, length) =>
          (place, name.length + 2 + length)
    else readUnnamed none t

end Place

def Piece.read (t : Text) : Option (Piece × Nat) :=
  match t with
  | [] => none
  | c :: _ =>
    if c = '%' then some (.plain c, 1)
    else (Place.read t).map fun (p, length) => (.place p, length)

def readTemplate (t : Text) : Option (List Piece) :=
  match t with
  | [] => some []
  | c :: rest =>
    if c = '%' then
      match Piece.read rest with
      | none => none
      | some (piece, length) => (readTemplate (rest.drop length)).map (piece :: ·)
    else (readTemplate rest).map (.plain c :: ·)
termination_by t.length
decreasing_by
  · simp only [List.length_drop, List.length_cons]
    omega
  · simp

structure Supply where
  /-- What has not been taken yet. -/
  unused : List Datum
  /-- What names are looked up in. Such data may be left over. -/
  named : Option Datum

namespace Supply

def ofItems (items : List Datum) : Supply :=
  ⟨items, none⟩

def ofDatum (d : Datum) : Supply :=
  match d with
  | .list _ | .record _ => ⟨[d], some d⟩
  | _ => ⟨[d], none⟩

def take (s : Supply) : Option (Datum × Supply) :=
  match s.unused with
  | [] => none
  | d :: rest => some (d, { s with unused := rest })

def select (s : Supply) : Option Text → Option Supply
  | none => some s
  | some name =>
    match s.named with
    | some (.record members) =>
      (members.find? fun entry => entry.1 == name).map fun entry => { s with unused := [entry.2] }
    | _ => none

def amount (s : Supply) : Option Amount → Option (Option Int × Supply)
  | none => some (none, s)
  | some (.fixed n) => if n < 0x80000000 then some (some n, s) else none
  | some .taken =>
    s.take.bind fun (d, rest) => d.integer?.bind fun n =>
      if -0x80000000 ≤ n ∧ n < 0x80000000 then some (some n, rest) else none

end Supply

/-- A piece of data in writing: a sign, a mark of the base and the body. -/
structure Written where
  sign : Text
  base : Text
  body : Text
  numeric : Bool

namespace Written

def ofText (t : Text) : Written := ⟨[], [], t, false⟩

def signOf (p : Place) (negative : Bool) : Text :=
  if negative then "-" else if p.has '+' then "+" else if p.has ' ' then " " else []

def octal (n : Nat) : Text :=
  if n < 8 then [Text.digitOf n] else octal (n / 8) ++ [Text.digitOf (n % 8)]

def hexadecimal (n : Nat) : Text :=
  if n < 16 then [Text.digitOf n] else hexadecimal (n / 16) ++ [Text.digitOf (n % 16)]

def ofInteger (p : Place) (precision : Nat) (n : Int) (base digits : Text) : Written :=
  ⟨signOf p (n < 0), if p.has '#' then base else [],
    NumberLayout.zeros (precision - digits.length) ++ digits, true⟩

def form? (c : CodePoint) : Option RoundedForm :=
  if c = 'f' || c = 'F' then some .positional
  else if c = 'e' || c = 'E' then some .scientific
  else if c = 'g' || c = 'G' then some .general
  else none

def codePoint? : Datum → Option CodePoint
  | .text [c] => some c
  | d =>
    d.integer?.bind fun n =>
      if h : 0 ≤ n ∧ n.toNat < 0x110000 then some ⟨n.toNat, h.2⟩ else none

def cut (precision : Option Nat) (t : Text) : Text :=
  match precision with
  | some n => t.take n
  | none => t

def inCase (c : CodePoint) (t : Text) : Text :=
  if c = 'X' || c = 'E' || c = 'F' || c = 'G' then t.toUpper else t

/-- The most code points that a place is filled up to. What asks for more finds no room. -/
def longest : Nat := 0x400000

def ofInteger? (p : Place) (precision : Option Nat) (n : Int) (base digits : Text) :
    Option Written :=
  if precision.getD 0 ≤ longest then some (ofInteger p (precision.getD 0) n base digits)
  else none

/-- A number in a form, if there is room for its precision. Only without zeros at its end is it
written in few digits whatever the precision. -/
def ofNumber? (p : Place) (precision : Nat) (form : RoundedForm) (x : Binary64) : Option Written :=
  if precision ≤ longest || (form = .general && !p.has '#') then
    some ⟨signOf p x.isNegative, [],
      inCase p.conversion (x.writeMagnitude form (p.has '#') precision), true⟩
  else none

def ofDatum? (p : Place) (precision : Option Nat) (d : Datum) : Option Written :=
  let c := p.conversion
  if c = 's' then some (ofText (cut precision d.shown))
  else if c = 'r' then some (ofText (cut precision d.quoted))
  else if c = 'a' then some (ofText (cut precision d.asciiQuoted))
  else if c = 'c' then (codePoint? d).map fun c => ofText [c]
  else if c = 'd' || c = 'i' || c = 'u' then
    d.wholePart?.bind fun n => ofInteger? p precision n [] (Text.ofNat n.natAbs)
  else if c = 'o' then
    d.integer?.bind fun n => ofInteger? p precision n "0o" (octal n.natAbs)
  else if c = 'x' || c = 'X' then
    d.integer?.bind fun n =>
      ofInteger? p precision n (inCase c "0x") (inCase c (hexadecimal n.natAbs))
  else
    match form? c, d.number? with
    | some form, some x => ofNumber? p (precision.getD 6) form x
    | _, _ => none

/-- Data in writing, filled up to a width: with blanks on the right if the place asks for that, with
zeros after the sign if it asks for them and the data is a number, and else with blanks on the
left. -/
def fillTo (p : Place) (width : Int) (w : Written) : Text :=
  let missing := width.natAbs - (w.sign.length + (w.base.length + w.body.length))
  let blanks : Text := List.replicate missing ' '
  if p.has '-' || width < 0 then w.sign ++ (w.base ++ (w.body ++ blanks))
  else if p.has '0' && w.numeric then
    w.sign ++ (w.base ++ (NumberLayout.zeros missing ++ w.body))
  else blanks ++ (w.sign ++ (w.base ++ w.body))

end Written

def fillPlace (p : Place) (s : Supply) : Option (Text × Supply) := do
  let s ← s.select p.name
  let (width, s) ← s.amount p.width
  let (precision, s) ← s.amount p.precision
  let (d, s) ← s.take
  let written ← Written.ofDatum? p (precision.map Int.toNat) d
  if Written.longest < (width.getD 0).natAbs then none
  else return (written.fillTo p (width.getD 0), s)

/-- The parts of a template with data in its places; `none` if they do not fit. -/
def fillPieces : List Piece → Supply → Option Text
  | [], s => if s.unused.isEmpty || s.named.isSome then some [] else none
  | .plain c :: rest, s => (fillPieces rest s).map (c :: ·)
  | .place p :: rest, s => do
    let (shown, s) ← fillPlace p s
    let others ← fillPieces rest s
    return shown ++ others

def fill (template : Text) (s : Supply) : Option Text :=
  (readTemplate template).bind fun pieces => fillPieces pieces s

end Keyring.Log
