import Keyring.Number.Layout

/-!
# Numbers with a given number of digits

A decimal rounded at a place, a half to the even neighbour, and the forms of a number that show a
given number of digits: positional, with an exponent, and whichever of the two suits its size.
-/

namespace Keyring

namespace Decimal

def digitsAt (d : Decimal) (place : Int) : Text :=
  if place ≤ d.exponent then
    Text.ofNat d.coefficient ++ NumberLayout.zeros (d.exponent - place).toNat
  else Text.ofNat (Binary64.divideHalfEven d.coefficient (Nat.pow 10 (place - d.exponent).toNat))

def padded (width : Nat) (digits : Text) : Text :=
  NumberLayout.zeros (width - digits.length) ++ digits

def leading (d : Decimal) : Int :=
  if d.coefficient = 0 then 0 else (Nat.digitCount d.coefficient : Int) - 1 + d.exponent

/-- The digits of a decimal rounded to `count + 1` of them, and the exponent of the first one.
Rounding may add a digit, which moves the first one. -/
def significant (d : Decimal) (count : Nat) : Text × Int :=
  let digits := d.digitsAt (d.leading - count)
  if digits.length ≤ count + 1 then (padded (count + 1) digits, d.leading)
  else (digits.dropLast, d.leading + 1)

end Decimal

inductive RoundedForm where
  /-- So many digits after the point. -/
  | positional
  /-- One digit before the point, so many after it, and an exponent. -/
  | scientific
  /-- So many digits in all, without zeros at the end; a small exponent is left out. -/
  | general
  deriving DecidableEq

namespace RoundedForm

/-- Two parts with a point between them, which is kept without a second part only if asked for. -/
def joinPoint (keepPoint : Bool) (whole fraction : Text) : Text :=
  if fraction.isEmpty && !keepPoint then whole else whole ++ ("." ++ fraction)

def dropZeros (t : Text) : Text :=
  (t.reverse.dropWhile (· == CodePoint.ofChar '0')).reverse

def exponentPart (exponent : Int) : Text :=
  (if exponent < 0 then "e-" else "e+" : Text) ++ Decimal.padded 2 (Text.ofNat exponent.natAbs)

def writePositional (keepPoint : Bool) (places : Nat) (d : Decimal) : Text :=
  let digits := Decimal.padded (places + 1) (d.digitsAt (-(places : Int)))
  joinPoint keepPoint (digits.take (digits.length - places))
    (digits.drop (digits.length - places))

def writeScientific (keepPoint : Bool) (places : Nat) (d : Decimal) : Text :=
  let (digits, exponent) := d.significant places
  joinPoint keepPoint (digits.take 1) (digits.drop 1) ++ exponentPart exponent

/-- A decimal in `count + 1` digits. The exponent is written if it is below -4 or there are too few
digits to reach the point; zeros at the end stay only with the point that is asked for, and if they
go, no more digits are made than the decimal has on either side of the point. -/
def writeGeneral (keepPoint : Bool) (count : Nat) (d : Decimal) : Text :=
  let enough := max (Nat.digitCount d.coefficient) (d.leading.toNat + 1)
  let (digits, exponent) := d.significant (if keepPoint then count else min count enough)
  let trimmed (fraction : Text) : Text := if keepPoint then fraction else dropZeros fraction
  if exponent < -4 || (count : Int) < exponent then
    joinPoint keepPoint (digits.take 1) (trimmed (digits.drop 1)) ++ exponentPart exponent
  else if exponent < 0 then
    joinPoint keepPoint "0" (trimmed (NumberLayout.zeros (exponent.natAbs - 1) ++ digits))
  else
    joinPoint keepPoint (digits.take (exponent.toNat + 1))
      (trimmed (digits.drop (exponent.toNat + 1)))

def write (form : RoundedForm) (keepPoint : Bool) (precision : Nat) (d : Decimal) : Text :=
  match form with
  | positional => writePositional keepPoint precision d
  | scientific => writeScientific keepPoint precision d
  | general => writeGeneral keepPoint (precision - 1) d

end RoundedForm

namespace Binary64

def isNegative : Binary64 → Bool
  | finite x => x.negative
  | infinity negative => negative
  | undefined => false

def writeMagnitude (form : RoundedForm) (keepPoint : Bool) (precision : Nat) : Binary64 → Text
  | finite x => form.write keepPoint precision (Decimal.exact x.units)
  | infinity _ => "inf"
  | undefined => "nan"

end Binary64

end Keyring
