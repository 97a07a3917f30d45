import Keyring.Number.Binary64
import Keyring.Text.Digits

/-!
# Decimal numerals

A numeral as it is written, the decimal number it stands for, and the binary64 number nearest to
that decimal.
-/

namespace Keyring

/-- The number `coefficient * 10 ^ exponent`. -/
structure Decimal where
  coefficient : Nat
  exponent : Int
  deriving DecidableEq

/-- A number as it is written, in four parts: an empty or one-sign part, digits, a point with
digits or nothing, and an exponent with its mark or nothing. -/
structure Numeral where
  sign : Text
  whole : Text
  fraction : Text
  exponent : Text
  deriving DecidableEq

namespace Numeral

def signPart : Text → Text
  | c :: _ => if c = '+' || c = '-' then [c] else []
  | [] => []

def digitPart (t : Text) : Text :=
  t.takeWhile CodePoint.isDigit

def fractionPart : Text → Text
  | c :: rest => if c = '.' && !(digitPart rest).isEmpty then c :: digitPart rest else []
  | [] => []

def exponentPart : Text → Text
  | c :: rest =>
    let sign := signPart rest
    let digits := digitPart (rest.drop sign.length)
    if (c = 'e' || c = 'E') && !digits.isEmpty then c :: (sign ++ digits) else []
  | [] => []

def read? (t : Text) : Option Numeral :=
  let sign := signPart t
  let afterSign := t.drop sign.length
  let whole := digitPart afterSign
  if whole.isEmpty then none
  else
    let afterWhole := afterSign.drop whole.length
    let fraction := fractionPart afterWhole
    some ⟨sign, whole, fraction, exponentPart (afterWhole.drop fraction.length)⟩

def text (n : Numeral) : Text :=
  n.sign ++ (n.whole ++ (n.fraction ++ n.exponent))

def negative (n : Numeral) : Bool :=
  n.sign == ("-" : Text)

def exponentValue (part : Text) : Int :=
  let signed := part.drop 1
  let magnitude : Nat := Text.toNat (signed.drop (signPart signed).length)
  if signPart signed = ("-" : Text) then -(magnitude : Int) else magnitude

def decimal (n : Numeral) : Decimal :=
  ⟨Text.toNat (n.whole ++ n.fraction.drop 1),
    exponentValue n.exponent - ((n.fraction.length - 1 : Nat) : Int)⟩

end Numeral

def Nat.digitCount (n : Nat) : Nat :=
  if n < 10 then 1 else digitCount (n / 10) + 1

namespace Decimal

def quotient (d : Decimal) : Nat × Nat :=
  if 0 ≤ d.exponent then (d.coefficient * Nat.pow 10 d.exponent.toNat * Binary64.unitsPerOne, 1)
  else (d.coefficient * Binary64.unitsPerOne, Nat.pow 10 (-d.exponent).toNat)

/-- The finite number nearest to a decimal; `none` when it rounds beyond the range. A decimal from
`10 ^ 400` on is beyond it, and one below `10 ^ -400` rounds to zero. -/
def nearest? (negative : Bool) (d : Decimal) : Option Binary64.Finite :=
  if d.coefficient = 0 then Binary64.Finite.round? negative 0 1
  else
    let magnitude := (Nat.digitCount d.coefficient : Int) + d.exponent
    if 400 < magnitude then none
    else if magnitude < -400 then Binary64.Finite.round? negative 0 1
    else Binary64.Finite.round? negative d.quotient.1 d.quotient.2

end Decimal

def Numeral.nearest? (n : Numeral) : Option Binary64.Finite :=
  n.decimal.nearest? n.negative

end Keyring
