import Keyring.Number.Shortest
import Keyring.Text.Blank

/-!
# Written numbers

How a number stands in query text and in messages: positionally with at least one digit on each
side of the point, and with an exponent when the number is very small or very large.
-/

namespace Keyring

structure NumberLayout where
  /-- The exponent of the leading digit from which numbers are written positionally. -/
  leastPositional : Int
  /-- The exponent of the leading digit from which numbers have an exponent again. -/
  firstScientific : Int
  exponentWidth : Nat

/-- Query text writes numbers from `0.0001` up to `10 ^ 16` positionally; an exponent has a sign
and at least two digits. -/
def queryLayout : NumberLayout := ⟨-4, 16, 2⟩

namespace NumberLayout

def zeros (n : Nat) : Text :=
  List.replicate n '0'

def positional (digits : Text) (point : Int) : Text :=
  if point ≤ 0 then "0." ++ (zeros (-point).toNat ++ digits)
  else if (digits.length : Int) ≤ point then
    digits ++ (zeros (point.toNat - digits.length) ++ ".0")
  else digits.take point.toNat ++ ("." ++ digits.drop point.toNat)

def scientific (layout : NumberLayout) (digits : Text) (exponent : Int) : Text :=
  let mantissa : Text :=
    if digits.length ≤ 1 then digits else digits.take 1 ++ ("." ++ digits.drop 1)
  let mark : Text := if exponent < 0 then "e-" else "e+"
  let power := Text.ofNat exponent.natAbs
  mantissa ++ (mark ++ (zeros (layout.exponentWidth - power.length) ++ power))

def write (layout : NumberLayout) (d : Decimal) : Text :=
  let digits := Text.ofNat d.coefficient
  let point := (digits.length : Int) + d.exponent
  if layout.leastPositional < point && point ≤ layout.firstScientific then
    positional digits point
  else layout.scientific digits (point - 1)

end NumberLayout

namespace Binary64

def Finite.render (x : Finite) : Text :=
  let magnitude : Text :=
    if x.units = 0 then "0.0" else queryLayout.write (Decimal.shortest x.units)
  if x.negative then '-' :: magnitude else magnitude

def render : Binary64 → Text
  | .finite x => x.render
  | .infinity negative => if negative then "-inf" else "inf"
  | .undefined => "nan"

def ofNumeral (n : Numeral) : Binary64 :=
  match n.nearest? with
  | some x => .finite x
  | none => .infinity n.negative

/-- The number that a text without blanks or groups spells: a numeral, in which the digits of one
side of the point may be missing, or the name of an infinity or of the undefined number. -/
def ofBody? (body : Text) : Option Binary64 :=
  let sign := Numeral.signPart body
  let unsigned := body.drop sign.length
  let word := Text.toLower unsigned
  if word = "inf" || word = "infinity" then some (.infinity (sign == ("-" : Text)))
  else if word = "nan" then some .undefined
  else
    let whole := Numeral.digitPart unsigned
    let afterWhole := unsigned.drop whole.length
    let fraction : Text :=
      match afterWhole with
      | c :: rest => if c = '.' then c :: Numeral.digitPart rest else []
      | [] => []
    let afterFraction := afterWhole.drop fraction.length
    let numeral : Numeral := ⟨sign, whole, fraction, Numeral.exponentPart afterFraction⟩
    if (whole ++ fraction.drop 1).isEmpty || numeral.text != body then none
    else some (ofNumeral numeral)

/-- The number that a text spells. White space around it does not matter, digits may be those of any
script, and underscores may group them. -/
def ofText? (t : Text) : Option Binary64 :=
  ((Text.trimWhile CodePoint.isUnicodeSpace (t.map Text.asciiDigit)).ungroup false).bind ofBody?

end Binary64

end Keyring
