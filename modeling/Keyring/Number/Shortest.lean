import Keyring.Number.Decimal

/-!
# The fewest digits that read back

The decimal shown for a binary64 number has the fewest digits from which the number is read again,
and among decimals with that many digits it is the nearest to the number.
-/

namespace Keyring

namespace Decimal

def ofScaled : Nat → Nat → Decimal
  | 0, units => ⟨units, 0⟩
  | scale + 1, units =>
    if units % 2 = 0 then ofScaled scale (units / 2)
    else ⟨units * Nat.pow 5 (scale + 1), -((scale + 1 : Nat) : Int)⟩

def exact (units : Nat) : Decimal :=
  ofScaled 1074 units

/-- The neighbours of a decimal among those with `digits` significant digits, the nearer one first
and of two equally near ones the even one. -/
def neighbours (d : Decimal) (digits : Nat) : List Decimal :=
  let dropped := Nat.digitCount d.coefficient - digits
  let step := Nat.pow 10 dropped
  let exponent := d.exponent + (dropped : Int)
  let below : Decimal := ⟨d.coefficient / step, exponent⟩
  let above : Decimal := ⟨d.coefficient / step + 1, exponent⟩
  let remainder := d.coefficient % step
  if 2 * remainder < step || (2 * remainder = step && d.coefficient / step % 2 = 0) then
    [below, above]
  else [above, below]

def trim (d : Decimal) : Decimal :=
  if h : d.coefficient ≠ 0 ∧ d.coefficient % 10 = 0 then
    trim ⟨d.coefficient / 10, d.exponent + 1⟩
  else d
termination_by d.coefficient
decreasing_by omega

def readsAs (units : Nat) (d : Decimal) : Bool :=
  (d.nearest? false).map (·.units) == some units

/-- The decimal to show for a magnitude: seventeen digits always suffice. -/
def shortest (units : Nat) : Decimal :=
  let exact := exact units
  let candidates := (List.range 17).flatMap fun k => exact.neighbours (k + 1)
  ((candidates.find? (readsAs units)).getD exact).trim

end Decimal

end Keyring
