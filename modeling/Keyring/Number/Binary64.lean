/-!
# Binary64 numbers

A finite number is a sign and a whole number of units of `2 ^ -1074`, the smallest step of the
format. Such a magnitude is representable when it is a multiple of the spacing of its binade and
lies below `2 ^ 1024`. Rounding goes to the nearest representable magnitude, a tie to the even one.
-/

namespace Keyring

namespace Binary64

def unitsPerOne : Nat := Nat.pow 2 1074

def limit : Nat := Nat.pow 2 2098

/-- The distance between neighbouring representable magnitudes from `units` on. -/
def spacing (units : Nat) : Nat :=
  Nat.pow 2 (units.log2 - 52)

/-- A finite number of the format. Zero has two signs. -/
structure Finite where
  negative : Bool
  units : Nat
  spacing_dvd : spacing units ∣ units
  units_lt : units < limit
  deriving DecidableEq

def divideHalfEven (num den : Nat) : Nat :=
  if 2 * (num % den) < den then num / den
  else if den < 2 * (num % den) then num / den + 1
  else num / den + num / den % 2

/-- The representable magnitude nearest to `num / den` units; the range is not bounded. -/
def roundUnits (num den : Nat) : Nat :=
  let step := spacing (num / den)
  divideHalfEven num (den * step) * step

theorem divideHalfEven_le (num den : Nat) : divideHalfEven num den ≤ num / den + 1 := by
  unfold divideHalfEven
  split
  · omega
  · split
    · omega
    · have := Nat.mod_lt (num / den) (by decide : 0 < 2)
      omega

theorem spacing_dvd_of_le {count : Nat} (units : Nat) (h : count ≤ Nat.pow 2 53) :
    spacing (count * spacing units) ∣ count * spacing units := by
  simp only [spacing, Nat.pow_eq] at h ⊢
  generalize units.log2 - 52 = exp
  by_cases hc : count = 0
  · subst hc
    exact ⟨0, by simp⟩
  by_cases hm : count = 2 ^ 53
  · subst hm
    rw [← Nat.pow_add, Nat.log2_two_pow]
    exact Nat.pow_dvd_pow 2 (by omega)
  have hl : (count * 2 ^ exp).log2 < 53 + exp := by
    have hp : 0 < 2 ^ exp := Nat.pow_pos (by decide)
    rw [Nat.log2_lt (Nat.mul_ne_zero hc (Nat.ne_of_gt hp)), Nat.pow_add]
    exact Nat.mul_lt_mul_of_pos_right (Nat.lt_of_le_of_ne h hm) hp
  exact Nat.dvd_trans (Nat.pow_dvd_pow 2 (by omega)) (Nat.dvd_mul_left _ _)

theorem spacing_dvd_roundUnits (num den : Nat) :
    spacing (roundUnits num den) ∣ roundUnits num den := by
  unfold roundUnits
  refine spacing_dvd_of_le _ (Nat.le_trans (divideHalfEven_le _ _) ?_)
  rw [← Nat.div_div_eq_div_mul]
  refine Nat.succ_le_of_lt (Nat.div_lt_of_lt_mul ?_)
  simp only [spacing, Nat.pow_eq]
  rw [← Nat.pow_add]
  exact Nat.lt_of_lt_of_le Nat.lt_log2_self (Nat.pow_le_pow_right (by decide) (by omega))

/-- The finite number of a sign and the magnitude `num / den` in units, rounded; `none` when it
rounds beyond the range. -/
def Finite.round? (negative : Bool) (num den : Nat) : Option Finite :=
  if h : roundUnits num den < limit then
    some ⟨negative, roundUnits num den, spacing_dvd_roundUnits num den, h⟩
  else none

def Finite.value (x : Finite) : Int :=
  if x.negative then -(x.units : Int) else x.units

def Finite.truncate (x : Finite) : Int :=
  if x.negative then -((x.units / unitsPerOne : Nat) : Int) else (x.units / unitsPerOne : Nat)

def Finite.ofInt? (n : Int) : Option Finite :=
  Finite.round? (n < 0) (n.natAbs * unitsPerOne) 1

def Finite.unsignZero (x : Finite) : Finite :=
  if x.units = 0 then { x with negative := false } else x

instance : Hashable Finite := ⟨fun x => mixHash (hash x.negative) (hash x.units)⟩

end Binary64

inductive Binary64 where
  | finite (x : Binary64.Finite)
  | infinity (negative : Bool)
  | undefined
  deriving DecidableEq

end Keyring
