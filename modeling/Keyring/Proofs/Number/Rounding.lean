import Mathlib.Tactic.Ring
import Keyring.Number.Shortest

/-!
# Decimals of equal value

Rounding looks at a quotient and not at how it is written, so decimals of equal value are read as
the same number. The decimal shown for a number therefore reads back: it is one that was found to,
or the exact one, without zeros at its end.
-/

namespace Keyring

namespace Binary64

/-! The large powers of two are used with a variable exponent, so that nothing computes them. -/

theorem limit_eq {n : Nat} (hn : n = 2098) : limit = 2 ^ n := by
  subst hn
  unfold limit
  generalize 2098 = n
  rfl

theorem unitsPerOne_eq {n : Nat} (hn : n = 1074) : unitsPerOne = 2 ^ n := by
  subst hn
  unfold unitsPerOne
  generalize 1074 = n
  rfl

theorem limit_pos : 0 < limit := by
  obtain ⟨n, hn⟩ : ∃ n, n = 2098 := ⟨_, rfl⟩
  rw [limit_eq hn]
  exact Nat.two_pow_pos n

theorem unitsPerOne_pos : 0 < unitsPerOne := by
  obtain ⟨n, hn⟩ : ∃ n, n = 1074 := ⟨_, rfl⟩
  rw [unitsPerOne_eq hn]
  exact Nat.two_pow_pos n

private theorem divideHalfEven_scale (num den : Nat) {k : Nat} (hk : 0 < k) :
    divideHalfEven (num * k) (den * k) = divideHalfEven num den := by
  have hlt : ∀ a b : Nat, a * k < b * k ↔ a < b := fun a b => Nat.mul_lt_mul_right hk
  have hmod : 2 * (num % den * k) = 2 * (num % den) * k := (Nat.mul_assoc _ _ _).symm
  simp only [divideHalfEven, Nat.mul_div_mul_right _ _ hk, Nat.mul_mod_mul_right, hmod, hlt]

private theorem roundUnits_scale (num den : Nat) {k : Nat} (hk : 0 < k) :
    roundUnits (num * k) (den * k) = roundUnits num den := by
  have hstep : den * k * spacing (num / den) = den * spacing (num / den) * k := by ring
  simp only [roundUnits, Nat.mul_div_mul_right _ _ hk, hstep, divideHalfEven_scale _ _ hk]

private theorem roundUnits_congr {num den num' den' : Nat} (hd : 0 < den) (hd' : 0 < den')
    (h : num * den' = num' * den) : roundUnits num den = roundUnits num' den' := by
  rw [← roundUnits_scale num den hd', ← roundUnits_scale num' den' hd, h, Nat.mul_comm den den']

/-- A representable magnitude is rounded to itself. -/
private theorem roundUnits_exact {units den : Nat} (hd : 0 < den) (h : spacing units ∣ units) :
    roundUnits (units * den) den = units := by
  have hs : 0 < spacing units := Nat.two_pow_pos _
  obtain ⟨q, hq⟩ := h
  have hnum : units * den = q * (den * spacing units) := by
    conv_lhs => rw [hq]
    ring
  have hpos : 0 < den * spacing units := Nat.mul_pos hd hs
  rw [roundUnits, Nat.mul_div_cancel _ hd]
  simp only [divideHalfEven, hnum, Nat.mul_mod_left, Nat.mul_div_cancel _ hpos, Nat.mul_zero, hpos,
    if_true]
  rw [Nat.mul_comm]
  exact hq.symm

theorem round?_congr (negative : Bool) {num den num' den' : Nat} (hd : 0 < den) (hd' : 0 < den')
    (h : num * den' = num' * den) :
    Finite.round? negative num den = Finite.round? negative num' den' := by
  simp only [Finite.round?, roundUnits_congr hd hd' h]

theorem round?_sign (negative : Bool) (num den : Nat) :
    Finite.round? negative num den =
      (Finite.round? false num den).map fun x => { x with negative } := by
  unfold Finite.round?
  split <;> rfl

theorem round?_exact (x : Finite) {den : Nat} (hd : 0 < den) :
    Finite.round? x.negative (x.units * den) den = some x := by
  have hu := roundUnits_exact hd x.spacing_dvd
  have hlt : roundUnits (x.units * den) den < limit := by
    rw [hu]
    exact x.units_lt
  rw [Finite.round?, dif_pos hlt]
  cases x
  simp only [hu]

theorem round?_zero (x : Finite) (hx : x.units = 0) : Finite.round? x.negative 0 1 = some x := by
  have h := round?_exact x Nat.one_pos
  rwa [hx] at h

end Binary64

theorem Nat.digitCount_pos (n : Nat) : 0 < Nat.digitCount n := by
  rw [Nat.digitCount]
  split <;> omega

theorem Nat.digitCount_mul_ten {n : Nat} (hn : n ≠ 0) :
    Nat.digitCount (n * 10) = Nat.digitCount n + 1 := by
  rw [Nat.digitCount, if_neg (by omega), Nat.mul_div_cancel _ (by decide)]

theorem Nat.lt_ten_pow_digitCount (n : Nat) : n < 10 ^ Nat.digitCount n := by
  induction n using Nat.digitCount.induct with
  | case1 n h =>
    rw [Nat.digitCount, if_pos h]
    omega
  | case2 n h ih =>
    rw [Nat.digitCount, if_neg h, Nat.pow_succ]
    omega

theorem Nat.ten_pow_le_of_digitCount {n : Nat} (hn : n ≠ 0) :
    10 ^ (Nat.digitCount n - 1) ≤ n := by
  induction n using Nat.digitCount.induct with
  | case1 n h =>
    rw [Nat.digitCount, if_pos h]
    exact Nat.one_le_iff_ne_zero.mpr hn
  | case2 n h ih =>
    have hs : 10 ^ Nat.digitCount (n / 10) = 10 ^ (Nat.digitCount (n / 10) - 1) * 10 := by
      rw [← Nat.pow_succ, Nat.succ_eq_add_one, Nat.sub_add_cancel (Nat.digitCount_pos _)]
    have hi := ih (by omega)
    rw [Nat.digitCount, if_neg h, Nat.add_sub_cancel, hs]
    omega

namespace Decimal

open Binary64

theorem quotient_pos (d : Decimal) : 0 < d.quotient.2 := by
  unfold quotient
  split
  · exact Nat.one_pos
  · exact Nat.pow_pos (by decide)

private theorem quotient_mul_ten (c : Nat) (e : Int) :
    (quotient ⟨c * 10, e⟩).1 * (quotient ⟨c, e + 1⟩).2 =
      (quotient ⟨c, e + 1⟩).1 * (quotient ⟨c * 10, e⟩).2 := by
  by_cases he : 0 ≤ e
  · obtain ⟨n, rfl⟩ := Int.eq_ofNat_of_zero_le he
    have hn : ((n : Int) + 1).toNat = n + 1 := by omega
    have hle : (0 : Int) ≤ (n : Int) + 1 := by omega
    simp only [quotient, if_pos he, if_pos hle, hn, Int.toNat_natCast, Nat.pow_eq, Nat.pow_succ]
    ring
  -- at `-1` the factor passes from the denominator to the numerator
  · by_cases hm : e = -1
    · subst hm
      simp [quotient]
      ring
    · obtain ⟨n, hn⟩ : ∃ n : Nat, e = -((n + 2 : Nat) : Int) := ⟨(-e - 2).toNat, by omega⟩
      subst hn
      have h₁ : (-(-((n + 2 : Nat) : Int))).toNat = n + 2 := by omega
      have h₂ : (-(-((n + 2 : Nat) : Int) + 1)).toNat = n + 1 := by omega
      have hlt : ¬ (0 : Int) ≤ -((n + 2 : Nat) : Int) + 1 := by omega
      simp only [quotient, if_neg he, if_neg hlt, h₁, h₂, Nat.pow_eq, Nat.pow_succ]
      ring

theorem nearest?_zero (x : Finite) (hx : x.units = 0) (e : Int) :
    nearest? x.negative ⟨0, e⟩ = some x := by
  simp only [nearest?, if_true]
  exact round?_zero x hx

theorem nearest?_mul_ten (negative : Bool) (c : Nat) (e : Int) :
    nearest? negative ⟨c * 10, e⟩ = nearest? negative ⟨c, e + 1⟩ := by
  by_cases hc : c = 0
  · simp [nearest?, hc]
  · have hne : c * 10 ≠ 0 := by omega
    have hcount : ((Nat.digitCount c + 1 : Nat) : Int) + e = (Nat.digitCount c : Int) + (e + 1) := by
      omega
    have hr := round?_congr negative (quotient_pos ⟨c * 10, e⟩) (quotient_pos ⟨c, e + 1⟩)
      (quotient_mul_ten c e)
    simp only [nearest?, hc, hne, Nat.digitCount_mul_ten hc, hcount, hr, if_false]

/-- Zeros at the end of a coefficient may be counted in the exponent instead. -/
theorem nearest?_scale (negative : Bool) (c k : Nat) (e : Int) :
    nearest? negative ⟨c * 10 ^ k, e⟩ = nearest? negative ⟨c, e + k⟩ := by
  induction k generalizing e with
  | zero => simp
  | succ k ih =>
    have he : e + 1 + (k : Int) = e + ((k + 1 : Nat) : Int) := by omega
    rw [Nat.pow_succ, ← Nat.mul_assoc, nearest?_mul_ten, ih, he]

theorem nearest?_trim (negative : Bool) (d : Decimal) :
    nearest? negative d.trim = nearest? negative d := by
  induction d using Decimal.trim.induct with
  | case1 d h ih =>
    have hc : d.coefficient / 10 * 10 = d.coefficient := Nat.div_mul_cancel (by omega)
    rw [trim, dif_pos h, ih, ← nearest?_mul_ten, hc]
  | case2 d h => rw [trim, dif_neg h]

theorem nearest?_sign (negative : Bool) (d : Decimal) :
    nearest? negative d = (nearest? false d).map fun x => { x with negative } := by
  have hz := round?_sign negative 0 1
  have hq := round?_sign negative d.quotient.1 d.quotient.2
  simp only [nearest?]
  split
  · exact hz
  · split
    · rfl
    · split
      · exact hz
      · exact hq

end Decimal

end Keyring
