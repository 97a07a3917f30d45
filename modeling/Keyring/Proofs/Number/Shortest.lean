import Keyring.Proofs.Number.Rounding

/-!
# The decimal shown reads back

Whichever decimal is chosen for a number, it is read as that number again. No bound on the digits
that suffice is needed: the exact decimal is in reserve.
-/

namespace Keyring

namespace Decimal

open Binary64

private theorem two_pow_le_ten_pow {n m : Nat} (h : n ≤ 3 * m) : 2 ^ n ≤ 10 ^ m := by
  calc 2 ^ n ≤ 2 ^ (3 * m) := Nat.pow_le_pow_right (by decide) h
    _ = (2 ^ 3) ^ m := Nat.pow_mul 2 3 m
    _ ≤ 10 ^ m := Nat.pow_le_pow_left (by decide) m

private theorem unitsPerOne_le {m : Nat} (hm : m = 400) : unitsPerOne ≤ 10 ^ m := by
  obtain ⟨n, hn⟩ : ∃ n, n = 1074 := ⟨_, rfl⟩
  rw [unitsPerOne_eq hn]
  exact two_pow_le_ten_pow (by omega)

private theorem limit_le {m : Nat} (hm : m = 400) : limit ≤ 10 ^ m * unitsPerOne := by
  obtain ⟨n, hn⟩ : ∃ n, n = 1074 := ⟨_, rfl⟩
  obtain ⟨k, hk⟩ : ∃ k, k = 1024 := ⟨_, rfl⟩
  have hsum : k + n = 2098 := by omega
  rw [limit_eq hsum, unitsPerOne_eq hn, Nat.pow_add]
  exact Nat.mul_le_mul_right _ (two_pow_le_ten_pow (by omega))

private theorem unitsPerOne_split {scale : Nat} (h : scale ≤ 1074) :
    unitsPerOne = 2 ^ scale * 2 ^ (1074 - scale) := by
  rw [unitsPerOne_eq (Nat.add_sub_cancel' h), Nat.pow_add]

theorem exists_ofScaled {scale : Nat} (h : scale ≤ 1074) (units : Nat) :
    ∃ c k : Nat, ofScaled scale units = ⟨c, -(k : Int)⟩ ∧
      c * unitsPerOne = units * 2 ^ (1074 - scale) * 10 ^ k := by
  induction scale generalizing units with
  | zero =>
    refine ⟨units, 0, rfl, ?_⟩
    rw [Nat.pow_zero, Nat.mul_one, unitsPerOne_split h, Nat.pow_zero, Nat.one_mul]
  | succ scale ih =>
    by_cases hu : units % 2 = 0
    · obtain ⟨c, k, he, hc⟩ := ih (by omega) (units / 2)
      refine ⟨c, k, by rw [ofScaled, if_pos hu, he], ?_⟩
      have hp : 1074 - scale = 1074 - (scale + 1) + 1 := by omega
      have hd : units / 2 * 2 = units := Nat.div_mul_cancel (Nat.dvd_of_mod_eq_zero hu)
      rw [hc, hp, Nat.pow_succ]
      conv_rhs => rw [← hd]
      ring
    · refine ⟨units * 5 ^ (scale + 1), scale + 1, by rw [ofScaled, if_neg hu]; rfl, ?_⟩
      have hten : 10 ^ (scale + 1) = 2 ^ (scale + 1) * 5 ^ (scale + 1) := by rw [← Nat.mul_pow]
      rw [unitsPerOne_split h, hten]
      ring

private theorem quotient_neg (c k : Nat) :
    quotient ⟨c, -(k : Int)⟩ = (c * unitsPerOne, 10 ^ k) := by
  cases k with
  | zero => simp [quotient]
  | succ k =>
    have hlt : ¬ (0 : Int) ≤ -((k + 1 : Nat) : Int) := by omega
    rw [quotient, if_neg hlt, Int.neg_neg, Int.toNat_natCast]
    rfl

section Range

variable {c k units : Nat}

private theorem digitCount_le (hu : units < limit) (h : c * unitsPerOne = units * 10 ^ k) :
    ¬ (400 : Int) < (Nat.digitCount c : Int) + -(k : Int) := by
  intro hbig
  obtain ⟨m, hm⟩ : ∃ m : Nat, m = 400 := ⟨_, rfl⟩
  have hc : c ≠ 0 := by
    rintro rfl
    have hone : Nat.digitCount 0 = 1 := by rw [Nat.digitCount, if_pos (by decide)]
    omega
  have hpow : 10 ^ (m + k) ≤ c :=
    Nat.le_trans (Nat.pow_le_pow_right (by decide) (by omega)) (Nat.ten_pow_le_of_digitCount hc)
  have hle : limit * 10 ^ k ≤ units * 10 ^ k := by
    calc limit * 10 ^ k ≤ 10 ^ m * unitsPerOne * 10 ^ k := Nat.mul_le_mul_right _ (limit_le hm)
      _ = 10 ^ (m + k) * unitsPerOne := by rw [Nat.pow_add, Nat.mul_right_comm]
      _ ≤ c * unitsPerOne := Nat.mul_le_mul_right _ hpow
      _ = units * 10 ^ k := h
  have hk : 0 < 10 ^ k := Nat.pow_pos (by decide)
  exact absurd (Nat.le_of_mul_le_mul_right hle hk) (Nat.not_le_of_lt hu)

private theorem le_digitCount (hc : c ≠ 0) (h : c * unitsPerOne = units * 10 ^ k) :
    ¬ (Nat.digitCount c : Int) + -(k : Int) < -400 := by
  intro hsmall
  obtain ⟨m, hm⟩ : ∃ m : Nat, m = 400 := ⟨_, rfl⟩
  have hunits : 0 < units := by
    rcases Nat.eq_zero_or_pos units with rfl | hu
    · have hz : c * unitsPerOne = 0 := by rw [h, Nat.zero_mul]
      exact absurd hz (Nat.mul_ne_zero hc (Nat.ne_of_gt unitsPerOne_pos))
    · exact hu
  have hlt : 10 ^ k < 10 ^ k := by
    calc 10 ^ k ≤ units * 10 ^ k := Nat.le_mul_of_pos_left _ hunits
      _ = c * unitsPerOne := h.symm
      _ ≤ c * 10 ^ m := Nat.mul_le_mul_left _ (unitsPerOne_le hm)
      _ < 10 ^ Nat.digitCount c * 10 ^ m :=
        Nat.mul_lt_mul_of_pos_right (Nat.lt_ten_pow_digitCount c) (Nat.pow_pos (by decide))
      _ = 10 ^ (Nat.digitCount c + m) := (Nat.pow_add _ _ _).symm
      _ ≤ 10 ^ k := Nat.pow_le_pow_right (by decide) (by omega)
  exact absurd hlt (Nat.lt_irrefl _)

end Range

theorem nearest?_exact (x : Finite) : nearest? x.negative (exact x.units) = some x := by
  obtain ⟨c, k, he, hc⟩ := exists_ofScaled (Nat.le_refl 1074) x.units
  rw [Nat.sub_self, Nat.pow_zero, Nat.mul_one] at hc
  have hk : 0 < 10 ^ k := Nat.pow_pos (by decide)
  rw [exact, he]
  by_cases hz : c = 0
  · subst hz
    have hx : x.units = 0 := by
      rw [Nat.zero_mul] at hc
      exact (Nat.mul_eq_zero.mp hc.symm).resolve_right (Nat.ne_of_gt hk)
    exact nearest?_zero x hx _
  · simp only [nearest?, if_neg hz, if_neg (digitCount_le x.units_lt hc),
      if_neg (le_digitCount hz hc), quotient_neg, hc]
    exact round?_exact x hk

/-- The decimal shown for a number is read as the number. -/
theorem nearest?_shortest (x : Finite) : nearest? x.negative (shortest x.units) = some x := by
  rw [shortest, nearest?_trim]
  cases hf : ((List.range 17).flatMap fun k => (exact x.units).neighbours (k + 1)).find?
      (readsAs x.units) with
  | none => exact nearest?_exact x
  | some d =>
    have hd := List.find?_some hf
    obtain ⟨y, hy, hu⟩ := Option.map_eq_some_iff.mp (eq_of_beq hd)
    rw [Option.getD_some, nearest?_sign, hy, Option.map_some]
    cases x
    cases y
    cases hu
    rfl

end Decimal

end Keyring
