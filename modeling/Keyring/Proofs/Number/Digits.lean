import Mathlib.Tactic.Ring
import Keyring.Number.Layout

/-!
# Runs of digits

The digits of a number stand for it, and zeros before them or after them shift it as they should.
-/

namespace Keyring

theorem CodePoint.ne_of_isDigit {c d : CodePoint} (hc : c.isDigit = true)
    (hd : d.isDigit = false) : c ≠ d := by
  apply ne_of_apply_ne CodePoint.isDigit
  rw [hc, hd]
  decide

theorem CodePoint.isBlank_of_between {c : CodePoint} (hlow : 0x20 < c.val) (hhigh : c.val < 0x80) :
    c.isBlank = false := by
  simp only [CodePoint.isBlank, Bool.or_eq_false_iff, Bool.and_eq_false_iff,
    decide_eq_false_iff_not, beq_eq_false_iff_ne]
  omega

theorem CodePoint.val_of_isDigit {c : CodePoint} (h : c.isDigit = true) :
    0x30 ≤ c.val ∧ c.val ≤ 0x39 := by
  simpa [CodePoint.isDigit] using h

namespace Text

def Digits (t : Text) : Prop :=
  t ≠ [] ∧ ∀ c ∈ t, c.isDigit = true

private theorem foldl_digits (b : Text) (n : Nat) :
    b.foldl (fun n c => 10 * n + (c.digit?.getD 0)) n = n * 10 ^ b.length + toNat b := by
  induction b generalizing n with
  | nil => simp [toNat]
  | cons c b ih =>
    have hstart : toNat (c :: b) = c.digit?.getD 0 * 10 ^ b.length + toNat b := by
      rw [toNat, List.foldl_cons, ih, Nat.mul_zero, Nat.zero_add]
    rw [List.foldl_cons, ih, hstart, List.length_cons, Nat.pow_succ]
    ring

theorem toNat_append (a b : Text) : toNat (a ++ b) = toNat a * 10 ^ b.length + toNat b := by
  rw [toNat, List.foldl_append, foldl_digits]
  rfl

private theorem digitOf_digit {d : Nat} (h : d < 10) : (digitOf d).digit? = some d := by
  have hd : ∀ d : Fin 10, (digitOf d.val).digit? = some d.val := by decide
  exact hd ⟨d, h⟩

private theorem isDigit_of_digit? {c : CodePoint} {d : Nat} (h : c.digit? = some d) :
    c.isDigit = true := by
  unfold CodePoint.digit? at h
  split at h
  · assumption
  · cases h

private theorem digitOf_isDigit {d : Nat} (h : d < 10) : (digitOf d).isDigit = true :=
  isDigit_of_digit? (digitOf_digit h)

theorem toNat_ofNat (n : Nat) : toNat (ofNat n) = n := by
  have hone : ∀ {d}, d < 10 → toNat [digitOf d] = d := by
    intro d hd
    simp [toNat, digitOf_digit hd]
  induction n using Text.ofNat.induct with
  | case1 n h => rw [ofNat, if_pos h, hone h]
  | case2 n h ih =>
    rw [ofNat, if_neg h, toNat_append, ih, hone (Nat.mod_lt _ (by decide))]
    simp only [List.length_singleton, Nat.pow_one]
    omega

theorem ofNat_digits (n : Nat) : Digits (ofNat n) := by
  induction n using Text.ofNat.induct with
  | case1 n h =>
    rw [ofNat, if_pos h]
    exact ⟨List.cons_ne_nil _ _, fun c hc => List.mem_singleton.mp hc ▸ digitOf_isDigit h⟩
  | case2 n h ih =>
    rw [ofNat, if_neg h]
    refine ⟨List.append_ne_nil_of_left_ne_nil ih.1 _, fun c hc => ?_⟩
    rcases List.mem_append.mp hc with hc | hc
    · exact ih.2 c hc
    · exact List.mem_singleton.mp hc ▸ digitOf_isDigit (Nat.mod_lt _ (by decide))

theorem Digits.append {a b : Text} (ha : Digits a) (hb : ∀ c ∈ b, c.isDigit = true) :
    Digits (a ++ b) :=
  ⟨List.append_ne_nil_of_left_ne_nil ha.1 _,
    fun c hc => (List.mem_append.mp hc).elim (ha.2 c) (hb c)⟩

theorem Digits.take {t : Text} (ht : Digits t) {n : Nat} (hn : 0 < n) : Digits (t.take n) := by
  refine ⟨?_, fun c hc => ht.2 c (List.mem_of_mem_take hc)⟩
  obtain ⟨c, t, rfl⟩ := List.exists_cons_of_ne_nil ht.1
  obtain ⟨n, rfl⟩ := Nat.exists_eq_succ_of_ne_zero (Nat.ne_of_gt hn)
  exact List.cons_ne_nil _ _

theorem Digits.drop {t : Text} (ht : Digits t) {n : Nat} (hn : n < t.length) :
    Digits (t.drop n) := by
  refine ⟨fun he => ?_, fun c hc => ht.2 c (List.mem_of_mem_drop hc)⟩
  have hlen := List.drop_eq_nil_iff.mp he
  omega

theorem zeros_isDigit (k : Nat) : ∀ c ∈ NumberLayout.zeros k, c.isDigit = true := by
  intro c hc
  rw [List.eq_of_mem_replicate hc]
  decide

theorem zeros_append_digits (k : Nat) {t : Text} (ht : Digits t) :
    Digits (NumberLayout.zeros k ++ t) :=
  ⟨List.append_ne_nil_of_right_ne_nil _ ht.1,
    fun c hc => (List.mem_append.mp hc).elim (zeros_isDigit k c) (ht.2 c)⟩

theorem toNat_zeros (k : Nat) : toNat (NumberLayout.zeros k) = 0 := by
  induction k with
  | zero => rfl
  | succ k ih =>
    have hzero : toNat [CodePoint.ofChar '0'] = 0 := by decide
    have hcons : NumberLayout.zeros (k + 1) = [CodePoint.ofChar '0'] ++ NumberLayout.zeros k := rfl
    rw [hcons, toNat_append, ih, hzero, Nat.zero_mul]

theorem toNat_zeros_append (k : Nat) (t : Text) : toNat (NumberLayout.zeros k ++ t) = toNat t := by
  rw [toNat_append, toNat_zeros, Nat.zero_mul, Nat.zero_add]

end Text

end Keyring
