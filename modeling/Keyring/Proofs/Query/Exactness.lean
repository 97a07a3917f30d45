import Mathlib.Algebra.Field.Rat
import Mathlib.Algebra.GroupWithZero.Basic
import Mathlib.Data.Rat.Cast.Defs
import Keyring.Proofs.Number.Rounding
import Keyring.Proofs.Query.Truth
import Keyring.Query.Building

/-!
# Values that equal a literal

A literal made of a value matches what equals the value, by exact comparison of numbers, if the
format holds the value. An integer that the format does not hold is rounded, and the literal matches
what equals the rounded number and not the integer itself.
-/

namespace Keyring

namespace Binary64

def Finite.rational (x : Finite) : ℚ :=
  (x.value : ℚ) / (unitsPerOne : ℚ)

variable {x y : Finite} {n : Int}

private theorem unitsPerOne_ne_zero : (unitsPerOne : ℚ) ≠ 0 :=
  Nat.cast_ne_zero.mpr (Nat.ne_of_gt unitsPerOne_pos)

theorem Finite.rational_eq_iff : x.rational = y.rational ↔ x.value = y.value := by
  rw [rational, rational, div_left_inj' unitsPerOne_ne_zero, Int.cast_inj]

theorem Finite.rational_eq_intCast_iff : x.rational = n ↔ x.value = n * unitsPerOne := by
  rw [rational, div_eq_iff unitsPerOne_ne_zero, ← Int.cast_natCast, ← Int.cast_mul, Int.cast_inj]

theorem Finite.natAbs_value (x : Finite) : x.value.natAbs = x.units := by
  unfold value
  split <;> omega

theorem Finite.units_of_value (h : x.value = n * unitsPerOne) :
    x.units = n.natAbs * unitsPerOne := by
  rw [← natAbs_value, h, Int.natAbs_mul, Int.natAbs_natCast]

private theorem signed_natAbs (n : Int) (units : Nat) :
    (if decide (n < 0) then -((n.natAbs * units : Nat) : Int) else (n.natAbs * units : Nat)) =
      n * units := by
  rw [Int.natCast_mul, Int.natCast_natAbs]
  by_cases hn : n < 0
  · rw [if_pos (decide_eq_true hn), abs_of_neg hn, neg_mul, neg_neg]
  · rw [if_neg (by simpa using hn), abs_of_nonneg (not_lt.mp hn)]

theorem Finite.ofInt?_of_value (h : x.value = n * unitsPerOne) :
    ∃ y, ofInt? n = some y ∧ y.value = n * unitsPerOne := by
  have hu := units_of_value h
  let y : Finite := { x with negative := decide (n < 0) }
  have hround : ofInt? n = some y := by
    have hy := round?_exact y Nat.one_pos
    rw [Nat.mul_one] at hy
    rw [ofInt?, ← hu]
    exact hy
  refine ⟨y, hround, ?_⟩
  show (if decide (n < 0) then -(x.units : Int) else x.units) = n * unitsPerOne
  rw [hu]
  exact signed_natAbs n unitsPerOne

/-- The format holds every integer up to `2 ^ 53`. -/
theorem Finite.exists_value_of_natAbs_le (h : n.natAbs ≤ 2 ^ 53) :
    ∃ x : Finite, x.value = n * unitsPerOne := by
  -- the exponents are variables, so that no power of them is ever computed
  obtain ⟨k, hk⟩ : ∃ k, k = 1074 := ⟨_, rfl⟩
  obtain ⟨room, hroom⟩ : ∃ room, room = 1024 := ⟨_, rfl⟩
  have hunits := unitsPerOne_eq hk
  have hspacing : spacing (2 ^ (k + 52)) = unitsPerOne := by
    rw [spacing, Nat.log2_two_pow, Nat.add_sub_cancel, hunits]
    rfl
  have hdvd : spacing (n.natAbs * unitsPerOne) ∣ n.natAbs * unitsPerOne := by
    rw [← hspacing]
    exact spacing_dvd_of_le _ h
  have hlt : n.natAbs * unitsPerOne < limit := by
    have hsum : k + room = 2098 := by omega
    have hmore : 53 < room := by omega
    rw [limit_eq hsum, hunits, Nat.pow_add, Nat.mul_comm]
    apply Nat.mul_lt_mul_of_pos_left _ (Nat.two_pow_pos k)
    exact Nat.lt_of_le_of_lt h (Nat.pow_lt_pow_right (by decide) hmore)
  exact ⟨⟨decide (n < 0), n.natAbs * unitsPerOne, hdvd, hlt⟩, signed_natAbs n unitsPerOne⟩

end Binary64

def Value.rational? : Value → Option ℚ
  | .integer n => some n
  | .number (.finite x) => some x.rational
  | _ => none

/-- Values of one kind that are equal; an integer and a number of the format are of one kind. -/
inductive Value.Same : Value → Value → Prop
  | text (t : Text) : Same (.text t) (.text t)
  | boolean (b : Bool) : Same (.boolean b) (.boolean b)
  | number {v w : Value} {q : ℚ} (hv : v.rational? = some q) (hw : w.rational? = some q) :
    Same v w

theorem Value.Same.symm {v w : Value} (h : v.Same w) : w.Same v := by
  cases h with
  | text t => exact .text t
  | boolean b => exact .boolean b
  | number hv hw => exact .number hw hv

theorem Value.Same.trans {u v w : Value} (h : u.Same v) (h' : v.Same w) : u.Same w := by
  cases h with
  | text t => exact h'
  | boolean b => exact h'
  | number hu hv =>
    cases h' with
    | text t => cases hv
    | boolean b => cases hv
    | number hv' hw =>
      rw [hv] at hv'
      exact .number hu (hv' ▸ hw)

/-- An integer is held if it is a number of the format. -/
def Value.Held : Value → Prop
  | .integer n => ∃ x : Binary64.Finite, x.rational = n
  | _ => True

namespace Query

variable {v w : Value} {literal : Literal}

/-- The value that a literal stands for. -/
def Literal.toValue : Literal → Value
  | .text t => .text t
  | .number x => .number (.finite x)
  | .boolean b => .boolean b

theorem Literal.equals_iff_same (literal : Literal) (w : Value) :
    literal.equals w = true ↔ literal.toValue.Same w := by
  rw [equals_iff]
  constructor
  · intro h
    cases h with
    | text t => exact .text t
    | boolean b => exact .boolean b
    | @integer x n h =>
      exact .number (q := n) (congrArg some (Binary64.Finite.rational_eq_intCast_iff.mpr h)) rfl
    | @number x y h =>
      exact .number (q := y.rational) (congrArg some (Binary64.Finite.rational_eq_iff.mpr h)) rfl
  · intro h
    cases literal with
    | text t =>
      cases h with
      | text => exact .text t
      | number hv _ => cases hv
    | boolean b =>
      cases h with
      | boolean => exact .boolean b
      | number hv _ => cases hv
    | number x =>
      cases h with
      | @number _ _ q hv hw =>
        have hx : x.rational = q := Option.some.inj hv
        subst hx
        cases w with
        | integer n =>
          have hn : (n : ℚ) = x.rational := Option.some.inj hw
          exact .integer (Binary64.Finite.rational_eq_intCast_iff.mp hn.symm)
        | number y =>
          cases y with
          | finite y =>
            have hy : y.rational = x.rational := Option.some.inj hw
            exact .number (Binary64.Finite.rational_eq_iff.mp hy.symm)
          | _ => cases hw
        | _ => cases hw

/-- The literal of a value stands for the value, but of an integer it stands for the number that the
integer is rounded to. -/
theorem Literal.toValue_of_ofValue (h : ofValue v = .ok literal) :
    literal.toValue = v ∨
      ∃ n x, v = .integer n ∧ Binary64.Finite.ofInt? n = some x ∧ literal = .number x := by
  cases v with
  | boolean b =>
    cases h
    exact .inl rfl
  | text t =>
    cases h
    exact .inl rfl
  | integer n =>
    right
    rw [ofValue] at h
    cases hx : Binary64.Finite.ofInt? n with
    | none =>
      rw [hx] at h
      cases h
    | some x =>
      rw [hx] at h
      cases h
      exact ⟨n, x, rfl, hx, rfl⟩
  | number x =>
    cases x with
    | finite x =>
      cases h
      exact .inl rfl
    | _ => cases h
  | _ => cases h

theorem same_self_of_ofValue (h : Literal.ofValue v = .ok literal) : v.Same v := by
  rcases Literal.toValue_of_ofValue h with rfl | ⟨n, x, rfl, -, -⟩
  · cases literal with
    | text t => exact .text t
    | number x => exact .number (q := x.rational) rfl rfl
    | boolean b => exact .boolean b
  · exact .number (q := n) rfl rfl

/-- A literal stands for a number that equals the value exactly if the format holds the value. -/
theorem same_toValue_iff (h : Literal.ofValue v = .ok literal) :
    literal.toValue.Same v ↔ v.Held := by
  rcases Literal.toValue_of_ofValue h with rfl | ⟨n, x, rfl, hx, rfl⟩
  · have hheld : literal.toValue.Held := by cases literal <;> trivial
    exact iff_of_true (same_self_of_ofValue h) hheld
  · show (Value.number (.finite x)).Same (.integer n) ↔ ∃ y : Binary64.Finite, y.rational = n
    constructor
    · intro hsame
      cases hsame with
      | number hv hw =>
        rw [← hw] at hv
        exact ⟨x, Option.some.inj hv⟩
    · rintro ⟨y, hy⟩
      -- the number that is the integer is the one that the integer is rounded to
      rw [Binary64.Finite.rational_eq_intCast_iff] at hy
      obtain ⟨z, hz, hvalue⟩ := Binary64.Finite.ofInt?_of_value hy
      rw [hx] at hz
      cases hz
      have hq : x.rational = n := Binary64.Finite.rational_eq_intCast_iff.mpr hvalue
      exact .number (q := n) (congrArg some hq) rfl

theorem equals_iff_same_of_held (h : Literal.ofValue v = .ok literal) (hv : v.Held) (w : Value) :
    literal.equals w = true ↔ v.Same w := by
  rw [Literal.equals_iff_same]
  exact ⟨((same_toValue_iff h).mpr hv).symm.trans, ((same_toValue_iff h).mpr hv).trans⟩

/-- An integer that the format does not hold is not even equal to its own literal. -/
theorem equals_self_iff_held (h : Literal.ofValue v = .ok literal) :
    literal.equals v = true ↔ v.Held := by
  rw [Literal.equals_iff_same]
  exact same_toValue_iff h

theorem evaluate_withProperty {name : Text} {e : Expr} (h : Literal.ofValue v = .ok literal)
    (he : Expr.withProperty name v = .ok e) :
    ∃ property : Name, property.text = name ∧ ∀ candidate : Candidate,
      (evaluate e candidate).value =
        answer literal.equals (readProperty property candidate.view).value := by
  rw [Expr.withProperty, h] at he
  simp only [Expr.ofProperty, Name.ofText?] at he
  by_cases hname : name.isName = true
  · rw [dif_pos hname] at he
    cases he
    refine ⟨⟨name, hname⟩, rfl, fun candidate => ?_⟩
    rw [evaluate, Expr.test_eq_holds, Expr.holds]
    exact matchesProperty_value ⟨name, hname⟩ literal candidate.view
  · rw [dif_neg hname] at he
    cases he

/-- A literal of a value matches exactly what equals the value if and only if the format holds the
value, which otherwise is an integer and is not matched itself. So does a comparison that is built
from a value, with what a candidate answers. -/
theorem literal_matches_exactly (h : Literal.ofValue v = .ok literal) :
    ((∀ w, literal.equals w = true ↔ v.Same w) ↔ v.Held) ∧
      (literal.equals v = true ↔ v.Held) ∧
      ∀ name e, Expr.withProperty name v = .ok e →
        ∃ property : Name, property.text = name ∧ ∀ candidate : Candidate,
          (v.Held → ((evaluate e candidate).value = true ↔
            ∃ w, (readProperty property candidate.view).value = .ok w ∧ v.Same w)) ∧
          (¬v.Held → (readProperty property candidate.view).value = .ok v →
            (evaluate e candidate).value = false) := by
  refine ⟨⟨fun hall => ?_, equals_iff_same_of_held h⟩, equals_self_iff_held h, ?_⟩
  · rw [← equals_self_iff_held h, hall]
    exact same_self_of_ofValue h
  · intro name e he
    obtain ⟨property, hname, hvalue⟩ := evaluate_withProperty h he
    refine ⟨property, hname, fun candidate => ⟨fun hv => ?_, fun hv hread => ?_⟩⟩
    · rw [hvalue, answer_eq_true]
      simp only [equals_iff_same_of_held h hv]
    · rw [hvalue, hread, ← Bool.not_eq_true]
      exact fun hself => hv ((equals_self_iff_held h).mp hself)

theorem literal_matches_exactly_greatest :
    ∃ literal, Literal.ofValue (.integer (2 ^ 53)) = .ok literal ∧
      literal.equals (.integer (2 ^ 53)) = true ∧ literal.equals (.boolean true) = false := by
  obtain ⟨x, hx⟩ := Binary64.Finite.exists_value_of_natAbs_le (n := 2 ^ 53) (Nat.le_refl _)
  have hheld : (Value.integer (2 ^ 53)).Held :=
    ⟨x, Binary64.Finite.rational_eq_intCast_iff.mpr hx⟩
  obtain ⟨y, hy, -⟩ := Binary64.Finite.ofInt?_of_value hx
  have hliteral : Literal.ofValue (.integer (2 ^ 53)) = .ok (.number y) := by
    rw [Literal.ofValue, hy]
    rfl
  obtain ⟨hmatches, hself, -⟩ := literal_matches_exactly hliteral
  refine ⟨.number y, hliteral, hself.mpr hheld, ?_⟩
  rw [← Bool.not_eq_true, hmatches.mpr hheld]
  intro hsame
  cases hsame with
  | number _ hw => cases hw

/-- The least integer that the format does not hold is not matched by its own literal, which matches
the integer before it. -/
theorem literal_misses_integer :
    ∃ literal, Literal.ofValue (.integer (2 ^ 53 + 1)) = .ok literal ∧
      literal.equals (.integer (2 ^ 53 + 1)) = false ∧
      literal.equals (.integer (2 ^ 53)) = true := by
  have hvalue : (Binary64.Finite.ofInt? (2 ^ 53 + 1)).map Binary64.Finite.value =
      some (2 ^ 53 * (Binary64.unitsPerOne : Int)) := by
    decide +kernel
  obtain ⟨x, hx, hnear⟩ := Option.map_eq_some_iff.mp hvalue
  refine ⟨.number x, ?_, ?_, ?_⟩
  · rw [Literal.ofValue, hx]
    rfl
  · show (x.value == (2 ^ 53 + 1) * (Binary64.unitsPerOne : Int)) = false
    rw [hnear]
    decide +kernel
  · exact beq_iff_eq.mpr hnear

end Query

end Keyring
