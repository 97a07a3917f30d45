import Keyring.Proofs.Query.RoundTrip

/-!
# What canonical text tells apart

The canonical text of an expression can be read back, so expressions with one text have one normal
form. The text shows more than comparison does: the two zeros are equal numbers and are written
with their signs. Expressions that are alike have the same text exactly if their zeros have the
same signs.
-/

namespace Keyring

namespace Binary64.Finite

theorem units_eq_of_value_eq {x y : Finite} (h : x.value = y.value) : x.units = y.units := by
  simp only [value] at h
  split at h <;> split at h <;> omega

theorem eq_of_value_eq {x y : Finite} (h : x.value = y.value)
    (hs : x.units = 0 → x.negative = y.negative) : x = y := by
  have hu := units_eq_of_value_eq h
  obtain ⟨xn, xu, _, _⟩ := x
  obtain ⟨yn, yu, _, _⟩ := y
  dsimp only at hu hs
  subst hu
  by_cases hz : xu = 0
  · rw [hs hz]
  · have hsigns : xn = yn := by
      cases xn <;> cases yn <;> simp only [value, Bool.false_eq_true, if_true, if_false] at h ⊢
      · omega
      · omega
    rw [hsigns]

theorem value_unsignZero (x : Finite) : x.unsignZero.value = x.value := by
  by_cases hz : x.units = 0
  · simp [unsignZero, value, hz]
  · simp [unsignZero, hz]

theorem unsignZero_eq_of_value_eq {x y : Finite} (h : x.value = y.value) :
    x.unsignZero = y.unsignZero := by
  have hu := units_eq_of_value_eq h
  apply eq_of_value_eq
  · rw [value_unsignZero, value_unsignZero, h]
  · intro hz
    by_cases hx : x.units = 0
    · simp [unsignZero, hx, hu ▸ hx]
    · simp [unsignZero, hx] at hz

end Binary64.Finite

theorem ScopeSet.eq_of_contains {s t : ScopeSet}
    (h : ∀ scope, s.contains scope = t.contains scope) : s = t := by
  have hsystem := h .system
  have hglobal := h .global
  have huser := h .user
  have hnode := h .node
  cases s
  cases t
  simp only [ScopeSet.contains] at hsystem hglobal huser hnode
  rw [hsystem, hglobal, huser, hnode]

namespace Query

/-- Literals of one kind that are equal; the two zeros are equal numbers. -/
inductive Literal.Alike : Literal → Literal → Prop
  | text (t : Text) : Alike (.text t) (.text t)
  | number {x y : Binary64.Finite} (h : x.value = y.value) : Alike (.number x) (.number y)
  | boolean (b : Bool) : Alike (.boolean b) (.boolean b)

theorem Literal.alike_iff {a b : Literal} : a.Alike b ↔ a.unsignZero = b.unsignZero := by
  constructor
  · intro h
    cases h with
    | text t => rfl
    | number h => exact congrArg Literal.number (Binary64.Finite.unsignZero_eq_of_value_eq h)
    | boolean b => rfl
  · intro h
    cases a <;> cases b <;> simp only [unsignZero, reduceCtorEq] at h
    case text.text t _ =>
      cases h
      exact .text t
    case number.number x y =>
      have hv := congrArg Binary64.Finite.value (Literal.number.inj h)
      rw [Binary64.Finite.value_unsignZero, Binary64.Finite.value_unsignZero] at hv
      exact .number hv
    case boolean.boolean b _ =>
      cases h
      exact .boolean b

namespace Expr

/-- Expressions of the same shape with equal names, equal sets of scopes and equal literals. -/
inductive Alike : Expr → Expr → Prop
  | always : Alike .always .always
  | never : Alike .never .never
  | not {a b : Expr} (h : Alike a b) : Alike (.not a) (.not b)
  | and {a b c d : Expr} (hl : Alike a b) (hr : Alike c d) : Alike (.and a c) (.and b d)
  | or {a b c d : Expr} (hl : Alike a b) (hr : Alike c d) : Alike (.or a c) (.or b d)
  | instanceOf (typeName : Name) : Alike (.instanceOf typeName) (.instanceOf typeName)
  | equals (property : Name) {v w : Literal} (h : v.Alike w) :
      Alike (.equals property v) (.equals property w)
  | scopeIn {s t : ScopeSet} (h : ∀ scope, s.contains scope = t.contains scope) :
      Alike (.scopeIn s) (.scopeIn t)

theorem Alike.unsignZeros_eq {a b : Expr} (h : a.Alike b) : a.unsignZeros = b.unsignZeros := by
  induction h with
  | always | never | instanceOf => rfl
  | not _ ih => rw [unsignZeros, unsignZeros, ih]
  | and _ _ ihl ihr => rw [unsignZeros, unsignZeros, ihl, ihr]
  | or _ _ ihl ihr => rw [unsignZeros, unsignZeros, ihl, ihr]
  | equals property h => rw [unsignZeros, unsignZeros, Literal.alike_iff.mp h]
  | scopeIn h => rw [ScopeSet.eq_of_contains h]

theorem alike_of_unsignZeros_eq {a b : Expr} (h : a.unsignZeros = b.unsignZeros) : a.Alike b := by
  induction a generalizing b with
  | always =>
    cases b <;> simp only [unsignZeros, reduceCtorEq] at h
    exact .always
  | never =>
    cases b <;> simp only [unsignZeros, reduceCtorEq] at h
    exact .never
  | not operand ih =>
    cases b <;> simp only [unsignZeros, reduceCtorEq, Expr.not.injEq] at h
    exact .not (ih h)
  | and left right ihl ihr =>
    cases b <;> simp only [unsignZeros, reduceCtorEq, Expr.and.injEq] at h
    exact .and (ihl h.1) (ihr h.2)
  | or left right ihl ihr =>
    cases b <;> simp only [unsignZeros, reduceCtorEq, Expr.or.injEq] at h
    exact .or (ihl h.1) (ihr h.2)
  | instanceOf typeName =>
    cases b <;> simp only [unsignZeros, reduceCtorEq, Expr.instanceOf.injEq] at h
    exact h ▸ .instanceOf typeName
  | equals property value =>
    cases b <;> simp only [unsignZeros, reduceCtorEq, Expr.equals.injEq] at h
    exact h.1 ▸ .equals property (Literal.alike_iff.mpr h.2)
  | scopeIn scopes =>
    cases b <;> simp only [unsignZeros, reduceCtorEq, Expr.scopeIn.injEq] at h
    exact .scopeIn fun _ => by rw [h]

/-- Expressions are compared by what they are made of, the two zeros being equal. -/
theorem same_iff {a b : Expr} : a.same b = true ↔ a.Alike b := by
  rw [same, beq_iff_eq]
  exact ⟨alike_of_unsignZeros_eq, Alike.unsignZeros_eq⟩

/-- The signs of the zeros that an expression compares with, from left to right. -/
def zeroSigns : Expr → List Bool
  | .not operand => operand.zeroSigns
  | .and left right | .or left right => left.zeroSigns ++ right.zeroSigns
  | .equals _ (.number x) => if x.units = 0 then [x.negative] else []
  | _ => []

theorem zeroSigns_norm (e : Expr) : e.norm.zeroSigns = e.zeroSigns := by
  induction e with
  | not operand ih => rw [norm, zeroSigns, zeroSigns, ih]
  | and left right ihl ihr => rw [norm, zeroSigns, zeroSigns, ihl, ihr]
  | or left right ihl ihr => rw [norm, zeroSigns, zeroSigns, ihl, ihr]
  | scopeIn scopes =>
    rw [norm]
    split <;> rfl
  | _ => rfl

theorem Alike.length_zeroSigns {a b : Expr} (h : a.Alike b) :
    a.zeroSigns.length = b.zeroSigns.length := by
  induction h with
  | not _ ih => exact ih
  | and _ _ ihl ihr => simp only [zeroSigns, List.length_append, ihl, ihr]
  | or _ _ ihl ihr => simp only [zeroSigns, List.length_append, ihl, ihr]
  | equals property h =>
    cases h with
    | number h =>
      simp only [zeroSigns, Binary64.Finite.units_eq_of_value_eq h]
      split <;> rfl
    | _ => rfl
  | _ => rfl

theorem Alike.eq_of_zeroSigns {a b : Expr} (h : a.Alike b) (hs : a.zeroSigns = b.zeroSigns) :
    a = b := by
  induction h with
  | always | never | instanceOf => rfl
  | not _ ih => rw [ih hs]
  | and hl _ ihl ihr =>
    obtain ⟨hleft, hright⟩ := List.append_inj hs hl.length_zeroSigns
    rw [ihl hleft, ihr hright]
  | or hl _ ihl ihr =>
    obtain ⟨hleft, hright⟩ := List.append_inj hs hl.length_zeroSigns
    rw [ihl hleft, ihr hright]
  | equals property h =>
    cases h with
    | @number x y h =>
      have hsign : x.units = 0 → x.negative = y.negative := by
        intro hz
        have hz' : y.units = 0 := Binary64.Finite.units_eq_of_value_eq h ▸ hz
        simpa [zeroSigns, hz, hz'] using hs
      rw [Binary64.Finite.eq_of_value_eq h hsign]
    | _ => rfl
  | scopeIn h => rw [ScopeSet.eq_of_contains h]

theorem Alike.refl (e : Expr) : e.Alike e :=
  alike_of_unsignZeros_eq rfl

/-- Text is read back as the normal form, so it tells normal forms apart, and it is written of the
normal form. -/
theorem render_eq_iff (a b : Expr) : a.render = b.render ↔ a.norm = b.norm := by
  constructor
  · intro h
    have hread := a.ofText_render
    rw [h, b.ofText_render] at hread
    exact (Except.ok.inj hread).symm
  · intro h
    rw [← a.render_norm, h, b.render_norm]

/-- Two expressions have one canonical text exactly if their normal forms are the same and the zeros
in them have the same signs. To be the same is to have the same shape with equal names, scopes and
literals. -/
theorem canonical_text_identifies (a b : Expr) :
    (a.norm.same b.norm = true ↔ a.norm.Alike b.norm) ∧
    (a.render = b.render ↔ a.norm.same b.norm = true ∧ a.zeroSigns = b.zeroSigns) := by
  refine ⟨same_iff, ?_⟩
  rw [render_eq_iff, same_iff, ← zeroSigns_norm a, ← zeroSigns_norm b]
  constructor
  · intro h
    rw [h]
    exact ⟨.refl _, rfl⟩
  · rintro ⟨halike, hsigns⟩
    exact halike.eq_of_zeroSigns hsigns

private theorem isName_tested : ("x" : Text).isName = true := by decide

private theorem spacing_dvd_zero : Binary64.spacing 0 ∣ 0 :=
  ⟨0, rfl⟩

private def isZero (negative : Bool) : Expr :=
  .equals ⟨"x", isName_tested⟩ (.number ⟨negative, 0, spacing_dvd_zero, Binary64.limit_pos⟩)

/-- The two zeros are the same number in two texts. -/
theorem zeros_have_two_texts :
    (isZero false).norm.same (isZero true).norm = true ∧
      (isZero false).render = "(x == 0.0)" ∧ (isZero true).render = "(x == -0.0)" ∧
      (isZero false).render ≠ (isZero true).render := by
  refine ⟨?_, ?_, ?_, ?_⟩
  · decide
  · decide
  · decide
  · decide

end Expr

end Query

end Keyring
