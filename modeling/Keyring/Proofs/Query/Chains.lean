import Keyring.Query.Expr

/-!
# Chains and folds

The operands of a chain and the fold that nests expressions to the left undo each other: a node is
the fold of its operands, and the operands of a fold are what was folded, as long as the first of
them is no such node itself. The number of leading negations and what they stand before make up an
expression in the same way.
-/

namespace Keyring.Query.Expr

variable {connective : Connective}

/-- The expression is a node of the connective. -/
def Connective.Joins (connective : Connective) (e : Expr) : Prop :=
  ∃ left right, e = connective.node left right

theorem joins_node (left right : Expr) : connective.Joins (connective.node left right) :=
  ⟨left, right, rfl⟩

theorem operands_node (left right : Expr) :
    operands connective (connective.node left right) = operands connective left ++ [right] := by
  cases connective <;> rfl

theorem operands_of_not_joins {e : Expr} (h : ¬connective.Joins e) :
    operands connective e = [e] := by
  cases e with
  | and left right =>
    cases connective with
    | conjunction => exact absurd (joins_node left right) h
    | disjunction => rfl
  | or left right =>
    cases connective with
    | conjunction => rfl
    | disjunction => exact absurd (joins_node left right) h
  | _ => rfl

/-- Folding more expressions on adds them to the operands. -/
theorem operands_foldl (first : Expr) (rest : List Expr) :
    operands connective (rest.foldl connective.node first) =
      operands connective first ++ rest := by
  induction rest generalizing first with
  | nil => simp
  | cons e rest ih => simp [ih, operands_node]

/-- The expression is the fold of its operands, of which the first is no node of the connective. -/
def Connective.Chains (connective : Connective) (e : Expr) : Prop :=
  ∃ first rest, operands connective e = first :: rest ∧ ¬connective.Joins first ∧
    rest.foldl connective.node first = e

theorem chains_of_not_joins {e : Expr} (h : ¬connective.Joins e) : connective.Chains e :=
  ⟨e, [], operands_of_not_joins h, h, rfl⟩

theorem Connective.Chains.node {left : Expr} (h : connective.Chains left) (right : Expr) :
    connective.Chains (connective.node left right) := by
  obtain ⟨first, rest, hoperands, hfirst, hfold⟩ := h
  refine ⟨first, rest ++ [right], ?_, hfirst, ?_⟩
  · rw [operands_node, hoperands, List.cons_append]
  · rw [List.foldl_append, hfold]
    rfl

theorem chains (connective : Connective) (e : Expr) : connective.Chains e := by
  induction e with
  | and left right ihl _ =>
    cases connective with
    | conjunction => exact ihl.node right
    | disjunction =>
      apply chains_of_not_joins
      simp [Connective.Joins, Connective.node]
  | or left right ihl _ =>
    cases connective with
    | conjunction =>
      apply chains_of_not_joins
      simp [Connective.Joins, Connective.node]
    | disjunction => exact ihl.node right
  | _ =>
    apply chains_of_not_joins
    cases connective <;> simp [Connective.Joins, Connective.node]

def IsPlain (e : Expr) : Prop :=
  ∀ operand, e ≠ .not operand

theorem stripNegations_of_isPlain {e : Expr} (h : e.IsPlain) : e.stripNegations = (0, e) := by
  cases e with
  | not operand => exact absurd rfl (h operand)
  | _ => rfl

theorem isPlain_stripNegations (e : Expr) : e.stripNegations.2.IsPlain := by
  induction e with
  | not operand ih => exact ih
  | _ =>
    intro operand
    simp [stripNegations]

theorem negate_stripNegations (e : Expr) :
    negate e.stripNegations.1 e.stripNegations.2 = e := by
  induction e with
  | not operand ih => simp [stripNegations, negate, ih]
  | _ => rfl

theorem stripNegations_negate {e : Expr} (h : e.IsPlain) (count : Nat) :
    (negate count e).stripNegations = (count, e) := by
  induction count with
  | zero => exact stripNegations_of_isPlain h
  | succ count ih => simp [negate, stripNegations, ih]

/-- A node has at least two operands, its fold from the left gives it back, and the first of them is
of another kind; any two or more expressions of which the first is of another kind are the operands
of their fold. Negations are counted up to an expression that is none, and put back they give the
same expression. -/
theorem chains_undo_folds (connective : Connective) :
    (∀ e, connective.Joins e → ∃ first second rest,
      operands connective e = first :: second :: rest ∧ ¬connective.Joins first ∧
        (second :: rest).foldl connective.node first = e) ∧
    (∀ first second rest, ¬connective.Joins first →
      operands connective ((second :: rest).foldl connective.node first) =
        first :: second :: rest) ∧
    (∀ e : Expr, e.stripNegations.2.IsPlain ∧
      negate e.stripNegations.1 e.stripNegations.2 = e) ∧
    ∀ (count : Nat) (e : Expr), e.IsPlain → (negate count e).stripNegations = (count, e) := by
  refine ⟨?_, ?_, ?_, fun count e h => stripNegations_negate h count⟩
  · intro e he
    obtain ⟨first, rest, hoperands, hfirst, hfold⟩ := chains connective e
    cases rest with
    | nil =>
      -- a fold of one operand is that operand, which is no node
      rw [List.foldl_nil] at hfold
      exact absurd (hfold ▸ he) hfirst
    | cons second rest => exact ⟨first, second, rest, hoperands, hfirst, hfold⟩
  · intro first second rest hfirst
    rw [operands_foldl, operands_of_not_joins hfirst]
    rfl
  · intro e
    exact ⟨isPlain_stripNegations e, negate_stripNegations e⟩

private def mixed : Expr :=
  .and (.and (.or .always .never) (.and .always (.not .never))) .never

theorem chains_undo_folds_mixed :
    operands .conjunction mixed = [.or .always .never, .and .always (.not .never), .never] ∧
      (∃ first second rest, operands .conjunction mixed = first :: second :: rest ∧
        ¬Connective.conjunction.Joins first ∧
        (second :: rest).foldl Connective.conjunction.node first = mixed) ∧
      (negate 3 mixed).stripNegations = (3, mixed) := by
  obtain ⟨hnode, hfold, -, hcount⟩ := chains_undo_folds .conjunction
  have hfirst : ¬Connective.conjunction.Joins (.or .always .never) := by
    simp [Connective.Joins, Connective.node]
  have hplain : mixed.IsPlain := by simp [IsPlain, mixed]
  exact ⟨hfold _ _ [.never] hfirst, hnode mixed (joins_node _ _), hcount 3 mixed hplain⟩

end Keyring.Query.Expr
