import Keyring.Query.Matching

/-!
# Evaluation by chains

Asking the operands of a chain one after another, and counting negations in front of an operand,
comes to the same as evaluation node by node: the same answer after the same questions. Nothing is
assumed of the monad but its laws, so answers may depend on what was asked before.
-/

namespace Keyring.Query.Expr

section Lists

variable {m : Type → Type} [Monad m] {α β : Type}

private theorem allM_map (p : β → m Bool) (f : α → β) (as : List α) :
    (as.map f).allM p = as.allM fun a => p (f a) := by
  induction as with
  | nil => rfl
  | cons a as ih => simp only [List.map_cons, List.allM, ih]

private theorem anyM_map (p : β → m Bool) (f : α → β) (as : List α) :
    (as.map f).anyM p = as.anyM fun a => p (f a) := by
  induction as with
  | nil => rfl
  | cons a as ih => simp only [List.map_cons, List.anyM, ih]

private theorem allM_congr {p q : α → m Bool} {as : List α} (h : ∀ a ∈ as, p a = q a) :
    as.allM p = as.allM q := by
  induction as with
  | nil => rfl
  | cons a as ih =>
    have hs := ih fun b hb => h b (List.mem_cons_of_mem a hb)
    simp only [List.allM, h a List.mem_cons_self, hs]

private theorem anyM_congr {p q : α → m Bool} {as : List α} (h : ∀ a ∈ as, p a = q a) :
    as.anyM p = as.anyM q := by
  induction as with
  | nil => rfl
  | cons a as ih =>
    have hs := ih fun b hb => h b (List.mem_cons_of_mem a hb)
    simp only [List.anyM, h a List.mem_cons_self, hs]

variable [LawfulMonad m]

theorem bind_answer (ask : m Bool) :
    (do match ← ask with | true => pure true | false => pure false) = ask := by
  have hpure : ask >>= (fun b => match b with | true => pure true | false => pure false) =
      ask >>= pure :=
    bind_congr fun answer => by cases answer <;> rfl
  exact hpure.trans (bind_pure ask)

theorem bind_isTrue (ask : m Bool) : ask >>= Answers.isTrue = ask :=
  bind_pure ask

theorem bind_ofBool (ask : m Bool) : (do return Answers.ofBool m (← ask)) = ask :=
  bind_pure ask

private theorem allM_append_singleton (p : α → m Bool) (as : List α) (a : α) :
    (as ++ [a]).allM p = (do
      let answer ← as.allM p
      if answer then p a else pure false) := by
  induction as with
  | nil =>
    simp only [List.nil_append, List.allM, pure_bind, ite_true]
    exact bind_answer (p a)
  | cons b as ih =>
    simp only [List.cons_append, List.allM, bind_assoc]
    refine bind_congr fun answer => ?_
    cases answer with
    | true => exact ih
    | false => simp

private theorem anyM_append_singleton (p : α → m Bool) (as : List α) (a : α) :
    (as ++ [a]).anyM p = (do
      let answer ← as.anyM p
      if answer then pure true else p a) := by
  induction as with
  | nil =>
    simp only [List.nil_append, List.anyM, pure_bind]
    exact bind_answer (p a)
  | cons b as ih =>
    simp only [List.cons_append, List.anyM, bind_assoc]
    refine bind_congr fun answer => ?_
    cases answer with
    | true => simp
    | false => exact ih

end Lists

variable {m : Type → Type} [Monad m] [MonadLiftT (Traced Observation) m] {V : Type}

section Chains

variable {A : Type} [Answers m A] [Searched V] [Compared m V A] (view : Questions m V)

theorem test_and (left right : Expr) :
    (Expr.and left right).test view = (do
      let answer ← (operands .conjunction left ++ [right]).allM fun e => do
        Answers.isTrue (← e.test view)
      return Answers.ofBool m answer) := by
  rw [test, ← allM_map (fun e : Expr => e.test view >>= Answers.isTrue) Subtype.val,
    List.attach_map_subtype_val]

theorem test_or (left right : Expr) :
    (Expr.or left right).test view = (do
      let answer ← (operands .disjunction left ++ [right]).anyM fun e => do
        Answers.isTrue (← e.test view)
      return Answers.ofBool m answer) := by
  rw [test, ← anyM_map (fun e : Expr => e.test view >>= Answers.isTrue) Subtype.val,
    List.attach_map_subtype_val]

end Chains

variable [LawfulMonad m] [Searched V] [Compared m V Bool] (view : Questions m V)

/-- The operands of a conjunction, asked until one does not hold, are asked as the conjunction. -/
theorem allM_operands (e : Expr) :
    (operands .conjunction e).allM (fun e => e.holds view) = e.holds view := by
  induction e with
  | and left right ihl _ =>
    rw [operands, allM_append_singleton, ihl, holds]
  | _ => simpa [operands] using allM_append_singleton (fun e : Expr => e.holds view) [] _

theorem anyM_operands (e : Expr) :
    (operands .disjunction e).anyM (fun e => e.holds view) = e.holds view := by
  induction e with
  | or left right ihl _ =>
    rw [operands, anyM_append_singleton, ihl, holds]
  | _ => simpa [operands] using anyM_append_singleton (fun e : Expr => e.holds view) [] _

/-- Negations are counted by their parity. -/
theorem holds_stripNegations (e : Expr) :
    (do return (← e.stripNegations.2.holds view) == (e.stripNegations.1 % 2 == 0)) =
      e.holds view := by
  induction e with
  | not operand ih =>
    rw [holds, ← ih]
    simp only [stripNegations, bind_assoc, pure_bind]
    refine bind_congr fun answer => ?_
    rcases Nat.mod_two_eq_zero_or_one operand.stripNegations.1 with hp | hp
    · have hq : (operand.stripNegations.1 + 1) % 2 = 1 := by omega
      cases answer <;> simp [hp, hq]
    · have hq : (operand.stripNegations.1 + 1) % 2 = 0 := by omega
      cases answer <;> simp [hp, hq]
  | _ => simp [stripNegations]

theorem test_eq_holds (e : Expr) : e.test view = e.holds view := by
  induction e using Expr.test.induct with
  | case3 operand ih =>
    rw [test, ih, ← holds_stripNegations view (.not operand)]
    rfl
  | case4 left right ih =>
    rw [test_and, bind_ofBool, allM_congr fun e he => (bind_isTrue _).trans (ih e he)]
    exact allM_operands view (.and left right)
  | case5 left right ih =>
    rw [test_or, bind_ofBool, anyM_congr fun e he => (bind_isTrue _).trans (ih e he)]
    exact anyM_operands view (.or left right)
  | case1 | case2 =>
    rw [test]
    rfl
  | _ => rw [test, holds]

end Keyring.Query.Expr
