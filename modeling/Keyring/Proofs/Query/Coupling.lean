import Keyring.Proofs.Query.Evaluation

/-!
# Coupled evaluations

Two evaluations of one expression, in two monads and on two views. What relates the answers of the
tests relates the answers of the whole expression, if every step of an evaluation keeps it.
-/

namespace Keyring.Query

/-- A relation between the answers of two evaluations, and one between their decisions, that the
steps of an evaluation keep. -/
structure Coupling (m n : Type → Type) [Monad m] [Monad n] (A B : Type) [Answers m A]
    [Answers n B] where
  answers : m A → n B → Prop
  decisions : m Bool → n Bool → Prop
  answer (b : Bool) : answers (pure (Answers.ofBool m b)) (pure (Answers.ofBool n b))
  equals {x : m A} {y : n B} (h : answers x y) (b : Bool) :
    answers (do Answers.equals (← x) b) (do Answers.equals (← y) b)
  decision (b : Bool) : decisions (pure b) (pure b)
  isTrue {x : m A} {y : n B} (h : answers x y) :
    decisions (do Answers.isTrue (← x)) (do Answers.isTrue (← y))
  bind {x : m Bool} {y : n Bool} {next : Bool → m Bool} {follow : Bool → n Bool}
    (h : decisions x y) (hn : ∀ b, decisions (next b) (follow b)) :
    decisions (x >>= next) (y >>= follow)
  decided {x : m Bool} {y : n Bool} (h : decisions x y) :
    answers (do return Answers.ofBool m (← x)) (do return Answers.ofBool n (← y))

namespace Coupling

variable {m n : Type → Type} [Monad m] [Monad n] {A B : Type} [Answers m A] [Answers n B]
  (c : Coupling m n A B)

def equal : Coupling m m A A where
  answers := Eq
  decisions := Eq
  answer _ := rfl
  equals h _ := h ▸ rfl
  decision _ := rfl
  isTrue h := h ▸ rfl
  bind h hn := by
    rw [h]
    exact bind_congr hn
  decided h := h ▸ rfl

section Lists

variable {α : Type} {p : α → m Bool} {q : α → n Bool} {as : List α}

theorem allM (h : ∀ a ∈ as, c.decisions (p a) (q a)) : c.decisions (as.allM p) (as.allM q) := by
  induction as with
  | nil => exact c.decision true
  | cons a as ih =>
    have hrest := ih fun b hb => h b (List.mem_cons_of_mem a hb)
    refine c.bind (h a List.mem_cons_self) fun b => ?_
    cases b with
    | true => exact hrest
    | false => exact c.decision false

theorem anyM (h : ∀ a ∈ as, c.decisions (p a) (q a)) : c.decisions (as.anyM p) (as.anyM q) := by
  induction as with
  | nil => exact c.decision false
  | cons a as ih =>
    have hrest := ih fun b hb => h b (List.mem_cons_of_mem a hb)
    refine c.bind (h a List.mem_cons_self) fun b => ?_
    cases b with
    | true => exact c.decision true
    | false => exact hrest

end Lists

variable [MonadLiftT (Traced Observation) m] [MonadLiftT (Traced Observation) n]
  {V W : Type} [Searched V] [Searched W] [Compared m V A] [Compared n W B]

structure Tests (view : Questions m V) (other : Questions n W) : Prop where
  type (name : Name) : c.answers (matchesType name view) (matchesType name other)
  scope (scopes : ScopeSet) : c.answers (matchesScope scopes view) (matchesScope scopes other)
  property (name : Name) (expected : Literal) :
    c.answers (matchesProperty name expected view) (matchesProperty name expected other)

theorem test {view : Questions m V} {other : Questions n W} (h : c.Tests view other) (e : Expr) :
    c.answers (e.test view) (e.test other) := by
  induction e using Expr.test.induct with
  | case1 =>
    rw [Expr.test, Expr.test]
    exact c.answer true
  | case2 =>
    rw [Expr.test, Expr.test]
    exact c.answer false
  | case3 operand ih =>
    rw [Expr.test, Expr.test]
    exact c.equals ih _
  | case4 left right ih =>
    rw [Expr.test_and, Expr.test_and]
    exact c.decided (c.allM fun e he => c.isTrue (ih e he))
  | case5 left right ih =>
    rw [Expr.test_or, Expr.test_or]
    exact c.decided (c.anyM fun e he => c.isTrue (ih e he))
  | case6 typeName =>
    rw [Expr.test, Expr.test]
    exact h.type typeName
  | case7 property value =>
    rw [Expr.test, Expr.test]
    exact h.property property value
  | case8 scopes =>
    rw [Expr.test, Expr.test]
    exact h.scope scopes

end Coupling

end Keyring.Query
