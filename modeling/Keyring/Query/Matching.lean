import Keyring.Candidate.View
import Keyring.Query.Expr

/-!
# Matching

Whether an expression holds of a candidate. A test whose lookup fails, or finds a value of another
kind, does not hold; the failure is logged by the name of what was looked up and of what went wrong,
and goes no further.
-/

namespace Keyring.Query

def typeLookupFailed (cause : Text) : Observation :=
  .event ⟨"cql_type_lookup_failed", .debug, [("error_type", .text cause)]⟩

def scopeLookupFailed (cause : Text) : Observation :=
  .event ⟨"cql_scope_lookup_failed", .debug, [("error_type", .text cause)]⟩

def propertyLookupFailed (property : Text) (cause : Option Text) : Observation :=
  .event ⟨"cql_property_lookup_failed", .debug,
    [("property", .text property), ("cause", .ofText? cause)]⟩

/-- What a fault is recorded as when a property is read. A cause that is there counts: exceptions
are truthy. -/
def faultCause : Fault → Option Text
  | .lookup _ cause => cause
  | fault => some fault.name

/-- What a test may answer, in the monad in which it is made. -/
class Answers (m : Type → Type) (A : Type) where
  ofBool : Bool → A
  isTrue : A → m Bool
  equals : A → Bool → m A

instance {m : Type → Type} [Monad m] : Answers m Bool where
  ofBool answer := answer
  isTrue answer := return answer
  equals answer expected := return answer == expected

/-- Values that may stand for type names and for scopes. -/
class Searched (V : Type) where
  lists : Text → V → Outcome Bool
  isIn : ScopeSet → V → Bool

/-- Values that are compared with literals, in the monad in which the comparison answers. -/
class Compared (m : Type → Type) (V : Type) (A : outParam Type) where
  equals : Literal → V → m A

def isScopeIn (scopes : ScopeSet) : Value → Bool
  | .scope s => scopes.contains s
  | _ => false

instance : Searched Value where
  lists := Value.lists
  isIn := isScopeIn

instance {m : Type → Type} [Monad m] : Compared m Value Bool where
  equals expected value := return expected.equals value

section Leaves

variable {m : Type → Type} [Monad m] [MonadLiftT (Traced Observation) m] {V A : Type}
  [Answers m A]

def failed (observation : Observation) : m A := do
  liftM (Traced.observe observation)
  return Answers.ofBool m false

variable [Searched V]

def matchesType (name : Name) (view : Questions m V) : m A := do
  match ← view.typeNames with
  | .error fault => failed (typeLookupFailed fault.name)
  | .ok names =>
    match Searched.lists name.text names with
    | .ok answer => return Answers.ofBool m answer
    | .error fault => failed (typeLookupFailed fault.name)

def matchesScope (scopes : ScopeSet) (view : Questions m V) : m A := do
  match ← view.scope with
  | .error fault => failed (scopeLookupFailed fault.name)
  | .ok value => return Answers.ofBool m (Searched.isIn scopes value)

def readProperty (name : Name) (view : Questions m V) : m (Outcome V) :=
  if name = .id then view.id
  else if name = .scope then view.scope
  else view.property name.text

def matchesProperty [Compared m V A] (name : Name) (expected : Literal) (view : Questions m V) :
    m A := do
  match ← readProperty name view with
  | .error fault => failed (propertyLookupFailed name.text (faultCause fault))
  -- only the lookup is guarded: what the comparison comes to, the test comes to
  | .ok value => Compared.equals expected value

end Leaves

namespace Expr

variable {m : Type → Type} [Monad m] [MonadLiftT (Traced Observation) m] {V : Type} [Searched V]

/-- Node by node: a conjunction asks its right side only if the left side holds, a disjunction only
if the left side does not. -/
def holds [Compared m V Bool] (view : Questions m V) : Expr → m Bool
  | .always => return true
  | .never => return false
  | .not operand => do
    let answer ← operand.holds view
    return !answer
  | .and left right => do
    let answer ← left.holds view
    if answer then right.holds view else return false
  | .or left right => do
    let answer ← left.holds view
    if answer then return true else right.holds view
  | .instanceOf typeName => matchesType typeName view
  | .equals property value => matchesProperty property value view
  | .scopeIn scopes => matchesScope scopes view

theorem sizeOf_lt_of_mem_operands {connective : Connective} {e left right : Expr}
    (h : e ∈ operands connective left ++ [right]) :
    sizeOf e < 1 + sizeOf left + sizeOf right := by
  have hle : ∀ root : Expr, ∀ e ∈ operands connective root, sizeOf e ≤ sizeOf root := by
    intro root
    induction root with
    | and l r ihl _ =>
      intro e he
      cases connective with
      | conjunction =>
        rcases List.mem_append.mp he with he | he
        · have := ihl e he
          simp only [Expr.and.sizeOf_spec]
          omega
        · rw [List.mem_singleton.mp he]
          simp only [Expr.and.sizeOf_spec]
          omega
      | disjunction =>
        exact Nat.le_of_eq (congrArg sizeOf (List.mem_singleton.mp he))
    | or l r ihl _ =>
      intro e he
      cases connective with
      | conjunction =>
        exact Nat.le_of_eq (congrArg sizeOf (List.mem_singleton.mp he))
      | disjunction =>
        rcases List.mem_append.mp he with he | he
        · have := ihl e he
          simp only [Expr.or.sizeOf_spec]
          omega
        · rw [List.mem_singleton.mp he]
          simp only [Expr.or.sizeOf_spec]
          omega
    | _ =>
      intro e he
      exact Nat.le_of_eq (congrArg sizeOf (List.mem_singleton.mp he))
  rcases List.mem_append.mp h with h | h
  · have := hle left e h
    omega
  · rw [List.mem_singleton.mp h]
    omega

theorem sizeOf_stripNegations_le (e : Expr) : sizeOf e.stripNegations.2 ≤ sizeOf e := by
  induction e with
  | not operand ih =>
    simp only [stripNegations, Expr.not.sizeOf_spec]
    omega
  | _ => exact Nat.le_refl _

/-- Whether an expression holds of a candidate, chain by chain: the operands of a chain are asked
from the left up to the first that decides it, and only the parity of leading negations counts. -/
def test {A : Type} [Answers m A] [Compared m V A] (view : Questions m V) : Expr → m A
  | .always => return Answers.ofBool m true
  | .never => return Answers.ofBool m false
  | .not operand => do
    let answer ← operand.stripNegations.2.test view
    Answers.equals answer ((operand.stripNegations.1 + 1) % 2 == 0)
  | .and left right => do
    let answer ← (operands .conjunction left ++ [right]).attach.allM fun ⟨e, _⟩ => do
      Answers.isTrue (← e.test view)
    return Answers.ofBool m answer
  | .or left right => do
    let answer ← (operands .disjunction left ++ [right]).attach.anyM fun ⟨e, _⟩ => do
      Answers.isTrue (← e.test view)
    return Answers.ofBool m answer
  | .instanceOf typeName => matchesType typeName view
  | .equals property value => matchesProperty property value view
  | .scopeIn scopes => matchesScope scopes view
termination_by e => sizeOf e
decreasing_by
  · have := sizeOf_stripNegations_le operand
    simp only [Expr.not.sizeOf_spec]
    omega
  · rename_i h
    simpa only [Expr.and.sizeOf_spec] using sizeOf_lt_of_mem_operands h
  · rename_i h
    simpa only [Expr.or.sizeOf_spec] using sizeOf_lt_of_mem_operands h

end Expr

def evaluate (e : Expr) (candidate : Candidate) : Traced Observation Bool :=
  e.test candidate.view

section Custom

instance : Searched Found where
  lists name
    | .plain value => value.lists name
    | .custom c => c.contains name
  isIn scopes
    | .plain value => isScopeIn scopes value
    | .custom _ => false

variable {m : Type → Type} [Monad m] [MonadExceptOf Fault m]

instance : Answers m Answer where
  ofBool := .boolean
  isTrue answer := ofExcept answer.isTrue
  equals answer expected := ofExcept (answer.equals expected)

instance : Compared m Found Answer where
  equals expected found := ofExcept (expected.compare found)

end Custom

/-- Evaluation where values may be of classes with code of their own. A lookup that fails is still
the failure of its test; what a comparison raises is caught nowhere and ends the evaluation. -/
def examine (e : Expr) (view : FoundView) :
    Traced Observation (Outcome Answer) :=
  (e.test (view.map ExceptT.lift : Questions (ExceptT Fault (Traced Observation)) Found)).run

end Keyring.Query
