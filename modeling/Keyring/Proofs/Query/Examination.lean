import Keyring.Proofs.Query.Coupling

/-!
# Examination

Evaluation where values may be of classes with code of their own. What it comes to does not depend
on what is seen on the way, and on a view that finds plain values it is evaluation.
-/

namespace Keyring

instance : MonadLift (Traced Observation) Id where
  monadLift ask := ask.value

abbrev Untraced (ε : Type) := ExceptT ε Id

def FoundView.answers {ε : Type} (view : FoundView) : Questions (Untraced ε) Found :=
  view.map fun ask => .lift (pure ask.value)

namespace Query

def answer {V : Type} (test : V → Bool) : Outcome V → Bool
  | .ok value => test value
  | .error _ => false

theorem answer_eq_true {V : Type} {test : V → Bool} {outcome : Outcome V} :
    answer test outcome = true ↔ ∃ value, outcome = .ok value ∧ test value = true := by
  cases outcome <;> simp [answer]

theorem readProperty_map {m n : Type → Type} {V W : Type} (hand : m (Outcome V) → n (Outcome W))
    (view : Questions m V) (property : Name) :
    readProperty property (view.map hand) = hand (readProperty property view) := by
  unfold readProperty
  split
  · rfl
  · split <;> rfl

section Untraced

variable {ε : Type}

def isNamed (name : Text) (names : Found) : Bool :=
  match Searched.lists name names with
  | .ok answer => answer
  | .error _ => false

theorem run_ofExcept {α : Type} (outcome : Except ε α) :
    (ofExcept outcome : Untraced ε α).run = outcome := by
  cases outcome <;> rfl

variable {A : Type} [Answers (Untraced ε) A] (view : FoundView)

theorem matchesType_answers (name : Name) :
    (matchesType name view.answers : Untraced ε A) =
      pure (Answers.ofBool (Untraced ε) (answer (isNamed name.text) view.typeNames.value)) := by
  show (pure view.typeNames.value >>= _ : Untraced ε A) = _
  rw [pure_bind]
  cases view.typeNames.value with
  | error fault => rfl
  | ok names =>
    simp only [answer, isNamed]
    cases Searched.lists name.text names <;> rfl

theorem matchesScope_answers (scopes : ScopeSet) :
    (matchesScope scopes view.answers : Untraced ε A) =
      pure (Answers.ofBool (Untraced ε) (answer (Searched.isIn scopes) view.scope.value)) := by
  show (pure view.scope.value >>= _ : Untraced ε A) = _
  rw [pure_bind]
  cases view.scope.value <;> rfl

theorem matchesProperty_answers [Compared (Untraced ε) Found A] (property : Name)
    (expected : Literal) :
    (matchesProperty property expected view.answers : Untraced ε A) =
      match (readProperty property view).value with
      | .error _ => pure (Answers.ofBool (Untraced ε) false)
      | .ok found => Compared.equals expected found := by
  rw [matchesProperty, FoundView.answers, readProperty_map]
  show (pure (readProperty property view).value >>= _ : Untraced ε A) = _
  rw [pure_bind]
  cases (readProperty property view).value <;> rfl

end Untraced

/-! The value of an evaluation is that of the evaluation without a trace. -/

section Values

variable {α β : Type} {x : ExceptT Fault (Traced Observation) α} {y : Untraced Fault α}

private theorem value_run_bind {next : α → ExceptT Fault (Traced Observation) β}
    {follow : α → Untraced Fault β} (h : x.run.value = y.run)
    (hn : ∀ a, (next a).run.value = (follow a).run) :
    (x >>= next).run.value = (y >>= follow).run := by
  show (ExceptT.bindCont next x.run.value).value = ExceptT.bindCont follow y.run
  rw [h]
  cases y.run with
  | error fault => rfl
  | ok a => exact hn a

private theorem value_run_ofExcept (outcome : Outcome α) :
    (ofExcept outcome : ExceptT Fault (Traced Observation) α).run.value =
      (ofExcept outcome : Untraced Fault α).run := by
  cases outcome <;> rfl

end Values

private def untraced :
    Coupling (ExceptT Fault (Traced Observation)) (Untraced Fault) Answer Answer where
  answers x y := x.run.value = y.run
  decisions x y := x.run.value = y.run
  answer _ := rfl
  equals h b := value_run_bind h fun a => value_run_ofExcept (a.equals b)
  decision _ := rfl
  isTrue h := value_run_bind h fun a => value_run_ofExcept a.isTrue
  bind h hn := value_run_bind h hn
  decided h := value_run_bind h fun _ => rfl

private theorem untraced_tests (view : FoundView) :
    untraced.Tests (view.map ExceptT.lift) view.answers where
  type name := by
    refine value_run_bind rfl fun outcome => ?_
    cases outcome with
    | error fault => rfl
    | ok names => 
      dsimp only
      cases Searched.lists name.text names <;> rfl
  scope scopes := by
    refine value_run_bind rfl fun outcome => ?_
    cases outcome <;> rfl
  property name expected := by
    refine value_run_bind ?_ fun outcome => ?_
    · rw [FoundView.answers, readProperty_map, readProperty_map]
      rfl
    · cases outcome with
      | error fault => rfl
      | ok found => exact value_run_ofExcept _

theorem value_examine (e : Expr) (view : FoundView) :
    (examine e view).value = (e.test view.answers).run :=
  untraced.test (untraced_tests view) e

/-! On plain values, nothing can go wrong in a comparison. -/

/-- An evaluation that cannot be upset, as one that can: the answer and what is seen are the same. -/
private structure Carries {α β : Type} (f : α → β) (x : Traced Observation α)
    (y : ExceptT Fault (Traced Observation) β) : Prop where
  value : y.run.value = .ok (f x.value)
  trace : y.run.trace = x.trace

private theorem Carries.pure {α β : Type} {f : α → β} (a : α) :
    Carries f (Pure.pure a) (Pure.pure (f a)) := ⟨rfl, rfl⟩

private theorem Carries.bind {α β γ δ : Type} {f : α → β} {g : γ → δ}
    {x : Traced Observation α} {y : ExceptT Fault (Traced Observation) β}
    {next : α → Traced Observation γ} {follow : β → ExceptT Fault (Traced Observation) δ}
    (h : Carries f x y) (hn : ∀ a, Carries g (next a) (follow (f a))) :
    Carries g (x >>= next) (y >>= follow) where
  value := by
    show (ExceptT.bindCont follow y.run.value).value = _
    rw [h.value]
    exact (hn x.value).value
  trace := by
    show y.run.trace ++ (ExceptT.bindCont follow y.run.value).trace = _
    rw [h.value, h.trace]
    exact congrArg _ (hn x.value).trace

private def carrying :
    Coupling (Traced Observation) (ExceptT Fault (Traced Observation)) Bool Answer where
  answers := Carries .boolean
  decisions := Carries id
  answer _ := .pure _
  equals h _ := h.bind fun _ => .pure _
  decision _ := .pure _
  isTrue h := h.bind fun _ => .pure _
  bind h hn := h.bind hn
  decided h := h.bind fun _ => .pure _

private theorem carries_found (ask : Traced Observation (Outcome Value)) :
    Carries (·.map Found.plain) ask (ExceptT.lift (do return (← ask).map .plain)) where
  value := rfl
  trace := by
    show (ask.trace ++ []) ++ [] = ask.trace
    rw [List.append_nil, List.append_nil]

private theorem carrying_tests (view : View) :
    carrying.Tests view (view.found.map ExceptT.lift) where
  type name := by
    refine (carries_found view.typeNames).bind fun outcome => ?_
    cases outcome with
    | error fault => exact ⟨rfl, rfl⟩
    | ok names =>
      show Carries Answer.boolean
        (match names.lists name.text with
          | .ok answer => Pure.pure answer
          | .error fault => failed (typeLookupFailed fault.name))
        (match names.lists name.text with
          | .ok answer => Pure.pure (Answer.boolean answer)
          | .error fault => failed (typeLookupFailed fault.name))
      cases names.lists name.text <;> exact ⟨rfl, rfl⟩
  scope scopes := by
    refine (carries_found view.scope).bind fun outcome => ?_
    cases outcome <;> exact ⟨rfl, rfl⟩
  property name expected := by
    have hread : Carries (·.map Found.plain) (readProperty name view)
        (readProperty name (view.found.map ExceptT.lift)) := by
      rw [View.found, readProperty_map, readProperty_map]
      exact carries_found _
    refine hread.bind fun outcome => ?_
    cases outcome <;> exact ⟨rfl, rfl⟩

/-- On a view that finds plain values, every comparison tells: the answer is a boolean, and the
evaluation sees what it always sees. -/
theorem examine_found (e : Expr) (view : View) :
    examine e view.found = (do return .ok (.boolean (← e.test view))) := by
  have h := carrying.test (carrying_tests view) e
  refine Traced.ext h.value ?_
  rw [Traced.trace_bind, Traced.trace_pure, List.append_nil]
  exact h.trace

end Query

end Keyring
