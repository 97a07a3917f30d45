import Keyring.Proofs.Query.Examination

/-!
# Truth

An expression holds of a candidate by the truth tables, each test being decided by its own lookup.
A lookup that fails decides its test as one that finds nothing does, and no other test. What can
upset an evaluation is a comparison: one that raises, or that gives no boolean.
-/

namespace Keyring.Query

/-- The value is of the literal's kind and equal to it. -/
inductive Literal.Equates : Literal → Value → Prop
  | text (t : Text) : Equates (.text t) (.text t)
  | boolean (b : Bool) : Equates (.boolean b) (.boolean b)
  | integer {x : Binary64.Finite} {n : Int} (h : x.value = n * Binary64.unitsPerOne) :
      Equates (.number x) (.integer n)
  | number {x y : Binary64.Finite} (h : x.value = y.value) :
      Equates (.number x) (.number (.finite y))

theorem Literal.equals_iff (expected : Literal) (value : Value) :
    expected.equals value = true ↔ expected.Equates value := by
  constructor
  · intro h
    unfold Literal.equals at h
    split at h
    · rw [beq_iff_eq] at h
      exact h ▸ .text _
    · rw [beq_iff_eq] at h
      exact h ▸ .boolean _
    · exact .integer (beq_iff_eq.mp h)
    · exact .number (beq_iff_eq.mp h)
    · cases h
  · intro h
    cases h with
    | text t => exact beq_self_eq_true t
    | boolean b => exact beq_self_eq_true b
    | integer h => exact beq_iff_eq.mpr h
    | number h => exact beq_iff_eq.mpr h

theorem matchesProperty_value (property : Name) (expected : Literal) (view : View) :
    (matchesProperty property expected view).value =
      answer expected.equals (readProperty property view).value := by
  rw [matchesProperty, Traced.value_bind]
  cases (readProperty property view).value <;> rfl

namespace Expr

variable {view : View}

theorem value_holds_and (left right : Expr) :
    ((Expr.and left right).holds view).value =
      ((left.holds view).value && (right.holds view).value) := by
  rw [holds, Traced.value_bind]
  cases (left.holds view).value <;> rfl

theorem value_holds_or (left right : Expr) :
    ((Expr.or left right).holds view).value =
      ((left.holds view).value || (right.holds view).value) := by
  rw [holds, Traced.value_bind]
  cases (left.holds view).value <;> rfl

end Expr

/-! What it is for an expression to be true of what a view finds. -/

/-- What is found is of the literal's kind and equal to it, a value of a class of its own by what
that class says. -/
inductive Literal.Matches : Literal → Found → Prop
  | plain {expected : Literal} {value : Value} (h : expected.Equates value) :
      Matches expected (.plain value)
  | text {t : Text} {c : Custom} (hk : c.isA .text = .ok true)
      (h : c.equals (.text t) = .ok (.boolean true)) : Matches (.text t) (.custom c)
  | number {x : Binary64.Finite} {c : Custom} (hk : c.isNumber = .ok true)
      (h : c.equals (.number x) = .ok (.boolean true)) : Matches (.number x) (.custom c)

/-- What is found is no text and has the name among its elements. -/
inductive Lists (name : Text) : Found → Prop
  | plain {items : List Value} (h : .text name ∈ items) : Lists name (.plain (.list items))
  | custom {c : Custom} (hb : c.base ≠ some .text) (h : c.contains name = .ok true) :
      Lists name (.custom c)

inductive HasPart (name : Text) : Found → Prop
  | plain {t : Text} (h : t.contains name = true) : HasPart name (.plain (.text t))
  | custom {c : Custom} (hb : c.base = some .text) (h : c.contains name = .ok true) :
      HasPart name (.custom c)

/-- What it is for an expression to be true of a view: a test asks that its lookup finds a value,
and one of the right kind. -/
def Expr.Satisfied (view : FoundView) : Expr → Prop
  | .always => True
  | .never => False
  | .not operand => ¬operand.Satisfied view
  | .and left right => left.Satisfied view ∧ right.Satisfied view
  | .or left right => left.Satisfied view ∨ right.Satisfied view
  | .instanceOf typeName => ∃ names, view.typeNames.value = .ok names ∧ Lists typeName.text names
  | .equals property expected =>
    ∃ found, (readProperty property view).value = .ok found ∧ expected.Matches found
  | .scopeIn scopes =>
    ∃ scope, view.scope.value = .ok (.plain (.scope scope)) ∧ scopes.contains scope = true

def Expr.typeNames : Expr → List Name
  | .not operand => operand.typeNames
  | .and left right | .or left right => left.typeNames ++ right.typeNames
  | .instanceOf typeName => [typeName]
  | _ => []

/-- A text stands for the type names of the view, and has a name that is asked for as a part. -/
def Expr.FoundInText (view : FoundView) (e : Expr) : Prop :=
  ∃ names, view.typeNames.value = .ok names ∧ ∃ name ∈ e.typeNames, HasPart name.text names

theorem Expr.FoundInText.mono {view : FoundView} {part e : Expr}
    (hs : ∀ name ∈ part.typeNames, name ∈ e.typeNames) (h : part.FoundInText view) :
    e.FoundInText view := by
  obtain ⟨names, hn, name, hm, hp⟩ := h
  exact ⟨names, hn, name, hs name hm, hp⟩

/-! Comparisons that do not tell whether two values are equal. -/

inductive Upset where
  | raised (fault : Fault)
  | noBoolean

def settle : Outcome Answer → Except Upset Bool
  | .ok (.boolean b) => .ok b
  | .ok (.object _ _) => .error .noBoolean
  | .error fault => .error (.raised fault)

/-- The first comparison of an evaluation that is upset. The right side of an operator is evaluated
only if the left side did not decide. -/
def Expr.Upsets (view : FoundView) : Expr → Upset → Prop
  | .not operand, upset => operand.Upsets view upset
  | .and left right, upset =>
    left.Upsets view upset ∨
      (∀ earlier, ¬left.Upsets view earlier) ∧
        (examine left view).value = .ok (.boolean true) ∧ right.Upsets view upset
  | .or left right, upset =>
    left.Upsets view upset ∨
      (∀ earlier, ¬left.Upsets view earlier) ∧
        (examine left view).value = .ok (.boolean false) ∧ right.Upsets view upset
  | .equals property expected, upset =>
    ∃ found, (readProperty property view).value = .ok found ∧
      settle (expected.compare found) = .error upset
  | _, _ => False

/-! Evaluation that ends where a comparison is upset. -/

instance : Compared (Untraced Upset) Found Bool where
  equals expected found := ofExcept (settle (expected.compare found))

/-! Up to the first comparison that is upset, an evaluation is one in which comparisons tell. -/

private inductive Follows {α β : Type} (f : β → α) : Untraced Fault α → Untraced Upset β → Prop
  | settled (b : β) : Follows f (pure (f b)) (pure b)
  | raised (fault : Fault) : Follows f (throw fault) (throw (.raised fault))
  | noBoolean (x : Untraced Fault α) : Follows f x (throw .noBoolean)

private theorem Follows.bind {α β γ δ : Type} {f : β → α} {g : δ → γ} {x : Untraced Fault α}
    {y : Untraced Upset β} {next : α → Untraced Fault γ} {follow : β → Untraced Upset δ}
    (h : Follows f x y) (hn : ∀ b, Follows g (next (f b)) (follow b)) :
    Follows g (x >>= next) (y >>= follow) := by
  cases h with
  | settled b => exact hn b
  | raised fault => exact .raised fault
  | noBoolean x => exact .noBoolean _

private theorem follows_settle (outcome : Outcome Answer) :
    Follows Answer.boolean (ofExcept outcome) (ofExcept (settle outcome)) := by
  match outcome with
  | .ok (.boolean b) => exact .settled b
  | .ok (.object _ _) => exact .noBoolean _
  | .error fault => exact .raised fault

private def settling : Coupling (Untraced Fault) (Untraced Upset) Answer Bool where
  answers := Follows .boolean
  decisions := Follows id
  answer b := .settled b
  equals h _ := h.bind fun _ => .settled _
  decision b := .settled b
  isTrue h := h.bind fun b => .settled b
  bind h hn := h.bind hn
  decided h := h.bind fun b => .settled b

private theorem settling_tests (view : FoundView) :
    settling.Tests view.answers view.answers where
  type name := by
    rw [matchesType_answers, matchesType_answers]
    exact .settled _
  scope scopes := by
    rw [matchesScope_answers, matchesScope_answers]
    exact .settled _
  property name expected := by
    rw [matchesProperty_answers, matchesProperty_answers]
    cases (readProperty name view).value with
    | error fault => exact .settled false
    | ok found => exact follows_settle _

namespace Expr

/-- The answer of an expression if every comparison tells, or what became of the first that does
not. -/
def settled (view : FoundView) (e : Expr) : Except Upset Bool :=
  (e.holds view.answers : Untraced Upset Bool).run

private theorem follows_settled (view : FoundView) (e : Expr) :
    Follows Answer.boolean (examine e view).value (e.settled view) := by
  rw [value_examine, settled, ← e.test_eq_holds]
  exact settling.test (settling_tests view) e

variable {view : FoundView}

theorem value_examine_of_settled {e : Expr} {b : Bool} (h : e.settled view = .ok b) :
    (examine e view).value = .ok (.boolean b) := by
  have hf := follows_settled view e
  rw [h] at hf
  generalize (examine e view).value = x at hf
  cases hf
  rfl

theorem value_examine_of_raised {e : Expr} {fault : Fault}
    (h : e.settled view = .error (.raised fault)) : (examine e view).value = .error fault := by
  have hf := follows_settled view e
  rw [h] at hf
  generalize (examine e view).value = x at hf
  cases hf
  rfl

theorem settled_not (operand : Expr) :
    (Expr.not operand).settled view =
      match operand.settled view with
      | .error upset => .error upset
      | .ok b => .ok !b := by
  show ExceptT.bindCont _ (operand.settled view) = _
  cases operand.settled view <;> rfl

theorem settled_and (left right : Expr) :
    (Expr.and left right).settled view =
      match left.settled view with
      | .error upset => .error upset
      | .ok true => right.settled view
      | .ok false => .ok false := by
  show ExceptT.bindCont _ (left.settled view) = _
  cases left.settled view with
  | error upset => rfl
  | ok b => cases b <;> rfl

theorem settled_or (left right : Expr) :
    (Expr.or left right).settled view =
      match left.settled view with
      | .error upset => .error upset
      | .ok true => .ok true
      | .ok false => right.settled view := by
  show ExceptT.bindCont _ (left.settled view) = _
  cases left.settled view with
  | error upset => rfl
  | ok b => cases b <;> rfl

theorem settled_not_cases {operand : Expr} {b : Bool}
    (h : (Expr.not operand).settled view = .ok b) : operand.settled view = .ok !b := by
  rw [settled_not] at h
  cases ho : operand.settled view with
  | error upset =>
    rw [ho] at h
    cases h
  | ok o =>
    rw [ho] at h
    cases h
    rw [Bool.not_not]

theorem settled_and_cases {left right : Expr} {b : Bool}
    (h : (Expr.and left right).settled view = .ok b) :
    left.settled view = .ok true ∧ right.settled view = .ok b ∨
      left.settled view = .ok false ∧ b = false := by
  rw [settled_and] at h
  cases hl : left.settled view with
  | error upset =>
    rw [hl] at h
    cases h
  | ok l =>
    rw [hl] at h
    cases l with
    | true => exact .inl ⟨rfl, h⟩
    | false =>
      cases h
      exact .inr ⟨rfl, rfl⟩

theorem settled_or_cases {left right : Expr} {b : Bool}
    (h : (Expr.or left right).settled view = .ok b) :
    left.settled view = .ok false ∧ right.settled view = .ok b ∨
      left.settled view = .ok true ∧ b = true := by
  rw [settled_or] at h
  cases hl : left.settled view with
  | error upset =>
    rw [hl] at h
    cases h
  | ok l =>
    rw [hl] at h
    cases l with
    | true =>
      cases h
      exact .inr ⟨rfl, rfl⟩
    | false => exact .inl ⟨rfl, h⟩

theorem settled_instanceOf (typeName : Name) :
    (Expr.instanceOf typeName).settled view =
      .ok (answer (isNamed typeName.text) view.typeNames.value) :=
  congrArg ExceptT.run (matchesType_answers view typeName)

theorem settled_scopeIn (scopes : ScopeSet) :
    (Expr.scopeIn scopes).settled view =
      .ok (answer (Searched.isIn scopes) view.scope.value) :=
  congrArg ExceptT.run (matchesScope_answers view scopes)

theorem settled_equals (property : Name) (expected : Literal) :
    (Expr.equals property expected).settled view =
      match (readProperty property view).value with
      | .error _ => .ok false
      | .ok found => settle (expected.compare found) := by
  have h : (Expr.equals property expected).settled view =
      (matchesProperty property expected view.answers : Untraced Upset Bool).run := rfl
  rw [h, matchesProperty_answers]
  cases (readProperty property view).value with
  | error fault => rfl
  | ok found => exact run_ofExcept _

theorem upsets_iff (e : Expr) (upset : Upset) :
    e.Upsets view upset ↔ e.settled view = .error upset := by
  induction e generalizing upset with
  | always => exact ⟨False.elim, fun h => by cases h⟩
  | never => exact ⟨False.elim, fun h => by cases h⟩
  | not operand ih =>
    rw [Upsets, ih, settled_not]
    cases operand.settled view <;> simp
  | and left right ihl ihr =>
    rw [Upsets, settled_and]
    simp only [ihl, ihr]
    cases hl : left.settled view with
    | error earlier => simp
    | ok b =>
      rw [value_examine_of_settled hl]
      cases b <;> simp
  | or left right ihl ihr =>
    rw [Upsets, settled_or]
    simp only [ihl, ihr]
    cases hl : left.settled view with
    | error earlier => simp
    | ok b =>
      rw [value_examine_of_settled hl]
      cases b <;> simp
  | instanceOf typeName =>
    rw [settled_instanceOf]
    exact ⟨False.elim, fun h => by cases h⟩
  | equals property expected =>
    rw [Upsets, settled_equals]
    cases (readProperty property view).value <;> simp
  | scopeIn scopes =>
    rw [settled_scopeIn]
    exact ⟨False.elim, fun h => by cases h⟩

end Expr

/-! Where no comparison is upset, evaluation is truth. -/

private theorem settle_eq_ok {outcome : Outcome Answer} {b : Bool} :
    settle outcome = .ok b ↔ outcome = .ok (.boolean b) := by
  match outcome with
  | .ok (.boolean _) => simp [settle]
  | .ok (.object _ _) => simp [settle]
  | .error _ => simp [settle]

private theorem guarded_eq_true {guard : Outcome Bool} {next : Outcome Answer} :
    (do if ← guard then next else return .boolean false) = Except.ok (Answer.boolean true) ↔
      guard = .ok true ∧ next = .ok (.boolean true) := by
  rcases guard with fault | guard
  · constructor
    · intro h
      cases h
    · intro h
      cases h.1
  · cases guard with
    | true => exact ⟨fun h => ⟨rfl, h⟩, fun h => h.2⟩
    | false =>
      constructor
      · intro h
        cases h
      · intro h
        cases h.1

theorem Literal.compare_iff (expected : Literal) (found : Found) :
    expected.compare found = .ok (.boolean true) ↔ expected.Matches found := by
  constructor
  · intro h
    cases found with
    | plain v =>
      rw [compare, Except.ok.injEq, Answer.boolean.injEq, equals_iff] at h
      exact .plain h
    | custom c =>
      cases expected with
      | boolean b =>
        rw [compare, Custom.compare] at h
        cases hk : c.isA .boolean <;> rw [hk] at h <;> cases h
      | text t =>
        obtain ⟨hk, he⟩ := guarded_eq_true.mp h
        exact .text hk he
      | number x =>
        obtain ⟨hk, he⟩ := guarded_eq_true.mp h
        exact .number hk he
  · intro h
    cases h with
    | @plain expected v h => rw [compare, (expected.equals_iff v).mpr h]
    | text hk h => exact guarded_eq_true.mpr ⟨hk, h⟩
    | number hk h => exact guarded_eq_true.mpr ⟨hk, h⟩

private theorem lists_eq_true {name : Text} {value : Value} :
    value.lists name = .ok true ↔ value.lists? name = some true := by
  unfold Value.lists
  cases value.lists? name <;> simp

private theorem isNamed_eq_true {name : Text} {names : Found} :
    isNamed name names = true ↔ Searched.lists name names = .ok true := by
  unfold isNamed
  cases Searched.lists name names <;> simp

private theorem isText_iff {name : Text} {value : Value} :
    value.isText name = true ↔ value = .text name := by
  cases value <;> simp [Value.isText]

private theorem isNamed_iff {name : Text} {names : Found} (h : ¬HasPart name names) :
    isNamed name names = true ↔ Lists name names := by
  rw [isNamed_eq_true]
  constructor
  · intro hl
    cases names with
    | custom c =>
      by_cases hb : c.base = some .text
      · exact absurd (.custom hb hl) h
      · exact .custom hb hl
    | plain value =>
      have hv : value.lists? name = some true := lists_eq_true.mp hl
      cases value with
      | list items =>
        obtain ⟨item, hm, ht⟩ := List.any_eq_true.mp (Option.some.inj hv)
        exact .plain (isText_iff.mp ht ▸ hm)
      | text t => exact absurd (.plain (Option.some.inj hv)) h
      | _ => cases hv
  · intro hl
    cases hl with
    | plain hm =>
      have hany := List.any_eq_true.mpr ⟨_, hm, isText_iff.mpr rfl⟩
      exact lists_eq_true.mpr (congrArg some hany)
    | custom _ hc => exact hc

private theorem isIn_iff {scopes : ScopeSet} {found : Found} :
    Searched.isIn scopes found = true ↔
      ∃ scope, found = .plain (.scope scope) ∧ scopes.contains scope = true := by
  rcases found with value | c
  · cases value <;> simp [Searched.isIn, isScopeIn]
  · simp [Searched.isIn]

/-- Evaluation is truth, unless a name is found in a text. -/
theorem Expr.settled_iff {view : FoundView} {e : Expr} {b : Bool} (hb : e.settled view = .ok b)
    (h : ¬e.FoundInText view) : b = true ↔ e.Satisfied view := by
  -- no part of the expression finds a name in a text if the whole does not
  induction e generalizing b with
  | always =>
    cases hb
    simp [Satisfied]
  | never =>
    cases hb
    simp [Satisfied]
  | not operand ih =>
    rw [Satisfied, ← ih (settled_not_cases hb) h]
    simp
  | and left right ihl ihr =>
    have hfl : ¬left.FoundInText view := fun hl => h (hl.mono fun _ => List.mem_append_left _)
    have hfr : ¬right.FoundInText view := fun hr => h (hr.mono fun _ => List.mem_append_right _)
    rw [Satisfied]
    rcases settled_and_cases hb with ⟨hl, hr⟩ | ⟨hl, rfl⟩
    · rw [← ihl hl hfl, ← ihr hr hfr]
      simp
    · rw [← ihl hl hfl]
      simp
  | or left right ihl ihr =>
    have hfl : ¬left.FoundInText view := fun hl => h (hl.mono fun _ => List.mem_append_left _)
    have hfr : ¬right.FoundInText view := fun hr => h (hr.mono fun _ => List.mem_append_right _)
    rw [Satisfied]
    rcases settled_or_cases hb with ⟨hl, hr⟩ | ⟨hl, rfl⟩
    · rw [← ihl hl hfl, ← ihr hr hfr]
      simp
    · rw [← ihl hl hfl]
      simp
  | instanceOf typeName =>
    have hpart : ∀ names, view.typeNames.value = .ok names → ¬HasPart typeName.text names :=
      fun names hn hp => h ⟨names, hn, typeName, List.mem_singleton_self typeName, hp⟩
    rw [settled_instanceOf, Except.ok.injEq] at hb
    rw [← hb, answer_eq_true, Satisfied]
    constructor
    · rintro ⟨names, hn, hnamed⟩
      exact ⟨names, hn, (isNamed_iff (hpart names hn)).mp hnamed⟩
    · rintro ⟨names, hn, hlists⟩
      exact ⟨names, hn, (isNamed_iff (hpart names hn)).mpr hlists⟩
  | equals property expected =>
    rw [settled_equals] at hb
    rw [Satisfied]
    cases hp : (readProperty property view).value with
    | error fault =>
      rw [hp] at hb
      cases hb
      simp
    | ok found =>
      rw [hp] at hb
      have hc : expected.compare found = .ok (.boolean b) := settle_eq_ok.mp hb
      simp [← Literal.compare_iff, hc]
  | scopeIn scopes =>
    rw [settled_scopeIn, Except.ok.injEq] at hb
    rw [← hb, answer_eq_true, Satisfied]
    simp only [isIn_iff]
    constructor
    · rintro ⟨found, hs, scope, rfl, hin⟩
      exact ⟨scope, hs, hin⟩
    · rintro ⟨scope, hs, hin⟩
      exact ⟨_, hs, scope, rfl, hin⟩

/-! A failed lookup is as good as one that finds nothing. -/

/-- A lookup like another, but that it may find `blank` where the other fails. -/
def Repairs (blank : Value) (new old : Traced Observation (Outcome Found)) : Prop :=
  new.value = old.value ∨ (∃ fault, old.value = .error fault) ∧ new.value = .ok (.plain blank)

/-- A view like another, but that lookups which fail in the other may find nothing in it. -/
structure Mends (new old : FoundView) : Prop where
  id : Repairs .null new.id old.id
  scope : Repairs .null new.scope old.scope
  typeNames : Repairs (.list []) new.typeNames old.typeNames
  property : ∀ name, Repairs .absent (new.property name) (old.property name)

theorem Repairs.answer_eq {blank : Value}
    {new old : Traced Observation (Outcome Found)} (h : Repairs blank new old) {test : Found → Bool}
    (hb : test (.plain blank) = false) : answer test new.value = answer test old.value := by
  rcases h with h | ⟨⟨fault, hold⟩, hnew⟩
  · rw [h]
  · rw [hold, hnew]
    exact hb

namespace Mends

variable {new old : FoundView}

theorem readProperty (h : Mends new old) (property : Name) :
    ∃ blank : Value, (∀ expected : Literal, expected.equals blank = false) ∧
      Repairs blank (Query.readProperty property new) (Query.readProperty property old) := by
  unfold Query.readProperty
  split
  · exact ⟨.null, fun expected => by cases expected <;> rfl, h.id⟩
  · split
    · exact ⟨.null, fun expected => by cases expected <;> rfl, h.scope⟩
    · exact ⟨.absent, fun expected => by cases expected <;> rfl, h.property property.text⟩

private theorem tests (h : Mends new old) :
    (Coupling.equal : Coupling (Untraced Fault) _ Answer _).Tests new.answers old.answers where
  type name := by
    show matchesType name new.answers = matchesType name old.answers
    rw [matchesType_answers, matchesType_answers, h.typeNames.answer_eq rfl]
  scope scopes := by
    show matchesScope scopes new.answers = matchesScope scopes old.answers
    rw [matchesScope_answers, matchesScope_answers, h.scope.answer_eq rfl]
  property name expected := by
    show matchesProperty name expected new.answers = matchesProperty name expected old.answers
    rw [matchesProperty_answers, matchesProperty_answers]
    obtain ⟨blank, hb, heq | ⟨⟨fault, hold⟩, hnew⟩⟩ := h.readProperty name
    · rw [heq]
    · rw [hold, hnew]
      show ofExcept (Except.ok (Answer.boolean (expected.equals blank))) = _
      rw [hb]
      rfl

theorem value_examine_eq (h : Mends new old) (e : Expr) :
    (examine e new).value = (examine e old).value := by
  rw [value_examine, value_examine]
  exact congrArg ExceptT.run (Coupling.test _ h.tests e)

end Mends

theorem Expr.not_upsets_found (view : View) (e : Expr) (upset : Upset) :
    ¬e.Upsets view.found upset := by
  induction e with
  | not operand ih => exact ih
  | and left right ihl ihr =>
    rintro (hl | ⟨-, -, hr⟩)
    · exact ihl hl
    · exact ihr hr
  | or left right ihl ihr =>
    rintro (hl | ⟨-, -, hr⟩)
    · exact ihl hl
    · exact ihr hr
  | equals property expected =>
    rintro ⟨found, hfound, hu⟩
    rw [View.found, readProperty_map, Traced.value_bind] at hfound
    cases hv : (readProperty property view).value with
    | error fault =>
      rw [hv] at hfound
      cases hfound
    | ok value =>
      rw [hv] at hfound
      cases hfound
      cases hu
  | _ => exact id

/-- Evaluation where values may have code of their own answers with a boolean, unless a comparison is
upset; the boolean is the truth of the expression, unless a name is found in a text that stands for
the type names. If the first comparison that is upset raises, so does the evaluation. Lookups that
fail may as well find nothing. On a candidate whose values are plain no comparison is upset. -/
theorem evaluate_truth (e : Expr) :
    (∀ view : FoundView, (∀ upset, ¬e.Upsets view upset) →
      ∃ b, (examine e view).value = .ok (.boolean b) ∧
        (¬e.FoundInText view → (b = true ↔ e.Satisfied view))) ∧
    (∀ (view : FoundView) (fault : Fault), e.Upsets view (.raised fault) →
      (examine e view).value = .error fault) ∧
    (∀ new old : FoundView, Mends new old → (examine e new).value = (examine e old).value) ∧
    ∀ candidate : Candidate,
      examine e candidate.view.found = (do return .ok (.boolean (← evaluate e candidate))) ∧
      ∀ upset, ¬e.Upsets candidate.view.found upset := by
  refine ⟨fun view hnone => ?_, fun view fault h => ?_, fun new old h => h.value_examine_eq e,
    fun candidate => ⟨examine_found e candidate.view, e.not_upsets_found candidate.view⟩⟩
  · cases hs : e.settled view with
    | error upset => exact absurd ((e.upsets_iff upset).mpr hs) (hnone upset)
    | ok b => exact ⟨b, Expr.value_examine_of_settled hs, Expr.settled_iff hs⟩
  · exact Expr.value_examine_of_raised ((e.upsets_iff _).mp h)

private def styled (equality : Outcome Answer) : Found :=
  .custom ⟨some .text, by decide, fun _ => .ok false, fun _ => equality, fun _ => .ok false⟩

private def peculiar : FoundView where
  id := return .ok (.plain .null)
  scope := return .error (.raised .value)
  typeNames := return .error (.raised .key)
  property name := return .ok <|
    if name = "p" then styled (.ok (.boolean true)) else styled (.error (.raised .runtime))

private def mended : FoundView :=
  { peculiar with scope := return .ok (.plain .null), typeNames := return .ok (.plain (.list [])) }

private def ofType : Expr := .instanceOf ⟨"a.B", by decide⟩

private def isX (property : Name) : Expr := .equals property (.text "x")

private def calm : Expr :=
  .and (.not (.or ofType (.scopeIn (.ofList [.user]))))
    (.or (isX ⟨"p", by decide⟩) (isX ⟨"q", by decide⟩))

private def uneasy : Expr := .and (isX ⟨"p", by decide⟩) (isX ⟨"q", by decide⟩)

theorem evaluate_truth_peculiar :
    (∀ upset, ¬calm.Upsets peculiar upset) ∧ ¬calm.FoundInText peculiar ∧
      calm.Satisfied peculiar ∧ Mends mended peculiar ∧
      (examine calm mended).value = .ok (.boolean true) ∧
      uneasy.Upsets peculiar (.raised (.raised .runtime)) ∧
      (examine uneasy peculiar).value = .error (.raised .runtime) := by
  have hsettled : calm.settled peculiar = .ok true := rfl
  have hcalm : ∀ upset, ¬calm.Upsets peculiar upset := by
    intro upset hu
    rw [calm.upsets_iff, hsettled] at hu
    cases hu
  have htext : ¬calm.FoundInText peculiar := by
    rintro ⟨names, hnames, -⟩
    cases hnames
  have hmends : Mends mended peculiar :=
    ⟨.inl rfl, .inr ⟨⟨_, rfl⟩, rfl⟩, .inr ⟨⟨_, rfl⟩, rfl⟩, fun _ => .inl rfl⟩
  have hraised : uneasy.Upsets peculiar (.raised (.raised .runtime)) :=
    (uneasy.upsets_iff _).mpr rfl
  obtain ⟨b, hvalue, htruth⟩ := (evaluate_truth calm).1 peculiar hcalm
  rw [Expr.value_examine_of_settled hsettled] at hvalue
  cases hvalue
  have hsame := (evaluate_truth calm).2.2.1 mended peculiar hmends
  exact ⟨hcalm, htext, (htruth htext).mp rfl, hmends,
    hsame.trans (Expr.value_examine_of_settled hsettled), hraised,
    (evaluate_truth uneasy).2.1 peculiar _ hraised⟩

private def named : Candidate :=
  .object [⟨"example", "View"⟩] [("id", .computed (.ok .null)), ("scope", .computed (.ok .null)),
    ("type_names", .method (.ok (.text "xa.By"))), ("get_property", .keyed fun _ => .ok .absent)]

/-- In a text that stands for the type names, a name is found inside another; and what an equality
raises, a property test raises. -/
theorem evaluate_within_text :
    (evaluate ofType named).value = true ∧ ¬ofType.Satisfied named.view.found ∧
      (examine (isX ⟨"q", by decide⟩) peculiar).value = .error (.raised .runtime) := by
  refine ⟨?_, ?_, Expr.value_examine_of_raised rfl⟩
  · rw [evaluate, Expr.test_eq_holds]
    rfl
  · rintro ⟨names, hnames, hlists⟩
    cases hnames
    cases hlists

end Keyring.Query
