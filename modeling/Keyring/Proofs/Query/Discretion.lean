import Mathlib.Data.List.Forall2
import Keyring.Proofs.Query.Truth
import Keyring.Query.Selection

/-!
# Discretion

What the log tells of candidates and queries. The events of an evaluation are the reports of the
lookups that failed: what was looked up, by the name in the query, and by which kind of exception it
failed. Nothing else that was found or raised occurs in them, and no literal.
-/

namespace Keyring

namespace Traced

variable {α β : Type}

def events (t : Traced Observation α) : List Log.Event :=
  t.trace.filterMap Observation.event?

@[simp] theorem events_pure (a : α) : (pure a : Traced Observation α).events = [] := rfl

@[simp] theorem events_bind (t : Traced Observation α) (next : α → Traced Observation β) :
    (t >>= next).events = t.events ++ (next t.value).events :=
  List.filterMap_append

def Silent (t : Traced Observation α) : Prop :=
  t.events = []

theorem Silent.pure (a : α) : (Pure.pure a : Traced Observation α).Silent := rfl

theorem Silent.access (a : Access) : a.observe.Silent := rfl

theorem Silent.bind {t : Traced Observation α} {next : α → Traced Observation β} (ht : t.Silent)
    (hn : ∀ v, (next v).Silent) : (t >>= next).Silent := by
  rw [Silent, events_bind, ht, hn]
  rfl

structure Alike (t u : Traced Observation α) : Prop where
  value : t.value = u.value
  events : t.events = u.events

theorem Alike.refl (t : Traced Observation α) : t.Alike t := ⟨rfl, rfl⟩

end Traced

namespace Candidate

variable {c : Candidate}

theorem silent_read (name : Text) : (c.read name).Silent := by
  refine .bind (.access _) fun _ => ?_
  split
  · exact .pure _
  · exact .pure _
  · exact .pure _
  · refine .bind (.access _) fun _ => ?_
    split <;> exact .pure _
  · split <;> exact .pure _

theorem silent_read? (name : Text) : (c.read? name).Silent := by
  refine .bind (silent_read name) fun _ => ?_
  split <;> exact .pure _

theorem silent_call (name : Text) (found : Attribute) : (found.call name).Silent := by
  unfold Attribute.call
  split
  · exact .bind (.access _) fun _ => .pure _
  · exact .bind (.access _) fun _ => .bind (.access _) fun _ => .pure _
  · split
    · exact .bind (.access _) fun _ => .pure _
    · exact .pure _
  · exact .bind (.access _) fun _ => .pure _

theorem silent_callWith (name argument : Text) (found : Attribute) :
    (found.callWith name argument).Silent := by
  unfold Attribute.callWith
  split
  · exact .bind (.access _) fun _ => .bind (.access _) fun _ => .pure _
  · split
    · exact .bind (.access _) fun _ => .pure _
    · exact .pure _
  · exact .bind (.access _) fun _ => .pure _

theorem silent_asMapping : c.asMapping.Silent := by
  refine .bind (.access _) fun _ => ?_
  split
  · refine .bind (.access _) fun _ => ?_
    split <;> exact .pure _
  all_goals exact .pure _

theorem silent_entry (name : Text) : (c.entry name).Silent := by
  refine .bind silent_asMapping fun _ => ?_
  split
  · exact .pure _
  · exact .pure _
  · refine .bind (silent_read _) fun _ => ?_
    split
    · exact .pure _
    · exact .bind (.access _) fun _ => .pure _
    · split
      · exact .bind (.access _) fun _ => .pure _
      · exact .pure _

theorem silent_plainProperty (name : Text) : (c.plainProperty name).Silent := by
  refine .bind (silent_read? name) fun _ => ?_
  split
  · exact .pure _
  · exact silent_entry name
  · exact silent_entry name
  · split <;> exact .pure _

theorem silent_throughAccessors {name : Text} {otherwise : Traced Observation (Outcome Value)}
    (ho : otherwise.Silent) (starts : List Text) :
    (c.throughAccessors name otherwise starts).Silent := by
  induction starts with
  | nil => exact ho
  | cons start rest ih =>
    refine .bind (silent_read? _) fun _ => ?_
    split
    · exact .pure _
    · exact ih
    · split
      · refine .bind (silent_call _ _) fun _ => ?_
        split <;> exact .pure _
      · exact ih

theorem silent_property (name : Text) : (c.property name).Silent := by
  unfold property
  split
  · exact silent_throughAccessors (silent_plainProperty name) accessorStarts
  · exact .pure _

theorem silent_propertyIf (name : Text) (isRight : Value → Bool) :
    (c.propertyIf name isRight).Silent := by
  refine .bind (silent_property name) fun _ => ?_
  split <;> exact .pure _

theorem silent_readValue (name : Text) : (c.readValue name).Silent := by
  refine .bind (silent_read name) fun _ => ?_
  split <;> exact .pure _

end Candidate

structure View.Silent (view : View) : Prop where
  id : view.id.Silent
  scope : view.scope.Silent
  typeNames : view.typeNames.Silent
  property : ∀ name, (view.property name).Silent

theorem Candidate.silent_view (c : Candidate) : c.view.Silent := by
  unfold view
  split
  · refine ⟨silent_readValue _, silent_readValue _, ?_, fun name => ?_⟩
    · refine .bind (silent_read _) fun _ => ?_
      split
      · exact silent_call _ _
      · exact .pure _
    · refine .bind (silent_read _) fun _ => ?_
      split
      · exact silent_callWith _ _ _
      · exact .pure _
  · exact ⟨silent_propertyIf _ _, silent_propertyIf _ _, .pure _, silent_property⟩

namespace Query

/-- What a failed lookup is known by: the kind of exception, and of the report that a property could
not be read the kind of its cause, if there is one. -/
inductive Failure where
  | exception (name : Text)
  | unreadable (cause : Option Text)
  deriving DecidableEq

namespace Failure

def ofFault : Fault → Failure
  | .lookup _ cause => .unreadable cause
  | fault => .exception fault.name

def name : Failure → Text
  | .exception name => name
  | .unreadable _ => "PropertyLookupFailure"

def cause : Failure → Option Text
  | .exception name => some name
  | .unreadable cause => cause

theorem name_ofFault (fault : Fault) : (ofFault fault).name = fault.name := by
  cases fault <;> rfl

theorem cause_ofFault (fault : Fault) : (ofFault fault).cause = faultCause fault := by
  cases fault <;> rfl

end Failure

abbrev Verdict := Except Failure Bool

def verdict (test : Value → Option Bool) : Outcome Value → Verdict
  | .error fault => .error (.ofFault fault)
  | .ok value =>
    match test value with
    | some answer => .ok answer
    | none => .error (.exception ErrorKind.type.name)

inductive Subject where
  | typeNames
  | scope
  | property (name : Text)
  deriving DecidableEq

def Subject.report : Subject → Failure → Observation
  | .typeNames, failure => typeLookupFailed failure.name
  | .scope, failure => scopeLookupFailed failure.name
  | .property name, failure => propertyLookupFailed name failure.cause

/-- A lookup that was made, and the verdict on it. -/
abbrev Lookup := Subject × Verdict

def Lookup.answer : Lookup → Bool
  | (_, .ok answer) => answer
  | (_, .error _) => false

def Lookup.event? : Lookup → Option Log.Event
  | (_, .ok _) => none
  | (subject, .error failure) => (subject.report failure).event?

def ask (subject : Subject) (test : Value → Option Bool)
    (question : Traced Observation (Outcome Value)) : Traced Observation Bool := do
  match verdict test (← question) with
  | .ok answer => return answer
  | .error failure => failed (subject.report failure)

section Ask

variable (subject : Subject) (test : Value → Option Bool)
  {question : Traced Observation (Outcome Value)}

theorem value_ask :
    (ask subject test question).value =
      Lookup.answer (subject, verdict test question.value) := by
  rw [ask, Traced.value_bind]
  cases verdict test question.value <;> rfl

theorem events_ask (h : question.Silent) :
    (ask subject test question).events =
      [(subject, verdict test question.value)].filterMap Lookup.event? := by
  rw [ask, Traced.events_bind, h]
  cases verdict test question.value with
  | ok answer => rfl
  | error failure => cases subject <;> rfl

end Ask

variable {v w : View}

theorem matchesType_eq_ask (name : Name) (view : View) :
    matchesType name view = ask .typeNames (Value.lists? name.text) view.typeNames := by
  refine bind_congr fun names => ?_
  cases names with
  | error fault =>
    show failed (typeLookupFailed fault.name) =
      failed (typeLookupFailed (Failure.ofFault fault).name)
    rw [Failure.name_ofFault]
  | ok names =>
    simp only [verdict, Searched.lists, Value.lists]
    cases names.lists? name.text <;> rfl

theorem matchesScope_eq_ask (scopes : ScopeSet) (view : View) :
    matchesScope scopes view =
      ask .scope (fun value => some (isScopeIn scopes value)) view.scope := by
  refine bind_congr fun scope => ?_
  cases scope with
  | error fault =>
    show failed (scopeLookupFailed fault.name) =
      failed (scopeLookupFailed (Failure.ofFault fault).name)
    rw [Failure.name_ofFault]
  | ok value => rfl

theorem matchesProperty_eq_ask (property : Name) (expected : Literal) (view : View) :
    matchesProperty property expected view =
      ask (.property property.text) (fun value => some (expected.equals value))
        (readProperty property view) := by
  refine bind_congr fun found => ?_
  cases found with
  | error fault =>
    show failed (propertyLookupFailed property.text (faultCause fault)) =
      failed (propertyLookupFailed property.text (Failure.ofFault fault).cause)
    rw [Failure.cause_ofFault]
  | ok value => rfl

theorem silent_readProperty (hv : v.Silent) (property : Name) :
    (readProperty property v).Silent := by
  unfold readProperty
  split
  · exact hv.id
  · split
    · exact hv.scope
    · exact hv.property property.text

namespace Expr

/-- Two expressions with the same nodes and names. The literals and scopes that they compare with
may differ. -/
inductive SameForm : Expr → Expr → Prop
  | always : SameForm .always .always
  | never : SameForm .never .never
  | not {operand operand' : Expr} (h : SameForm operand operand') :
    SameForm (.not operand) (.not operand')
  | and {left left' right right' : Expr} (hl : SameForm left left') (hr : SameForm right right') :
    SameForm (.and left right) (.and left' right')
  | or {left left' right right' : Expr} (hl : SameForm left left') (hr : SameForm right right') :
    SameForm (.or left right) (.or left' right')
  | instanceOf (typeName : Name) : SameForm (.instanceOf typeName) (.instanceOf typeName)
  | equals (property : Name) (value value' : Literal) :
    SameForm (.equals property value) (.equals property value')
  | scopeIn (scopes scopes' : ScopeSet) : SameForm (.scopeIn scopes) (.scopeIn scopes')

theorem SameForm.refl (e : Expr) : e.SameForm e := by
  induction e with
  | always => exact .always
  | never => exact .never
  | not operand ih => exact .not ih
  | and left right ihl ihr => exact .and ihl ihr
  | or left right ihl ihr => exact .or ihl ihr
  | instanceOf typeName => exact .instanceOf typeName
  | equals property value => exact .equals property value value
  | scopeIn scopes => exact .scopeIn scopes scopes

def typeLookup (name : Name) (view : View) : Lookup :=
  (.typeNames, verdict (Value.lists? name.text) view.typeNames.value)

def scopeLookup (scopes : ScopeSet) (view : View) : Lookup :=
  (.scope, verdict (fun value => some (isScopeIn scopes value)) view.scope.value)

def propertyLookup (property : Name) (expected : Literal) (view : View) : Lookup :=
  (.property property.text,
    verdict (fun value => some (expected.equals value)) (readProperty property view).value)

def lookups (view : View) : Expr → List Lookup
  | .always | .never => []
  | .not operand => operand.lookups view
  | .and left right | .or left right => left.lookups view ++ right.lookups view
  | .instanceOf typeName => [typeLookup typeName view]
  | .equals property value => [propertyLookup property value view]
  | .scopeIn scopes => [scopeLookup scopes view]

def verdicts (view : View) (e : Expr) : List Verdict :=
  (e.lookups view).map Prod.snd

/-- The lookups of the tests that evaluation comes to, in order. -/
def reached (view : View) : Expr → List Lookup
  | .always | .never => []
  | .not operand => operand.reached view
  | .and left right =>
    left.reached view ++ if (left.holds view).value then right.reached view else []
  | .or left right =>
    left.reached view ++ if (left.holds view).value then [] else right.reached view
  | .instanceOf typeName => [typeLookup typeName view]
  | .equals property value => [propertyLookup property value view]
  | .scopeIn scopes => [scopeLookup scopes view]

variable {e e' : Expr}

/-- What is logged of an evaluation are the failures among the lookups that it comes to. -/
theorem events_holds (hv : v.Silent) (e : Expr) :
    (e.holds v).events = (e.reached v).filterMap Lookup.event? := by
  induction e with
  | always => rfl
  | never => rfl
  | not operand ih =>
    rw [holds, Traced.events_bind, Traced.events_pure, List.append_nil, ih, reached]
  | and left right ihl ihr =>
    rw [holds, Traced.events_bind, reached, List.filterMap_append, ihl]
    congr 1
    split
    · exact ihr
    · rfl
  | or left right ihl ihr =>
    rw [holds, Traced.events_bind, reached, List.filterMap_append, ihl]
    congr 1
    split
    · rfl
    · exact ihr
  | instanceOf typeName =>
    rw [holds, matchesType_eq_ask]
    exact events_ask _ _ hv.typeNames
  | equals property value =>
    rw [holds, matchesProperty_eq_ask]
    exact events_ask _ _ (silent_readProperty hv property)
  | scopeIn scopes =>
    rw [holds, matchesScope_eq_ask]
    exact events_ask _ _ hv.scope

/-- The lookups that are reached tell the answer. They also tell where they end, so what follows
them does not matter. -/
theorem SameForm.value_eq (h : e.SameForm e') {rest rest' : List Lookup}
    (hr : e.reached v ++ rest = e'.reached w ++ rest') :
    (e.holds v).value = (e'.holds w).value ∧ rest = rest' := by
  -- the rest is what the parts to the right have reached, so it is different for each part
  induction h generalizing rest rest' with
  | always => exact ⟨rfl, hr⟩
  | never => exact ⟨rfl, hr⟩
  | not _ ih =>
    obtain ⟨hsame, hrest⟩ := ih hr
    exact ⟨congrArg (!·) hsame, hrest⟩
  | @and left left' right right' _ _ ihl ihr =>
    rw [reached, reached, List.append_assoc, List.append_assoc] at hr
    obtain ⟨hleft, hnext⟩ := ihl hr
    rw [value_holds_and, value_holds_and, ← hleft]
    rw [← hleft] at hnext
    cases hl : (left.holds v).value with
    | true =>
      rw [hl, if_pos rfl, if_pos rfl] at hnext
      exact ihr hnext
    | false =>
      rw [hl, if_neg Bool.false_ne_true, if_neg Bool.false_ne_true] at hnext
      exact ⟨rfl, hnext⟩
  | @or left left' right right' _ _ ihl ihr =>
    rw [reached, reached, List.append_assoc, List.append_assoc] at hr
    obtain ⟨hleft, hnext⟩ := ihl hr
    rw [value_holds_or, value_holds_or, ← hleft]
    rw [← hleft] at hnext
    cases hl : (left.holds v).value with
    | true =>
      rw [hl, if_pos rfl, if_pos rfl] at hnext
      exact ⟨rfl, hnext⟩
    | false =>
      rw [hl, if_neg Bool.false_ne_true, if_neg Bool.false_ne_true] at hnext
      exact ihr hnext
  | instanceOf typeName =>
    obtain ⟨hsame, hrest⟩ := List.cons.inj hr
    rw [holds, holds, matchesType_eq_ask, matchesType_eq_ask, value_ask, value_ask]
    exact ⟨congrArg Lookup.answer hsame, hrest⟩
  | equals property value value' =>
    obtain ⟨hsame, hrest⟩ := List.cons.inj hr
    rw [holds, holds, matchesProperty_eq_ask, matchesProperty_eq_ask, value_ask, value_ask]
    exact ⟨congrArg Lookup.answer hsame, hrest⟩
  | scopeIn scopes scopes' =>
    obtain ⟨hsame, hrest⟩ := List.cons.inj hr
    rw [holds, holds, matchesScope_eq_ask, matchesScope_eq_ask, value_ask, value_ask]
    exact ⟨congrArg Lookup.answer hsame, hrest⟩

theorem SameForm.subjects_eq (h : e.SameForm e') :
    (e.lookups v).map Prod.fst = (e'.lookups w).map Prod.fst := by
  induction h with
  | not _ ih => exact ih
  | and _ _ ihl ihr => rw [lookups, lookups, List.map_append, List.map_append, ihl, ihr]
  | or _ _ ihl ihr => rw [lookups, lookups, List.map_append, List.map_append, ihl, ihr]
  | _ => rfl

theorem SameForm.lookups_eq (h : e.SameForm e') (hs : e.verdicts v = e'.verdicts w) :
    e.lookups v = e'.lookups w := by
  have he : e.lookups v = ((e'.lookups w).map Prod.fst).zip (e'.verdicts w) :=
    List.zip_of_prod h.subjects_eq hs
  exact he.trans (List.zip_of_prod rfl rfl).symm

theorem SameForm.length_lookups (h : e.SameForm e') :
    (e.lookups v).length = (e'.lookups w).length := by
  simpa using congrArg List.length (h.subjects_eq (v := v) (w := w))

theorem SameForm.reached_eq (h : e.SameForm e') (hs : e.lookups v = e'.lookups w) :
    e.reached v = e'.reached w := by
  -- the left parts have as many tests, and by their verdicts they have the same answer
  induction h with
  | not _ ih => exact ih hs
  | and hl hr ihl ihr =>
    obtain ⟨hleft, hright⟩ := List.append_inj hs hl.length_lookups
    have hreached := ihl hleft
    have hsame := (hl.value_eq (congrArg (· ++ []) hreached)).1
    rw [reached, reached, hreached, hsame, ihr hright]
  | or hl hr ihl ihr =>
    obtain ⟨hleft, hright⟩ := List.append_inj hs hl.length_lookups
    have hreached := ihl hleft
    have hsame := (hl.value_eq (congrArg (· ++ []) hreached)).1
    rw [reached, reached, hreached, hsame, ihr hright]
  | _ => exact hs

theorem events_evaluate (e : Expr) (c : Candidate) :
    (evaluate e c).events = (e.reached c.view).filterMap Lookup.event? := by
  rw [evaluate, test_eq_holds]
  exact events_holds c.silent_view e

/-- Evaluation of two candidates comes to the same lookups with the same verdicts in the same order,
though the literals may differ. -/
def Agree (e e' : Expr) (c d : Candidate) : Prop :=
  e.reached c.view = e'.reached d.view

theorem SameForm.evaluate_alike (h : e.SameForm e') {c d : Candidate} (ha : Agree e e' c d) :
    (evaluate e c).Alike (evaluate e' d) := by
  constructor
  · rw [evaluate, evaluate, test_eq_holds, test_eq_holds]
    exact (h.value_eq (congrArg (· ++ []) ha)).1
  · rw [events_evaluate, events_evaluate, ha]

end Expr

variable {α β : Type} {e e' : Expr} {candidate : α → Option Candidate}
  {candidate' : β → Option Candidate}

def AgreeThroughout (e e' : Expr) (candidate : α → Option Candidate)
    (candidate' : β → Option Candidate) : List α → List β → Prop :=
  List.Forall₂ fun a b => Option.Rel (Expr.Agree e e') (candidate a) (candidate' b)

theorem accepts_alike (h : e.SameForm e') {c d : Option Candidate}
    (ha : Option.Rel (Expr.Agree e e') c d) : (accepts e c).Alike (accepts e' d) := by
  cases ha with
  | none => exact .refl _
  | some ha => exact h.evaluate_alike ha

theorem events_selectAll (h : e.SameForm e') {as : List α} {bs : List β}
    (ha : AgreeThroughout e e' candidate candidate' as bs) :
    (selectAll candidate e as).events = (selectAll candidate' e' bs).events := by
  induction ha with
  | nil => rfl
  | cons hab _ ih =>
    simp only [selectAll, Traced.events_bind, Traced.events_pure]
    rw [(accepts_alike h hab).events, ih]

theorem events_selectFirst (h : e.SameForm e') {as : List α} {bs : List β}
    (ha : AgreeThroughout e e' candidate candidate' as bs) :
    (selectFirst candidate e as).events = (selectFirst candidate' e' bs).events := by
  induction ha with
  | nil => rfl
  | @cons a b _ _ hab _ ih =>
    have hsame := accepts_alike h hab
    simp only [selectFirst, Traced.events_bind]
    rw [hsame.events, hsame.value]
    cases (accepts e' (candidate' b)).value with
    | true => rfl
    | false =>
      rw [if_neg Bool.false_ne_true, if_neg Bool.false_ne_true, ih]

theorem records_operate {t : Traced Observation α} {u : Traced Observation β}
    (operation : Text) (context : Log.Context) (h : t.events = u.events) :
    (operate operation context t).records = (operate operation context u).records :=
  congrArg (List.map _) h

/-- What is logged of a query are the failures among the lookups that are reached. Candidates on
which all verdicts agree, and expressions with other literals for which they do, come to the same
lookups, and are alike in the log, be they asked alone or one after another in a selection. -/
theorem log_told_by_verdicts (h : e.SameForm e') :
    (∀ c : Candidate, (evaluate e c).events = (e.reached c.view).filterMap Lookup.event?) ∧
    (∀ c d : Candidate, e.verdicts c.view = e'.verdicts d.view → Expr.Agree e e' c d) ∧
    (∀ c d : Candidate, Expr.Agree e e' c d → (evaluate e c).Alike (evaluate e' d)) ∧
    ∀ (α β κ κ' : Type) (candidate : α → Option Candidate) (candidate' : β → Option Candidate)
      (context : Log.Context),
      (∀ as bs, AgreeThroughout e e' candidate candidate' as bs →
        (filterCandidates context candidate e as).records =
            (filterCandidates context candidate' e' bs).records ∧
          (firstMatch context candidate e as).records =
            (firstMatch context candidate' e' bs).records ∧
          ∀ default default', (firstOrDefault context candidate e as default).records =
            (firstOrDefault context candidate' e' bs default').records) ∧
      (∀ (entries : List (α × κ)) (entries' : List (β × κ')),
        AgreeThroughout e e' (fun entry => candidate entry.1) (fun entry => candidate' entry.1)
            entries entries' →
          (filterKeys context candidate e entries).records =
            (filterKeys context candidate' e' entries').records) ∧
      ∀ (entries : List (κ × α)) (entries' : List (κ' × β)),
        AgreeThroughout e e' (fun entry => candidate entry.2) (fun entry => candidate' entry.2)
            entries entries' →
          (filterValues context candidate e entries).records =
            (filterValues context candidate' e' entries').records := by
  refine ⟨e.events_evaluate, fun c d hs => h.reached_eq (h.lookups_eq hs),
    fun _ _ => h.evaluate_alike, ?_⟩
  intro α β κ κ' candidate candidate' context
  refine ⟨fun as bs ha => ?_, fun _ _ ha => records_operate _ context (events_selectAll h ha),
    fun _ _ ha => records_operate _ context (events_selectAll h ha)⟩
  have hfirst := records_operate "first_match" context (events_selectFirst h ha)
  exact ⟨records_operate _ context (events_selectAll h ha), hfirst, fun _ _ => hfirst⟩

private def guess (password token : Text) : Expr :=
  .and (.not (.equals ⟨"password", by decide⟩ (.text password)))
    (.equals ⟨"token", by decide⟩ (.text token))

private def methodical : Candidate :=
  .object [⟨"example", "Account"⟩] [("get_password", .method (.ok (.text "sesame"))),
    ("get_token", .method (.error (.raised .runtime)))]

private def computing : Candidate :=
  .object [⟨"example", "Vault"⟩] [("is_password", .method (.ok (.integer 1234))),
    ("token", .computed (.error (.raised .runtime)))]

theorem log_told_by_verdicts_failing :
    (guess "a" "b").SameForm (guess "c" "d") ∧
      (guess "a" "b").verdicts methodical.view = (guess "c" "d").verdicts computing.view ∧
      (evaluate (guess "a" "b") methodical).events =
        [⟨"cql_property_lookup_failed", .debug,
          [("property", .text "token"), ("cause", .text "RuntimeError")]⟩] ∧
      (evaluate (guess "a" "b") methodical).events = (evaluate (guess "c" "d") computing).events ∧
      (filterValues [] id (guess "a" "b") [(0, some methodical), (1, none)]).records =
        (filterValues [] id (guess "c" "d") [(true, some computing), (false, none)]).records := by
  have hform : (guess "a" "b").SameForm (guess "c" "d") :=
    .and (.not (.equals _ _ _)) (.equals _ _ _)
  have hverdicts :
      (guess "a" "b").verdicts methodical.view = (guess "c" "d").verdicts computing.view := by
    decide +kernel
  obtain ⟨hevents, hall, halike, hselect⟩ := log_told_by_verdicts hform
  have hagree := hall methodical computing hverdicts
  refine ⟨hform, hverdicts, ?_, (halike methodical computing hagree).events, ?_⟩
  · rw [hevents]
    decide +kernel
  · apply (hselect (Option Candidate) (Option Candidate) Nat Bool id id []).2.2
    exact .cons (.some hagree) (.cons .none .nil)

end Query

end Keyring
