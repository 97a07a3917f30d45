import Keyring.Proofs.Candidate.Raising
import Keyring.Proofs.Query.Discretion

/-!
# What is told of failures

Which of the exceptions that a candidate raises while a query is asked are told in the log. A test
that is reached looks up one thing, and its failure is logged once. Exceptions by which a computed
attribute claims to be missing are overlooked, and those that surface as a report are hushed up where
the identifier or the scope of a wrapped candidate is asked for.
-/

namespace Keyring

namespace Query

open Candidate

variable {c : Candidate} {view : View}

private theorem eq_of_text {property other : Name} (h : property.text = other.text) :
    property = other := by
  cases property
  cases other
  cases h
  rfl

theorem course_readProperty (c : Candidate) (property : Name) :
    ∃ outcome, c.Course property.text (c.raised (readProperty property c.view)) outcome ∧
      c.Gives property.text outcome (readProperty property c.view).value := by
  by_cases hs : property = .scope
  · subst hs
    exact course_scope c
  by_cases hi : property = .id
  · subst hi
    rw [readProperty, if_pos rfl, Candidate.view]
    cases hv : c.isView with
    | false => exact course_propertyIf hv (.inl rfl) isIdentifier
    | true =>
      have hb : ("id" : Text).IsBare := by decide
      exact ⟨_, course_readValue hv hb (members_of_isView hv).1,
        gives_self (not_hushes_of_isView hv) _⟩
  · rw [readProperty, if_neg hi, if_neg hs, Candidate.view]
    cases hv : c.isView with
    | false =>
      refine ⟨_, course_property hv property.text, gives_self (fun fault h => ?_) _⟩
      rcases h.name with hname | hname
      · exact hi (eq_of_text hname)
      · exact hs (eq_of_text hname)
    | true =>
      exact ⟨_, course_direct_property hv property.text, gives_self (not_hushes_of_isView hv) _⟩

def propertyFailure (property : Text) (fault : Fault) : Log.Event :=
  ⟨"cql_property_lookup_failed", .debug,
    [("property", .text property), ("cause", .ofText? (faultCause fault))]⟩

def scopeFailure (fault : Fault) : Log.Event :=
  ⟨"cql_scope_lookup_failed", .debug, [("error_type", .text fault.name)]⟩

inductive Logs (c : Candidate) (name : Text) (event : Fault → Log.Event) :
    Outcome Value → List Log.Event → Prop
  | found (value : Value) : Logs c name event (.ok value) []
  | hushed {fault : Fault} (h : c.Hushes name fault) : Logs c name event (.error fault) []
  | told {fault : Fault} (h : ¬c.Hushes name fault) : Logs c name event (.error fault) [event fault]

theorem raised_ask (subject : Subject) (test : Value → Option Bool)
    (question : Traced Observation (Outcome Value)) :
    c.raised (ask subject test question) = c.raised question := by
  rw [ask, raised_bind]
  split
  · exact List.append_nil _
  · cases subject <;> exact List.append_nil _

/-- What the log tells of a test, by the question to the candidate that the test depends on. -/
structure Told (c : Candidate) (name : Text) (event : Fault → Log.Event)
    (question : Traced Observation (Outcome Value)) (t : Traced Observation Bool) : Prop where
  course : ∃ outcome, c.Course name (c.raised t) outcome ∧ Logs c name event outcome t.events
  silent_iff : t.events = [] ↔ ∃ value, question.value = .ok value
  event_of_raise : ∀ raise ∈ c.raised t, ¬c.Overlooks name raise →
    (c.Recasts name raise → name ≠ "id" ∧ name ≠ "scope") →
    (∀ property cause, raise.fault ≠ .lookup property cause) → t.events = [event raise.fault]
  silent_of_recast : ∀ raise ∈ c.raised t, c.Recasts name raise → name = "id" ∨ name = "scope" →
    t.events = []

section Told

variable {name : Text} {event : Fault → Log.Event} {fault : Fault} {events : List Log.Event}
  {question : Traced Observation (Outcome Value)}

theorem Logs.of_gives {outcome answer : Outcome Value} (h : c.Gives name outcome answer)
    (hok : ∀ value, answer = .ok value → events = [])
    (herror : ∀ fault, answer = .error fault → events = [event fault]) :
    Logs c name event outcome events := by
  cases h with
  | found value answer =>
    rw [hok answer rfl]
    exact .found value
  | hushed h answer =>
    rw [hok answer rfl]
    exact .hushed h
  | failed h =>
    rw [herror _ rfl]
    exact .told h

theorem Logs.eq_nil (h : Logs c name event (.error fault) events) (hh : c.Hushes name fault) :
    events = [] := by
  cases h with
  | hushed _ => rfl
  | told hnot => exact absurd hh hnot

theorem Logs.eq_singleton (h : Logs c name event (.error fault) events)
    (hh : ¬c.Hushes name fault) : events = [event fault] := by
  cases h with
  | hushed hhush => exact absurd hhush hh
  | told _ => rfl

section Course

variable {outcome : Outcome Value} {raise : Raise} (hc : c.Course name (c.raised question) outcome)
  (hl : Logs c name event outcome events) (hr : raise ∈ c.raised question)
include hc hl hr

theorem events_of_raise (hover : ¬c.Overlooks name raise)
    (hname : c.Recasts name raise → name ≠ "id" ∧ name ≠ "scope")
    (hlookup : ∀ property cause, raise.fault ≠ .lookup property cause)
    (hevent : c.Recasts name raise →
      event (.lookup name (some raise.fault.name)) = event raise.fault) :
    events = [event raise.fault] := by
  rcases hc.surfaces_of_mem hr with h | ⟨fault, hsurfaces, rfl⟩
  · exact absurd h hover
  · cases hsurfaces with
    | recast hrecast =>
      obtain ⟨hid, hscope⟩ := hname hrecast
      rw [← hevent hrecast]
      exact hl.eq_singleton fun hh => hh.name.elim hid hscope
    | asIs _ =>
      apply hl.eq_singleton
      intro hh
      obtain ⟨property, cause, h⟩ := hh.report
      exact hlookup property cause h

theorem events_of_recast (hrecast : c.Recasts name raise) (hname : name = "id" ∨ name = "scope") :
    events = [] := by
  rcases hc.surfaces_of_mem hr with h | ⟨fault, hsurfaces, rfl⟩
  · exact absurd hrecast h.not_recasts
  · cases hsurfaces with
    | recast _ => exact hl.eq_nil ⟨hrecast.wrapped, hname, name, some raise.fault.name, rfl⟩
    | asIs hnot => exact absurd hrecast hnot

end Course

/-- A test that depends on one question is told by the course of the lookup. -/
theorem told_ask {subject : Subject} (holds : Value → Bool) (hs : question.Silent)
    (hc : ∃ outcome, c.Course name (c.raised question) outcome ∧
      c.Gives name outcome question.value)
    (hreport : ∀ fault, (subject.report (.ofFault fault)).event? = some (event fault))
    (hevent : name ≠ "id" → name ≠ "scope" →
      ∀ fault, (∀ property cause, fault ≠ .lookup property cause) →
        event (.lookup name (some fault.name)) = event fault) :
    Told c name event question (ask subject (fun value => some (holds value)) question) := by
  obtain ⟨outcome, hcourse, hgives⟩ := hc
  have hevents := events_ask subject (fun value => some (holds value)) hs
  have hraised := raised_ask (c := c) subject (fun value => some (holds value)) question
  generalize ask subject (fun value => some (holds value)) question = t at hevents hraised ⊢
  have hok : ∀ value, question.value = .ok value → t.events = [] := by
    intro value hv
    rw [hevents, hv]
    rfl
  have herror : ∀ fault, question.value = .error fault → t.events = [event fault] := by
    intro fault hv
    rw [hevents, hv]
    exact List.filterMap_cons_some (hreport fault)
  have hlogs := Logs.of_gives hgives hok herror
  constructor
  · exact ⟨outcome, hraised ▸ hcourse, hlogs⟩
  · constructor
    · intro hnone
      cases hv : question.value with
      | ok value => exact ⟨value, rfl⟩
      | error fault =>
        rw [herror fault hv] at hnone
        cases hnone
    · rintro ⟨value, hv⟩
      exact hok value hv
  · intro raise hr hover hname hlookup
    rw [hraised] at hr
    apply events_of_raise hcourse hlogs hr hover hname hlookup
    intro hrecast
    obtain ⟨hid, hscope⟩ := hname hrecast
    exact hevent hid hscope raise.fault hlookup
  · intro raise hr hrecast hname
    rw [hraised] at hr
    exact events_of_recast hcourse hlogs hr hrecast hname

end Told

theorem told_equals (c : Candidate) (property : Name) (value : Literal) :
    Told c property.text (propertyFailure property.text) (readProperty property c.view)
      (evaluate (.equals property value) c) := by
  rw [evaluate, Expr.test_eq_holds, Expr.holds, matchesProperty_eq_ask]
  refine told_ask _ (silent_readProperty c.silent_view property) (course_readProperty c property)
    (fun fault => ?_) fun _ _ fault hlookup => ?_
  · rw [propertyFailure, ← Failure.cause_ofFault]
    rfl
  · cases fault with
    | lookup property cause => exact absurd rfl (hlookup property cause)
    | _ => rfl

theorem told_scopeIn (c : Candidate) (scopes : ScopeSet) :
    Told c "scope" scopeFailure c.view.scope (evaluate (.scopeIn scopes) c) := by
  rw [evaluate, Expr.test_eq_holds, Expr.holds, matchesScope_eq_ask]
  refine told_ask _ c.silent_view.scope (course_scope c) (fun fault => ?_)
    fun _ hscope => absurd rfl hscope
  rw [scopeFailure, ← Failure.name_ofFault]
  rfl

namespace Expr

/-- The tests that evaluation comes to, in order. -/
def visited (view : View) : Expr → List Expr
  | .always | .never => []
  | .not operand => operand.visited view
  | .and left right =>
    left.visited view ++ if (left.holds view).value then right.visited view else []
  | .or left right =>
    left.visited view ++ if (left.holds view).value then [] else right.visited view
  | .instanceOf typeName => [.instanceOf typeName]
  | .equals property value => [.equals property value]
  | .scopeIn scopes => [.scopeIn scopes]

theorem trace_holds (view : View) (e : Expr) :
    (e.holds view).trace = (e.visited view).flatMap fun test => (test.holds view).trace := by
  induction e with
  | always => rfl
  | never => rfl
  | not operand ih => rw [holds, Traced.trace_bind, Traced.trace_pure, List.append_nil, ih, visited]
  | and left right ihl ihr =>
    rw [holds, Traced.trace_bind, visited, List.flatMap_append, ihl]
    congr 1
    split
    · exact ihr
    · rfl
  | or left right ihl ihr =>
    rw [holds, Traced.trace_bind, visited, List.flatMap_append, ihl]
    congr 1
    split
    · rfl
    · exact ihr
  | instanceOf typeName => exact (List.append_nil _).symm
  | equals property value => exact (List.append_nil _).symm
  | scopeIn scopes => exact (List.append_nil _).symm

end Expr

/-- Each test that evaluation comes to makes one lookup, and the log tells of it by its course. An
exception of the candidate's code makes one event that names its class, unless it is overlooked, or
is made a report of where the identifier or the scope is asked for; there is none in that case, and
none if the lookup finds a value. -/
theorem failures_told (e : Expr) (c : Candidate) :
    ((evaluate e c).trace = (e.visited c.view).flatMap fun test => (evaluate test c).trace) ∧
    (∀ property value, Told c property.text (propertyFailure property.text)
      (readProperty property c.view) (evaluate (.equals property value) c)) ∧
    ∀ scopes, Told c "scope" scopeFailure c.view.scope (evaluate (.scopeIn scopes) c) := by
  refine ⟨?_, told_equals c, told_scopeIn c⟩
  simp only [evaluate, Expr.test_eq_holds]
  exact e.trace_holds c.view

private def mishap : Outcome Value := .error (.raised .runtime)

private def forlorn : Candidate :=
  .object [⟨"example", "Account"⟩] [("get_name", .method mishap), ("get_id", .method mishap),
    ("get_scope", .method mishap), ("get_realm", .computed (.error (.raised .missingAttribute)))]

private def name : Name := ⟨"name", by decide⟩

private def realm : Name := ⟨"realm", by decide⟩

private theorem forlorn_recasts {property : Text} (h : forlorn.member? ("get_" ++ property) =
    some (.method mishap)) : forlorn.Recasts property ⟨"get_" ++ property, .raised .runtime⟩ :=
  .called (by decide +kernel) (by decide) h

theorem failures_told_forlorn :
    (evaluate (.or (.equals .id (.text "x")) (.equals name (.text "x"))) forlorn).events =
        [propertyFailure "name" (.raised .runtime)] ∧
      (evaluate (.scopeIn .empty) forlorn).events = [] := by
  obtain ⟨htrace, hequals, hscopeIn⟩ :=
    failures_told (.or (.equals .id (.text "x")) (.equals name (.text "x"))) forlorn
  have hvisited : (Expr.or (.equals .id (.text "x")) (.equals name (.text "x"))).visited
      forlorn.view = [.equals .id (.text "x"), .equals name (.text "x")] := by
    decide +kernel
  have hid : (evaluate (.equals .id (.text "x")) forlorn).events = [] := by
    apply (hequals .id (.text "x")).silent_of_recast ⟨"get_" ++ Name.id.text, .raised .runtime⟩
    · decide +kernel
    · exact forlorn_recasts (by rfl)
    · exact .inl rfl
  have hname : (evaluate (.equals name (.text "x")) forlorn).events =
      [propertyFailure name.text (.raised .runtime)] := by
    apply (hequals name (.text "x")).event_of_raise ⟨"get_" ++ name.text, .raised .runtime⟩
    · decide +kernel
    · intro h
      cases h.missing
    · exact fun _ => by decide
    · nofun
  have hscope : (evaluate (.scopeIn .empty) forlorn).events = [] := by
    apply (hscopeIn .empty).silent_of_recast ⟨"get_" ++ Text.ofString "scope", .raised .runtime⟩
    · decide +kernel
    · exact forlorn_recasts (by rfl)
    · exact .inr rfl
  refine ⟨?_, hscope⟩
  rw [Traced.events, htrace, hvisited]
  simp only [List.flatMap_cons, List.flatMap_nil, List.filterMap_append, List.append_nil]
  exact congrArg₂ (· ++ ·) hid hname

/-- The code that the test of an identifier or a scope runs raises, or that of a computed accessor,
and nothing is logged. -/
theorem raise_is_silent :
    forlorn.raised (evaluate (.equals .id (.text "x")) forlorn) = [⟨"get_id", .raised .runtime⟩] ∧
      (evaluate (.equals .id (.text "x")) forlorn).events = [] ∧
      forlorn.raised (evaluate (.scopeIn .empty) forlorn) = [⟨"get_scope", .raised .runtime⟩] ∧
      (evaluate (.scopeIn .empty) forlorn).events = [] ∧
      forlorn.raised (evaluate (.equals realm (.text "x")) forlorn) =
        [⟨"get_realm", .raised .missingAttribute⟩] ∧
      (evaluate (.equals realm (.text "x")) forlorn).events = [] := by
  decide +kernel

end Query

end Keyring
