import Mathlib.Data.List.TakeWhile
import Keyring.Proofs.Candidate.Lookup

/-!
# What a candidate raises

Code of a candidate runs when a computed attribute is read and when a method is called. On a wrapped
candidate, a lookup does one of three things with an exception of that code. One by which a computed
attribute claims to be missing is overlooked, and the lookup goes on. One of an accessor that is
called, or of the attribute with the name of the property, surfaces as the report that the property
could not be read. Any other surfaces as it is, and so does each exception of a view. The first to
surface ends the lookup.
-/

namespace Keyring

structure Raise where
  label : Text
  fault : Fault
  deriving DecidableEq

def Raise.ofOutcome (label : Text) : Outcome Value → List Raise
  | .error fault => [⟨label, fault⟩]
  | .ok _ => []

def Text.IsBare (label : Text) : Prop :=
  CodePoint.ofChar ':' ∉ label

instance (label : Text) : Decidable label.IsBare :=
  inferInstanceAs (Decidable (¬_))

theorem Text.isBare_of_isPropertyName {name : Text} (h : name.isPropertyName = true) :
    name.IsBare := by
  have hstart : CodePoint.isIdentifierStart ':' = false := by decide
  have hcontinue : CodePoint.isIdentifierContinue ':' = false := by decide
  simp only [isPropertyName, Bool.and_eq_true] at h
  intro hmem
  cases name with
  | nil => cases hmem
  | cons c rest =>
    have hident : c.isIdentifierStart = true ∧ rest.all CodePoint.isIdentifierContinue = true := by
      simpa [isIdentifier] using h.1.1
    rcases List.mem_cons.mp hmem with rfl | hrest
    · rw [hstart] at hident
      cases hident.1
    · have := List.all_eq_true.mp hident.2 _ hrest
      rw [hcontinue] at this
      cases this

def Attribute.ownMethod? : Attribute → Option Member
  | method outcome => some (.method outcome)
  | keyed outcome => some (.keyed outcome)
  | _ => none

namespace Candidate

theorem isBare_accessor {name start : Text} (hs : start ∈ accessorStarts) (hb : name.IsBare) :
    (start ++ name).IsBare := by
  have hstarts : ∀ start ∈ accessorStarts, start.IsBare := by decide
  intro hmem
  rcases List.mem_append.mp hmem with h | h
  · exact hstarts start hs h
  · exact hb h

theorem accessor_ne {name start : Text} (hs : start ∈ accessorStarts) : start ++ name ≠ name := by
  have hstarts : ∀ start ∈ accessorStarts, start ≠ [] := by decide
  intro h
  exact hstarts start hs (List.append_left_eq_self.mp h)

variable {α β : Type} {c : Candidate} {name label start : Text} {raise : Raise} {raises : List Raise}
  {outcome : Outcome Value}

/-- What the code under a label comes to. Methods and computed attributes have their name for a
label, and a method with a parameter has its name, a colon and the argument. -/
def code? (c : Candidate) (label : Text) : Option (Outcome Value) :=
  match c.member? (label.takeWhile (· != CodePoint.ofChar ':')),
    label.dropWhile (· != CodePoint.ofChar ':') with
  | some (.method outcome), [] => some outcome
  | some (.computed outcome), [] => some outcome
  | some (.keyed outcome), _ :: argument => some (outcome argument)
  | _, _ => none

def raise? (c : Candidate) (o : Observation) : Option Raise :=
  match o.run? with
  | none => none
  | some label =>
    match c.code? label with
    | some (.error fault) => some ⟨label, fault⟩
    | _ => none

def raised (c : Candidate) (t : Traced Observation α) : List Raise :=
  t.trace.filterMap c.raise?

@[simp] theorem raised_pure (a : α) : c.raised (pure a : Traced Observation α) = [] := rfl

@[simp] theorem raised_bind (t : Traced Observation α) (next : α → Traced Observation β) :
    c.raised (t >>= next) = c.raised t ++ c.raised (next t.value) :=
  List.filterMap_append

@[simp] theorem raised_lookup (name : Text) : c.raised (Access.lookup name).observe = [] := rfl

@[simp] theorem raised_call (name : Text) : c.raised (Access.call name).observe = [] := rfl

theorem raised_run {outcome : Outcome Value} (h : c.code? label = some outcome) :
    c.raised (Access.run label).observe = Raise.ofOutcome label outcome := by
  have hrun : c.raised (Access.run label).observe =
      ([Observation.access (.run label)]).filterMap c.raise? := rfl
  rw [hrun, List.filterMap_cons, raise?, Observation.run?]
  simp only [h]
  cases outcome <;> rfl

private theorem all_ne_colon (hb : label.IsBare) :
    ∀ c ∈ label, (c != CodePoint.ofChar ':') = true := by
  intro c hc
  exact bne_iff_ne.mpr fun h => hb (h ▸ hc)

theorem code?_of_bare (hb : label.IsBare) :
    c.code? label =
      match c.member? label with
      | some (.method outcome) => some outcome
      | some (.computed outcome) => some outcome
      | _ => none := by
  rw [code?, List.takeWhile_eq_self_iff.mpr (all_ne_colon hb),
    List.dropWhile_eq_nil_iff.mpr (all_ne_colon hb)]
  cases c.member? label with
  | none => rfl
  | some m => cases m <;> rfl

theorem code?_of_keyed {outcome : Text → Outcome Value} (argument : Text) (hb : label.IsBare)
    (hm : c.member? label = some (.keyed outcome)) :
    c.code? (label ++ (":" ++ argument)) = some (outcome argument) := by
  have htake : (label ++ (":" ++ argument)).takeWhile (· != CodePoint.ofChar ':') = label := by
    rw [List.takeWhile_append_of_pos (all_ne_colon hb)]
    exact List.append_nil label
  have hdrop : (label ++ (":" ++ argument)).dropWhile (· != CodePoint.ofChar ':') =
      CodePoint.ofChar ':' :: argument := by
    rw [List.dropWhile_append_of_pos (all_ne_colon hb)]
    rfl
  rw [code?, htake, hdrop, hm]

theorem raised_run_computed {outcome : Outcome Value} (hb : label.IsBare)
    (hm : c.member? label = some (.computed outcome)) :
    c.raised (Access.run label).observe = Raise.ofOutcome label outcome :=
  raised_run (by rw [code?_of_bare hb, hm])

theorem read_cases (c : Candidate) (hb : name.IsBare) :
    (∃ found, c.raised (c.read name) = [] ∧ c.attribute? name = some found ∧
        (c.read name).value = .ok found) ∨
      (c.raised (c.read name) = [] ∧ c.member? name = none ∧ c.attribute? name = none ∧
        (c.read name).value = .error (.raised .missingAttribute)) ∨
      ∃ fault, c.member? name = some (.computed (.error fault)) ∧
        c.raised (c.read name) = [⟨name, fault⟩] ∧ (c.read name).value = .error fault := by
  simp only [read, attribute?, raised_bind, raised_lookup, Traced.value_bind, List.nil_append]
  cases hm : c.member? name with
  | none =>
    by_cases hs : (c.entries.isSome && mappingMembers.contains name) = true
    · simp only [if_pos hs]
      exact .inl ⟨_, rfl, rfl, rfl⟩
    · simp only [if_neg hs]
      exact .inr (.inl ⟨rfl, trivial, trivial, rfl⟩)
  | some m =>
    cases m with
    | computed outcome =>
      have hrun := raised_run_computed hb hm
      simp only [raised_bind, hrun, Traced.value_bind]
      cases outcome with
      | ok value => exact .inl ⟨_, rfl, rfl, rfl⟩
      | error fault => exact .inr (.inr ⟨fault, rfl, rfl, rfl⟩)
    | _ => exact .inl ⟨_, rfl, rfl, rfl⟩

theorem read?_cases (c : Candidate) (hb : name.IsBare) :
    (c.raised (c.read? name) = [] ∧ (c.read? name).value = .ok (c.attribute? name)) ∨
      (c.member? name = some (.computed (.error (.raised .missingAttribute))) ∧
        c.raised (c.read? name) = [⟨name, .raised .missingAttribute⟩] ∧
        (c.read? name).value = .ok none) ∨
      ∃ fault, c.Raises name fault ∧ c.raised (c.read? name) = [⟨name, fault⟩] ∧
        (c.read? name).value = .error fault := by
  have hraised : c.raised (c.read? name) = c.raised (c.read name) := by
    rw [read?, raised_bind]
    split <;> exact List.append_nil _
  rw [hraised]
  rcases read_cases c hb with ⟨found, hnone, ha, hv⟩ | ⟨hnone, -, ha, hv⟩ | ⟨fault, hm, hone, hv⟩
  · left
    rw [read?, Traced.value_bind, hv, ha]
    exact ⟨hnone, rfl⟩
  · left
    rw [read?, Traced.value_bind, hv, ha]
    exact ⟨hnone, rfl⟩
  · right
    by_cases hf : fault = .raised .missingAttribute
    · subst hf
      rw [read?, Traced.value_bind, hv]
      exact .inl ⟨hm, hone, rfl⟩
    · exact .inr ⟨fault, ⟨hm, hf⟩, hone, value_read?_of_raises ⟨hm, hf⟩⟩

/-- An exception by which a computed attribute claims to be missing, where a lookup on a wrapped
candidate reads the attribute. -/
structure Overlooks (c : Candidate) (name : Text) (raise : Raise) : Prop where
  wrapped : c.isView = false
  place : raise.label = name ∨ ∃ start ∈ accessorStarts, raise.label = start ++ name
  computed : c.member? raise.label = some (.computed (.error raise.fault))
  missing : raise.fault = .raised .missingAttribute

/-- An exception that a wrapped candidate's lookup makes a report of: that of an accessor method, or
that of the attribute with the name of the property. -/
inductive Recasts (c : Candidate) (name : Text) : Raise → Prop
  | called {start : Text} {fault : Fault} (hw : c.isView = false) (hs : start ∈ accessorStarts)
    (hm : c.member? (start ++ name) = some (.method (.error fault))) :
    c.Recasts name ⟨start ++ name, fault⟩
  | namesake {fault : Fault} (hw : c.isView = false) (h : c.Raises name fault) :
    c.Recasts name ⟨name, fault⟩

inductive Surfaces (c : Candidate) (name : Text) (raise : Raise) : Fault → Prop
  | recast (h : c.Recasts name raise) : c.Surfaces name raise (.lookup name (some raise.fault.name))
  | asIs (h : ¬c.Recasts name raise) : c.Surfaces name raise raise.fault

/-- How a lookup goes: what the candidate raises on the way, and how it ends. Even if nothing is
raised, something may be called that takes other arguments, or stand in the place of the class or of
the `get` of a mapping. -/
inductive Course (c : Candidate) (name : Text) : List Raise → Outcome Value → Prop
  | found (value : Value) : c.Course name [] (.ok value)
  | misused {fault : Fault} (h : fault.name = ErrorKind.type.name) : c.Course name [] (.error fault)
  | miscalled : c.Course name [] (.error (.lookup name (some ErrorKind.type.name)))
  | overlooked {raise : Raise} {raises : List Raise} {outcome : Outcome Value}
    (h : c.Overlooks name raise) (rest : c.Course name raises outcome) :
    c.Course name (raise :: raises) outcome
  | surfaced {raise : Raise} {fault : Fault} (h : c.Surfaces name raise fault) :
    c.Course name [raise] (.error fault)

structure Hushes (c : Candidate) (name : Text) (fault : Fault) : Prop where
  wrapped : c.isView = false
  name : name = "id" ∨ name = "scope"
  report : ∃ property cause, fault = .lookup property cause

inductive Gives (c : Candidate) (name : Text) : Outcome Value → Outcome Value → Prop
  | found (value answer : Value) : c.Gives name (.ok value) (.ok answer)
  | hushed {fault : Fault} (h : c.Hushes name fault) (answer : Value) :
    c.Gives name (.error fault) (.ok answer)
  | failed {fault : Fault} (h : ¬c.Hushes name fault) : c.Gives name (.error fault) (.error fault)

theorem Course.surfaces_of_mem (h : c.Course name raises outcome) (hr : raise ∈ raises) :
    c.Overlooks name raise ∨ ∃ fault, c.Surfaces name raise fault ∧ outcome = .error fault := by
  induction h with
  | found value => cases hr
  | misused h => cases hr
  | miscalled => cases hr
  | overlooked h rest ih =>
    rcases List.mem_cons.mp hr with rfl | hrest
    · exact .inl h
    · exact ih hrest
  | surfaced h =>
    rw [List.mem_singleton.mp hr]
    exact .inr ⟨_, h, rfl⟩

theorem Overlooks.not_recasts (h : c.Overlooks name raise) : ¬c.Recasts name raise := by
  intro hr
  have hcomputed := h.computed
  cases hr with
  | called _ _ hm =>
    rw [hm] at hcomputed
    cases hcomputed
  | namesake _ hr => exact hr.2 h.missing

theorem Recasts.wrapped (h : c.Recasts name raise) : c.isView = false := by
  cases h with
  | called hw _ _ => exact hw
  | namesake hw _ => exact hw

theorem surfaces_of_computed {fault : Fault}
    (hm : c.member? label = some (.computed (.error fault)))
    (hne : label = name → ¬c.Raises name fault) : c.Surfaces name ⟨label, fault⟩ fault := by
  have hnot : ¬c.Recasts name ⟨label, fault⟩ := by
    intro h
    cases h with
    | called _ _ hmethod =>
      rw [hm] at hmethod
      cases hmethod
    | namesake _ hr => exact hne rfl hr
  exact .asIs hnot

theorem not_raises_of_ok {found : Option Attribute} (h : (c.read? name).value = .ok found)
    (fault : Fault) : ¬c.Raises name fault := by
  intro hr
  rw [value_read?_of_raises hr] at h
  cases h

theorem member?_of_attribute? {found : Attribute} {m : Member}
    (h : c.attribute? name = some found) (hm : found.ownMethod? = some m) :
    c.member? name = some m := by
  rw [attribute?] at h
  cases hmember : c.member? name with
  | none =>
    rw [hmember] at h
    dsimp only at h
    split at h
    · cases h
      cases hm
    · cases h
  | some member =>
    rw [hmember] at h
    cases member with
    | method outcome =>
      cases h
      exact hm
    | keyed outcome =>
      cases h
      exact hm
    | stored value =>
      cases h
      cases hm
    | computed outcome =>
      cases outcome with
      | ok value =>
        cases h
        cases hm
      | error fault => cases h

theorem call_cases {found : Attribute} (hb : name.IsBare) (ha : c.attribute? name = some found) :
    (∃ outcome, c.member? name = some (.method outcome) ∧
        c.raised (found.call name) = Raise.ofOutcome name outcome ∧
        (found.call name).value = outcome) ∨
      (c.raised (found.call name) = [] ∧ ((∃ value, (found.call name).value = .ok value) ∨
        ∃ fault, (found.call name).value = .error fault ∧ fault.name = ErrorKind.type.name)) := by
  cases found with
  | method outcome =>
    have hm := member?_of_attribute? ha rfl
    have hcode : c.code? name = some outcome := by rw [code?_of_bare hb, hm]
    have hrun := raised_run hcode
    left
    refine ⟨outcome, hm, ?_, rfl⟩
    simp only [Attribute.call, raised_bind, raised_call, hrun, raised_pure, List.append_nil,
      List.nil_append]
  | value v =>
    right
    cases v with
    | function result => exact ⟨rfl, .inl ⟨result, rfl⟩⟩
    | _ => exact ⟨rfl, .inr ⟨_, rfl, rfl⟩⟩
  | keyed outcome => exact .inr ⟨rfl, .inr ⟨_, rfl, rfl⟩⟩
  | standard => exact .inr ⟨rfl, .inr ⟨_, rfl, rfl⟩⟩

theorem asMapping_cases (c : Candidate) :
    (c.raised c.asMapping = [] ∧ (c.asMapping.value = .ok c.entries ∨
        c.asMapping.value = .error .notClass)) ∨
      ∃ fault, c.member? classMember = some (.computed (.error fault)) ∧
        c.raised c.asMapping = [⟨classMember, fault⟩] ∧ c.asMapping.value = .error fault := by
  have hb : classMember.IsBare := by decide
  simp only [asMapping, raised_bind, raised_lookup, Traced.value_bind, List.nil_append]
  cases hm : c.member? classMember with
  | none => exact .inl ⟨rfl, .inl rfl⟩
  | some m =>
    cases m with
    | computed outcome =>
      have hrun := raised_run_computed hb hm
      simp only [raised_bind, hrun, Traced.value_bind]
      cases outcome with
      | ok value => exact .inl ⟨rfl, .inr rfl⟩
      | error fault => exact .inr ⟨fault, rfl, rfl, rfl⟩
    | stored value => exact .inl ⟨rfl, .inl rfl⟩
    | _ => exact .inl ⟨rfl, .inr rfl⟩

private theorem attribute?_get {entries : List (Text × Value)} (he : c.entries = some entries)
    (hm : c.member? "get" = none) : c.attribute? "get" = some .standard := by
  have hmapping : mappingMembers.contains ("get" : Text) = true := by decide
  rw [attribute?, hm, he]
  exact if_pos hmapping

theorem course_entry (hr : ∀ fault, ¬c.Raises name fault) :
    c.Course name (c.raised (c.entry name)) (c.entry name).value := by
  have hb : ("get" : Text).IsBare := by decide
  have hraise : ∀ {label fault}, c.member? label = some (.computed (.error fault)) →
      c.Course name [⟨label, fault⟩] (.error fault) :=
    fun hm => .surfaced (surfaces_of_computed hm fun _ => hr _)
  rw [entry, raised_bind, Traced.value_bind]
  rcases asMapping_cases c with ⟨hnone, hv | hv⟩ | ⟨fault, hm, hone, hv⟩
  · rw [hnone, hv]
    cases he : c.entries with
    | none => exact .found .absent
    | some entries =>
      simp only [raised_bind, Traced.value_bind, List.nil_append]
      rcases read_cases c hb with ⟨found, hnone, -, hv⟩ | ⟨-, hm, ha, -⟩ | ⟨fault, hm, hone, hv⟩
      · rw [hnone, hv]
        by_cases hcall : found.isCallable = true
        · cases found with
          | standard => exact .found _
          | _ =>
            simp only [hcall, if_true]
            exact .misused rfl
        · cases found with
          | value v =>
            simp only [hcall, Bool.false_eq_true, if_false]
            exact .misused rfl
          | _ => exact absurd rfl hcall
      · rw [attribute?_get he hm] at ha
        cases ha
      · rw [hone, hv]
        exact hraise hm
  · rw [hnone, hv]
    exact .misused rfl
  · rw [hone, hv]
    exact hraise hm

theorem course_plainProperty (hw : c.isView = false) (hb : name.IsBare) :
    c.Course name (c.raised (c.plainProperty name)) (c.plainProperty name).value := by
  rw [plainProperty, raised_bind, Traced.value_bind]
  rcases read?_cases c hb with ⟨hnone, hv⟩ | ⟨hm, hone, hv⟩ | ⟨fault, hr, hone, hv⟩
  · rw [hnone, hv, List.nil_append]
    have hentry := course_entry (not_raises_of_ok hv)
    split
    · contradiction
    · exact hentry
    · exact hentry
    · split
      · exact .found _
      · exact .found _
  · rw [hone, hv]
    exact .overlooked ⟨hw, .inl rfl, hm, rfl⟩ (course_entry (not_raises_of_ok hv))
  · rw [hone, hv]
    exact .surfaced (.recast (.namesake hw hr))

theorem course_throughAccessors (hw : c.isView = false) (hb : name.IsBare)
    {otherwise : Traced Observation (Outcome Value)}
    (ho : c.Course name (c.raised otherwise) otherwise.value) {starts : List Text}
    (hs : ∀ start ∈ starts, start ∈ accessorStarts) :
    c.Course name (c.raised (c.throughAccessors name otherwise starts))
      (c.throughAccessors name otherwise starts).value := by
  induction starts with
  | nil => exact ho
  | cons start rest ih =>
    have hstart := hs start List.mem_cons_self
    have hrest := ih fun s h => hs s (List.mem_cons_of_mem start h)
    have hbstart := isBare_accessor hstart hb
    rw [throughAccessors, raised_bind, Traced.value_bind]
    rcases read?_cases c hbstart with ⟨hnone, hv⟩ | ⟨hm, hone, hv⟩ | ⟨fault, hr, hone, hv⟩
    · rw [hnone, hv, List.nil_append]
      cases ha : c.attribute? (start ++ name) with
      | none => exact hrest
      | some found =>
        by_cases hcall : found.isCallable = true
        · simp only [hcall, if_true, raised_bind, Traced.value_bind]
          rcases call_cases hbstart ha with ⟨outcome, hm, hraised, hv⟩ | ⟨hnone, hv⟩
          · rw [hraised, hv]
            cases outcome with
            | ok value => exact .found value
            | error fault => exact .surfaced (.recast (.called hw hstart hm))
          · rw [hnone]
            rcases hv with ⟨value, hv⟩ | ⟨fault, hv, htype⟩
            · rw [hv]
              exact .found value
            · rw [hv]
              simp only [htype]
              exact .miscalled
        · simp only [hcall, Bool.false_eq_true, if_false]
          exact hrest
    · rw [hone, hv]
      exact .overlooked ⟨hw, .inr ⟨start, hstart, rfl⟩, hm, rfl⟩ hrest
    · rw [hone, hv]
      have hne : start ++ name ≠ name := accessor_ne hstart
      exact .surfaced (surfaces_of_computed hr.1 fun h => absurd h hne)

theorem course_property (hw : c.isView = false) (name : Text) :
    c.Course name (c.raised (c.property name)) (c.property name).value := by
  by_cases hn : name.isPropertyName = true
  · have hb := Text.isBare_of_isPropertyName hn
    rw [property, if_pos hn]
    exact course_throughAccessors hw hb (course_plainProperty hw hb) fun _ hs => hs
  · rw [property, if_neg hn]
    exact .found .absent

theorem raised_propertyIf (isRight : Value → Bool) :
    c.raised (c.propertyIf name isRight) = c.raised (c.property name) := by
  rw [propertyIf, raised_bind]
  split <;> exact List.append_nil _

theorem gives_self (h : ∀ fault, ¬c.Hushes name fault) (outcome : Outcome Value) :
    c.Gives name outcome outcome := by
  cases outcome with
  | ok value => exact .found value value
  | error fault => exact .failed (h fault)

section Wrapped

variable (hw : c.isView = false)
include hw

theorem gives_propertyIf (hn : name = "id" ∨ name = "scope") (isRight : Value → Bool) :
    c.Gives name (c.property name).value (c.propertyIf name isRight).value := by
  rw [propertyIf, Traced.value_bind]
  cases hv : (c.property name).value with
  | ok value => exact .found _ _
  | error fault =>
    cases fault with
    | lookup property cause => exact .hushed ⟨hw, hn, property, cause, rfl⟩ _
    | _ =>
      apply Gives.failed
      rintro ⟨-, -, property, cause, h⟩
      cases h

theorem course_propertyIf (hn : name = "id" ∨ name = "scope") (isRight : Value → Bool) :
    ∃ outcome, c.Course name (c.raised (c.propertyIf name isRight)) outcome ∧
      c.Gives name outcome (c.propertyIf name isRight).value := by
  refine ⟨(c.property name).value, ?_, gives_propertyIf hw hn isRight⟩
  rw [raised_propertyIf]
  exact course_property hw name

end Wrapped

section Direct

variable (hv : c.isView = true)
include hv

theorem members_of_isView :
    c.member? "id" ≠ none ∧ c.member? "scope" ≠ none ∧ c.member? "get_property" ≠ none := by
  have hall := List.all_eq_true.mp hv
  have hmember : ∀ member ∈ ([["id", "scope"], ["type_names", "get_property"]].flatten.map
      Text.ofString), c.member? member ≠ none :=
    fun member hm => Option.isSome_iff_ne_none.mp (hall member hm)
  exact ⟨hmember _ (by decide), hmember _ (by decide), hmember _ (by decide)⟩

theorem surfaces_of_isView (raise : Raise) : c.Surfaces name raise raise.fault := by
  apply Surfaces.asIs
  intro h
  have hw := h.wrapped
  rw [hv] at hw
  cases hw

theorem not_hushes_of_isView (fault : Fault) : ¬c.Hushes name fault := by
  intro h
  have hw := h.wrapped
  rw [hv] at hw
  cases hw

theorem course_readValue {member : Text} (hb : member.IsBare) (hm : c.member? member ≠ none) :
    c.Course name (c.raised (c.readValue member)) (c.readValue member).value := by
  rw [readValue, raised_bind, Traced.value_bind]
  rcases read_cases c hb with ⟨found, hnone, -, hval⟩ | ⟨-, hnot, -, -⟩ | ⟨fault, -, hone, hval⟩
  · rw [hnone, hval]
    exact .found _
  · exact absurd hnot hm
  · rw [hone, hval]
    exact .surfaced (surfaces_of_isView hv ⟨member, fault⟩)

theorem course_callWith {member : Text} (hb : member.IsBare) {found : Attribute}
    (ha : c.attribute? member = some found) (argument : Text) :
    c.Course name (c.raised (found.callWith member argument))
      (found.callWith member argument).value := by
  cases found with
  | keyed outcome =>
    have hm := member?_of_attribute? ha rfl
    have hrun := raised_run (code?_of_keyed argument hb hm)
    simp only [Attribute.callWith, raised_bind, raised_call, hrun, raised_pure, List.append_nil,
      List.nil_append, Traced.value_bind, Traced.value_pure]
    cases outcome argument with
    | ok value => exact .found value
    | error fault => exact .surfaced (surfaces_of_isView hv ⟨_, fault⟩)
  | value v =>
    cases v with
    | function result => exact .misused rfl
    | _ => exact .misused rfl
  | method outcome => exact .misused rfl
  | standard => exact .misused rfl

theorem course_direct_property (argument : Text) :
    c.Course name (c.raised (c.direct.property argument)) (c.direct.property argument).value := by
  have hb : ("get_property" : Text).IsBare := by decide
  rw [direct, raised_bind, Traced.value_bind]
  rcases read_cases c hb with ⟨found, hnone, ha, hval⟩ | ⟨-, hnot, -, -⟩ | ⟨fault, -, hone, hval⟩
  · rw [hnone, hval]
    exact course_callWith hv hb ha argument
  · exact absurd hnot (members_of_isView hv).2.2
  · rw [hone, hval]
    exact .surfaced (surfaces_of_isView hv ⟨_, fault⟩)

end Direct

theorem course_scope (c : Candidate) :
    ∃ outcome, c.Course "scope" (c.raised c.view.scope) outcome ∧
      c.Gives "scope" outcome c.view.scope.value := by
  rw [view]
  cases hv : c.isView with
  | false => exact course_propertyIf hv (.inr rfl) isScope
  | true =>
    have hb : ("scope" : Text).IsBare := by decide
    exact ⟨_, course_readValue hv hb (members_of_isView hv).2.1,
      gives_self (not_hushes_of_isView hv) _⟩

end Candidate

end Keyring
