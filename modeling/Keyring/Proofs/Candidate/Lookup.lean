import Keyring.Candidate.View

/-!
# The steps of a lookup

What each step of reading a property comes to, as told by the members of the candidate: the
attribute that a name stands for, the exception that reading it lets through, the accessor that is
called, and the entry of a mapping.
-/

namespace Keyring

namespace Attribute

def result : Attribute → Outcome Value
  | value (.function result) => .ok result
  | method outcome => outcome
  | value v => if v.isCallable then .error (.raised .type) else .error (.notCallable v.typeName)
  | _ => .error (.raised .type)

theorem value_call (name : Text) (found : Attribute) : (found.call name).value = found.result := by
  cases found with
  | value v =>
    cases v with
    | method => rfl
    | _ => rfl
  | method outcome => rfl
  | keyed outcome => rfl
  | standard => rfl

def answer (found : Attribute) (property : Text) : Outcome Value :=
  match found.result with
  | .ok v => .ok v
  | .error fault => .error (.lookup property (some fault.name))

end Attribute

namespace Candidate

variable {c : Candidate} {name start : Text}

def attribute? (c : Candidate) (name : Text) : Option Attribute :=
  match c.member? name with
  | some (.method outcome) => some (.method outcome)
  | some (.keyed outcome) => some (.keyed outcome)
  | some (.stored value) => some (.value value)
  | some (.computed (.ok value)) => some (.value value)
  | some (.computed (.error _)) => none
  | none => if c.entries.isSome && mappingMembers.contains name then some .standard else none

def Raises (c : Candidate) (name : Text) (fault : Fault) : Prop :=
  c.member? name = some (.computed (.error fault)) ∧ fault ≠ .raised .missingAttribute

def accessor? (c : Candidate) (name : Text) : Option Attribute :=
  (c.attribute? name).filter Attribute.isCallable

/-- Under this name there is no accessor, and reading it lets no exception through. -/
structure Passes (c : Candidate) (name : Text) : Prop where
  not_raises : ∀ fault, ¬c.Raises name fault
  accessor : c.accessor? name = none

structure Lacks (c : Candidate) (name : Text) : Prop where
  not_raises : ∀ fault, ¬c.Raises name fault
  missing : c.attribute? name = none ∨ c.attribute? name = some (.value .absent)

def entry? (c : Candidate) (name : Text) : Option Value :=
  c.entries.bind fun entries => entryOf entries name

/-- No member hides from which class a candidate is, and none replaces the `get` of a mapping. -/
structure Plain (c : Candidate) : Prop where
  classOf : ∀ m, c.member? classMember = some m → ∃ value, m = .stored value
  get : c.entries.isSome = true → c.member? "get" = none

theorem value_read?_of_raises {fault : Fault} (h : c.Raises name fault) :
    (c.read? name).value = .error fault := by
  obtain ⟨hm, hf⟩ := h
  have hread : (c.read name).value = .error fault := by
    simp only [read, Traced.value_bind, hm]
    rfl
  rw [read?, Traced.value_bind, hread]
  cases fault with
  | raised kind =>
    cases kind with
    | missingAttribute => exact absurd rfl hf
    | _ => rfl
  | _ => rfl

theorem value_read?_cases (c : Candidate) (name : Text) :
    (c.read? name).value = .ok (c.attribute? name) ∨
      ∃ fault, c.Raises name fault ∧ (c.read? name).value = .error fault := by
  by_cases h : ∃ fault, c.Raises name fault
  · obtain ⟨fault, hr⟩ := h
    exact .inr ⟨fault, hr, value_read?_of_raises hr⟩
  · left
    cases hm : c.member? name with
    | none =>
      by_cases hs : (c.entries.isSome && mappingMembers.contains name) = true
      · simp only [read?, read, attribute?, Traced.value_bind, hm, hs, if_true]
        rfl
      · simp only [read?, read, attribute?, Traced.value_bind, hm, if_neg hs]
        rfl
    | some m =>
      simp only [read?, read, attribute?, Traced.value_bind, hm]
      cases m with
      | computed outcome =>
        cases outcome with
        | ok value => rfl
        | error fault =>
          -- the one exception that is taken for the absence of the attribute
          by_cases hf : fault = .raised .missingAttribute
          · rw [hf]
            rfl
          · exact absurd ⟨fault, hm, hf⟩ h
      | _ => rfl

theorem value_read?_of_not_raises (h : ∀ fault, ¬c.Raises name fault) :
    (c.read? name).value = .ok (c.attribute? name) := by
  rcases value_read?_cases c name with hv | ⟨fault, hr, -⟩
  · exact hv
  · exact absurd hr (h fault)

theorem attribute_cases (c : Candidate) (name : Text) :
    (∃ fault, c.Raises name fault) ∨
      (∃ found, (∀ fault, ¬c.Raises name fault) ∧ c.attribute? name = some found ∧
        found ≠ .value .absent) ∨
      c.Lacks name := by
  by_cases hr : ∃ fault, c.Raises name fault
  · exact .inl hr
  · have hnot : ∀ fault, ¬c.Raises name fault := fun fault h => hr ⟨fault, h⟩
    by_cases hl : c.attribute? name = none ∨ c.attribute? name = some (.value .absent)
    · exact .inr (.inr ⟨hnot, hl⟩)
    · obtain ⟨hnone, habsent⟩ := not_or.mp hl
      obtain ⟨found, hf⟩ := Option.ne_none_iff_exists'.mp hnone
      exact .inr (.inl ⟨found, hnot, hf, fun h => habsent (h ▸ hf)⟩)

section Accessors

variable {otherwise : Traced Observation (Outcome Value)} {rest : List Text}

theorem throughAccessors_raises {fault : Fault} (h : c.Raises (start ++ name) fault) :
    (c.throughAccessors name otherwise (start :: rest)).value = .error fault := by
  rw [throughAccessors, Traced.value_bind, value_read?_of_raises h]
  rfl

theorem throughAccessors_called {found : Attribute} (hr : ∀ fault, ¬c.Raises (start ++ name) fault)
    (h : c.accessor? (start ++ name) = some found) :
    (c.throughAccessors name otherwise (start :: rest)).value = found.answer name := by
  obtain ⟨ha, hc⟩ := Option.filter_eq_some_iff.mp h
  rw [throughAccessors, Traced.value_bind, value_read?_of_not_raises hr, ha]
  simp only [hc, if_true, Traced.value_bind, Attribute.value_call, Attribute.answer]
  cases found.result <;> rfl

theorem throughAccessors_passed (h : c.Passes (start ++ name)) :
    (c.throughAccessors name otherwise (start :: rest)).value =
      (c.throughAccessors name otherwise rest).value := by
  rw [throughAccessors, Traced.value_bind, value_read?_of_not_raises h.not_raises]
  cases ha : c.attribute? (start ++ name) with
  | none => rfl
  | some found =>
    have hc : found.isCallable = false := by
      have haccessor := h.accessor
      rw [accessor?, ha] at haccessor
      simpa using haccessor
    simp only [hc, Bool.false_eq_true, if_false]

end Accessors

theorem value_asMapping (h : ∀ m, c.member? classMember = some m → ∃ value, m = .stored value) :
    c.asMapping.value = .ok c.entries := by
  simp only [asMapping, Traced.value_bind]
  cases hm : c.member? classMember with
  | none => rfl
  | some m =>
    obtain ⟨value, rfl⟩ := h m hm
    rfl

theorem value_asMapping_of_hidden {m : Member} (hm : c.member? classMember = some m)
    (h : ∀ value, m ≠ .stored value) : ∃ fault, c.asMapping.value = .error fault := by
  simp only [asMapping, Traced.value_bind, hm]
  cases m with
  | stored value => exact absurd rfl (h value)
  | computed outcome =>
    cases outcome with
    | ok value => exact ⟨_, rfl⟩
    | error fault => exact ⟨_, rfl⟩
  | _ => exact ⟨_, rfl⟩

theorem value_entry_of_plain (h : c.Plain) :
    (c.entry name).value = .ok ((c.entry? name).getD .absent) := by
  rw [entry, Traced.value_bind, value_asMapping h.classOf, entry?]
  cases he : c.entries with
  | none => rfl
  | some entries =>
    have hget : (c.read "get").value = .ok .standard := by
      have hmapping : mappingMembers.contains ("get" : Text) = true := by decide
      simp only [read, Traced.value_bind, h.get (by rw [he]; rfl), he, Option.isSome_some, hmapping,
        Bool.and_self, if_true]
      rfl
    simp only [Traced.value_bind, hget]
    rfl

theorem value_entry_of_replaced (name : Text) {entries : List (Text × Value)} {m : Member}
    (hc : c.asMapping.value = .ok (some entries)) (hm : c.member? "get" = some m) :
    ∃ fault, (c.entry name).value = .error fault := by
  rw [entry, Traced.value_bind, hc]
  have hread : (∃ fault, (c.read "get").value = .error fault) ∨
      ∃ found, (c.read "get").value = .ok found ∧ found ≠ .standard := by
    simp only [read, Traced.value_bind, hm]
    cases m with
    | computed outcome =>
      cases outcome with
      | ok value => exact .inr ⟨_, rfl, by simp⟩
      | error fault => exact .inl ⟨fault, rfl⟩
    | _ => exact .inr ⟨_, rfl, by simp⟩
  simp only [Traced.value_bind]
  rcases hread with ⟨fault, hf⟩ | ⟨found, hf, hne⟩
  · rw [hf]
    exact ⟨fault, rfl⟩
  · rw [hf]
    cases hcall : found.isCallable with
    | true =>
      refine ⟨.raised .type, ?_⟩
      cases found with
      | standard => exact absurd rfl hne
      | _ => simp only [hcall, if_true]; rfl
    | false =>
      refine ⟨.notCallable found.toValue.typeName, ?_⟩
      cases found with
      | standard => exact absurd rfl hne
      | _ => simp only [hcall, Bool.false_eq_true, if_false]; rfl

/-- To ask for an entry fails exactly for a candidate that hides its class, or the `get` of a
mapping. -/
theorem value_entry_ok_iff : (∃ value, (c.entry name).value = .ok value) ↔ c.Plain := by
  constructor
  · rintro ⟨value, hv⟩
    have hclass : ∀ m, c.member? classMember = some m → ∃ value, m = .stored value := by
      intro m hm
      cases m with
      | stored value => exact ⟨value, rfl⟩
      | _ =>
        obtain ⟨fault, hf⟩ := value_asMapping_of_hidden hm (by simp)
        rw [entry, Traced.value_bind, hf] at hv
        cases hv
    refine ⟨hclass, fun he => ?_⟩
    cases hm : c.member? "get" with
    | none => rfl
    | some m =>
      obtain ⟨entries, hentries⟩ := Option.isSome_iff_exists.mp he
      have hc := value_asMapping hclass
      rw [hentries] at hc
      obtain ⟨fault, hf⟩ := value_entry_of_replaced name hc hm
      rw [hf] at hv
      cases hv
  · intro h
    exact ⟨_, value_entry_of_plain h⟩

theorem value_plainProperty_of_raises {fault : Fault} (h : c.Raises name fault) :
    (c.plainProperty name).value = .error (.lookup name (some fault.name)) := by
  rw [plainProperty, Traced.value_bind, value_read?_of_raises h]
  rfl

theorem value_plainProperty_of_lacks (h : c.Lacks name) :
    (c.plainProperty name).value = (c.entry name).value := by
  rw [plainProperty, Traced.value_bind, value_read?_of_not_raises h.not_raises]
  rcases h.missing with ha | ha
  · rw [ha]
  · rw [ha]

theorem value_plainProperty_of_attribute {found : Attribute} (hr : ∀ fault, ¬c.Raises name fault)
    (ha : c.attribute? name = some found) (hne : found ≠ .value .absent) :
    (c.plainProperty name).value =
      .ok (if found.isCallable then .absent else found.toValue) := by
  rw [plainProperty, Traced.value_bind, value_read?_of_not_raises hr, ha]
  have hvalue : (if found.isCallable = true then
      (pure (.ok .absent) : Traced Observation (Outcome Value))
      else pure (.ok found.toValue)).value =
        .ok (if found.isCallable then .absent else found.toValue) := by
    split <;> rfl
  cases found with
  | value v =>
    cases v with
    | absent => exact absurd rfl hne
    | _ => exact hvalue
  | _ => exact hvalue

/-- All that a lookup can come to. The rules are tried in this order. -/
inductive Finds (c : Candidate) (name : Text) : Outcome Value → Prop
  | getterRaises {fault : Fault} (h : c.Raises ("get_" ++ name) fault) : c.Finds name (.error fault)
  | getter {found : Attribute} (hr : ∀ fault, ¬c.Raises ("get_" ++ name) fault)
    (ha : c.accessor? ("get_" ++ name) = some found) : c.Finds name (found.answer name)
  | testerRaises {fault : Fault} (hg : c.Passes ("get_" ++ name))
    (h : c.Raises ("is_" ++ name) fault) : c.Finds name (.error fault)
  | tester {found : Attribute} (hg : c.Passes ("get_" ++ name))
    (hr : ∀ fault, ¬c.Raises ("is_" ++ name) fault)
    (ha : c.accessor? ("is_" ++ name) = some found) : c.Finds name (found.answer name)
  | namesakeRaises {fault : Fault} (hg : c.Passes ("get_" ++ name))
    (hi : c.Passes ("is_" ++ name)) (h : c.Raises name fault) :
    c.Finds name (.error (.lookup name (some fault.name)))
  | namesake {found : Attribute} (hg : c.Passes ("get_" ++ name)) (hi : c.Passes ("is_" ++ name))
    (hr : ∀ fault, ¬c.Raises name fault) (ha : c.attribute? name = some found)
    (hne : found ≠ .value .absent) :
    c.Finds name (.ok (if found.isCallable then .absent else found.toValue))
  | entry (hg : c.Passes ("get_" ++ name)) (hi : c.Passes ("is_" ++ name)) (hl : c.Lacks name) :
    c.Finds name (c.entry name).value

theorem Finds.value_property {outcome : Outcome Value} (hn : name.isPropertyName = true)
    (h : c.Finds name outcome) : (c.property name).value = outcome := by
  rw [property, if_pos hn, accessorStarts, List.map_cons, List.map_cons]
  cases h with
  | getterRaises h => exact throughAccessors_raises h
  | getter hr ha => exact throughAccessors_called hr ha
  | testerRaises hg h => rw [throughAccessors_passed hg, throughAccessors_raises h]
  | tester hg hr ha => rw [throughAccessors_passed hg, throughAccessors_called hr ha]
  | namesakeRaises hg hi h =>
    rw [throughAccessors_passed hg, throughAccessors_passed hi]
    exact value_plainProperty_of_raises h
  | namesake hg hi hr ha hne =>
    rw [throughAccessors_passed hg, throughAccessors_passed hi]
    exact value_plainProperty_of_attribute hr ha hne
  | entry hg hi hl =>
    rw [throughAccessors_passed hg, throughAccessors_passed hi]
    exact value_plainProperty_of_lacks hl

end Candidate

end Keyring
