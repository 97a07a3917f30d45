import Keyring.Proofs.Candidate.Lookup

/-!
# The order in which a property is resolved

The accessors come first, then the attribute of the same name if it is no function, then the entry
of a mapping. A lookup keeps to this order but where an entry is concerned: a function of the same
name hides it, an attribute that is marked as absent gives way to it, and a candidate that hides its
class or replaces the `get` of a mapping cannot be asked for it.
-/

namespace Keyring.Candidate

variable {c : Candidate} {name : Text}

def plainValue? (c : Candidate) (name : Text) : Option Value :=
  (c.attribute? name).bind fun found => if found.isCallable then none else some found.toValue

/-- A property by the order of the rules: the result of the first accessor that there is, else the
attribute that is no function, else the entry, else nothing. -/
def inOrder (c : Candidate) (name : Text) : Outcome Value :=
  match (c.accessor? ("get_" ++ name)).or (c.accessor? ("is_" ++ name)) with
  | some found => found.result
  | none => .ok (((c.plainValue? name).or (c.entry? name)).getD .absent)

structure Quiet (c : Candidate) (name : Text) : Prop where
  getter : ∀ fault, ¬c.Raises ("get_" ++ name) fault
  tester : ∀ fault, ¬c.Raises ("is_" ++ name) fault
  namesake : ∀ fault, ¬c.Raises name fault
  call : ∀ start ∈ accessorStarts, ∀ found, c.accessor? (start ++ name) = some found →
    ∃ value, found.result = .ok value

/-- The entry is not had where it is its turn, or had before its turn: a function hides it, an
attribute marked as absent gives way to it, or the candidate cannot be asked for it. -/
inductive Withholds (c : Candidate) (name : Text) : Prop
  | hidden {found : Attribute} {value : Value} (ha : c.attribute? name = some found)
    (hf : found.isCallable = true ∨ found = .value .absent) (he : c.entry? name = some value)
    (hv : value ≠ .absent)
  | refused (hl : c.attribute? name = none ∨ c.attribute? name = some (.value .absent))
    (hp : ¬c.Plain)

structure Strays (c : Candidate) (name : Text) : Prop where
  getter : c.accessor? ("get_" ++ name) = none
  tester : c.accessor? ("is_" ++ name) = none
  withholds : c.Withholds name

theorem Quiet.answer_eq {start : Text} {found : Attribute} (h : c.Quiet name)
    (hs : start ∈ accessorStarts) (ha : c.accessor? (start ++ name) = some found) :
    found.answer name = found.result := by
  obtain ⟨value, hv⟩ := h.call start hs found ha
  rw [Attribute.answer, hv]

theorem inOrder_of_passes (hg : c.Passes ("get_" ++ name)) (hi : c.Passes ("is_" ++ name)) :
    c.inOrder name = .ok (((c.plainValue? name).or (c.entry? name)).getD .absent) := by
  rw [inOrder, hg.accessor, hi.accessor]
  rfl

theorem not_withholds_iff {found : Attribute} (ha : c.attribute? name = some found)
    (hf : found.isCallable = true ∨ found = .value .absent)
    (hp : found = .value .absent → c.Plain) :
    ¬c.Withholds name ↔ (c.entry? name).getD .absent = .absent := by
  constructor
  · intro h
    cases he : c.entry? name with
    | none => rfl
    | some value =>
      by_cases hv : value = .absent
      · exact hv
      · exact absurd (.hidden ha hf he hv) h
  · intro h hw
    cases hw with
    | hidden _ _ he hv =>
      rw [he] at h
      exact hv h
    | refused hl hnot =>
      rw [ha] at hl
      rcases hl with hl | hl
      · cases hl
      · cases hl
        exact hnot (hp rfl)

theorem resolution_of_attribute {found : Attribute} (hn : name.isPropertyName = true)
    (hg : c.Passes ("get_" ++ name)) (hi : c.Passes ("is_" ++ name))
    (hr : ∀ fault, ¬c.Raises name fault) (ha : c.attribute? name = some found)
    (hne : found ≠ .value .absent) :
    (c.property name).value = c.inOrder name ↔ ¬c.Withholds name := by
  rw [(Finds.namesake hg hi hr ha hne).value_property hn, inOrder_of_passes hg hi, plainValue?, ha]
  cases hc : found.isCallable with
  | true =>
    rw [not_withholds_iff ha (.inl hc) fun h => absurd h hne, eq_comm]
    simp [hc]
  | false =>
    have hnot : ¬c.Withholds name := by
      intro hw
      cases hw with
      | hidden ha' hf _ _ =>
        rw [ha] at ha'
        cases ha'
        simp [hc, hne] at hf
      | refused hl _ =>
        rw [ha] at hl
        simp [hne] at hl
    simp [hc, hnot]

/-- Without an attribute the entry is the property; one that is marked as absent gives way to it
too, though by the order it takes its turn. -/
theorem resolution_of_lacks (hn : name.isPropertyName = true)
    (hg : c.Passes ("get_" ++ name)) (hi : c.Passes ("is_" ++ name)) (hl : c.Lacks name) :
    (c.property name).value = c.inOrder name ↔ ¬c.Withholds name := by
  rw [(Finds.entry hg hi hl).value_property hn]
  by_cases hp : c.Plain
  · rw [value_entry_of_plain hp, inOrder_of_passes hg hi, plainValue?]
    rcases hl.missing with ha | ha
    · have hnot : ¬c.Withholds name := by
        intro hw
        cases hw with
        | hidden ha' _ _ _ =>
          rw [ha] at ha'
          cases ha'
        | refused _ hnot => exact hnot hp
      simp [ha, hnot]
    · rw [not_withholds_iff ha (.inr rfl) fun _ => hp]
      simp [ha, Attribute.isCallable, Value.isCallable, Attribute.toValue]
  · have hw : c.Withholds name := .refused hl.missing hp
    have hne : (c.entry name).value ≠ c.inOrder name := by
      intro h
      apply hp
      exact value_entry_ok_iff.mp ⟨_, h.trans (inOrder_of_passes hg hi)⟩
    exact iff_of_false hne (not_not_intro hw)

private theorem getter_mem : ("get_" : Text) ∈ accessorStarts := List.mem_cons_self

private theorem tester_mem : ("is_" : Text) ∈ accessorStarts :=
  List.mem_cons_of_mem _ List.mem_cons_self

/-- If no member raises, a property is what the order of the rules gives, exactly where the lookup
does not stray from it. -/
theorem property_resolution (c : Candidate) (name : Text) (hn : name.isPropertyName = true)
    (hq : c.Quiet name) :
    (∃ value, c.inOrder name = .ok value) ∧
      ((c.property name).value = c.inOrder name ↔ ¬c.Strays name) := by
  cases hg : c.accessor? ("get_" ++ name) with
  | some found =>
    have horder : c.inOrder name = found.result := by
      rw [inOrder, hg]
      rfl
    have hv := (Finds.getter hq.getter hg).value_property hn
    have hstays : ¬c.Strays name := by
      intro h
      rw [h.getter] at hg
      cases hg
    rw [hv, hq.answer_eq getter_mem hg, horder]
    exact ⟨hq.call _ getter_mem found hg, iff_of_true rfl hstays⟩
  | none =>
    have hgetter : c.Passes ("get_" ++ name) := ⟨hq.getter, hg⟩
    cases hi : c.accessor? ("is_" ++ name) with
    | some found =>
      have horder : c.inOrder name = found.result := by
        rw [inOrder, hg, hi]
        rfl
      have hv := (Finds.tester hgetter hq.tester hi).value_property hn
      have hstays : ¬c.Strays name := by
        intro h
        rw [h.tester] at hi
        cases hi
      rw [hv, hq.answer_eq tester_mem hi, horder]
      exact ⟨hq.call _ tester_mem found hi, iff_of_true rfl hstays⟩
    | none =>
      have htester : c.Passes ("is_" ++ name) := ⟨hq.tester, hi⟩
      have hstrays : c.Strays name ↔ c.Withholds name :=
        ⟨fun h => h.withholds, fun h => ⟨hg, hi, h⟩⟩
      -- without an accessor the two can part, but only where the attribute is a function or absent
      refine ⟨⟨_, inOrder_of_passes hgetter htester⟩, ?_⟩
      rw [hstrays]
      rcases attribute_cases c name with ⟨fault, hr⟩ | ⟨found, hr, ha, hne⟩ | hl
      · exact absurd hr (hq.namesake fault)
      · exact resolution_of_attribute hn hgetter htester hr ha hne
      · exact resolution_of_lacks hn hgetter htester hl

private def sheet : Candidate :=
  .mapping [⟨"example", "Sheet"⟩] [("is_open", .method (.ok (.boolean true)))]
    [("open", .text "no"), ("port", .integer 22), ("items", .integer 5)]

private theorem sheet_not_raises (name : Text) (fault : Fault) : ¬sheet.Raises name fault := by
  rintro ⟨h, -⟩
  rw [member?] at h
  obtain ⟨entry, hfind, hmember⟩ := Option.map_eq_some_iff.mp h
  have hmem := List.mem_of_find?_eq_some hfind
  cases List.mem_singleton.mp hmem
  cases hmember

theorem property_resolution_open :
    sheet.Quiet "open" ∧ ¬sheet.Strays "open" ∧
      (sheet.property "open").value = .ok (.boolean true) := by
  have hquiet : sheet.Quiet "open" := by
    refine ⟨sheet_not_raises _, sheet_not_raises _, sheet_not_raises _, ?_⟩
    intro start hs found hf
    simp only [accessorStarts, List.map_cons, List.map_nil, List.mem_cons, List.not_mem_nil,
      or_false] at hs
    rcases hs with rfl | rfl
    · cases hf
    · cases hf
      exact ⟨_, rfl⟩
  have hstays : ¬sheet.Strays "open" := by
    intro h
    have ht := h.tester
    cases ht
  have h := property_resolution sheet "open" (by decide +kernel) hquiet
  exact ⟨hquiet, hstays, h.2.mpr hstays⟩

/-- A mapping has a method `items`, and so no lookup gives an entry of this name, though by the
order of the rules it is the property. -/
theorem function_hides_entry :
    (sheet.property "items").value = .ok .absent ∧ sheet.inOrder "items" = .ok (.integer 5) := by
  have hmethod : sheet.attribute? "items" = some .standard := rfl
  have hfinds : sheet.Finds "items" (.ok .absent) :=
    .namesake ⟨sheet_not_raises _, rfl⟩ ⟨sheet_not_raises _, rfl⟩ (sheet_not_raises _) hmethod
      (by simp)
  exact ⟨hfinds.value_property (by decide +kernel), rfl⟩

end Keyring.Candidate
