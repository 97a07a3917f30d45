import Keyring.Proofs.Query.Evaluation

/-!
# Confinement

What a query can reach of a candidate that is wrapped: for a property that the query names, the
accessors and the attribute of that name, and the entry if the candidate is a mapping. To find out
about the latter, the class of the candidate is read. A query reaches nothing under a name that is
not for queries.
-/

namespace Keyring

def Traced.AsksOnly {α : Type} (allowed : Access → Prop) (t : Traced Observation α) : Prop :=
  ∀ a, .access a ∈ t.trace → allowed a

namespace Traced.AsksOnly

variable {α β : Type} {allowed wider : Access → Prop}

theorem pure (v : α) : (Pure.pure v : Traced Observation α).AsksOnly allowed := by
  intro a ha
  cases ha

theorem observe {a : Access} (h : allowed a) : a.observe.AsksOnly allowed := by
  intro b hb
  cases List.mem_singleton.mp hb
  exact h

theorem event (e : Log.Event) : (Traced.observe (Observation.event e)).AsksOnly allowed := by
  intro a ha
  cases List.mem_singleton.mp ha

theorem bind {t : Traced Observation α} {next : α → Traced Observation β}
    (ht : t.AsksOnly allowed) (hn : ∀ v, t.value = v → (next v).AsksOnly allowed) :
    (t >>= next).AsksOnly allowed := by
  intro a ha
  rcases List.mem_append.mp ha with ha | ha
  · exact ht a ha
  · exact hn t.value rfl a ha

theorem mono {t : Traced Observation α} (h : t.AsksOnly allowed)
    (hw : ∀ a, allowed a → wider a) : t.AsksOnly wider :=
  fun a ha => hw a (h a ha)

end Traced.AsksOnly

namespace Candidate

variable {c : Candidate} {name start : Text}

/-- To read a member is to look it up, and to run it if it is computed when it is read. -/
inductive Reads (c : Candidate) (name : Text) : Access → Prop
  | lookup : c.Reads name (.lookup name)
  | run {outcome : Outcome Value} (h : c.member? name = some (.computed outcome)) :
    c.Reads name (.run name)

/-- What a wrapped candidate is asked for when a property is: its accessors and its attribute, and
where these hold nothing, its class and the entry of a mapping. -/
inductive Serves (c : Candidate) (name : Text) : Access → Prop
  | accessor {start : Text} {a : Access} (hs : start ∈ accessorStarts)
    (h : c.Reads (start ++ name) a) : c.Serves name a
  | call {start : Text} (hs : start ∈ accessorStarts) : c.Serves name (.call (start ++ name))
  | answer {start : Text} (hs : start ∈ accessorStarts) : c.Serves name (.run (start ++ name))
  | attribute {a : Access} (h : c.Reads name a) : c.Serves name a
  | classOf {a : Access} (h : c.Reads classMember a) : c.Serves name a
  | entry {a : Access} (hm : c.entries.isSome = true) (h : c.Reads "get" a) : c.Serves name a
  | callEntry (hm : c.entries.isSome = true) : c.Serves name (.call "get")

theorem asksOnly_read : (c.read name).AsksOnly (c.Reads name) := by
  refine .bind (.observe .lookup) fun _ _ => ?_
  split
  · exact .pure _
  · exact .pure _
  · exact .pure _
  · rename_i outcome hm
    refine .bind (.observe (.run hm)) fun _ _ => ?_
    cases outcome <;> exact .pure _
  · split <;> exact .pure _

theorem asksOnly_read? : (c.read? name).AsksOnly (c.Reads name) := by
  refine .bind asksOnly_read fun outcome _ => ?_
  split <;> exact .pure _

theorem asksOnly_call (hs : start ∈ accessorStarts) (found : Attribute) :
    (found.call (start ++ name)).AsksOnly (c.Serves name) := by
  have hcall : (Access.call (start ++ name)).observe.AsksOnly (c.Serves name) :=
    .observe (.call hs)
  unfold Attribute.call
  split
  · exact .bind hcall fun _ _ => .pure _
  · exact .bind hcall fun _ _ => .bind (.observe (.answer hs)) fun _ _ => .pure _
  · split
    · exact .bind hcall fun _ _ => .pure _
    · exact .pure _
  · exact .bind hcall fun _ _ => .pure _

theorem asksOnly_throughAccessors {otherwise : Traced Observation (Outcome Value)}
    (ho : otherwise.AsksOnly (c.Serves name)) {starts : List Text}
    (hs : ∀ start ∈ starts, start ∈ accessorStarts) :
    (c.throughAccessors name otherwise starts).AsksOnly (c.Serves name) := by
  induction starts with
  | nil => exact ho
  | cons start rest ih =>
    have hstart := hs start List.mem_cons_self
    have hrest := ih fun s h => hs s (List.mem_cons_of_mem start h)
    refine .bind (asksOnly_read?.mono fun _ => .accessor hstart) fun outcome _ => ?_
    split
    · exact .pure _
    · exact hrest
    · split
      · refine .bind (asksOnly_call hstart _) fun answer _ => ?_
        split <;> exact .pure _
      · exact hrest

theorem asksOnly_asMapping : c.asMapping.AsksOnly (c.Reads classMember) := by
  refine .bind (.observe .lookup) fun _ _ => ?_
  split
  · rename_i outcome hm
    refine .bind (.observe (.run hm)) fun _ _ => ?_
    cases outcome <;> exact .pure _
  all_goals exact .pure _

theorem asMapping_eq_ok {entries : Option (List (Text × Value))}
    (h : c.asMapping.value = .ok entries) : c.entries = entries := by
  simp only [asMapping, Traced.value_bind] at h
  split at h
  · rename_i outcome _
    cases outcome <;> cases h
  · cases h
  · cases h
  · cases h
    rfl

theorem asksOnly_entry : (c.entry name).AsksOnly (c.Serves name) := by
  refine .bind (asksOnly_asMapping.mono fun _ => .classOf) fun outcome ho => ?_
  split
  · exact .pure _
  · exact .pure _
  · -- `get` is asked for only here, where the candidate has turned out to be a mapping
    have hm : c.entries.isSome = true := by rw [asMapping_eq_ok ho]; rfl
    have hcall : (Access.call "get").observe.AsksOnly (c.Serves name) := .observe (.callEntry hm)
    refine .bind (asksOnly_read.mono fun _ => .entry hm) fun found _ => ?_
    split
    · exact .pure _
    · exact .bind hcall fun _ _ => .pure _
    · split
      · exact .bind hcall fun _ _ => .pure _
      · exact .pure _

theorem asksOnly_plainProperty : (c.plainProperty name).AsksOnly (c.Serves name) := by
  refine .bind (asksOnly_read?.mono fun _ => .attribute) fun outcome _ => ?_
  split
  · exact .pure _
  · exact asksOnly_entry
  · exact asksOnly_entry
  · split <;> exact .pure _

theorem asksOnly_property :
    (c.property name).AsksOnly fun a => name.isPropertyName = true ∧ c.Serves name a := by
  unfold property
  split
  · rename_i hn
    have hserves : (c.throughAccessors name (c.plainProperty name) accessorStarts).AsksOnly
        (c.Serves name) := asksOnly_throughAccessors asksOnly_plainProperty fun _ hs => hs
    exact hserves.mono fun _ ha => ⟨hn, ha⟩
  · exact .pure _

theorem asksOnly_propertyIf (isRight : Value → Bool) :
    (c.propertyIf name isRight).AsksOnly fun a =>
      name.isPropertyName = true ∧ c.Serves name a := by
  refine .bind asksOnly_property fun outcome _ => ?_
  split <;> exact .pure _

theorem isSome_member? (c : Candidate) (name : Text) :
    (c.member? name).isSome = (c.members.map Prod.fst).contains name := by
  rw [member?, Option.isSome_map, Bool.eq_iff_iff]
  simp

/-- A candidate is told from a view by the names of its members, whatever they do. -/
theorem isView_eq_of_names {d : Candidate} (h : d.members.map Prod.fst = c.members.map Prod.fst) :
    d.isView = c.isView := by
  simp only [isView, isSome_member?, h]

end Candidate

namespace Query

variable {c : Candidate}

theorem asksOnly_readProperty (property : Name) :
    (readProperty property c.wrapped).AsksOnly fun a =>
      property.text.isPropertyName = true ∧ c.Serves property.text a := by
  unfold readProperty
  split
  · rename_i h
    rw [h]
    exact Candidate.asksOnly_propertyIf _
  · split
    · rename_i h
      rw [h]
      exact Candidate.asksOnly_propertyIf _
    · exact Candidate.asksOnly_property

theorem asksOnly_failed {allowed : Access → Prop} (e : Log.Event) :
    (failed (.event e) : Traced Observation Bool).AsksOnly allowed :=
  .bind (.event e) fun _ _ => .pure _

namespace Expr

def asked : Expr → List Text
  | .not operand => operand.asked
  | .and left right | .or left right => left.asked ++ right.asked
  | .equals property _ => [property.text]
  | .scopeIn _ => [Name.scope.text]
  | _ => []

def Reaches (e : Expr) (c : Candidate) (a : Access) : Prop :=
  ∃ name ∈ e.asked, name.isPropertyName = true ∧ c.Serves name a

theorem Reaches.mono {part e : Expr} {a : Access} (hs : ∀ name ∈ part.asked, name ∈ e.asked)
    (h : part.Reaches c a) : e.Reaches c a := by
  obtain ⟨name, hm, hr⟩ := h
  exact ⟨name, hs name hm, hr⟩

theorem asksOnly_holds (e : Expr) : (e.holds c.wrapped).AsksOnly (e.Reaches c) := by
  -- what a part reaches, the whole may reach
  induction e with
  | always => exact .pure _
  | never => exact .pure _
  | not operand ih => exact .bind ih fun _ _ => .pure _
  | and left right ihl ihr =>
    refine .bind (ihl.mono fun _ => .mono fun _ => List.mem_append_left _) fun answer _ => ?_
    split
    · exact ihr.mono fun _ => .mono fun _ => List.mem_append_right _
    · exact .pure _
  | or left right ihl ihr =>
    refine .bind (ihl.mono fun _ => .mono fun _ => List.mem_append_left _) fun answer _ => ?_
    split
    · exact .pure _
    · exact ihr.mono fun _ => .mono fun _ => List.mem_append_right _
  | instanceOf typeName =>
    refine .bind (.pure _) fun outcome _ => ?_
    split
    · exact asksOnly_failed _
    · split
      · exact .pure _
      · exact asksOnly_failed _
  | equals property value =>
    refine .bind ((asksOnly_readProperty property).mono fun _ ha => ?_) fun outcome _ => ?_
    · exact ⟨property.text, List.mem_singleton_self _, ha⟩
    · split
      · exact asksOnly_failed _
      · exact .pure _
  | scopeIn scopes =>
    refine .bind ((Candidate.asksOnly_propertyIf _).mono fun _ ha => ?_) fun outcome _ => ?_
    · exact ⟨Name.scope.text, List.mem_singleton_self _, ha⟩
    · split
      · exact asksOnly_failed _
      · exact .pure _

/-- Tests of properties whose names are not for queries, put as the condition that never holds. -/
def withoutHidden : Expr → Expr
  | .not operand => .not operand.withoutHidden
  | .and left right => .and left.withoutHidden right.withoutHidden
  | .or left right => .or left.withoutHidden right.withoutHidden
  | .equals property value =>
    if property.text.isPropertyName then .equals property value else .never
  | e => e

theorem matchesProperty_hidden {property : Name} (h : ¬property.text.isPropertyName = true)
    (expected : Literal) : matchesProperty property expected c.wrapped = pure false := by
  have hid : property ≠ .id := by
    rintro rfl
    exact h (by decide +kernel)
  have hscope : property ≠ .scope := by
    rintro rfl
    exact h (by decide +kernel)
  have hread : readProperty property c.wrapped = pure (.ok .absent) := by
    rw [readProperty, if_neg hid, if_neg hscope]
    exact if_neg h
  rw [matchesProperty, hread, pure_bind]
  cases expected <;> rfl

theorem holds_withoutHidden (e : Expr) :
    e.withoutHidden.holds c.wrapped = e.holds c.wrapped := by
  induction e with
  | not operand ih => rw [withoutHidden, holds, holds, ih]
  | and left right ihl ihr => rw [withoutHidden, holds, holds, ihl, ihr]
  | or left right ihl ihr => rw [withoutHidden, holds, holds, ihl, ihr]
  | equals property value =>
    rw [withoutHidden]
    split
    · rfl
    · rename_i h
      exact (matchesProperty_hidden h value).symm
  | _ => rfl

end Expr

/-- A query reaches a candidate that is no view only for the properties that it names; tests of
names that are not for queries count for nothing. Nothing is asked to tell whether a candidate is a
view. -/
theorem evaluation_confined (e : Expr) (c : Candidate) :
    (c.isView = false →
      (∀ a, .access a ∈ (evaluate e c).trace → e.Reaches c a) ∧
        evaluate e.withoutHidden c = evaluate e c) ∧
    (∀ d : Candidate, d.members.map Prod.fst = c.members.map Prod.fst → d.isView = c.isView) ∧
    evaluate .always c = pure true := by
  refine ⟨fun hview => ?_, fun d => Candidate.isView_eq_of_names, ?_⟩
  · have hw : c.view = c.wrapped := if_neg (by simp [hview])
    rw [evaluate, evaluate, hw, Expr.test_eq_holds, Expr.test_eq_holds]
    exact ⟨e.asksOnly_holds, e.holds_withoutHidden⟩
  · rw [evaluate, Expr.test]
    rfl

private def probe : Expr :=
  .and (.equals ⟨"x", by decide⟩ (.boolean true)) (.equals ⟨"_y", by decide⟩ (.boolean true))

private def holder : Candidate :=
  .object [⟨"example", "Holder"⟩] [("get_x", .method (.ok (.boolean true))),
    ("_y", .stored (.boolean true)), ("purge", .method (.error (.raised .runtime)))]

theorem evaluation_confined_holder :
    holder.isView = false ∧
      ∀ a, .access a ∈ (evaluate probe holder).trace → probe.Reaches holder a := by
  have hview : holder.isView = false := by decide
  exact ⟨hview, ((evaluation_confined probe holder).1 hview).1⟩

private def masked : Candidate :=
  .object [⟨"example", "Masked"⟩] [("__class__", .computed (.ok (.integer 1)))]

private def ofX : Expr := .equals ⟨"x", by decide⟩ (.boolean true)

/-- A computed class is run by a test of a property that the candidate does not have, though no
query may name it. -/
theorem computed_class_runs :
    masked.isView = false ∧
      .access (.run Candidate.classMember) ∈ (evaluate ofX masked).trace ∧
      ∀ name ∈ ofX.asked,
        Candidate.classMember ∉ ["get_" ++ name, "is_" ++ name, name, ("get" : Text)] := by
  refine ⟨by decide, ?_, by decide⟩
  rw [evaluate, Expr.test_eq_holds]
  decide +kernel

end Query

end Keyring
