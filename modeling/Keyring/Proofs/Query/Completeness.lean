import Keyring.Proofs.Query.Grammar

/-!
# Every derivation is read

Tokens that the grammar derives at a level lead a reading, whatever groups are open around it, to
the state in which the operand, the conjunction or the whole group has just been completed.
-/

namespace Keyring.Query

namespace Reading

/-- The tokens move one reading to another, none of them being rejected. -/
inductive Reads : Reading → List Token → Reading → Prop
  | done {r : Reading} : Reads r [] r
  | step {r mid last : Reading} {t : Token} {ts : List Token} (h : r.step t = .ok mid)
      (hs : Reads mid ts last) : Reads r (t :: ts) last

theorem Reads.append {r mid last : Reading} {ts us : List Token} (h : Reads r ts mid)
    (hs : Reads mid us last) : Reads r (ts ++ us) last := by
  induction h with
  | done => exact hs
  | step h _ ih => exact .step h (ih hs)

theorem step_endOfInput (r : Reading) {t : Token} (ht : t.kind = .endOfInput) :
    ∃ rejection, r.step t = .error rejection := by
  cases hp : r.phase <;>
    simp [step, hp, ht, stepOperand, stepConnective, stepScopeRelation, stepScopeValue,
      stepScopeName, literal?, reject]

theorem Reads.kind_ne_endOfInput {r last : Reading} {ts : List Token} (h : Reads r ts last) :
    ∀ t ∈ ts, t.kind ≠ .endOfInput := by
  induction h with
  | done => simp
  | @step r mid last t ts h _ ih =>
    intro u hu
    rcases List.mem_cons.mp hu with rfl | hu
    · intro hk
      obtain ⟨rejection, hr⟩ := r.step_endOfInput hk
      rw [hr] at h
      cases h
    · exact ih u hu

theorem Reads.run {r mid : Reading} {ts : List Token} (h : Reads r ts mid) (ending : Token)
    (rest : List Token) : r.run ending (ts ++ rest) = mid.run ending rest := by
  have hk := h.kind_ne_endOfInput
  induction h with
  | done => rfl
  | @step r mid last t ts hs _ ih =>
    have ht : t.kind ≠ .endOfInput := hk t List.mem_cons_self
    rw [List.cons_append, Reading.run, if_neg ht, hs]
    exact ih fun u hu => hk u (List.mem_cons_of_mem t hu)

end Reading

open Reading

private theorem compare_name (name : Name) (value : Literal) :
    Reading.compare name.text (.ok value) = .ok (.equals name value) := by
  simp [Reading.compare, Expr.ofProperty, Name.ofText?, name.isName_text]

private theorem literal?_kind (value : Literal) : literal? value.kind = some (.ok value) := by
  cases value <;> rfl

theorem ofName?_of_namesScope {t : Token} {scope : Scope} (h : t.NamesScope scope) :
    Scope.ofName? t.text = some scope := by
  rw [Scope.ofName?, h.2]
  cases scope <;> decide

private theorem step_scopeWord {outer : List Pending} {group : Pending} {word : Token}
    (hw : word.Is .identifier scopeWord) :
    step ⟨outer, group, .operand⟩ word = .ok ⟨outer, group, .scopeRelation⟩ := by
  have hi : scopeWord ≠ Text.instanceofWord := by decide
  simp [step, stepOperand, hw.1, hw.2, hi, toPhase]

private theorem step_scopeEquals {outer : List Pending} {group : Pending} {o : Token}
    (ho : o.Is .operator "==") :
    step ⟨outer, group, .scopeRelation⟩ o = .ok ⟨outer, group, .scopeValue⟩ := by
  simp [step, stepScopeRelation, ho.1, ho.2, toPhase]

private theorem reads_equals {outer : List Pending} {group : Pending} {t o v : Token}
    {name : Name} {value : Literal} (ht : t.Is .identifier name.text) (ho : o.Is .operator "==")
    (hv : v.kind = value.kind) :
    Reads ⟨outer, group, .operand⟩ [t, o, v]
      (withOperand ⟨outer, group, .operand⟩ (.equals name value)) := by
  have hl : literal? v.kind = some (.ok value) := hv ▸ literal?_kind value
  by_cases hs : name.text = scopeWord
  · -- the word `scope` leads through phases of its own, which a literal leaves the same way
    have hc := compare_name name value
    rw [hs] at hc
    have hvalue : step ⟨outer, group, .scopeValue⟩ v =
        .ok (withOperand ⟨outer, group, .operand⟩ (.equals name value)) := by
      cases value <;>
        simp_all [step, stepScopeValue, literal?, withOperand?, withOperand, Literal.kind]
    have hword : t.Is .identifier scopeWord := ⟨ht.1, ht.2.trans hs⟩
    exact .step (step_scopeWord hword) (.step (step_scopeEquals ho) (.step hvalue .done))
  · have hproperty : step ⟨outer, group, .operand⟩ t =
        .ok ⟨outer, group, .comparison name.text⟩ := by
      simp [step, stepOperand, ht.1, ht.2, hs, toPhase, name.text_ne_instanceofWord]
    have hoperator : step ⟨outer, group, .comparison name.text⟩ o =
        .ok ⟨outer, group, .literal name.text⟩ := by
      simp [step, ho.1, ho.2, toPhase]
    refine .step hproperty (.step hoperator (.step ?_ .done))
    simp [step, hl, withOperand?, compare_name, withOperand]

private theorem reads_scopeNames {outer : List Pending} {group : Pending} {ts : List Token}
    {scopes : List Scope} (h : ScopeNames ts scopes) :
    Reads ⟨outer, group, .scopeName .empty⟩ ts
      ⟨outer, group, .scopeSeparator (.ofList scopes)⟩ := by
  induction h with
  | one ht =>
    refine .step ?_ .done
    simp [step, stepScopeName, ht.1, ofName?_of_namesScope ht, toPhase, ScopeSet.ofList]
  | @more ts scopes comma t scope _ hc ht ih =>
    have hcomma : step ⟨outer, group, .scopeSeparator (.ofList scopes)⟩ comma =
        .ok ⟨outer, group, .scopeName (.ofList scopes)⟩ := by
      simp [step, hc, toPhase]
    refine ih.append (.step hcomma (.step ?_ .done))
    simp [step, stepScopeName, ht.1, ofName?_of_namesScope ht, toPhase, ScopeSet.ofList]

/-- What it is to read an expression at a level: an operand joins the open group, a conjunction is
read after the alternatives before it, and the alternatives make up a whole group. -/
def Level.Completes : Level → List Token → Expr → Prop
  | .disjunction, ts, e => ∀ outer, ∃ before last, Pending.join .or before last = e ∧
      Reads ⟨outer, .none, .operand⟩ ts ⟨outer, ⟨before, none, 0⟩, .connective last⟩
  | .conjunction, ts, e => ∀ outer before,
      Reads ⟨outer, ⟨before, none, 0⟩, .operand⟩ ts ⟨outer, ⟨before, none, 0⟩, .connective e⟩
  | _, ts, e => ∀ outer group,
      Reads ⟨outer, group, .operand⟩ ts (withOperand ⟨outer, group, .operand⟩ e)

private theorem negate_not (count : Nat) (e : Expr) :
    Expr.negate count (.not e) = .not (.negate count e) := by
  induction count with
  | zero => rfl
  | succ count ih => rw [Expr.negate, ih, Expr.negate]

theorem Derives.completes {level : Level} {ts : List Token} {e : Expr} (h : Derives level ts e) :
    level.Completes ts e := by
  induction h with
  | ofConjunction _ ih => exact fun outer => ⟨none, _, rfl, ih outer none⟩
  | @or ls rs o l r _ ho _ ihl ihr =>
    intro outer
    obtain ⟨before, last, rfl, hl⟩ := ihl outer
    refine ⟨some (Pending.join .or before last), r, rfl, hl.append (.step ?_ (ihr outer _))⟩
    simp [step, stepConnective, ho.1, ho.2, Pending.disjoin]
    decide
  | ofUnary _ ih => exact fun outer before => ih outer ⟨before, none, 0⟩
  | @and ls rs o l r _ ho _ ihl ihr =>
    intro outer before
    refine (ihl outer before).append (.step ?_ (ihr outer ⟨before, some l, 0⟩))
    simp [step, stepConnective, ho.1, ho.2]
  | ofPrimary _ ih => exact ih
  | @not ts o e ho _ ih =>
    intro outer group
    have hmark : step ⟨outer, group, .operand⟩ o =
        .ok ⟨outer, { group with negations := group.negations + 1 }, .operand⟩ := by
      simp [step, stepOperand, ho.1, ho.2]
    have h := ih outer { group with negations := group.negations + 1 }
    simp only [withOperand, Pending.conjoin, Expr.negate] at h
    simp only [withOperand, Pending.conjoin, negate_not]
    exact .step hmark h
  | @group ts opening closing e ho _ hc ih =>
    intro outer group
    obtain ⟨before, last, rfl, hr⟩ := ih (group :: outer)
    have hopen : step ⟨outer, group, .operand⟩ opening =
        .ok ⟨group :: outer, .none, .operand⟩ := by
      simp [step, stepOperand, ho]
    refine .step hopen (hr.append (.step ?_ .done))
    simp [step, stepConnective, hc, Pending.disjoin]
  | always ht | never ht =>
    intro outer group
    exact .step (by simp [step, stepOperand, ht]) .done
  | @instanceOf word t name hw ht =>
    intro outer group
    have hword : step ⟨outer, group, .operand⟩ word = .ok ⟨outer, group, .typeName⟩ := by
      simp [step, stepOperand, hw.1, hw.2, toPhase]
    refine .step hword (.step ?_ .done)
    simp [step, ht.1, ht.2, name.text_ne_instanceofWord, withOperand?, Expr.ofTypeName,
      Name.ofText?, name.isName_text, withOperand]
  | equals ht ho hv => exact fun outer group => reads_equals ht ho hv
  | @scopeIs word o t scope hw ho ht =>
    intro outer group
    refine .step (step_scopeWord hw) (.step (step_scopeEquals ho) (.step ?_ .done))
    simp [step, stepScopeValue, ht.1, ofName?_of_namesScope ht, withOperand, ScopeSet.ofList]
  | @scopeIn word inside opening closing ts scopes hw hi ho hts hc =>
    intro outer group
    have hinside : step ⟨outer, group, .scopeRelation⟩ inside =
        .ok ⟨outer, group, .scopeList⟩ := by
      simp [step, stepScopeRelation, hi.1, hi.2, toPhase]
    have hopen : step ⟨outer, group, .scopeList⟩ opening =
        .ok ⟨outer, group, .scopeName .empty⟩ := by
      simp [step, ho, toPhase]
    have hclose : step ⟨outer, group, .scopeSeparator (.ofList scopes)⟩ closing =
        .ok (withOperand ⟨outer, group, .operand⟩ (.scopeIn (.ofList scopes))) := by
      simp [step, hc, withOperand]
    exact .step (step_scopeWord hw) (.step hinside (.step hopen
      ((reads_scopeNames hts).append (.step hclose .done))))

end Keyring.Query
