import Keyring.Proofs.Query.Grammar

/-!
# What a reading stands for

The tokens read so far split along the groups still open: in each, the alternatives, the conditions
and the negations before the next operand, and at the end what has been read of that operand. Every
step keeps such a split, so an expression that is read has a derivation.
-/

namespace Keyring.Query

open Reading

/-- Tokens read before an operand: nothing, or an expression of a level and the mark after it. -/
inductive Before (level : Level) (mark : Text) : Option Expr → List Token → Prop
  | nothing : Before level mark none []
  | operand {ts : List Token} {e : Expr} {o : Token} (h : Derives level ts e)
      (ho : o.Is .operator mark) : Before level mark (some e) (ts ++ [o])

/-- The tokens that a pending part of a group was read from. -/
def Pending.Spans (p : Pending) (us : List Token) : Prop :=
  ∃ ds cs ns, us = ds ++ (cs ++ ns) ∧ Before .disjunction "||" p.disjunction ds ∧
    Before .conjunction "&&" p.conjunction cs ∧ ns.length = p.negations ∧
    ∀ n ∈ ns, n.Is .operator "!"

inductive OuterSpans : List Pending → List Token → Prop
  | done : OuterSpans [] []
  | group {outer : List Pending} {p : Pending} {os gs : List Token} {opening : Token}
      (h : OuterSpans outer os) (hp : p.Spans gs) (ho : opening.kind = .leftParen) :
      OuterSpans (p :: outer) (os ++ (gs ++ [opening]))

def ListSpans (names : List Token) (us : List Token) : Prop :=
  ∃ word inside opening, us = word :: inside :: opening :: names ∧
    word.Is .identifier scopeWord ∧ inside.Is .identifier inWord ∧ opening.kind = .leftParen

def Phase.Spans : Phase → List Token → Prop
  | .operand, us => us = []
  | .connective conjunction, us => Derives .conjunction us conjunction
  | .typeName, us => ∃ word, us = [word] ∧ word.Is .identifier Text.instanceofWord
  | .comparison property, us => ∃ t, us = [t] ∧ t.Is .identifier property
  | .literal property, us =>
    ∃ t o, us = [t, o] ∧ t.Is .identifier property ∧ o.Is .operator "=="
  | .scopeRelation, us => ∃ word, us = [word] ∧ word.Is .identifier scopeWord
  | .scopeValue, us =>
    ∃ word o, us = [word, o] ∧ word.Is .identifier scopeWord ∧ o.Is .operator "=="
  | .scopeList, us =>
    ∃ word inside, us = [word, inside] ∧ word.Is .identifier scopeWord ∧
      inside.Is .identifier inWord
  | .scopeName scopes, us =>
    (scopes = .empty ∧ ListSpans [] us) ∨
      ∃ ts names comma, scopes = .ofList names ∧ ScopeNames ts names ∧ comma.kind = .comma ∧
        ListSpans (ts ++ [comma]) us
  | .scopeSeparator scopes, us =>
    ∃ ts names, scopes = .ofList names ∧ ScopeNames ts names ∧ ListSpans ts us

/-- The innermost group and the phase: a complete conjunction has taken up the conditions and the
negations before it. -/
inductive GroupSpans : Pending → Phase → List Token → Prop
  | connective {before : Option Expr} {conjunction : Expr} {ds cs : List Token}
      (hd : Before .disjunction "||" before ds) (hc : Derives .conjunction cs conjunction) :
      GroupSpans ⟨before, none, 0⟩ (.connective conjunction) (ds ++ cs)
  | inside {group : Pending} {phase : Phase} {gs ps : List Token} (hg : group.Spans gs)
      (hp : phase.Spans ps) (hn : ∀ conjunction, phase ≠ .connective conjunction) :
      GroupSpans group phase (gs ++ ps)

def Reading.Spans (r : Reading) (us : List Token) : Prop :=
  ∃ os gs, us = os ++ gs ∧ OuterSpans r.outer os ∧ GroupSpans r.group r.phase gs

private theorem derives_negate {ts ns : List Token} {e : Expr} (h : Derives .unary ts e)
    (hn : ∀ n ∈ ns, n.Is .operator "!") : Derives .unary (ns ++ ts) (.negate ns.length e) := by
  induction ns with
  | nil => exact h
  | cons n ns ih =>
    exact .not (hn n List.mem_cons_self) (ih fun m hm => hn m (List.mem_cons_of_mem n hm))

private theorem derives_join {before : Option Expr} {bs ts : List Token} {e : Expr}
    (hb : Before .conjunction "&&" before bs) (h : Derives .unary ts e) :
    Derives .conjunction (bs ++ ts) (Pending.join .and before e) := by
  cases hb with
  | nothing => exact .ofUnary h
  | operand hl ho => simpa [Pending.join] using Derives.and hl ho h

theorem derives_disjoin {before : Option Expr} {bs ts : List Token} {e : Expr}
    (hb : Before .disjunction "||" before bs) (h : Derives .conjunction ts e) :
    Derives .disjunction (bs ++ ts) (Pending.disjoin ⟨before, none, 0⟩ e) := by
  cases hb with
  | nothing => exact .ofConjunction h
  | operand hl ho => simpa [Pending.disjoin, Pending.join] using Derives.or hl ho h

theorem groupSpans_conjoin {group : Pending} {gs ps : List Token} {e : Expr}
    (hg : group.Spans gs) (h : Derives .primary ps e) :
    GroupSpans ⟨group.disjunction, none, 0⟩ (.connective (group.conjoin e)) (gs ++ ps) := by
  obtain ⟨ds, cs, ns, rfl, hd, hc, hl, hn⟩ := hg
  have hu := derives_negate (.ofPrimary h) hn
  rw [hl] at hu
  have hs := GroupSpans.connective hd (derives_join hc hu)
  simpa only [List.append_assoc, Pending.conjoin] using hs

theorem Reading.Spans.withOperand {outer : List Pending} {group : Pending} {phase : Phase}
    {os gs ps : List Token} {e : Expr} (ho : OuterSpans outer os) (hg : group.Spans gs)
    (h : Derives .primary ps e) :
    (Reading.withOperand ⟨outer, group, phase⟩ e).Spans (os ++ (gs ++ ps)) :=
  ⟨os, gs ++ ps, rfl, ho, groupSpans_conjoin hg h⟩

theorem Reading.Spans.toPhase {outer : List Pending} {group : Pending} {phase : Phase}
    {os gs ps : List Token} (ho : OuterSpans outer os) (hg : group.Spans gs)
    (hp : phase.Spans ps) (hn : ∀ conjunction, phase ≠ .connective conjunction) :
    Reading.Spans ⟨outer, group, phase⟩ (os ++ (gs ++ ps)) :=
  ⟨os, gs ++ ps, rfl, ho, .inside hg hp hn⟩

private theorem withOperand?_eq_ok {r next : Reading} {e? : Except InvalidPart Expr}
    (h : r.withOperand? e? = .ok next) : ∃ e, e? = .ok e ∧ next = r.withOperand e := by
  cases e? with
  | ok e => exact ⟨e, rfl, (Except.ok.inj h).symm⟩
  | error part => cases h

private theorem ofTypeName_eq_ok {text : Text} {e : Expr} (h : Expr.ofTypeName text = .ok e) :
    ∃ name : Name, text = name.text ∧ e = .instanceOf name := by
  unfold Expr.ofTypeName Name.ofText? at h
  split at h
  · rename_i name hn
    split at hn
    · cases hn
      exact ⟨_, rfl, (Except.ok.inj h).symm⟩
    · cases hn
  · cases h

private theorem compare_eq_ok {text : Text} {value? : Except InvalidPart Literal} {e : Expr}
    (h : Reading.compare text value? = .ok e) :
    ∃ (name : Name) (value : Literal),
      text = name.text ∧ value? = .ok value ∧ e = .equals name value := by
  cases value? with
  | error part => cases h
  | ok value =>
    simp only [Reading.compare, Expr.ofProperty, Name.ofText?] at h
    split at h
    · rename_i name hn
      split at hn
      · cases hn
        exact ⟨_, value, rfl, rfl, (Except.ok.inj h).symm⟩
      · cases hn
    · cases h

private theorem literal?_eq_ok {kind : TokenKind} {value : Literal}
    (h : literal? kind = some (.ok value)) : kind = value.kind := by
  cases kind with
  | number x =>
    cases x with
    | finite x =>
      cases h
      rfl
    | _ => cases h
  | string x | boolean x =>
    cases h
    rfl
  | _ => cases h

theorem namesScope_of_ofName? {t : Token} {scope : Scope} (hk : t.kind = .identifier)
    (h : Scope.ofName? t.text = some scope) : t.NamesScope scope := by
  have hn := List.find?_some h
  exact ⟨hk, (eq_of_beq hn).symm⟩

private theorem spans_nil : Pending.none.Spans [] :=
  ⟨[], [], [], rfl, .nothing, .nothing, rfl, by simp⟩

section Steps

variable {outer : List Pending} {group : Pending} {os gs : List Token} {t : Token}
  {next : Reading}

private theorem stepOperand_spans (ho : OuterSpans outer os) (hg : group.Spans gs)
    (hs : stepOperand ⟨outer, group, .operand⟩ t = .ok next) :
    next.Spans (os ++ (gs ++ [t])) := by
  cases hk : t.kind with
  | leftParen =>
    simp only [stepOperand, hk] at hs
    cases hs
    have h := OuterSpans.group ho hg hk
    exact ⟨_, [], (List.append_nil _).symm, h, .inside spans_nil rfl (by simp)⟩
  | boolean value =>
    simp only [stepOperand, hk] at hs
    cases hs
    cases value with
    | true => exact .withOperand ho hg (.always hk)
    | false => exact .withOperand ho hg (.never hk)
  | operator =>
    simp only [stepOperand, hk] at hs
    split at hs
    · rename_i ht
      cases hs
      obtain ⟨ds, cs, ns, rfl, hd, hc, hl, hn⟩ := hg
      have hall : ∀ n ∈ ns ++ [t], n.Is .operator "!" := by
        intro n hm
        rcases List.mem_append.mp hm with hm | hm
        · exact hn n hm
        · exact List.mem_singleton.mp hm ▸ ⟨hk, ht⟩
      have hg : Pending.Spans { group with negations := group.negations + 1 }
          (ds ++ (cs ++ (ns ++ [t]))) :=
        ⟨ds, cs, ns ++ [t], rfl, hd, hc, by simp [hl], hall⟩
      refine ⟨os, ds ++ (cs ++ (ns ++ [t])) ++ [], by simp, ho, ?_⟩
      exact .inside hg rfl (by simp)
    · cases hs
  | identifier =>
    simp only [stepOperand, hk] at hs
    split at hs
    · rename_i ht
      cases hs
      exact .toPhase ho hg ⟨t, rfl, hk, ht⟩ (by simp)
    · split at hs
      · rename_i ht
        cases hs
        exact .toPhase ho hg ⟨t, rfl, hk, ht⟩ (by simp)
      · cases hs
        exact .toPhase ho hg ⟨t, rfl, hk, rfl⟩ (by simp)
  | _ =>
    simp only [stepOperand, hk] at hs
    cases hs

private theorem stepConnective_spans {before : Option Expr} {conjunction : Expr}
    {ds cs : List Token} (ho : OuterSpans outer os) (hd : Before .disjunction "||" before ds)
    (hc : Derives .conjunction cs conjunction)
    (hs : stepConnective ⟨outer, ⟨before, none, 0⟩, .connective conjunction⟩ conjunction t =
      .ok next) :
    next.Spans (os ++ (ds ++ (cs ++ [t]))) := by
  cases hk : t.kind with
  | operator =>
    simp only [stepConnective, hk] at hs
    split at hs
    · rename_i ht
      cases hs
      refine ⟨os, ds ++ (cs ++ [t]) ++ [], by simp, ho, .inside ?_ rfl (by simp)⟩
      exact ⟨ds, cs ++ [t], [], by simp, hd, .operand hc ⟨hk, ht⟩, rfl, by simp⟩
    · split at hs
      · rename_i ht
        cases hs
        refine ⟨os, ds ++ (cs ++ [t]) ++ [], by simp, ho, .inside ?_ rfl (by simp)⟩
        have h := Before.operand (derives_disjoin hd hc) ⟨hk, ht⟩
        exact ⟨ds ++ cs ++ [t], [], [], by simp, h, .nothing, rfl, by simp⟩
      · cases hs
  | rightParen =>
    simp only [stepConnective, hk] at hs
    cases ho with
    | done => cases hs
    | @group outer p os gs opening h hp hopen =>
      cases hs
      have hg := Derives.group hopen (derives_disjoin hd hc) hk
      refine ⟨os, gs ++ (opening :: (ds ++ cs ++ [t])), by simp, h, ?_⟩
      exact groupSpans_conjoin hp hg
  | _ =>
    simp only [stepConnective, hk] at hs
    cases hs

private theorem stepScopeRelation_spans {ps : List Token} (ho : OuterSpans outer os)
    (hg : group.Spans gs) (hp : Phase.scopeRelation.Spans ps)
    (hs : stepScopeRelation ⟨outer, group, .scopeRelation⟩ t = .ok next) :
    next.Spans (os ++ (gs ++ (ps ++ [t]))) := by
  obtain ⟨word, rfl, hw⟩ := hp
  cases hk : t.kind with
  | identifier =>
    simp only [stepScopeRelation, hk] at hs
    split at hs
    · rename_i ht
      cases hs
      exact .toPhase ho hg ⟨word, t, rfl, hw, hk, ht⟩ (by simp)
    · cases hs
  | operator =>
    simp only [stepScopeRelation, hk] at hs
    split at hs
    · rename_i ht
      cases hs
      exact .toPhase ho hg ⟨word, t, rfl, hw, hk, ht⟩ (by simp)
    · cases hs
  | _ =>
    simp only [stepScopeRelation, hk] at hs
    cases hs

private theorem stepScopeValue_spans {ps : List Token} (ho : OuterSpans outer os)
    (hg : group.Spans gs) (hp : Phase.scopeValue.Spans ps)
    (hs : stepScopeValue ⟨outer, group, .scopeValue⟩ t = .ok next) :
    next.Spans (os ++ (gs ++ (ps ++ [t]))) := by
  obtain ⟨word, o, rfl, hw, heq⟩ := hp
  unfold stepScopeValue at hs
  split at hs
  · rename_i hk
    split at hs
    · rename_i scope hn
      cases hs
      exact .withOperand ho hg (.scopeIs hw heq (namesScope_of_ofName? hk hn))
    · cases hs
  · split at hs
    · rename_i value? hv
      obtain ⟨e, he, rfl⟩ := withOperand?_eq_ok hs
      obtain ⟨name, value, hn, rfl, rfl⟩ := compare_eq_ok he
      exact .withOperand ho hg (.equals ⟨hw.1, hw.2.trans hn⟩ heq (literal?_eq_ok hv))
    · cases hs

private theorem stepScopeName_spans {scopes : ScopeSet} {ps : List Token}
    (ho : OuterSpans outer os) (hg : group.Spans gs) (hp : (Phase.scopeName scopes).Spans ps)
    (hs : stepScopeName ⟨outer, group, .scopeName scopes⟩ scopes t = .ok next) :
    next.Spans (os ++ (gs ++ (ps ++ [t]))) := by
  cases hk : t.kind with
  | identifier =>
    simp only [stepScopeName, hk] at hs
    split at hs
    · rename_i scope hn
      cases hs
      have ht := namesScope_of_ofName? hk hn
      refine .toPhase ho hg ?_ (by simp)
      rcases hp with ⟨rfl, word, inside, opening, rfl, hw, hi, hl⟩ |
        ⟨ts, names, comma, rfl, hns, hc, word, inside, opening, rfl, hw, hi, hl⟩
      · exact ⟨[t], [scope], rfl, .one ht, word, inside, opening, rfl, hw, hi, hl⟩
      · refine ⟨ts ++ [comma, t], names ++ [scope], ?_, .more hns hc ht, word, inside, opening,
          by simp, hw, hi, hl⟩
        simp [ScopeSet.ofList]
    · cases hs
  | _ =>
    simp only [stepScopeName, hk] at hs
    cases hs

private theorem stepTypeName_spans {ps : List Token} (ho : OuterSpans outer os)
    (hg : group.Spans gs) (hp : Phase.typeName.Spans ps)
    (hs : step ⟨outer, group, .typeName⟩ t = .ok next) :
    next.Spans (os ++ (gs ++ (ps ++ [t]))) := by
  obtain ⟨word, rfl, hw⟩ := hp
  simp only [step] at hs
  split at hs
  · rename_i ht
    obtain ⟨e, he, rfl⟩ := withOperand?_eq_ok hs
    obtain ⟨name, hn, rfl⟩ := ofTypeName_eq_ok he
    exact .withOperand ho hg (.instanceOf hw ⟨ht.1, hn⟩)
  · cases hs

private theorem stepLiteral_spans {property : Text} {ps : List Token} (ho : OuterSpans outer os)
    (hg : group.Spans gs) (hp : (Phase.literal property).Spans ps)
    (hs : step ⟨outer, group, .literal property⟩ t = .ok next) :
    next.Spans (os ++ (gs ++ (ps ++ [t]))) := by
  obtain ⟨n, o, rfl, hn, heq⟩ := hp
  simp only [step] at hs
  split at hs
  · rename_i value? hv
    obtain ⟨e, he, rfl⟩ := withOperand?_eq_ok hs
    obtain ⟨name, value, hname, rfl, rfl⟩ := compare_eq_ok he
    exact .withOperand ho hg (.equals ⟨hn.1, hn.2.trans hname⟩ heq (literal?_eq_ok hv))
  · cases hs

private theorem stepScopeSeparator_spans {scopes : ScopeSet} {ps : List Token}
    (ho : OuterSpans outer os) (hg : group.Spans gs) (hp : (Phase.scopeSeparator scopes).Spans ps)
    (hs : step ⟨outer, group, .scopeSeparator scopes⟩ t = .ok next) :
    next.Spans (os ++ (gs ++ (ps ++ [t]))) := by
  obtain ⟨ts, names, rfl, hns, word, inside, opening, rfl, hw, hi, hl⟩ := hp
  cases hk : t.kind with
  | comma =>
    simp only [step, hk] at hs
    cases hs
    exact .toPhase ho hg
      (.inr ⟨ts, names, t, rfl, hns, hk, word, inside, opening, rfl, hw, hi, hl⟩) (by simp)
  | rightParen =>
    simp only [step, hk] at hs
    cases hs
    exact .withOperand ho hg (.scopeIn hw hi hl hns hk)
  | _ =>
    simp only [step, hk] at hs
    cases hs

end Steps

/-- One more token extends the split of the tokens read. -/
theorem Reading.Spans.step {r next : Reading} {us : List Token} {t : Token} (h : r.Spans us)
    (hs : r.step t = .ok next) : next.Spans (us ++ [t]) := by
  obtain ⟨outer, group, phase⟩ := r
  obtain ⟨os, gs, rfl, ho, hg⟩ := h
  cases hg with
  | @connective before conjunction ds cs hd hc =>
    simpa only [List.append_assoc] using stepConnective_spans ho hd hc hs
  | @inside group phase gs ps hg hp hn =>
    have key : next.Spans (os ++ (gs ++ (ps ++ [t]))) := by
      cases phase with
      | operand =>
        cases hp
        exact stepOperand_spans ho hg hs
      | connective conjunction => exact absurd rfl (hn conjunction)
      | typeName => exact stepTypeName_spans ho hg hp hs
      | comparison property =>
        obtain ⟨n, rfl, hn⟩ := hp
        simp only [Reading.step] at hs
        split at hs
        · rename_i ht
          cases hs
          exact .toPhase ho hg ⟨n, t, rfl, hn, ht⟩ (by simp)
        · cases hs
      | literal property => exact stepLiteral_spans ho hg hp hs
      | scopeRelation => exact stepScopeRelation_spans ho hg hp hs
      | scopeValue => exact stepScopeValue_spans ho hg hp hs
      | scopeList =>
        obtain ⟨word, inside, rfl, hw, hi⟩ := hp
        simp only [Reading.step] at hs
        split at hs
        · rename_i ht
          cases hs
          exact .toPhase ho hg (.inl ⟨rfl, word, inside, t, rfl, hw, hi, ht⟩) (by simp)
        · cases hs
      | scopeName scopes => exact stepScopeName_spans ho hg hp hs
      | scopeSeparator scopes => exact stepScopeSeparator_spans ho hg hp hs
    simpa only [List.append_assoc] using key

theorem Reading.Spans.finish {r : Reading} {us : List Token} {e : Expr} (h : r.Spans us)
    (hf : r.finish = .ok e) : Derives .disjunction us e := by
  obtain ⟨outer, group, phase⟩ := r
  obtain ⟨os, gs, rfl, ho, hg⟩ := h
  cases hg with
  | @connective before conjunction ds cs hd hc =>
    cases ho with
    | done =>
      cases hf
      rw [List.nil_append]
      exact derives_disjoin hd hc
    | group => cases hf
  | inside hg hp hn =>
    unfold Reading.finish at hf
    split at hf
    · rename_i hphase _
      exact absurd hphase (hn _)
    · cases hf

/-- A run that ends well has read a derivation of the tokens before the end of input. -/
theorem Reading.Spans.run {ending : Token} {r : Reading} {us ts : List Token} {e : Expr}
    (h : r.Spans us) (hr : r.run ending ts = .ok e) :
    Derives .disjunction (us ++ beforeEnd ts) e := by
  induction ts generalizing r us with
  | nil =>
    simp only [Reading.run] at hr
    split at hr
    · rename_i hf
      cases hr
      simpa [beforeEnd] using h.finish hf
    · cases hr
  | cons t ts ih =>
    simp only [Reading.run] at hr
    split at hr
    · rename_i hk
      split at hr
      · rename_i hf
        cases hr
        simpa [beforeEnd, hk] using h.finish hf
      · cases hr
    · rename_i hk
      split at hr
      · rename_i hs
        have hd := ih (h.step hs) hr
        simpa [beforeEnd, hk] using hd
      · cases hr

theorem start_spans : Reading.start.Spans [] :=
  ⟨[], [], rfl, .done, .inside spans_nil rfl fun _ h => nomatch h⟩

end Keyring.Query
