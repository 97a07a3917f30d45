import Keyring.Proofs.Query.Lexing

/-!
# Tokens of written expressions

The text of an expression is read as tokens that make its normal form. The induction follows the
expression: its parts are written as they are written alone, so each is read as it is read alone.
-/

namespace Keyring.Query

open Text (Stops stops_cons)

private theorem stops_rightParen (rest : Text) : Stops ((")" : Text) ++ rest) :=
  stops_cons rfl (by decide) rest

private theorem stops_space (rest : Text) : Stops (' ' :: rest) :=
  stops_cons rfl (by decide) rest

/-! Names and literals. -/

private theorem scans_identifier {t rest : Text} (h : t.IsDotted) (ht : t ≠ Text.trueWord)
    (hf : t ≠ Text.falseWord) (hr : Stops rest) : Scans t rest (Single .identifier t) := by
  have hkind : (Lexeme.ofName t).kind = .identifier := by
    simp only [Lexeme.ofName, if_neg ht, if_neg hf]
  exact hkind ▸ scans_word h hr

theorem scans_name (name : Name) {rest : Text} (hr : Stops rest) :
    Scans name.text rest (Single .identifier name.text) := by
  have hne : ∀ word : Text, word.isName = false → name.text ≠ word := by
    intro word hw he
    have hn := name.isName_text
    rw [he, hw] at hn
    cases hn
  exact scans_identifier name.isDotted (hne _ (by decide)) (hne _ (by decide)) hr

private theorem scans_boolean (value : Bool) {rest : Text} (hr : Stops rest) :
    Scans (if value then Text.trueWord else Text.falseWord) rest
      (Single (.boolean value) (if value then Text.trueWord else Text.falseWord)) := by
  cases value with
  | true => exact scans_word (by unfold Text.IsDotted; decide) hr
  | false => exact scans_word (by unfold Text.IsDotted; decide) hr

theorem scans_literal (value : Literal) {rest : Text} (hr : Stops rest) :
    Scans value.render rest (Single value.kind value.render) := by
  cases value with
  | text value => exact scans_string value rest
  | number value => exact scans_number value hr
  | boolean value => exact scans_boolean value hr

/-! Lists of scopes. -/

theorem ScopeNames.cons {t comma : Token} {ts : List Token} {scope : Scope} {scopes : List Scope}
    (ht : t.NamesScope scope) (hc : comma.kind = .comma) (h : ScopeNames ts scopes) :
    ScopeNames (t :: comma :: ts) (scope :: scopes) := by
  induction h with
  | one hu => exact ScopeNames.more (.one ht) hc hu
  | more _ hd hu ih => exact ScopeNames.more ih hd hu

private theorem namesScope_of_is {t : Token} {scope : Scope} (h : t.Is .identifier scope.name) :
    t.NamesScope scope := by
  refine ⟨h.1, ?_⟩
  rw [h.2]
  cases scope <;> decide

private theorem scans_scope (scope : Scope) {rest : Text} (hr : Stops rest) :
    Scans scope.name rest (Single .identifier scope.name) := by
  have hne : scope.name ≠ Text.trueWord ∧ scope.name ≠ Text.falseWord := by
    cases scope <;> decide
  exact scans_identifier (isDotted_name scope) hne.1 hne.2 hr

theorem scans_scopeNames {scopes : List Scope} (hne : scopes ≠ []) {rest : Text}
    (hr : Stops rest) :
    Scans (Text.join ", " (scopes.map Scope.name)) rest fun ts => ScopeNames ts scopes := by
  induction scopes with
  | nil => exact absurd rfl hne
  | cons scope scopes ih =>
    cases scopes with
    | nil =>
      apply (scans_scope scope hr).mono
      intro ts h
      obtain ⟨t, rfl, ht⟩ := h
      exact .one (namesScope_of_is ht)
    | cons next scopes =>
      have htail := ih (List.cons_ne_nil _ _)
      have hcomma := (scans_comma _).append (htail.blank (c := ' ') rfl)
      have hall := (scans_scope scope (stops_cons rfl (by decide) _)).append hcomma
      have hjoin : Text.join ", " ((scope :: next :: scopes).map Scope.name) =
          scope.name ++ ((",": Text) ++
            (CodePoint.ofChar ' ' :: Text.join ", " ((next :: scopes).map Scope.name))) := by
        simp only [List.map_cons, Text.join, List.append_assoc]
        rfl
      rw [hjoin]
      apply hall.mono
      intro ts h
      obtain ⟨us, vs, rfl, ⟨t, rfl, ht⟩, ws, xs, rfl, ⟨comma, rfl, hc⟩, hxs⟩ := h
      exact .cons (namesScope_of_is ht) hc.1 hxs

/-! Groups. -/

theorem scans_group {t : Text} {e : Expr}
    (h : ∀ rest, Stops rest → Scans t rest fun ts => Derives .disjunction ts e) (rest : Text) :
    Scans ('(' :: (t ++ (")" : Text))) rest fun ts => Derives .unary ts e := by
  have hinner := (h _ (stops_rightParen rest)).append (scans_rightParen rest)
  have hall := (scans_leftParen _).append hinner
  apply Scans.mono hall
  intro ts hts
  obtain ⟨us, vs, rfl, ⟨o, rfl, ho⟩, ws, xs, rfl, hws, c, rfl, hc⟩ := hts
  exact .ofPrimary (.group ho.1 hws hc.1)

theorem scans_operands {left right op mark : Text} {P Q : List Token → Prop}
    (hm : mark = CodePoint.ofChar ' ' :: (op ++ (" " : Text)))
    (hl : ∀ rest, Stops rest → Scans left rest P)
    (ho : ∀ rest, Scans op rest (Single .operator op))
    {rest : Text} (hr : Scans right rest Q) :
    Scans (left ++ (mark ++ right)) rest (Then P (Then (Single .operator op) Q)) := by
  have hop := (ho _).append (hr.blank (c := ' ') rfl)
  have hall := (hl _ (stops_space _)).append (hop.blank (c := ' ') rfl)
  have htext : mark ++ right = CodePoint.ofChar ' ' :: (op ++ (CodePoint.ofChar ' ' :: right)) := by
    rw [hm, List.cons_append, List.append_assoc]
    rfl
  rw [htext]
  exact hall

/-- Two parts with an operator between them in parentheses make what they make without. -/
theorem scans_pair {left right op mark : Text} {P Q : List Token → Prop} {e : Expr}
    (hm : mark = CodePoint.ofChar ' ' :: (op ++ (" " : Text)))
    (hl : ∀ rest, Stops rest → Scans left rest P)
    (ho : ∀ rest, Scans op rest (Single .operator op))
    (hr : ∀ rest, Stops rest → Scans right rest Q)
    (hd : ∀ ls o rs, P ls → o.Is .operator op → Q rs → Derives .disjunction (ls ++ o :: rs) e)
    (rest : Text) : Scans (Expr.renderPair left mark right) rest fun ts => Derives .unary ts e := by
  have htext : Expr.renderPair left mark right =
      CodePoint.ofChar '(' :: ((left ++ (mark ++ right)) ++ (")" : Text)) := by
    simp only [Expr.renderPair, List.append_assoc]
  rw [htext]
  apply scans_group
  intro rest hs
  apply (scans_operands hm hl ho (hr rest hs)).mono
  intro ts h
  obtain ⟨ls, us, rfl, hls, os, rs, rfl, ⟨o, rfl, ho⟩, hrs⟩ := h
  exact hd ls o rs hls ho hrs

theorem scans_equals (property : Name) (value : Literal) (rest : Text) :
    Scans (Expr.renderPair property.text " == " value.render) rest fun ts =>
      Derives .unary ts (.equals property value) := by
  refine scans_pair rfl (fun _ => scans_name property) scans_equality
    (fun _ => scans_literal value) ?_ rest
  intro ls o rs hl ho hr
  obtain ⟨t, rfl, ht⟩ := hl
  obtain ⟨v, rfl, hv⟩ := hr
  exact .ofConjunction (.ofUnary (.ofPrimary (.equals ht ho hv.1)))

theorem scans_typeTest (name : Name) {rest : Text} (hs : Stops rest) :
    Scans (Text.instanceofWord ++ (CodePoint.ofChar ' ' :: name.text)) rest
      fun ts => Derives .disjunction ts (.instanceOf name) := by
  have hword := scans_identifier (t := Text.instanceofWord) (by unfold Text.IsDotted; decide)
    (by decide) (by decide) (stops_space (name.text ++ rest))
  have hall := hword.append ((scans_name name hs).blank (c := ' ') rfl)
  apply Scans.mono hall
  intro ts h
  obtain ⟨us, vs, rfl, ⟨word, rfl, hw⟩, t, rfl, ht⟩ := h
  exact .ofConjunction (.ofUnary (.ofPrimary (.instanceOf hw ht)))

theorem scans_instanceOf (name : Name) (rest : Text) :
    Scans ("(instanceof " ++ (name.text ++ (")" : Text))) rest fun ts =>
      Derives .unary ts (.instanceOf name) := by
  have h := scans_group (fun _ => scans_typeTest name) rest
  rw [List.append_assoc] at h
  exact h

theorem scans_scopeIn {scopes : List Scope} (hne : scopes ≠ []) (rest : Text) :
    Scans ("(scope in (" ++ (Text.join ", " (scopes.map Scope.name) ++ ("))" : Text))) rest
      fun ts => Derives .unary ts (.scopeIn (.ofList scopes)) := by
  generalize hnames : Text.join ", " (scopes.map Scope.name) = names
  have hgroup : ∀ rest, Stops rest → Scans (Reading.scopeWord ++ (CodePoint.ofChar ' ' ::
      (Reading.inWord ++ (CodePoint.ofChar ' ' :: ("(" ++ (names ++ (")" : Text))))))) rest
      fun ts => Derives .disjunction ts (.scopeIn (.ofList scopes)) := by
    intro rest hs
    have hlist := hnames ▸ scans_scopeNames hne (stops_rightParen rest)
    have hparens := (scans_leftParen _).append (hlist.append (scans_rightParen rest))
    have hin := (scans_identifier (t := Reading.inWord) (by unfold Text.IsDotted; decide)
      (by decide) (by decide) (stops_space _)).append (hparens.blank (c := ' ') rfl)
    have hall := (scans_identifier (t := Reading.scopeWord) (by unfold Text.IsDotted; decide)
      (by decide) (by decide) (stops_space _)).append (hin.blank (c := ' ') rfl)
    apply Scans.mono hall
    intro ts h
    obtain ⟨us, vs, rfl, ⟨word, rfl, hw⟩, ws, xs, rfl, ⟨inside, rfl, hi⟩, h⟩ := h
    obtain ⟨ys, zs, rfl, ⟨opening, rfl, ho⟩, names, _, rfl, hns, closing, rfl, hc⟩ := h
    exact .ofConjunction (.ofUnary (.ofPrimary (.scopeIn hw hi ho.1 hns hc.1)))
  have hclose : names ++ ("))" : Text) = (names ++ (")" : Text)) ++ (")" : Text) := by
    rw [List.append_assoc]
    rfl
  rw [hclose]
  exact scans_group hgroup rest

theorem toList_ne_nil {scopes : ScopeSet} (h : scopes ≠ .empty) : scopes.toList ≠ [] := by
  intro hnil
  apply h
  obtain ⟨system, global, user, node⟩ := scopes
  revert hnil
  revert system global user node
  decide

theorem ofList_toList (scopes : ScopeSet) : ScopeSet.ofList scopes.toList = scopes := by
  obtain ⟨system, global, user, node⟩ := scopes
  revert system global user node
  decide

/-- The text of an expression is read as tokens that make its normal form. -/
theorem scans_render (e : Expr) {rest : Text} (hr : Stops rest) :
    Scans e.render rest fun ts => Derives .unary ts e.norm := by
  have hnever : ∀ {rest}, Stops rest → Scans Text.falseWord rest
      fun ts => Derives .unary ts .never := by
    intro rest hr
    apply (scans_boolean false hr).mono
    intro ts h
    obtain ⟨t, rfl, ht⟩ := h
    exact .ofPrimary (.never ht.1)
  induction e generalizing rest with
  | always =>
    rw [Expr.render_always]
    apply (scans_boolean true hr).mono
    intro ts h
    obtain ⟨t, rfl, ht⟩ := h
    exact .ofPrimary (.always ht.1)
  | never =>
    rw [Expr.render_never]
    exact hnever hr
  | not operand ih =>
    rw [Expr.render_not]
    apply Scans.mono ((scans_negation _).append (ih hr))
    intro ts h
    obtain ⟨us, vs, rfl, ⟨o, rfl, ho⟩, hvs⟩ := h
    exact .not ho hvs
  | and left right ihl ihr =>
    rw [Expr.render_and]
    exact scans_pair rfl (fun _ => ihl) scans_conjunction (fun _ => ihr)
      (fun _ _ _ hl ho hr => .ofConjunction (.and (.ofUnary hl) ho hr)) rest
  | or left right ihl ihr =>
    rw [Expr.render_or]
    exact scans_pair rfl (fun _ => ihl) scans_disjunction (fun _ => ihr)
      (fun _ _ _ hl ho hr => .or (.ofConjunction (.ofUnary hl)) ho (.ofUnary hr)) rest
  | instanceOf typeName =>
    rw [Expr.render_instanceOf]
    exact scans_instanceOf typeName rest
  | equals property value =>
    rw [Expr.render_equals]
    exact scans_equals property value rest
  | scopeIn scopes =>
    rw [Expr.render_scopeIn, Expr.norm]
    by_cases hs : scopes = .empty
    · rw [if_pos hs, if_pos hs]
      exact hnever hr
    · rw [if_neg hs, if_neg hs]
      have h := scans_scopeIn (toList_ne_nil hs) rest
      rwa [ofList_toList] at h

end Keyring.Query
