import Keyring.Proofs.Query.Evaluation
import Keyring.Proofs.Query.Recognition
import Keyring.Proofs.Query.Rendering
import Keyring.Query.Parse

/-!
# Stored queries read back

An expression that is stored as text is read as its normal form, which has the same text and holds
of the same credentials. What is read from any text is in normal form already.
-/

namespace Keyring.Query

theorem Expr.render_not_isBlank (e : Expr) : e.render.isBlank = false := by
  cases e with
  | always => rw [render_always]; decide
  | never => rw [render_never]; decide
  | not operand => rw [render_not]; rfl
  | and left right => rw [render_and]; rfl
  | or left right => rw [render_or]; rfl
  | instanceOf typeName => rw [render_instanceOf]; rfl
  | equals property value => rw [render_equals]; rfl
  | scopeIn scopes =>
    rw [render_scopeIn]
    split
    · decide
    · rfl

theorem ofText_eq_ok_iff {t : Text} {ts : List Token} {e : Expr} (hb : t.isBlank = false)
    (h : tokenize t = .ok ts) :
    Expr.ofText t = .ok e ↔ Derives .disjunction (beforeEnd ts) e := by
  rw [Expr.ofText, if_neg (by simp [hb]), h]
  exact ⟨derives_of_ofTokens, ofTokens_of_derives t⟩

theorem exists_tokenize {t : Text} {e : Expr} (hb : t.isBlank = false)
    (h : Expr.ofText t = .ok e) : ∃ ts, tokenize t = .ok ts := by
  rw [Expr.ofText, if_neg (by simp [hb])] at h
  split at h
  next ts hts => exact ⟨ts, hts⟩
  next => cases h

theorem Expr.ofText_of_scans {t : Text} {e : Expr} (hb : t.isBlank = false)
    (h : Scans t [] fun ts => Derives .disjunction ts e) : Expr.ofText t = .ok e := by
  obtain ⟨ts, hd, hs⟩ := h 0
  obtain ⟨before, last, -, hreads⟩ := hd.completes []
  rw [List.append_nil, scan_nil] at hs
  have htokens : tokenize t = .ok (ts ++ [.ending ((0 + t.length : Nat) : Int)]) := hs
  rw [ofText_eq_ok_iff hb htokens, beforeEnd_append_ending hreads.kind_ne_endOfInput]
  exact hd

theorem Expr.ofText_render (e : Expr) : Expr.ofText e.render = .ok e.norm := by
  apply Expr.ofText_of_scans e.render_not_isBlank
  apply (scans_render e Text.stops_nil).mono
  intro ts hd
  -- the text stands alone, so its tokens are a query on the loosest level too
  exact .ofConjunction (.ofUnary hd)

/-! The normal form. -/

theorem Expr.render_norm (e : Expr) : e.norm.render = e.render := by
  induction e with
  | not operand ih => rw [norm, render_not, render_not, ih]
  | and left right ihl ihr => rw [norm, render_and, render_and, ihl, ihr]
  | or left right ihl ihr => rw [norm, render_or, render_or, ihl, ihr]
  | scopeIn scopes =>
    rw [norm]
    split
    next h => rw [render_never, render_scopeIn, if_pos h]
    next => rfl
  | _ => rfl

private theorem isScopeIn_empty (value : Value) : isScopeIn .empty value = false := by
  cases value with
  | scope s => cases s <;> rfl
  | _ => rfl

/-- No scope is in the empty set, whether it can be looked up or not. -/
theorem value_matchesScope_empty (view : View) :
    (matchesScope .empty view : Traced Observation Bool).value = false := by
  rw [matchesScope, Traced.value_bind]
  cases view.scope.value with
  | error fault => rfl
  | ok value => exact isScopeIn_empty value

theorem Expr.value_holds_norm (e : Expr) (view : View) :
    (e.norm.holds view).value = (e.holds view).value := by
  induction e with
  | not operand ih => simp only [norm, holds, Traced.value_bind, ih]
  | and left right ihl ihr =>
    simp only [norm, holds, Traced.value_bind, ihl]
    cases (left.holds view).value with
    | true => exact ihr
    | false => rfl
  | or left right ihl ihr =>
    simp only [norm, holds, Traced.value_bind, ihl]
    cases (left.holds view).value with
    | true => rfl
    | false => exact ihr
  | scopeIn scopes =>
    rw [norm]
    split
    next h =>
      rw [h]
      exact (value_matchesScope_empty view).symm
    next => rfl
  | _ => rfl

private theorem insert_ne_empty (scopes : ScopeSet) (scope : Scope) :
    scopes.insert scope ≠ .empty := by
  intro h
  have hc := congrArg (fun set : ScopeSet => set.contains scope) h
  cases scope <;> cases hc

theorem ofList_ne_empty {ts : List Token} {scopes : List Scope} (h : ScopeNames ts scopes) :
    ScopeSet.ofList scopes ≠ .empty := by
  cases h with
  | one => exact insert_ne_empty .empty _
  | more =>
    rw [ScopeSet.ofList, List.foldl_append]
    exact insert_ne_empty _ _

/-- The grammar has no other trees than normal forms. -/
theorem Derives.norm_eq {level : Level} {ts : List Token} {e : Expr} (h : Derives level ts e) :
    e.norm = e := by
  induction h with
  | ofConjunction _ ih | ofUnary _ ih | ofPrimary _ ih | group _ _ _ ih => exact ih
  | or _ _ _ ihl ihr | and _ _ _ ihl ihr => rw [Expr.norm, ihl, ihr]
  | not _ _ ih => rw [Expr.norm, ih]
  | scopeIs _ _ ht => rw [Expr.norm, if_neg (ofList_ne_empty (.one ht))]
  | scopeIn _ _ _ hts _ => rw [Expr.norm, if_neg (ofList_ne_empty hts)]
  | _ => rfl

theorem Expr.norm_of_ofText {text : Text} {e : Expr} (h : Expr.ofText text = .ok e) :
    e.norm = e := by
  unfold Expr.ofText at h
  split at h
  · cases h
    rfl
  · split at h
    · exact (derives_of_ofTokens h).norm_eq
    · cases h

theorem value_parse (text : Text) : (parse (some text)).value = Expr.ofText text := by
  simp only [parse]
  split
  next e he => exact he.symm
  next => rfl

theorem norm_of_parse {text : Option Text} {e : Expr} (h : (parse text).value = .ok e) :
    e.norm = e := by
  cases text with
  | none =>
    cases h
    rfl
  | some text =>
    rw [value_parse] at h
    exact Expr.norm_of_ofText h

/-- Whatever is stored of an expression is read as its normal form, in which an empty set of scopes
is the condition that never holds: the same text and the same answers. An expression that was read
is read again as it is. -/
theorem stored_reads_back (e : Expr) :
    parse (some e.render) = pure (.ok e.norm) ∧
    e.norm.render = e.render ∧
    (∀ candidate : Candidate, (evaluate e.norm candidate).value = (evaluate e candidate).value) ∧
    ∀ text e', (parse text).value = .ok e' → parse (some e'.render) = pure (.ok e') := by
  have hparse : ∀ e : Expr, parse (some e.render) = pure (.ok e.norm) := by
    intro e
    simp only [parse, e.ofText_render]
  refine ⟨hparse e, e.render_norm, ?_, ?_⟩
  · intro candidate
    rw [evaluate, evaluate, Expr.test_eq_holds, Expr.test_eq_holds]
    exact e.value_holds_norm candidate.view
  · intro text e' h
    rw [hparse, norm_of_parse h]

private def storedSample : Expr :=
  .or (.scopeIn .empty)
    (.equals ⟨"in", by decide⟩ (.text [.ofChar '"', .ofNat 0xd800, .ofChar '"']))

theorem stored_reads_back_sample :
    storedSample.norm ≠ storedSample ∧
      (parse (some storedSample.render)).value = .ok storedSample.norm ∧
      parse (some storedSample.norm.render) = pure (.ok storedSample.norm) := by
  have hread : (parse (some storedSample.render)).value = .ok storedSample.norm := by
    rw [(stored_reads_back storedSample).1]
    rfl
  exact ⟨by decide, hread, (stored_reads_back storedSample).2.2.2 _ _ hread⟩

end Keyring.Query
