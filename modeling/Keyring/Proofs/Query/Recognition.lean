import Keyring.Proofs.Number.Rounding
import Keyring.Proofs.Query.Completeness
import Keyring.Proofs.Query.Soundness

/-!
# Recognition

The reader of tokens accepts exactly what the grammar derives and builds the derived tree. With
well-formed tokens its only other answer is a syntax error at one of them or at the end.
-/

namespace Keyring.Query

open Reading

theorem ofTokens_of_derives {tokens : List Token} {e : Expr} (query : Text)
    (h : Derives .disjunction (beforeEnd tokens) e) : Expr.ofTokens tokens query = .ok e := by
  obtain ⟨before, last, rfl, hr⟩ := h.completes []
  have hsplit : beforeEnd tokens ++ tokens.dropWhile (fun t => t.kind ≠ .endOfInput) = tokens :=
    List.takeWhile_append_dropWhile
  rw [Expr.ofTokens, ← hsplit, start, hr.run]
  cases hd : tokens.dropWhile fun t => t.kind ≠ .endOfInput with
  | nil => rfl
  | cons t rest =>
    have hk := List.head?_dropWhile_not (fun t : Token => t.kind ≠ .endOfInput) tokens
    rw [hd] at hk
    have ht : t.kind = .endOfInput := by simpa using hk
    simp [Reading.run, ht, finish, Pending.disjoin]

theorem derives_of_ofTokens {tokens : List Token} {query : Text} {e : Expr}
    (h : Expr.ofTokens tokens query = .ok e) : Derives .disjunction (beforeEnd tokens) e :=
  start_spans.run h

theorem run_beforeEnd (ending eof : Token) (he : eof.kind = .endOfInput) (r : Reading)
    (tokens junk : List Token) :
    r.run ending (beforeEnd tokens ++ eof :: junk) = r.run ending (beforeEnd tokens ++ [eof]) := by
  induction tokens generalizing r with
  | nil => simp [beforeEnd, Reading.run, he]
  | cons t ts ih =>
    by_cases hk : t.kind = .endOfInput
    · simp [beforeEnd, hk, Reading.run, he]
    · have hb : beforeEnd (t :: ts) = t :: beforeEnd ts := by simp [beforeEnd, hk]
      rw [hb, List.cons_append, List.cons_append, Reading.run, Reading.run]
      simp only [if_neg hk]
      cases r.step t with
      | ok next => exact ih next
      | error rejection => rfl

/-- The property names that a reading holds are names. -/
def Reading.Named (r : Reading) : Prop :=
  match r.phase with
  | .comparison property | .literal property => property.isName = true
  | _ => True

def Proper : Except Rejection Reading → Prop
  | .ok next => next.Named
  | .error (.unexpected _) => True
  | .error (.invalid _) => False

private theorem proper_reject (r : Reading) : Proper r.reject := trivial

private theorem proper_withOperand (r : Reading) (e : Expr) : Proper (.ok (r.withOperand e)) :=
  trivial

private theorem proper_literal {r : Reading} {property : Text} {t : Token}
    {value? : Except InvalidPart Literal} (hn : property.isName = true) (ht : t.WellFormed)
    (hv : literal? t.kind = some value?) :
    Proper (r.withOperand? (Reading.compare property value?)) := by
  have hok : ∀ value, Proper (r.withOperand? (Reading.compare property (.ok value))) := by
    intro value
    simp only [Reading.compare, Expr.ofProperty, Name.ofText?, hn, ↓reduceDIte, withOperand?]
    exact proper_withOperand r _
  cases hk : t.kind with
  | string value | boolean value =>
    rw [hk] at hv
    cases hv
    exact hok _
  | number value =>
    rw [hk] at hv
    simp only [Token.WellFormed, hk] at ht
    obtain ⟨x, rfl⟩ := ht
    cases hv
    exact hok _
  | _ =>
    rw [hk] at hv
    cases hv

private theorem isName_of_wellFormed {t : Token} (ht : t.WellFormed) (hk : t.kind = .identifier)
    (hi : t.text ≠ Text.instanceofWord) : t.text.isName = true := by
  obtain ⟨name, hn⟩ := ht.exists_name hk hi
  exact hn ▸ name.isName_text

private theorem stepOperand_proper (r : Reading) {t : Token} (ht : t.WellFormed) :
    Proper (r.stepOperand t) := by
  cases hk : t.kind with
  | identifier =>
    simp only [stepOperand, hk]
    split
    · trivial
    · rename_i hi
      split
      · trivial
      · exact isName_of_wellFormed ht hk hi
  | operator =>
    simp only [stepOperand, hk]
    split
    · trivial
    · exact proper_reject r
  | _ =>
    simp only [stepOperand, hk]
    trivial

private theorem stepConnective_proper (r : Reading) (conjunction : Expr) (t : Token) :
    Proper (r.stepConnective conjunction t) := by
  unfold stepConnective
  split
  · split
    · trivial
    · split <;> trivial
  · split <;> trivial
  · trivial

private theorem stepScopeValue_proper (r : Reading) {t : Token} (ht : t.WellFormed) :
    Proper (r.stepScopeValue t) := by
  unfold stepScopeValue
  split
  · split <;> trivial
  · split
    · rename_i hv
      exact proper_literal (by decide) ht hv
    · trivial

theorem Reading.Named.step {r : Reading} (h : r.Named) {t : Token} (ht : t.WellFormed) :
    Proper (r.step t) := by
  obtain ⟨outer, group, phase⟩ := r
  cases phase with
  | operand => exact stepOperand_proper _ ht
  | connective conjunction => exact stepConnective_proper _ conjunction t
  | typeName =>
    simp only [Reading.step]
    split
    · rename_i hk
      have hn := isName_of_wellFormed ht hk.1 hk.2
      simp only [Expr.ofTypeName, Name.ofText?, hn, ↓reduceDIte, withOperand?]
      exact proper_withOperand _ _
    · trivial
  | comparison property =>
    simp only [Reading.step]
    split
    · exact h
    · trivial
  | literal property =>
    simp only [Reading.step]
    split
    · rename_i hv
      exact proper_literal h ht hv
    · trivial
  | scopeRelation =>
    simp only [Reading.step, stepScopeRelation]
    split
    · split <;> trivial
    · split <;> trivial
    · trivial
  | scopeValue => exact stepScopeValue_proper _ ht
  | scopeList =>
    simp only [Reading.step]
    split <;> trivial
  | scopeName scopes =>
    simp only [Reading.step, stepScopeName]
    split
    · split <;> trivial
    · trivial
  | scopeSeparator scopes =>
    simp only [Reading.step]
    split <;> trivial

private theorem finish_error {r : Reading} {rejection : Rejection}
    (h : r.finish = .error rejection) : rejection = .unexpected r.expected := by
  unfold finish at h
  split at h
  · cases h
  · exact (Except.error.inj h).symm

/-- The token cannot come next: no step takes it, or the input must not end before it. -/
def Reading.Rejects (r : Reading) (t : Token) (expected : Expected) : Prop :=
  (t.kind ≠ .endOfInput ∧ r.step t = .error (.unexpected expected)) ∨
    (t.kind = .endOfInput ∧ r.finish = .error (.unexpected expected))

/-- Reading well-formed tokens fails at the first that cannot come next, after tokens that are
read. -/
theorem Reading.Named.run_error {offset : Int} {r : Reading} {ts : List Token} {err : QueryError}
    (h : r.Named) (ht : ∀ t ∈ beforeEnd ts, t.WellFormed)
    (hr : r.run (.ending offset) ts = .error err) :
    ∃ before token mid expected, before ++ [token] <+: ts ++ [.ending offset] ∧
      Reads r before mid ∧ mid.Named ∧ mid.Rejects token expected ∧
      err = .malformed (.ofToken expected token) := by
  induction ts generalizing r with
  | nil =>
    simp only [Reading.run] at hr
    split at hr
    · cases hr
    · rename_i hf
      cases hr
      rw [finish_error hf]
      rw [finish_error hf] at hf
      exact ⟨[], .ending offset, r, r.expected, List.prefix_rfl, .done, h, .inr ⟨rfl, hf⟩, rfl⟩
  | cons t ts ih =>
    simp only [Reading.run] at hr
    by_cases hk : t.kind = .endOfInput
    · simp only [if_pos hk] at hr
      split at hr
      · cases hr
      · rename_i hf
        cases hr
        rw [finish_error hf]
        rw [finish_error hf] at hf
        exact ⟨[], t, r, r.expected, List.prefix_append [t] _, .done, h, .inr ⟨hk, hf⟩, rfl⟩
    · have hb : beforeEnd (t :: ts) = t :: beforeEnd ts := by simp [beforeEnd, hk]
      rw [hb] at ht
      have hs := h.step (ht t List.mem_cons_self)
      simp only [if_neg hk] at hr
      split at hr
      · rename_i next hnext
        rw [hnext] at hs
        obtain ⟨before, token, mid, expected, hpre, hreads, hnamed, hrejects, he⟩ :=
          ih hs (fun u hu => ht u (List.mem_cons_of_mem t hu)) hr
        exact ⟨t :: before, token, mid, expected, (List.prefix_cons_inj t).mpr hpre,
          .step hnext hreads, hnamed, hrejects, he⟩
      · rename_i rejection hrej
        cases hr
        rw [hrej] at hs
        cases rejection with
        | unexpected expected =>
          exact ⟨[], t, r, expected, List.prefix_append [t] _, .done, h, .inl ⟨hk, hrej⟩, rfl⟩
        | invalid part => exact hs.elim

theorem Reading.Named.run {offset : Int} {r : Reading} {ts : List Token} {err : QueryError}
    (h : r.Named) (ht : ∀ t ∈ beforeEnd ts, t.WellFormed)
    (hr : r.run (.ending offset) ts = .error err) :
    ∃ expected token, (token = .ending offset ∨ token ∈ ts) ∧
      err = .malformed (.ofToken expected token) := by
  obtain ⟨before, token, -, expected, hpre, -, -, -, he⟩ := h.run_error ht hr
  have hm : token ∈ ts ++ [.ending offset] :=
    hpre.mem (List.mem_append_right before List.mem_cons_self)
  refine ⟨expected, token, ?_, he⟩
  rcases List.mem_append.mp hm with hm | hm
  · exact .inr hm
  · exact .inl (List.mem_singleton.mp hm)

/-- Of well-formed tokens exactly the derived tree is built, which is unique, and tokens that make
no expression are reported at one of them or at the end. What follows the first end of input has no
part in this. -/
theorem ofTokens_recognises (tokens : List Token) (query : Text)
    (h : ∀ t ∈ beforeEnd tokens, t.WellFormed) :
    (∀ e, Expr.ofTokens tokens query = .ok e ↔ Derives .disjunction (beforeEnd tokens) e) ∧
    ((¬∃ e, Derives .disjunction (beforeEnd tokens) e) →
      ∃ expected token, (token = .ending query.length ∨ token ∈ tokens) ∧
        Expr.ofTokens tokens query = .error (.malformed (.ofToken expected token))) ∧
    (∀ e e', Derives .disjunction (beforeEnd tokens) e →
      Derives .disjunction (beforeEnd tokens) e' → e = e') ∧
    (∀ eof junk, eof.kind = .endOfInput →
      Expr.ofTokens (beforeEnd tokens ++ eof :: junk) query =
        Expr.ofTokens (beforeEnd tokens ++ [eof]) query) := by
  refine ⟨fun e => ⟨derives_of_ofTokens, ofTokens_of_derives query⟩, ?_, ?_, ?_⟩
  · intro hnone
    cases hr : Expr.ofTokens tokens query with
    | ok e => exact absurd ⟨e, derives_of_ofTokens hr⟩ hnone
    | error err =>
      have hstart : start.Named := trivial
      obtain ⟨expected, token, hm, rfl⟩ := hstart.run h hr
      exact ⟨expected, token, hm, rfl⟩
  · intro e e' he he'
    have hok := ofTokens_of_derives query he
    rw [ofTokens_of_derives query he'] at hok
    exact (Except.ok.inj hok).symm
  · intro eof junk hk
    exact run_beforeEnd _ eof hk .start tokens junk

private def negativeZero : Binary64.Finite :=
  ⟨true, 0, ⟨0, rfl⟩, Binary64.limit_pos⟩

private def sampleTokens : List Token :=
  [⟨.operator, "!", 0⟩, ⟨.leftParen, "(", 1⟩, ⟨.identifier, "scope", 2⟩, ⟨.operator, "==", 8⟩,
    ⟨.identifier, "p.GLOBAL", 11⟩, ⟨.operator, "&&", 20⟩, ⟨.identifier, "in", 23⟩,
    ⟨.operator, "==", 26⟩, ⟨.number (.finite negativeZero), "-0.0", 29⟩,
    ⟨.rightParen, ")", 33⟩, ⟨.endOfInput, [], 34⟩, ⟨.identifier, "or", 40⟩]

theorem ofTokens_recognises_sample :
    (∀ t ∈ beforeEnd sampleTokens, t.WellFormed) ∧
      Derives .disjunction (beforeEnd sampleTokens)
        (.not (.and (.scopeIn (.ofList [.global]))
          (.equals ⟨"in", by decide⟩ (.number negativeZero)))) := by
  have h : ∀ t ∈ beforeEnd sampleTokens, t.WellFormed := by
    intro t ht
    have hb : beforeEnd sampleTokens = sampleTokens.take 10 := rfl
    rw [hb] at ht
    simp only [sampleTokens, List.take_succ_cons, List.take_zero, List.mem_cons,
      List.not_mem_nil, or_false] at ht
    rcases ht with rfl | rfl | rfl | rfl | rfl | rfl | rfl | rfl | rfl | rfl
    all_goals first
      | trivial
      | exact ⟨_, rfl⟩
  exact ⟨h, ((ofTokens_recognises sampleTokens [] h).1 _).1 rfl⟩

end Keyring.Query
