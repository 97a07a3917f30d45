import Keyring.Proofs.Query.Recognition
import Keyring.Proofs.Query.Tokenization

/-!
# Errors come at the first possible token

Whatever has been read can be brought to a whole expression. So the token that an error is reported
at is the first by which the tokens can no longer begin a query.
-/

namespace Keyring.Query

/-- What a token is, apart from where it stands. -/
def Token.shape (t : Token) : TokenKind × Text :=
  (t.kind, t.text)

def Token.Lexical (t : Token) : Prop :=
  tokenize t.text = .ok [⟨t.kind, t.text, 0⟩, .ending t.text.length]

instance (t : Token) : Decidable t.Lexical :=
  inferInstanceAs (Decidable (_ = _))

namespace Reading

/-- Some tokens more make a whole expression. -/
def Completable (r : Reading) : Prop :=
  ∃ more last e, (∀ t ∈ more, t.Lexical) ∧ Reads r more last ∧ last.finish = .ok e

theorem Completable.of_step {r mid : Reading} {t : Token} (h : mid.Completable)
    (hs : r.step t = .ok mid) (ht : t.Lexical) : r.Completable := by
  obtain ⟨more, last, e, hmore, hreads, hfinish⟩ := h
  exact ⟨t :: more, last, e, List.forall_mem_cons.mpr ⟨ht, hmore⟩, .step hs hreads, hfinish⟩

private def closingToken : Token :=
  ⟨.rightParen, ")", 0⟩

private def trueToken : Token :=
  ⟨.boolean true, Text.trueWord, 0⟩

private def equalsToken : Token :=
  ⟨.operator, "==", 0⟩

private def scopeToken : Token :=
  ⟨.identifier, Scope.global.name, 0⟩

private theorem closingToken_lexical : closingToken.Lexical := by decide +kernel

private theorem trueToken_lexical : trueToken.Lexical := by decide +kernel

private theorem equalsToken_lexical : equalsToken.Lexical := by decide +kernel

private theorem scopeToken_lexical : scopeToken.Lexical := by decide +kernel

/-- A closing parenthesis for each open group. -/
private theorem completable_connective (outer : List Pending) (group : Pending)
    (conjunction : Expr) : Completable ⟨outer, group, .connective conjunction⟩ := by
  induction outer generalizing group conjunction with
  | nil => exact ⟨[], _, _, by simp, .done, rfl⟩
  | cons pending outer ih => exact (ih _ _).of_step (t := closingToken) rfl closingToken_lexical

private theorem completable_withOperand (r : Reading) (e : Expr) : (r.withOperand e).Completable :=
  completable_connective _ _ _

private theorem completable_literal (outer : List Pending) (group : Pending) {property : Text}
    (hn : property.isName = true) : Completable ⟨outer, group, .literal property⟩ := by
  have hs : step ⟨outer, group, .literal property⟩ trueToken =
      .ok (withOperand ⟨outer, group, .literal property⟩
        (.equals ⟨property, hn⟩ (.boolean true))) := by
    simp [step, trueToken, literal?, compare, Expr.ofProperty, Name.ofText?, hn, withOperand?]
  exact (completable_withOperand _ _).of_step hs trueToken_lexical

private theorem completable_scopeSeparator (outer : List Pending) (group : Pending)
    (scopes : ScopeSet) : Completable ⟨outer, group, .scopeSeparator scopes⟩ :=
  (completable_withOperand _ _).of_step (t := closingToken) rfl closingToken_lexical

private theorem completable_scopeName (outer : List Pending) (group : Pending)
    (scopes : ScopeSet) : Completable ⟨outer, group, .scopeName scopes⟩ := by
  have hs : step ⟨outer, group, .scopeName scopes⟩ scopeToken =
      .ok ⟨outer, group, .scopeSeparator (scopes.insert .global)⟩ := rfl
  exact (completable_scopeSeparator outer group _).of_step hs scopeToken_lexical

private theorem completable_scopeValue (outer : List Pending) (group : Pending) :
    Completable ⟨outer, group, .scopeValue⟩ := by
  have hs : step ⟨outer, group, .scopeValue⟩ scopeToken =
      .ok (withOperand ⟨outer, group, .scopeValue⟩
        (.scopeIn (ScopeSet.empty.insert .global))) := rfl
  exact (completable_withOperand _ _).of_step hs scopeToken_lexical

theorem Named.completable {r : Reading} (h : r.Named) : r.Completable := by
  obtain ⟨outer, group, phase⟩ := r
  cases phase with
  | operand => exact (completable_withOperand _ _).of_step (t := trueToken) rfl trueToken_lexical
  | connective conjunction => exact completable_connective outer group conjunction
  | typeName =>
    have hs : Reading.step ⟨outer, group, .typeName⟩ scopeToken =
        .ok (withOperand ⟨outer, group, .typeName⟩
          (.instanceOf ⟨Scope.global.name, by decide⟩)) := rfl
    exact (completable_withOperand _ _).of_step hs scopeToken_lexical
  | comparison property =>
    exact (completable_literal outer group h).of_step (t := equalsToken) rfl equalsToken_lexical
  | literal property => exact completable_literal outer group h
  | scopeRelation =>
    exact (completable_scopeValue outer group).of_step (t := equalsToken) rfl equalsToken_lexical
  | scopeValue => exact completable_scopeValue outer group
  | scopeList =>
    have hs : Reading.step ⟨outer, group, .scopeList⟩ ⟨.leftParen, "(", 0⟩ =
        .ok ⟨outer, group, .scopeName .empty⟩ := rfl
    have hopening : Token.Lexical ⟨.leftParen, "(", 0⟩ := by decide +kernel
    exact (completable_scopeName outer group _).of_step hs hopening
  | scopeName scopes => exact completable_scopeName outer group scopes
  | scopeSeparator scopes => exact completable_scopeSeparator outer group scopes

theorem step_congr (r : Reading) {t u : Token} (h : t.shape = u.shape) : r.step t = r.step u := by
  obtain ⟨hk, ht⟩ := Prod.mk.inj h
  simp only [step, stepOperand, stepConnective, stepScopeRelation, stepScopeValue, stepScopeName,
    reject, hk, ht]

theorem Reads.congr {r last : Reading} {ts us : List Token} (h : Reads r ts last)
    (he : ts.map Token.shape = us.map Token.shape) : Reads r us last := by
  induction h generalizing us with
  | done =>
    rw [List.map_eq_nil_iff.mp he.symm]
    exact .done
  | @step r mid last t ts h _ ih =>
    cases us with
    | nil => cases he
    | cons u us =>
      obtain ⟨hu, hus⟩ := List.cons.inj he
      exact .step (r.step_congr hu ▸ h) (ih hus)

theorem run_append_ending (r : Reading) (offset : Int) (ts : List Token) :
    r.run (.ending offset) (ts ++ [.ending offset]) = r.run (.ending offset) ts := by
  induction ts generalizing r with
  | nil => simp [Reading.run, Token.ending]
  | cons t ts ih =>
    rw [List.cons_append, Reading.run, Reading.run]
    by_cases hk : t.kind = .endOfInput
    · simp only [if_pos hk]
    · simp only [if_neg hk]
      cases r.step t with
      | ok next => exact ih next
      | error rejection => rfl

/-- With a rejected token, wherever it stands, nothing makes an expression. -/
theorem Rejects.run {r : Reading} {t u : Token} {expected : Expected} (h : r.Rejects t expected)
    (hu : u.shape = t.shape) (ending : Token) (rest : List Token) :
    r.run ending (u :: rest) = .error (.malformed (.ofToken expected u)) := by
  have hk : u.kind = t.kind := congrArg Prod.fst hu
  rw [Reading.run]
  rcases h with ⟨ht, hs⟩ | ⟨ht, hf⟩
  · rw [if_neg (hk ▸ ht), r.step_congr hu, hs]
    rfl
  · rw [if_pos (hk.trans ht), hf]
    rfl

end Reading

open Reading

/-- With some more tokens, each as text makes it, these make an expression. -/
def Viable (tokens : List Token) : Prop :=
  ∃ more e, (∀ t ∈ more, t.Lexical) ∧ ∀ query, Expr.ofTokens (tokens ++ more) query = .ok e

/-- Some expression starts with these tokens, its end being the last of its own. -/
def Begins (tokens : List Token) : Prop :=
  ∃ others query e, Expr.ofTokens others query = .ok e ∧
    tokens.map Token.shape <+: (others ++ [Token.ending query.length]).map Token.shape

theorem Reading.Reads.viable {tokens : List Token} {last : Reading} (h : Reads start tokens last)
    (hn : last.Named) : Viable tokens := by
  obtain ⟨more, whole, e, hmore, hreads, hfinish⟩ := hn.completable
  refine ⟨more, e, hmore, fun query => ?_⟩
  have hall := (h.append hreads).run (.ending query.length) []
  rw [List.append_nil] at hall
  rw [Expr.ofTokens, hall, Reading.run, hfinish]

theorem Reading.Rejects.not_begins {before : List Token} {r : Reading} {t : Token}
    {expected : Expected} (h : r.Rejects t expected) (hreads : Reads start before r) :
    ¬Begins (before ++ [t]) := by
  rintro ⟨others, query, e, hok, hpre⟩
  rw [Expr.ofTokens, ← run_append_ending] at hok
  -- the tokens that the other list starts with are read the same way up to the rejected one
  obtain ⟨tail, htail⟩ := hpre
  rw [List.map_append, List.append_assoc] at htail
  obtain ⟨us, vs, hsplit, hus, hvs⟩ := List.map_eq_append_iff.mp htail.symm
  obtain ⟨u, rest, rfl, hu, -⟩ := List.map_eq_cons_iff.mp hvs
  rw [hsplit, (hreads.congr hus.symm).run, h.run hu] at hok
  cases hok

private theorem position_unique {tokens : List Token} (h : tokens.Pairwise Token.Precedes)
    {j k : Nat} {a b : Token} (ha : tokens[j]? = some a) (hb : tokens[k]? = some b)
    (he : a.offset = b.offset) : j = k := by
  obtain ⟨hj, rfl⟩ := List.getElem?_eq_some_iff.mp ha
  obtain ⟨hk, rfl⟩ := List.getElem?_eq_some_iff.mp hb
  rw [List.pairwise_iff_getElem] at h
  rcases Nat.lt_trichotomy j k with hlt | heq | hlt
  · have hp := (h j k hj hk hlt).1
    omega
  · exact heq
  · have hp := (h k j hk hj hlt).1
    omega

private theorem found_ofToken {query : Text} {tokens : List Token} (h : tokenize query = .ok tokens)
    (expected : Expected) {t : Token} (ht : t ∈ tokens) :
    (SyntaxError.ofToken expected t).found =
      if t.kind = .endOfInput then none else some t.text := by
  obtain ⟨lexemes, rfl, htiles⟩ := tiles_of_scan h
  rcases List.mem_append.mp ht with hm | hm
  · obtain ⟨i, c, body, -, htext, -⟩ := htiles.mem hm
    simp [SyntaxError.ofToken, SyntaxError.found, htext, htiles.kind_ne_endOfInput t hm]
  · rw [List.mem_singleton.mp hm]
    rfl

/-- An error is reported at the one token by which no query can go on, and where it could have: the
tokens before can be brought to an expression, and with this one, nothing is an expression. -/
theorem ofTokens_error_viable {query : Text} {tokens : List Token} {err : QueryError}
    (h : tokenize query = .ok tokens) (he : Expr.ofTokens tokens query = .error err) :
    ∃ error k token, err = .malformed error ∧ tokens[k]? = some token ∧
      error.offset = token.offset ∧
      (∀ j other, tokens[j]? = some other → other.offset = error.offset → j = k) ∧
      error.found = (if token.kind = .endOfInput then none else some token.text) ∧
      Viable (tokens.take k) ∧ ¬Begins (tokens.take (k + 1)) := by
  obtain ⟨lexemes, hlexemes, -⟩ := tiles_of_scan h
  rw [Nat.zero_add] at hlexemes
  have hwell : ∀ t ∈ beforeEnd lexemes, t.WellFormed := by
    intro t ht
    have hm : t ∈ tokens := hlexemes ▸ List.mem_append_left _ (List.takeWhile_subset _ ht)
    exact wellFormed_of_tokenize h t hm
  have hstart : start.Named := trivial
  -- the end of input that text has is the one that tokens without an end are given
  rw [hlexemes, Expr.ofTokens, run_append_ending] at he
  obtain ⟨before, token, mid, expected, hpre, hreads, hnamed, hrejects, rfl⟩ :=
    hstart.run_error hwell he
  rw [← hlexemes] at hpre
  obtain ⟨rest, rfl⟩ := hpre
  have hk : (before ++ [token] ++ rest)[before.length]? = some token := by simp
  have htake : (before ++ [token] ++ rest).take (before.length + 1) = before ++ [token] :=
    List.take_left' (by simp)
  refine ⟨_, before.length, token, rfl, hk, rfl, ?_, ?_, ?_, ?_⟩
  · intro j other hj ho
    exact position_unique (precedes_of_tokenize h) hj hk ho
  · exact found_ofToken h expected (List.mem_of_getElem? hk)
  · rw [List.append_assoc, List.take_left]
    exact hreads.viable hnamed
  · rw [htake]
    exact hrejects.not_begins hreads

private def openText : Text :=
  "!(scope in (GLOBAL x"

private def openTokens : List Token :=
  [⟨.operator, "!", 0⟩, ⟨.leftParen, "(", 1⟩, ⟨.identifier, "scope", 2⟩, ⟨.identifier, "in", 8⟩,
    ⟨.leftParen, "(", 11⟩, ⟨.identifier, "GLOBAL", 12⟩, ⟨.identifier, "x", 19⟩, .ending 20]

theorem ofTokens_error_viable_open :
    tokenize openText = .ok openTokens ∧
      Expr.ofTokens openTokens openText =
        .error (.malformed (.ofToken .scopeSeparator ⟨.identifier, "x", 19⟩)) ∧
      Viable (openTokens.take 6) ∧ ¬Begins (openTokens.take 7) := by
  have h : tokenize openText = .ok openTokens := by decide +kernel
  have he : Expr.ofTokens openTokens openText =
      .error (.malformed (.ofToken .scopeSeparator ⟨.identifier, "x", 19⟩)) := rfl
  obtain ⟨error, k, token, herror, htoken, -, hunique, -, hviable, hbegins⟩ :=
    ofTokens_error_viable h he
  cases herror
  obtain rfl : 6 = k := hunique 6 ⟨.identifier, "x", 19⟩ rfl rfl
  exact ⟨h, he, hviable, hbegins⟩

end Keyring.Query
