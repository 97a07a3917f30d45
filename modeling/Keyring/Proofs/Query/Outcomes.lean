import Keyring.Proofs.Query.Recognition
import Keyring.Proofs.Query.Tokenization
import Keyring.Query.Parse

/-!
# Outcomes of parsing

Any text is an expression or has a syntax error at a place in it, and nothing else comes of it. The
tokens of a text end in the end of input, at which the reading stops; names, numbers and escapes
have passed every check before the expression makes it again.
-/

namespace Keyring.Query

open Reading

/-! Where a text is misread. -/

theorem extendString_eq_error {c : CodePoint} {width : Nat} {read : Except Misread (Text × Nat)}
    {misread : Misread} (h : extendString c width read = .error misread) :
    read = .error misread := by
  cases read with
  | ok answer => cases h
  | error m =>
    cases h
    rfl

def Misread.Within (misread : Misread) (position : Nat) (t : Text) : Prop :=
  misread.position = 0 ∨ position ≤ misread.position ∧ misread.position < position + t.length

private theorem within_append (mark : Text) {t : Text} {c : CodePoint} {position : Nat}
    {misread : Misread}
    (hmark : readString position (mark ++ t) =
      extendString c mark.length (readString (position + mark.length) t))
    (h : readString position (mark ++ t) = .error misread)
    (ih : readString (position + mark.length) t = .error misread →
      misread.Within (position + mark.length) t) : misread.Within position (mark ++ t) := by
  rw [hmark] at h
  have hrest := ih (extendString_eq_error h)
  simp only [Misread.Within, List.length_append] at hrest ⊢
  omega

theorem readString_error {position : Nat} {t : Text} {misread : Misread}
    (h : readString position t = .error misread) : misread.Within position t := by
  induction position, t using readString.induct with
  | case1 =>
    cases h
    exact .inl rfl
  | case2 position rest =>
    rw [readString_quote] at h
    cases h
  | case4 position code rest meaning hs _ ih =>
    exact within_append ['\\', code] (readString_simple hs position rest) h ih
  | case5 position h₁ h₂ h₃ h₄ rest n hn _ _ ih =>
    exact within_append ['\\', 'u', h₁, h₂, h₃, h₄] (readString_unicode hn position rest) h ih
  | case9 position c rest hquote hslash ih =>
    exact within_append [c] (readString_plain hquote hslash position rest) h ih
  | _ =>
    -- an escape that is none, at its backslash
    rw [readString.eq_def] at h
    simp_all only [if_true, if_false, Except.error.injEq]
    right
    simp [← h]

private theorem ofNumeral_error {n : Numeral} {following : Text} {misread : Misread}
    (h : Lexeme.ofNumeral n following = .error misread) : misread.position = 0 := by
  have hvalue : Lexeme.ofNumeral.ofValue n = .error misread → misread.position = 0 := by
    intro h
    unfold Lexeme.ofNumeral.ofValue at h
    split at h
    next => cases h
    next =>
      cases h
      rfl
  unfold Lexeme.ofNumeral at h
  split at h
  next =>
    split at h
    next =>
      cases h
      rfl
    next => exact hvalue h
  next => exact hvalue h

theorem Lexeme.read_error {c : CodePoint} {rest : Text} {misread : Misread}
    (h : Lexeme.read c rest = .error misread) : misread.position ≤ rest.length := by
  rw [Lexeme.read] at h
  split at h
  next =>
    split at h
    next => cases h
    next hread =>
      cases h
      have hat := readString_error hread
      unfold Misread.Within at hat
      omega
  next =>
    split at h
    next => cases h
    next =>
      split at h
      next =>
        rw [ofNumeral_error h]
        exact Nat.zero_le _
      next =>
        split at h
        next => cases h
        next =>
          split at h
          next => cases h
          next =>
            cases h
            exact Nat.zero_le _

theorem scan_error {offset : Nat} {t : Text} {misread : Misread}
    (h : scan offset t = .error misread) :
    offset ≤ misread.position ∧ misread.position < offset + t.length := by
  induction offset, t using scan.induct with
  | case1 offset =>
    rw [scan_nil] at h
    cases h
  | case2 offset c rest hc ih =>
    rw [scan_blank hc] at h
    have hat := ih h
    rw [List.length_cons]
    omega
  | case3 offset c rest hc other hread =>
    rw [scan.eq_def] at h
    simp only [hc, hread, Bool.false_eq_true, if_false] at h
    cases h
    have hat := Lexeme.read_error hread
    simp only [List.length_cons]
    omega
  | case4 offset c rest hc lexeme hread other hrest ih =>
    rw [scan_lexeme (Bool.eq_false_iff.mpr hc) hread, hrest] at h
    cases h
    have hat := ih hrest
    rw [List.length_drop] at hat
    rw [List.length_cons]
    omega
  | case5 offset c rest hc lexeme hread tokens hrest _ =>
    rw [scan_lexeme (Bool.eq_false_iff.mpr hc) hread, hrest] at h
    cases h

/-! Where tokens are rejected. -/

theorem offset_of_tokenize {t : Text} {ts : List Token} (h : tokenize t = .ok ts) {token : Token}
    (ht : token ∈ ts) : 0 ≤ token.offset ∧ token.offset ≤ t.length := by
  obtain ⟨lexemes, rfl, htiles⟩ := tiles_of_scan h
  rcases List.mem_append.mp ht with hm | hm
  · have hle := htiles.offset_le hm
    omega
  · rw [List.mem_singleton.mp hm]
    simp [Token.ending]

theorem run_append_of_mem (r : Reading) {ts : List Token} (h : ∃ t ∈ ts, t.kind = .endOfInput)
    (ending ending' : Token) (more : List Token) :
    r.run ending (ts ++ more) = r.run ending' ts := by
  induction ts generalizing r with
  | nil =>
    obtain ⟨t, ht, -⟩ := h
    cases ht
  | cons t ts ih =>
    rw [List.cons_append, Reading.run, Reading.run]
    by_cases hk : t.kind = .endOfInput
    · simp only [if_pos hk]
    · obtain ⟨u, hu, hend⟩ := h
      have hmem : u ∈ ts := by
        rcases List.mem_cons.mp hu with rfl | hu
        · exact absurd hend hk
        · exact hu
      simp only [if_neg hk]
      cases r.step t with
      | ok next => exact ih next ⟨u, hmem, hend⟩
      | error rejection => rfl

/-- Text is an expression, or it is malformed at a place in it. -/
theorem Expr.ofText_error {t : Text} {err : QueryError} (h : Expr.ofText t = .error err) :
    ∃ e : SyntaxError, err = .malformed e ∧ 0 ≤ e.offset ∧ e.offset ≤ t.length := by
  unfold Expr.ofText at h
  split at h
  next => cases h
  next =>
    split at h
    next ts hts =>
      have hstart : start.Named := trivial
      have hwell : ∀ t ∈ beforeEnd ts, t.WellFormed :=
        fun t ht => wellFormed_of_tokenize hts t (List.takeWhile_subset _ ht)
      obtain ⟨expected, token, hm, rfl⟩ := hstart.run hwell h
      refine ⟨_, rfl, ?_⟩
      rcases hm with rfl | hm
      · simp [SyntaxError.ofToken, Token.ending]
      · exact offset_of_tokenize hts hm
    next misread hread =>
      cases h
      have hat := scan_error hread
      refine ⟨_, rfl, ?_⟩
      simp only [SyntaxError.ofMisread]
      omega

/-- All that is ever said to be expected. -/
def Expected.all : List Expected :=
  [.connective, .closing, .operand, .typeName, .scopeRelation, .scopeList, .scopeName, .knownScope,
    .scopeSeparator, .comparison, .literal]

theorem Expected.mem_all (expected : Expected) : expected ∈ Expected.all := by
  cases expected <;> decide

/-- The event says what was expected in fixed words, or not at all. -/
theorem SyntaxError.event_expected (e : SyntaxError) :
    ∃ field ∈ Datum.null :: Expected.all.map (fun expected => .text expected.phrase),
      e.event.fields.get? "expected" = some field := by
  have hget : e.event.fields.get? "expected" =
      some (Datum.ofText? (e.expected.map Expected.phrase)) := rfl
  refine ⟨_, ?_, hget⟩
  cases e.expected with
  | none => exact List.mem_cons_self
  | some expected =>
    exact List.mem_cons_of_mem _ (List.mem_map_of_mem expected.mem_all)

/-! The checks that are made again. -/

private theorem lt_of_hexDigit? {c : CodePoint} {d : Nat} (h : c.hexDigit? = some d) :
    d < 16 := by
  unfold CodePoint.hexDigit? at h
  split at h
  next hc =>
    have hval := CodePoint.val_of_isDigit hc
    cases h
    omega
  next =>
    split at h
    next hc =>
      simp only [Bool.and_eq_true, decide_eq_true_eq] at hc
      cases h
      omega
    next =>
      split at h
      next hc =>
        simp only [Bool.and_eq_true, decide_eq_true_eq] at hc
        cases h
        omega
      next => cases h

theorem val_of_hex4? {a b c d : CodePoint} {n : Nat} (h : Text.hex4? a b c d = some n) :
    (CodePoint.ofNat n).val = n := by
  unfold Text.hex4? at h
  split at h
  next ha hb hc hd =>
    cases h
    have ha := lt_of_hexDigit? ha
    have hb := lt_of_hexDigit? hb
    have hc := lt_of_hexDigit? hc
    have hd := lt_of_hexDigit? hd
    rw [CodePoint.ofNat, dif_pos (by omega)]
  next => cases h

/-- Any text is an expression, without an event, or has a syntax error at a place in it, which is
all that is logged, in words that do not depend on the text. The reading stays within the tokens;
the text of a number is one that a number can be made of, and the number of an escape that of a code
point. -/
theorem parse_outcomes (text : Text) :
    ((∃ e, parse (some text) = pure (.ok e)) ∨
      ∃ err : SyntaxError, parse (some text) = ⟨.error (.malformed err), [err.event]⟩ ∧
        0 ≤ err.offset ∧ err.offset ≤ text.length ∧ err.event.name = "cql_parse_failed" ∧
        ∃ field ∈ Datum.null :: Expected.all.map (fun expected => .text expected.phrase),
          err.event.fields.get? "expected" = some field) ∧
      (∀ tokens, tokenize text = .ok tokens → ∀ ending more,
        Reading.run ending .start (tokens ++ more) = Expr.ofTokens tokens text) ∧
      (∀ rest n, rest <:+ text → Numeral.read? rest = some n →
        Binary64.ofText? n.text = some (.ofNumeral n)) ∧
      ∀ a b c d n, Text.hex4? a b c d = some n → (CodePoint.ofNat n).val = n := by
  refine ⟨?_, ?_, ?_, ?_⟩
  · cases h : Expr.ofText text with
    | ok e =>
      left
      exact ⟨e, by simp only [parse, h]⟩
    | error err =>
      right
      obtain ⟨e, rfl, hfrom, hto⟩ := Expr.ofText_error h
      exact ⟨e, by simp only [parse, h], hfrom, hto, rfl, e.event_expected⟩
  · intro tokens h ending more
    obtain ⟨lexemes, rfl, -⟩ := tiles_of_scan h
    have hend : ∃ t ∈ lexemes ++ [.ending ((0 + text.length : Nat) : Int)],
        t.kind = .endOfInput := ⟨_, List.mem_append_right _ List.mem_cons_self, rfl⟩
    exact run_append_of_mem start hend ending _ more
  · intro rest n _ hread
    exact Binary64.ofText?_text (Numeral.read?_eq_some hread).1
  · intro a b c d n h
    exact val_of_hex4? h

private def unknownScope : Text :=
  "x == 1e5 && scope == ROOT"

private def unknownScopeTokens : List Token :=
  [⟨.identifier, "x", 0⟩, ⟨.operator, "==", 2⟩,
    ⟨.number ((Binary64.ofText? "1e5").getD .undefined), "1e5", 5⟩, ⟨.operator, "&&", 9⟩,
    ⟨.identifier, "scope", 12⟩, ⟨.operator, "==", 18⟩, ⟨.identifier, "ROOT", 21⟩, .ending 25]

theorem parse_outcomes_unknown_scope :
    (∃ err : SyntaxError,
      parse (some unknownScope) = ⟨.error (.malformed err), [err.event]⟩ ∧ err.offset ≤ 25) ∧
      (∀ more, Reading.run (.ending 0) .start (unknownScopeTokens ++ more) =
        Expr.ofTokens unknownScopeTokens unknownScope) ∧
      Binary64.ofText? "1e5" = some (.ofNumeral ⟨[], "1", [], "e5"⟩) ∧
      (CodePoint.ofNat 0xd800).val = 0xd800 := by
  have htokens : tokenize unknownScope = .ok unknownScopeTokens := by decide +kernel
  have hsuffix : ("1e5 && scope == ROOT" : Text) <:+ unknownScope := ⟨"x == ", rfl⟩
  obtain ⟨hanswer, hrun, hnumber, hescape⟩ := parse_outcomes unknownScope
  have hread : Numeral.read? "1e5 && scope == ROOT" = some ⟨[], "1", [], "e5"⟩ := by decide +kernel
  refine ⟨?_, hrun _ htokens _, hnumber _ _ hsuffix hread, hescape 'd' '8' '0' '0' _ (by decide)⟩
  rcases hanswer with ⟨e, he⟩ | ⟨err, herr, -, hoffset, -⟩
  · have hnone : (parse (some unknownScope)).trace ≠ [] := by decide +kernel
    rw [he] at hnone
    exact absurd rfl hnone
  · exact ⟨err, herr, hoffset⟩

end Keyring.Query
