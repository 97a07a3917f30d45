import Keyring.Proofs.Query.Lexeme

/-!
# Tokens cover their text

The tokens of a text stand in it one after the other, each where its offset says, and nothing but
white space is left between them. By itself, the text of a token is that token again.
-/

namespace Keyring.Query

/-- The text from `offset` on is tokens by themselves, with white space between them. -/
inductive Tiles : Nat → Text → List Token → Prop
  | done (offset : Nat) : Tiles offset [] []
  | blank {offset : Nat} {c : CodePoint} {rest : Text} {ts : List Token} (hc : c.isBlank = true)
      (h : Tiles (offset + 1) rest ts) : Tiles offset (c :: rest) ts
  | token {offset : Nat} {c : CodePoint} {body rest : Text} {kind : TokenKind} {ts : List Token}
      (hc : c.isBlank = false) (hb : IsLexeme c body kind)
      (h : Tiles (offset + (body.length + 1)) rest ts) :
      Tiles offset (c :: (body ++ rest)) (⟨kind, c :: body, offset⟩ :: ts)

theorem tiles_of_scan {offset : Nat} {t : Text} {ts : List Token} (h : scan offset t = .ok ts) :
    ∃ lexemes, ts = lexemes ++ [.ending ((offset + t.length : Nat) : Int)] ∧
      Tiles offset t lexemes := by
  induction offset, t using scan.induct generalizing ts with
  | case1 offset =>
    rw [scan_nil] at h
    cases h
    exact ⟨[], rfl, .done offset⟩
  | case2 offset c rest hc ih =>
    rw [scan_blank hc] at h
    obtain ⟨lexemes, rfl, htiles⟩ := ih h
    refine ⟨lexemes, ?_, .blank hc htiles⟩
    rw [List.length_cons, Nat.add_assoc, Nat.add_comm 1]
  | case3 offset c rest hc misread hread =>
    rw [scan.eq_def] at h
    simp [hc, hread] at h
  | case4 offset c rest hc lexeme hread misread hrest =>
    rw [scan_lexeme (Bool.eq_false_iff.mpr hc) hread, hrest] at h
    cases h
  | case5 offset c rest hc lexeme hread tokens hrest ih =>
    rw [scan_lexeme (Bool.eq_false_iff.mpr hc) hread, hrest] at h
    cases h
    obtain ⟨hle, hlexeme⟩ := isLexeme_of_read hread
    obtain ⟨lexemes, rfl, htiles⟩ := ih hrest
    have hlen : (rest.take lexeme.extra).length = lexeme.extra := List.length_take_of_le hle
    have hend : offset + lexeme.extra + 1 + (rest.drop lexeme.extra).length =
        offset + (c :: rest).length := by
      rw [List.length_drop, List.length_cons]
      omega
    have htoken : Tiles offset (c :: (rest.take lexeme.extra ++ rest.drop lexeme.extra))
        (⟨lexeme.kind, c :: rest.take lexeme.extra, offset⟩ :: lexemes) :=
      .token (Bool.eq_false_iff.mpr hc) hlexeme (by rwa [hlen, ← Nat.add_assoc])
    rw [List.take_append_drop] at htoken
    exact ⟨_, by rw [hend, List.cons_append], htoken⟩

/-- A token stands in the text where its offset says, and its text is one token by itself. -/
theorem Tiles.mem {offset : Nat} {t : Text} {ts : List Token} (h : Tiles offset t ts)
    {token : Token} (ht : token ∈ ts) : ∃ i c body, token.offset = ((offset + i : Nat) : Int) ∧
      token.text = c :: body ∧ c :: body <+: t.drop i ∧ c.isBlank = false ∧
      IsLexeme c body token.kind := by
  induction h with
  | done => cases ht
  | @blank offset c rest ts _ _ ih =>
    obtain ⟨i, d, body, hoffset, htext, hslice, hd, hlexeme⟩ := ih ht
    refine ⟨i + 1, d, body, ?_, htext, hslice, hd, hlexeme⟩
    rw [hoffset, Nat.add_assoc, Nat.add_comm 1]
  | @token offset c body rest kind ts hc hb _ ih =>
    rcases List.mem_cons.mp ht with rfl | ht
    · exact ⟨0, c, body, rfl, rfl, List.prefix_append (c :: body) rest, hc, hb⟩
    · obtain ⟨i, d, text, hoffset, htext, hslice, hd, hlexeme⟩ := ih ht
      refine ⟨body.length + 1 + i, d, text, ?_, htext, ?_, hd, hlexeme⟩
      · rw [hoffset, Nat.add_assoc]
      · have hdrop : (c :: (body ++ rest)).drop (body.length + 1 + i) = rest.drop i := by
          rw [Nat.add_right_comm, List.drop_succ_cons, List.drop_length_add_append]
        rwa [hdrop]

theorem Tiles.kind_ne_endOfInput {offset : Nat} {t : Text} {ts : List Token}
    (h : Tiles offset t ts) : ∀ token ∈ ts, token.kind ≠ .endOfInput := by
  intro token ht hk
  obtain ⟨i, c, body, -, -, -, -, hlexeme⟩ := h.mem ht
  have hfits := hlexeme.fits
  rw [hk] at hfits
  exact hfits

theorem Tiles.offset_le {offset : Nat} {t : Text} {ts : List Token} (h : Tiles offset t ts)
    {token : Token} (ht : token ∈ ts) :
    (offset : Int) ≤ token.offset ∧
      token.offset + token.text.length ≤ ((offset + t.length : Nat) : Int) := by
  obtain ⟨i, c, body, hoffset, htext, hslice, -, -⟩ := h.mem ht
  have hle := hslice.length_le
  rw [List.length_drop, List.length_cons] at hle
  rw [hoffset, htext, List.length_cons]
  omega

def Token.Precedes (a b : Token) : Prop :=
  a.offset < b.offset ∧ a.offset + a.text.length ≤ b.offset

theorem Tiles.pairwise {offset : Nat} {t : Text} {ts : List Token} (h : Tiles offset t ts) :
    ts.Pairwise Token.Precedes := by
  induction h with
  | done => exact .nil
  | blank _ _ ih => exact ih
  | @token offset c body rest kind ts _ _ h ih =>
    refine .cons (fun b hb => ?_) ih
    have hle := (h.offset_le hb).1
    simp only [Token.Precedes, List.length_cons]
    omega

def Token.Covers (t : Token) (i : Nat) : Prop :=
  t.offset ≤ i ∧ (i : Int) < t.offset + t.text.length

instance (t : Token) (i : Nat) : Decidable (t.Covers i) :=
  inferInstanceAs (Decidable (_ ∧ _))

/-- What no token stands at is white space. -/
theorem Tiles.covers {offset : Nat} {t : Text} {ts : List Token} (h : Tiles offset t ts) {i : Nat}
    {c : CodePoint} (hi : t[i]? = some c) :
    c.isBlank = true ∨ ∃ token ∈ ts, token.Covers (offset + i) := by
  induction h generalizing i with
  | done => cases hi
  | @blank offset d rest ts hd _ ih =>
    cases i with
    | zero =>
      cases hi
      exact .inl hd
    | succ i =>
      rw [List.getElem?_cons_succ] at hi
      rw [Nat.add_comm i, ← Nat.add_assoc]
      exact ih hi
  | @token offset d body rest kind ts _ _ _ ih =>
    by_cases hlt : i < body.length + 1
    · refine .inr ⟨_, List.mem_cons_self, ?_⟩
      simp only [Token.Covers, List.length_cons]
      omega
    · obtain ⟨j, rfl⟩ := Nat.exists_eq_add_of_le (Nat.le_of_not_lt hlt)
      have hj : rest[j]? = some c := by
        rwa [Nat.add_right_comm, List.getElem?_cons_succ, List.getElem?_append_right (by omega),
          Nat.add_sub_cancel_left] at hi
      rw [← Nat.add_assoc]
      rcases ih hj with hblank | ⟨u, hm, hcovers⟩
      · exact .inl hblank
      · exact .inr ⟨u, List.mem_cons_of_mem _ hm, hcovers⟩

theorem precedes_of_tokenize {query : Text} {tokens : List Token}
    (h : tokenize query = .ok tokens) : tokens.Pairwise Token.Precedes := by
  obtain ⟨lexemes, rfl, htiles⟩ := tiles_of_scan h
  refine List.pairwise_append.mpr ⟨htiles.pairwise, List.pairwise_singleton _ _, ?_⟩
  intro a ha b hb
  obtain ⟨i, c, body, -, htext, -⟩ := htiles.mem ha
  have hle := (htiles.offset_le ha).2
  rw [List.mem_singleton.mp hb]
  simp only [Token.Precedes, Token.ending, htext, List.length_cons] at hle ⊢
  omega

theorem IsLexeme.wellFormed {c : CodePoint} {body : Text} {kind : TokenKind}
    (h : IsLexeme c body kind) {t : Token} (hk : t.kind = kind) (ht : t.text = c :: body) :
    t.WellFormed := by
  have hfits := h.fits
  unfold Token.WellFormed
  cases kind with
  | identifier =>
    simp only [hk, ht]
    exact hfits
  | number value =>
    obtain ⟨x, rfl, -⟩ := hfits
    simp only [hk]
    exact ⟨x, rfl⟩
  | _ => simp only [hk]

theorem wellFormed_of_tokenize {query : Text} {tokens : List Token}
    (h : tokenize query = .ok tokens) : ∀ t ∈ tokens, t.WellFormed := by
  obtain ⟨lexemes, rfl, htiles⟩ := tiles_of_scan h
  intro t ht
  rcases List.mem_append.mp ht with ht | ht
  · obtain ⟨i, c, body, -, htext, -, -, hlexeme⟩ := htiles.mem ht
    exact hlexeme.wellFormed rfl htext
  · rw [List.mem_singleton.mp ht]
    trivial

theorem IsLexeme.tokenize {c : CodePoint} {body : Text} {kind : TokenKind}
    (h : IsLexeme c body kind) (hc : c.isBlank = false) :
    Query.tokenize (c :: body) =
      .ok [⟨kind, c :: body, 0⟩, .ending ((c :: body).length : Nat)] := by
  have hread := h.reads [] Text.stops_nil
  rw [List.append_nil] at hread
  rw [Query.tokenize, scan_lexeme hc hread, List.drop_length, List.take_length, scan_nil,
    List.length_cons, Nat.zero_add]
  rfl

/-- Nothing of a text is lost in its tokens: they stand in it in order and apart, white space is
all that is left, and each is what its own text says. -/
theorem tokenize_lossless {query : Text} {tokens : List Token} (h : tokenize query = .ok tokens) :
    ∃ lexemes : List Token, tokens = lexemes ++ [.ending query.length] ∧
      (∀ t ∈ lexemes, t.kind ≠ .endOfInput ∧ t.text ≠ [] ∧
        ∃ start : Nat, t.offset = start ∧ (query.drop start).take t.text.length = t.text) ∧
      tokens.Pairwise Token.Precedes ∧
      (∀ i c, query[i]? = some c → c.isBlank = true ∨ ∃ t ∈ lexemes, t.Covers i) ∧
      (∀ t ∈ lexemes, ∀ value, t.kind = .number value →
        ∃ x, value = .finite x ∧ Binary64.ofText? t.text = some value) ∧
      (∀ t ∈ lexemes, t.kind = .identifier → t.text ≠ Text.trueWord ∧ t.text ≠ Text.falseWord) ∧
      ∀ t ∈ lexemes, tokenize t.text = .ok [⟨t.kind, t.text, 0⟩, .ending t.text.length] := by
  obtain ⟨lexemes, htokens, htiles⟩ := tiles_of_scan h
  rw [Nat.zero_add] at htokens
  refine ⟨lexemes, htokens, ?_, precedes_of_tokenize h, ?_, ?_, ?_, ?_⟩
  · intro t ht
    obtain ⟨i, c, body, hoffset, htext, hslice, -⟩ := htiles.mem ht
    refine ⟨htiles.kind_ne_endOfInput t ht, by simp [htext], i, by simpa using hoffset, ?_⟩
    rw [htext]
    exact (List.prefix_iff_eq_take.mp hslice).symm
  · intro i c hi
    simpa using htiles.covers hi
  · intro t ht value hk
    obtain ⟨i, c, body, -, htext, -, -, hlexeme⟩ := htiles.mem ht
    have hfits := hlexeme.fits
    rw [hk] at hfits
    rwa [htext]
  · intro t ht hk
    obtain ⟨i, c, body, -, htext, -, -, hlexeme⟩ := htiles.mem ht
    have hfits := hlexeme.fits
    rw [hk] at hfits
    rw [htext]
    exact hfits.2
  · intro t ht
    obtain ⟨i, c, body, -, htext, -, hc, hlexeme⟩ := htiles.mem ht
    rw [htext]
    exact hlexeme.tokenize hc

private def tiledText : Text :=
  "x.y ==-0.0e5&&\n\"\\u0041\\\"\""

private def tiledTokens : List Token :=
  [⟨.identifier, "x.y", 0⟩, ⟨.operator, "==", 4⟩,
    ⟨.number ((Binary64.ofText? "-0.0e5").getD .undefined), "-0.0e5", 6⟩,
    ⟨.operator, "&&", 12⟩, ⟨.string "A\"", "\"\\u0041\\\"\"", 15⟩, .ending 25]

theorem tokenize_lossless_escapes :
    tokenize tiledText = .ok tiledTokens ∧ tiledTokens.Pairwise Token.Precedes ∧
      ∃ lexemes, tiledTokens = lexemes ++ [.ending 25] ∧
        ∀ t ∈ lexemes, tokenize t.text = .ok [⟨t.kind, t.text, 0⟩, .ending t.text.length] := by
  have h : tokenize tiledText = .ok tiledTokens := by decide +kernel
  obtain ⟨lexemes, htokens, -, hpairwise, -, -, -, halone⟩ := tokenize_lossless h
  exact ⟨h, hpairwise, lexemes, htokens, halone⟩

end Keyring.Query
