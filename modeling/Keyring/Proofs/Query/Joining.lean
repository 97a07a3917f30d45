import Keyring.Proofs.Query.Tokenization

/-!
# Tokens of joined texts

Where a text can be cut without cutting a token, its tokens are those of the two parts. What stands
before a part only moves its tokens, and what stands after it plays no role as long as it cannot go
on a name or a number.
-/

namespace Keyring.Query

open Text (Stops stops_nil stops_cons)

theorem isNamePart_of_isBlank {c : CodePoint} (h : c.isBlank = true) :
    c.isNamePart = false ∧ c ≠ '.' := by
  have hprint : ¬(0x20 < c.val ∧ c.val < 0x80) := by
    intro hval
    have hb := CodePoint.isBlank_of_between hval.1 hval.2
    rw [h] at hb
    cases hb
  constructor
  · have hstart : c.isNameStart = false := by
      cases hs : c.isNameStart with
      | false => rfl
      | true =>
        have hval := val_of_isNameStart hs
        omega
    have hdigit : c.isDigit = false := by
      cases hd : c.isDigit with
      | false => rfl
      | true =>
        have hval := CodePoint.val_of_isDigit hd
        omega
    rw [CodePoint.isNamePart, hstart, hdigit, Bool.or_false]
  · rintro rfl
    exact hprint (by decide)

theorem stops_blank {w : Text} (hne : w ≠ []) (hw : w.isBlank = true) (rest : Text) :
    Stops (w ++ rest) := by
  obtain ⟨c, w, rfl⟩ := List.exists_cons_of_ne_nil hne
  have hc : c.isBlank = true := List.all_eq_true.mp hw c List.mem_cons_self
  obtain ⟨hpart, hdot⟩ := isNamePart_of_isBlank hc
  exact stops_cons hpart hdot (w ++ rest)

theorem read_congr {c : CodePoint} {u rest rest' : Text} {lexeme : Lexeme} (hr : rest.Stops)
    (hr' : rest'.Stops) (h : Lexeme.read c (u ++ rest) = .ok lexeme)
    (hle : lexeme.extra ≤ u.length) : Lexeme.read c (u ++ rest') = .ok lexeme := by
  cases leads_of_read h with
  | closed _ hclosed =>
    have htake : (u ++ rest).take lexeme.extra = u.take lexeme.extra :=
      List.take_append_of_le_length hle
    have hread := hclosed.reads (u.drop lexeme.extra ++ rest')
    rw [htake, ← List.append_assoc, List.take_append_drop, List.length_take_of_le hle] at hread
    exact hread
  | @number n x hread hx hs =>
    obtain ⟨hn, tail, htail⟩ := Numeral.read?_eq_some hread
    obtain ⟨d, body, ht, -⟩ := exists_isNumberStart hn
    rw [ht, List.cons_append] at htail
    obtain ⟨rfl, hbody⟩ := List.cons.inj htail
    have hlen : body.length ≤ u.length := by simpa [ht] using hle
    -- the numeral ends within the part that both texts share
    obtain ⟨mid, rfl⟩ : body <+: u :=
      List.prefix_of_prefix_length_le ⟨tail, hbody⟩ (List.prefix_append u rest) hlen
    rw [List.append_assoc] at hs ⊢
    have hstops : Stops (mid ++ rest) := by
      rwa [ht, List.length_cons, List.drop_succ_cons, List.drop_left] at hs
    have hnumber := read_numeral hn hx ht (hstops.replace hr')
    rw [hnumber, ht, List.length_cons, Nat.add_sub_cancel]
  | word hstart =>
    rw [nameRest_append_stops u hr, ← nameRest_append_stops u hr']
    exact read_of_isNameStart hstart (u ++ rest')

/-- Before `rest`, the text from `offset` on is read as these tokens. -/
inductive Lexes (rest : Text) : Nat → Text → List Token → Prop
  | done (offset : Nat) : Lexes rest offset [] []
  | blank {offset : Nat} {c : CodePoint} {t : Text} {ts : List Token} (hc : c.isBlank = true)
      (h : Lexes rest (offset + 1) t ts) : Lexes rest offset (c :: t) ts
  | token {offset : Nat} {c : CodePoint} {body t : Text} {kind : TokenKind} {ts : List Token}
      (hc : c.isBlank = false)
      (hread : Lexeme.read c (body ++ (t ++ rest)) = .ok ⟨kind, body.length⟩)
      (h : Lexes rest (offset + (body.length + 1)) t ts) :
      Lexes rest offset (c :: (body ++ t)) (⟨kind, c :: body, offset⟩ :: ts)

private theorem add_length_lexeme (offset : Nat) (c : CodePoint) (body t : Text) :
    offset + (c :: (body ++ t)).length = offset + (body.length + 1) + t.length := by
  rw [List.length_cons, List.length_append]
  omega

section Lexes

variable {rest t : Text} {offset : Nat} {ts : List Token}

theorem Lexes.scan (h : Lexes rest offset t ts) :
    scan offset (t ++ rest) = (scan (offset + t.length) rest).map (ts ++ ·) := by
  induction h with
  | done offset =>
    rw [List.nil_append, List.length_nil, Nat.add_zero]
    cases Query.scan offset rest <;> rfl
  | blank hc _ ih =>
    rw [List.cons_append, scan_blank hc, ih, List.length_cons, Nat.add_assoc, Nat.add_comm 1]
  | @token offset c body t kind ts hc hread _ ih =>
    rw [List.cons_append, List.append_assoc, scan_lexeme hc hread, List.drop_left, List.take_left,
      Nat.add_assoc, ih, ← add_length_lexeme]
    cases Query.scan (offset + (c :: (body ++ t)).length) rest <;> rfl

theorem Lexes.kind_ne_endOfInput (h : Lexes rest offset t ts) :
    ∀ token ∈ ts, token.kind ≠ .endOfInput := by
  induction h with
  | done => simp
  | blank _ _ ih => exact ih
  | @token offset c body t kind ts _ hread _ ih =>
    intro u hu
    rcases List.mem_cons.mp hu with rfl | hu
    · intro hk
      have hfits := (isLexeme_of_read hread).2.fits
      rw [show kind = .endOfInput from hk] at hfits
      exact hfits
    · exact ih u hu

theorem Lexes.append {u : Text} {us : List Token} (h : Lexes (u ++ rest) offset t ts)
    (hu : Lexes rest (offset + t.length) u us) : Lexes rest offset (t ++ u) (ts ++ us) := by
  induction h with
  | done => exact hu
  | blank hc _ ih =>
    rw [List.length_cons, Nat.add_comm _ 1, ← Nat.add_assoc] at hu
    exact .blank hc (ih hu)
  | @token offset c body t kind ts hc hread _ ih =>
    rw [add_length_lexeme] at hu
    rw [List.cons_append, List.append_assoc]
    rw [← List.append_assoc t] at hread
    exact .token hc hread (ih hu)

theorem lexes_blank {w : Text} (hw : w.isBlank = true) (rest : Text) (offset : Nat) :
    Lexes rest offset w [] := by
  induction w generalizing offset with
  | nil => exact .done offset
  | cons c w ih =>
    simp only [Text.isBlank, List.all_cons, Bool.and_eq_true] at hw
    exact .blank hw.1 (ih hw.2 (offset + 1))

theorem scan_isBlank {w : Text} (hw : w.isBlank = true) (rest : Text) (offset : Nat) :
    Query.scan offset (w ++ rest) = Query.scan (offset + w.length) rest := by
  rw [(lexes_blank hw rest offset).scan]
  cases Query.scan (offset + w.length) rest <;> rfl

theorem Lexes.replace {rest' : Text} (h : Lexes rest offset t ts) (hr : rest.Stops)
    (hr' : rest'.Stops) : Lexes rest' offset t ts := by
  induction h with
  | done offset => exact .done offset
  | blank hc _ ih => exact .blank hc ih
  | token hc hread _ ih =>
    rw [← List.append_assoc] at hread
    have hread' := read_congr hr hr' hread (by simp)
    rw [List.append_assoc] at hread'
    exact .token hc hread' ih

/-- The token at another place. -/
def Token.shift (distance : Int) (t : Token) : Token :=
  { t with offset := t.offset + distance }

theorem Lexes.shift (h : Lexes rest offset t ts) (distance : Int) (start : Nat)
    (hd : (offset : Int) + distance = start) :
    Lexes rest start t (ts.map (Token.shift distance)) := by
  induction h generalizing start with
  | done => exact .done start
  | blank hc _ ih => exact .blank hc (ih _ (by omega))
  | token hc hread _ ih =>
    rw [List.map_cons, Token.shift, hd]
    exact .token hc hread (ih _ (by omega))

end Lexes

private theorem scan_eq_ok {offset : Nat} {c : CodePoint} {rest : Text} {ts : List Token}
    (hc : c.isBlank = false) (h : scan offset (c :: rest) = .ok ts) :
    ∃ lexeme us, Lexeme.read c rest = .ok lexeme ∧
      scan (offset + lexeme.extra + 1) (rest.drop lexeme.extra) = .ok us ∧
      ts = ⟨lexeme.kind, c :: rest.take lexeme.extra, offset⟩ :: us := by
  cases hread : Lexeme.read c rest with
  | error misread =>
    rw [scan.eq_def] at h
    simp [hc, hread] at h
  | ok lexeme =>
    rw [scan_lexeme hc hread] at h
    cases hrest : scan (offset + lexeme.extra + 1) (rest.drop lexeme.extra) with
    | error misread =>
      rw [hrest] at h
      cases h
    | ok us =>
      rw [hrest] at h
      cases h
      exact ⟨lexeme, us, rfl, hrest, rfl⟩

/-- A text can be cut where no token stands. -/
theorem lexes_of_scan {rest u : Text} {offset : Nat} {ts : List Token}
    (h : scan offset (u ++ rest) = .ok ts)
    (hfree : ∀ t ∈ ts, ¬t.Covers (offset + u.length)) :
    ∃ us vs, ts = us ++ vs ∧ Lexes rest offset u us ∧ scan (offset + u.length) rest = .ok vs := by
  -- a token may be longer than one code point, so the induction is on the length of the text
  induction hn : u.length using Nat.strong_induction_on generalizing u offset ts with
  | _ n ih =>
    subst hn
    cases u with
    | nil => exact ⟨[], ts, rfl, .done offset, h⟩
    | cons c u =>
      rw [List.cons_append] at h
      cases hc : c.isBlank with
      | true =>
        have hlen : offset + (c :: u).length = offset + 1 + u.length := by
          rw [List.length_cons]
          omega
        rw [scan_blank hc] at h
        rw [hlen] at hfree ⊢
        obtain ⟨us, vs, rfl, hus, hvs⟩ := ih u.length (by simp) h hfree rfl
        exact ⟨us, vs, rfl, .blank hc hus, hvs⟩
      | false =>
        obtain ⟨⟨kind, extra⟩, ts, hread, hrest, rfl⟩ := scan_eq_ok hc h
        have hextra := (isLexeme_of_read hread).1
        dsimp only at hextra hrest hfree ⊢
        -- the token would stand at the cut if it went beyond the first part
        have hle : extra ≤ u.length := by
          have hcovers := hfree _ List.mem_cons_self
          simp only [Token.Covers, List.length_cons, List.length_take_of_le hextra] at hcovers
          omega
        obtain ⟨body, t, rfl, rfl⟩ : ∃ body t, u = body ++ t ∧ body.length = extra :=
          ⟨_, _, (List.take_append_drop extra u).symm, List.length_take_of_le hle⟩
        rw [List.append_assoc] at hread
        rw [List.append_assoc, List.drop_left, Nat.add_assoc] at hrest
        rw [add_length_lexeme] at hfree ⊢
        have htail : ∀ u ∈ ts, ¬u.Covers (offset + (body.length + 1) + t.length) :=
          fun u hu => hfree u (List.mem_cons_of_mem _ hu)
        have hshort : t.length < (c :: (body ++ t)).length := by
          rw [List.length_cons, List.length_append]
          omega
        obtain ⟨us, vs, rfl, hus, hvs⟩ := ih t.length hshort hrest htail rfl
        rw [List.append_assoc, List.take_left]
        exact ⟨_, vs, rfl, .token hc hread hus, hvs⟩

theorem exists_lexes {offset : Nat} {t : Text} {ts : List Token} (h : scan offset t = .ok ts) :
    ∃ us, ts = us ++ [.ending ((offset + t.length : Nat) : Int)] ∧ Lexes [] offset t us := by
  obtain ⟨lexemes, htokens, htiles⟩ := tiles_of_scan h
  have hfree : ∀ token ∈ ts, ¬token.Covers (offset + t.length) := by
    intro token hm hcovers
    rw [htokens] at hm
    rcases List.mem_append.mp hm with hm | hm
    · have hle := (htiles.offset_le hm).2
      exact absurd hcovers.2 (by omega)
    · rw [List.mem_singleton.mp hm] at hcovers
      exact absurd hcovers.2 (by simp [Token.ending])
  have hscan : scan offset (t ++ []) = .ok ts := by rwa [List.append_nil]
  obtain ⟨us, vs, rfl, hus, hvs⟩ := lexes_of_scan hscan hfree
  rw [scan_nil] at hvs
  cases hvs
  exact ⟨us, rfl, hus⟩

theorem lexes_of_tokenize {t : Text} {ts : List Token} (h : tokenize t = .ok ts) :
    Lexes [] 0 t (beforeEnd ts) := by
  obtain ⟨us, rfl, hus⟩ := exists_lexes h
  rwa [beforeEnd_append_ending hus.kind_ne_endOfInput]

theorem Lexes.tokenize {t : Text} {ts : List Token} (h : Lexes [] 0 t ts) :
    Query.tokenize t = .ok (ts ++ [.ending t.length]) := by
  have hscan := h.scan
  rw [List.append_nil, scan_nil, Nat.zero_add] at hscan
  exact hscan

theorem Lexes.join {a b w : Text} {ts us : List Token} (ha : Lexes (w ++ b) 0 a ts)
    (hw : w.isBlank = true) (hb : Lexes [] (a.length + w.length) b us) :
    Lexes [] 0 (a ++ w ++ b) (ts ++ us) := by
  have hblank : Lexes (b ++ []) (0 + a.length) w [] := lexes_blank hw _ _
  rw [← Nat.zero_add a.length] at hb
  rw [← List.append_nil (w ++ b)] at ha
  rw [List.append_assoc]
  exact ha.append (hblank.append hb)

/-- A text can be cut at white space where no token stands. -/
theorem exists_lexes_around {u w v : Text} {ts : List Token} (h : tokenize (u ++ w ++ v) = .ok ts)
    (hw : w.isBlank = true) (hfree : ∀ t ∈ ts, ¬t.Covers u.length) :
    ∃ us vs, beforeEnd ts = us ++ vs ∧ Lexes (w ++ v) 0 u us ∧
      Lexes [] (u.length + w.length) v vs := by
  rw [tokenize, List.append_assoc] at h
  rw [← Nat.zero_add u.length] at hfree ⊢
  obtain ⟨us, vs, rfl, hus, hvs⟩ := lexes_of_scan h hfree
  rw [scan_isBlank hw] at hvs
  obtain ⟨vs, rfl, hlexes⟩ := exists_lexes hvs
  have hkind : ∀ t ∈ us ++ vs, t.kind ≠ .endOfInput := by
    intro t ht
    rcases List.mem_append.mp ht with ht | ht
    · exact hus.kind_ne_endOfInput t ht
    · exact hlexes.kind_ne_endOfInput t ht
  refine ⟨us, vs, ?_, hus, hlexes⟩
  rw [← List.append_assoc, beforeEnd_append_ending hkind]

end Keyring.Query
