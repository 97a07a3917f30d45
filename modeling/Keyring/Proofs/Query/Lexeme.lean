import Keyring.Proofs.Number.Recognition
import Keyring.Proofs.Query.Lexing

/-!
# Lexemes on their own

What is read as one token is a prefix of the text. It is read the same from any text that begins
with it, as long as nothing follows that could go on a name or a number.
-/

namespace Keyring.Query

/-! Quoted literals. -/

theorem extendString_eq_ok {c : CodePoint} {width : Nat}
    {read : Except Misread (Text × Nat)} {value : Text} {length : Nat}
    (h : extendString c width read = .ok (value, length)) :
    ∃ value' length', read = .ok (value', length') ∧ value = c :: value' ∧
      length = length' + width := by
  cases read with
  | ok answer =>
    cases h
    exact ⟨_, _, rfl, rfl, rfl⟩
  | error misread => cases h

/-- The first `length` code points of a text end a literal with the given value, wherever they
stand. -/
def EndsString (t value : Text) (length : Nat) : Prop :=
  length ≤ t.length ∧
    ∀ position rest, readString position (t.take length ++ rest) = .ok (value, length)

private theorem endsString_append (mark : Text) {t : Text} {c : CodePoint}
    (hmark : ∀ position rest, readString position (mark ++ rest) =
      extendString c mark.length (readString (position + mark.length) rest))
    {position length : Nat} {value : Text}
    (h : readString position (mark ++ t) = .ok (value, length))
    (ih : ∀ value length, readString (position + mark.length) t = .ok (value, length) →
      EndsString t value length) : EndsString (mark ++ t) value length := by
  rw [hmark] at h
  obtain ⟨value, length, hread, rfl, rfl⟩ := extendString_eq_ok h
  obtain ⟨hle, htake⟩ := ih value length hread
  refine ⟨?_, fun position rest => ?_⟩
  · rw [List.length_append]
    omega
  · rw [Nat.add_comm, List.take_length_add_append, List.append_assoc, hmark, htake,
      extendString_ok, Nat.add_comm]

theorem endsString_of_readString {position : Nat} {t value : Text} {length : Nat}
    (h : readString position t = .ok (value, length)) : EndsString t value length := by
  induction position, t using readString.induct generalizing value length with
  | case2 position rest =>
    rw [readString_quote] at h
    cases h
    exact ⟨by simp, fun position rest => readString_quote position _⟩
  | case4 position code rest meaning hs _ ih =>
    exact endsString_append ['\\', code] (readString_simple hs) h fun _ _ => ih
  | case5 position h₁ h₂ h₃ h₄ rest n hn _ _ ih =>
    exact endsString_append ['\\', 'u', h₁, h₂, h₃, h₄] (readString_unicode hn) h
      fun _ _ => ih
  | case9 position c rest hquote hslash ih =>
    exact endsString_append [c] (readString_plain hquote hslash) h fun _ _ => ih
  | _ =>
    rw [readString.eq_def] at h
    simp_all

/-! Tokens. -/

/-- What the kind of a token says about its text. -/
def TokenKind.Fits (text : Text) : TokenKind → Prop
  | .identifier => text.IsDotted ∧ text ≠ Text.trueWord ∧ text ≠ Text.falseWord
  | .number value => ∃ x, value = .finite x ∧ Binary64.ofText? text = some value
  | .endOfInput => False
  | _ => True

structure IsLexeme (c : CodePoint) (body : Text) (kind : TokenKind) : Prop where
  reads : ∀ rest : Text, rest.Stops → Lexeme.read c (body ++ rest) = .ok ⟨kind, body.length⟩
  fits : kind.Fits (c :: body)

/-- A token with an end of its own, so that nothing after it can go on it. -/
structure IsClosed (c : CodePoint) (body : Text) (kind : TokenKind) : Prop where
  reads : ∀ rest : Text, Lexeme.read c (body ++ rest) = .ok ⟨kind, body.length⟩
  fits : kind.Fits (c :: body)

theorem IsClosed.isLexeme {c : CodePoint} {body : Text} {kind : TokenKind}
    (h : IsClosed c body kind) : IsLexeme c body kind :=
  ⟨fun rest _ => h.reads rest, h.fits⟩

private theorem isClosed_string {rest value : Text} {length : Nat}
    (h : readString 1 rest = .ok (value, length)) :
    IsClosed '"' (rest.take length) (.string value) := by
  obtain ⟨hle, htake⟩ := endsString_of_readString h
  refine ⟨fun rest => ?_, trivial⟩
  rw [Lexeme.read, if_pos rfl, htake, List.length_take_of_le hle]

private theorem isClosed_punctuation {c : CodePoint} {kind : TokenKind}
    (h : Lexeme.punctuation? c = some kind) : IsClosed c [] kind := by
  simp only [Lexeme.punctuation?] at h
  split at h
  next hc =>
    cases h
    exact ⟨fun _ => hc ▸ rfl, trivial⟩
  next =>
    split at h
    next hc =>
      cases h
      exact ⟨fun _ => hc ▸ rfl, trivial⟩
    next =>
      split at h
      next hc =>
        cases h
        exact ⟨fun _ => hc ▸ rfl, trivial⟩
      next => cases h

private theorem ofNumeral_eq_ok {n : Numeral} {following : Text} {lexeme : Lexeme}
    (h : Lexeme.ofNumeral n following = .ok lexeme) :
    following.Stops ∧
      ∃ x, n.nearest? = some x ∧ lexeme = ⟨.number (.finite x), n.text.length - 1⟩ := by
  have hvalue : following.Stops ∧ Lexeme.ofNumeral.ofValue n = .ok lexeme := by
    unfold Lexeme.ofNumeral at h
    split at h
    next c rest =>
      split at h
      next => cases h
      next hc =>
        simp only [Bool.or_eq_true, decide_eq_true_eq, not_or, Bool.not_eq_true] at hc
        exact ⟨Text.stops_cons hc.1 hc.2 rest, h⟩
    next => exact ⟨Text.stops_nil, h⟩
  obtain ⟨hstops, hvalue⟩ := hvalue
  unfold Lexeme.ofNumeral.ofValue at hvalue
  split at hvalue
  next x hx =>
    cases hvalue
    exact ⟨hstops, x, hx, rfl⟩
  next => cases hvalue

private theorem isLexeme_number {c : CodePoint} {rest : Text} {n : Numeral} {x : Binary64.Finite}
    (h : Numeral.read? (c :: rest) = some n) (hx : n.nearest? = some x) :
    n.text.length - 1 ≤ rest.length ∧
      IsLexeme c (rest.take (n.text.length - 1)) (.number (.finite x)) := by
  obtain ⟨hn, tail, htail⟩ := Numeral.read?_eq_some h
  obtain ⟨d, body, ht, -⟩ := exists_isNumberStart hn
  rw [ht, List.cons_append] at htail
  obtain ⟨rfl, rfl⟩ := List.cons.inj htail
  have hbody : (body ++ tail).take (n.text.length - 1) = body := by
    rw [ht, List.length_cons, Nat.add_sub_cancel, List.take_left]
  have hspells := Binary64.ofText?_text hn
  rw [Binary64.ofNumeral, hx, ht] at hspells
  refine ⟨by simp [ht], ?_⟩
  rw [hbody]
  exact ⟨fun rest hr => read_numeral hn hx ht hr, x, rfl, hspells⟩

private theorem operatorLength?_eq_some {t : Text} {length : Nat}
    (h : Lexeme.operatorLength? t = some length) :
    ∃ mark ∈ (["==", "&&", "||", "!"].map Text.ofString), mark.length = length ∧ mark <+: t := by
  have hpre : ∀ mark : Text, t.startsWith mark = true → mark <+: t :=
    fun mark hm => List.isPrefixOf_iff_prefix.mp hm
  simp only [Lexeme.operatorLength?] at h
  split at h
  next hm =>
    cases h
    simp only [Bool.or_eq_true] at hm
    rcases hm with (hm | hm) | hm
    · exact ⟨"==", by simp, rfl, hpre _ hm⟩
    · exact ⟨"&&", by simp, rfl, hpre _ hm⟩
    · exact ⟨"||", by simp, rfl, hpre _ hm⟩
  next =>
    split at h
    next hm =>
      cases h
      exact ⟨"!", by simp, rfl, hpre _ hm⟩
    next => cases h

private theorem isClosed_operator {c : CodePoint} {rest : Text} {length : Nat}
    (h : Lexeme.operatorLength? (c :: rest) = some length) :
    length - 1 ≤ rest.length ∧ IsClosed c (rest.take (length - 1)) .operator := by
  obtain ⟨mark, hmark, rfl, htail⟩ := operatorLength?_eq_some h
  have hle := htail.length_le
  rw [List.length_cons] at hle
  refine ⟨by omega, ?_⟩
  obtain ⟨tail, htail⟩ := htail
  simp only [List.map_cons, List.map_nil, List.mem_cons, List.not_mem_nil, or_false] at hmark
  rcases hmark with rfl | rfl | rfl | rfl
  all_goals
    cases htail
    exact ⟨fun _ => rfl, trivial⟩

private theorem isLexeme_word {c : CodePoint} (hc : c.isNameStart = true) (rest : Text) :
    (nameRest rest).length ≤ rest.length ∧
      IsLexeme c (rest.take (nameRest rest).length) (Lexeme.ofName (c :: nameRest rest)).kind := by
  have hpre := nameRest_isPrefix rest
  have hdotted := isDotted_nameRest hc rest
  refine ⟨hpre.length_le, ?_⟩
  rw [← List.prefix_iff_eq_take.mp hpre]
  refine ⟨fun rest hr => (read_word hdotted hr).2, ?_⟩
  simp only [Lexeme.ofName]
  split
  next => trivial
  next htrue =>
    split
    next => trivial
    next hfalse => exact ⟨hdotted, htrue, hfalse⟩

/-- How a text begins with a token: it has an end of its own, or it is a number with its end where
nothing goes on it, or the longest word. -/
inductive Lexeme.Leads (c : CodePoint) (rest : Text) : Lexeme → Prop
  | closed {lexeme : Lexeme} (hle : lexeme.extra ≤ rest.length)
      (h : IsClosed c (rest.take lexeme.extra) lexeme.kind) : Leads c rest lexeme
  | number {n : Numeral} {x : Binary64.Finite} (h : Numeral.read? (c :: rest) = some n)
      (hx : n.nearest? = some x) (hs : Text.Stops ((c :: rest).drop n.text.length)) :
      Leads c rest ⟨.number (.finite x), n.text.length - 1⟩
  | word (h : c.isNameStart = true) : Leads c rest (Lexeme.ofName (c :: nameRest rest))

theorem leads_of_read {c : CodePoint} {rest : Text} {lexeme : Lexeme}
    (h : Lexeme.read c rest = .ok lexeme) : Lexeme.Leads c rest lexeme := by
  rw [Lexeme.read] at h
  split at h
  next hc =>
    subst hc
    split at h
    next value length hread =>
      cases h
      exact .closed (endsString_of_readString hread).1 (isClosed_string hread)
    next => cases h
  next =>
    split at h
    next kind hmark =>
      cases h
      exact .closed (Nat.zero_le _) (isClosed_punctuation hmark)
    next =>
      split at h
      next n hread =>
        obtain ⟨hstops, x, hx, rfl⟩ := ofNumeral_eq_ok h
        exact .number hread hx hstops
      next =>
        split at h
        next length hlength =>
          cases h
          obtain ⟨hle, hclosed⟩ := isClosed_operator hlength
          exact .closed hle hclosed
        next =>
          split at h
          next hstart =>
            cases h
            exact .word hstart
          next => cases h

/-- The first code points of a text are a token by themselves if the text begins with a token of
their number. -/
theorem isLexeme_of_read {c : CodePoint} {rest : Text} {lexeme : Lexeme}
    (h : Lexeme.read c rest = .ok lexeme) :
    lexeme.extra ≤ rest.length ∧ IsLexeme c (rest.take lexeme.extra) lexeme.kind := by
  cases leads_of_read h with
  | closed hle hclosed => exact ⟨hle, hclosed.isLexeme⟩
  | number hread hx _ => exact isLexeme_number hread hx
  | word hstart => exact isLexeme_word hstart rest

end Keyring.Query
