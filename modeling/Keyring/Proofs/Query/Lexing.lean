import Keyring.Proofs.Number.Numeral
import Keyring.Proofs.Query.Grammar
import Keyring.Proofs.Query.Naming
import Keyring.Proofs.Query.Quoting

/-!
# Tokens of written text

A name, a literal or a mark is read as one token, whatever stands before it. What comes after it
matters only as far as it could go on a name or a number.
-/

namespace Keyring

namespace Query

/-- Before `rest`, the text is read as tokens of the given kind. -/
def Scans (t rest : Text) (P : List Token → Prop) : Prop :=
  ∀ offset, ∃ ts, P ts ∧ scan offset (t ++ rest) = (scan (offset + t.length) rest).map (ts ++ ·)

def Then (P Q : List Token → Prop) (ts : List Token) : Prop :=
  ∃ us vs, ts = us ++ vs ∧ P us ∧ Q vs

def Single (kind : TokenKind) (text : Text) (ts : List Token) : Prop :=
  ∃ t : Token, ts = [t] ∧ t.Is kind text

theorem scan_nil (offset : Nat) : scan offset [] = .ok [.ending offset] := by
  rw [scan.eq_def]

theorem scan_blank {c : CodePoint} (hc : c.isBlank = true) (offset : Nat) (rest : Text) :
    scan offset (c :: rest) = scan (offset + 1) rest := by
  rw [scan.eq_def]
  simp only [if_pos hc]

theorem scan_lexeme {c : CodePoint} {rest : Text} {lexeme : Lexeme}
    (hc : c.isBlank = false) (h : Lexeme.read c rest = .ok lexeme) (offset : Nat) :
    scan offset (c :: rest) =
      (scan (offset + lexeme.extra + 1) (rest.drop lexeme.extra)).map
        (⟨lexeme.kind, c :: rest.take lexeme.extra, offset⟩ :: ·) := by
  rw [scan.eq_def]
  simp only [hc, h, Bool.false_eq_true, if_false]
  cases scan (offset + lexeme.extra + 1) (rest.drop lexeme.extra) <;> rfl

section Scans

variable {a b rest : Text} {P Q : List Token → Prop}

theorem Scans.mono (h : Scans a rest P) (hpq : ∀ ts, P ts → Q ts) : Scans a rest Q := by
  intro offset
  obtain ⟨ts, hp, hs⟩ := h offset
  exact ⟨ts, hpq ts hp, hs⟩

theorem Scans.append (ha : Scans a (b ++ rest) P) (hb : Scans b rest Q) :
    Scans (a ++ b) rest (Then P Q) := by
  intro offset
  obtain ⟨us, hp, hus⟩ := ha offset
  obtain ⟨vs, hq, hvs⟩ := hb (offset + a.length)
  refine ⟨us ++ vs, ⟨us, vs, rfl, hp, hq⟩, ?_⟩
  rw [List.append_assoc, hus, hvs, List.length_append, Nat.add_assoc]
  cases scan (offset + (a.length + b.length)) rest with
  | error misread => rfl
  | ok ts => simp only [Except.map, List.append_assoc]

theorem Scans.blank {c : CodePoint} (hc : c.isBlank = true) (h : Scans a rest P) :
    Scans (c :: a) rest P := by
  intro offset
  obtain ⟨ts, hp, hs⟩ := h (offset + 1)
  refine ⟨ts, hp, ?_⟩
  rw [List.cons_append, scan_blank hc, hs, List.length_cons, Nat.add_assoc, Nat.add_comm 1]

theorem scans_single {c : CodePoint} {kind : TokenKind} (hc : c.isBlank = false)
    (h : Lexeme.read c (a ++ rest) = .ok ⟨kind, a.length⟩) :
    Scans (c :: a) rest (Single kind (c :: a)) := by
  intro offset
  refine ⟨[⟨kind, c :: a, offset⟩], ⟨_, rfl, rfl, rfl⟩, ?_⟩
  rw [List.cons_append, scan_lexeme hc h]
  simp only [List.drop_left, List.take_left, List.length_cons, Nat.add_assoc,
    List.singleton_append]

end Scans

/-! Marks. -/

section Marks

variable (rest : Text)

theorem scans_leftParen : Scans ("(" : Text) rest (Single .leftParen "(") :=
  scans_single rfl rfl

theorem scans_rightParen : Scans (")" : Text) rest (Single .rightParen ")") :=
  scans_single rfl rfl

theorem scans_comma : Scans ("," : Text) rest (Single .comma ",") :=
  scans_single rfl rfl

theorem scans_negation : Scans ("!" : Text) rest (Single .operator "!") :=
  scans_single rfl rfl

theorem scans_conjunction : Scans ("&&" : Text) rest (Single .operator "&&") :=
  scans_single rfl rfl

theorem scans_disjunction : Scans ("||" : Text) rest (Single .operator "||") :=
  scans_single rfl rfl

theorem scans_equality : Scans ("==" : Text) rest (Single .operator "==") :=
  scans_single rfl rfl

end Marks

/-! Literals. -/

theorem scans_string (value rest : Text) :
    Scans ('"' :: (escape value ++ ("\"" : Text))) rest
      (Single (.string value) ('"' :: (escape value ++ ("\"" : Text)))) := by
  apply scans_single rfl
  have hread := readString_escape value 1 rest
  have hrest : escape value ++ ("\"" : Text) ++ rest =
      escape value ++ (CodePoint.ofChar '"' :: rest) := by
    rw [List.append_assoc]
    rfl
  rw [Lexeme.read, if_pos rfl, hrest, hread, List.length_append]
  rfl

theorem ends_of_stops {rest : Text} (h : rest.Stops) : Numeral.Ends rest := by
  intro c hc
  obtain ⟨hpart, hdot⟩ := h c hc
  simp only [CodePoint.isNamePart, Bool.or_eq_false_iff] at hpart
  have hletter : ∀ d : CodePoint, d.isNameStart = true → c ≠ d :=
    fun d hd => (CodePoint.ne_of_isNameStart hd hpart.1).symm
  exact ⟨hpart.2, hdot, hletter _ (by decide), hletter _ (by decide)⟩

theorem ofNumeral_stops {n : Numeral} {x : Binary64.Finite} (hn : n.nearest? = some x)
    {rest : Text} (h : rest.Stops) :
    Lexeme.ofNumeral n rest = .ok ⟨.number (.finite x), n.text.length - 1⟩ := by
  cases rest with
  | nil => simp only [Lexeme.ofNumeral, Lexeme.ofNumeral.ofValue, hn]
  | cons c rest =>
    obtain ⟨hpart, hdot⟩ := h c rfl
    simp [Lexeme.ofNumeral, Lexeme.ofNumeral.ofValue, hn, hpart, hdot]

private theorem punctuation?_eq_none {c : CodePoint} (hopen : c ≠ '(') (hclose : c ≠ ')')
    (hcomma : c ≠ ',') : Lexeme.punctuation? c = none := by
  rw [Lexeme.punctuation?, if_neg hopen, if_neg hclose, if_neg hcomma]

def IsNumberStart (c : CodePoint) : Prop :=
  c.isDigit = true ∨ c = '+' ∨ c = '-'

theorem exists_isNumberStart {n : Numeral} (h : n.Written) :
    ∃ c t, n.text = c :: t ∧ IsNumberStart c := by
  obtain ⟨d, ds, hd⟩ := List.exists_cons_of_ne_nil h.whole.1
  have hdigit : d.isDigit = true := h.whole.2 d (hd ▸ List.mem_cons_self)
  rcases h.sign with hs | hs | hs
  · exact ⟨d, _, by rw [Numeral.text, hs, hd]; rfl, .inl hdigit⟩
  · exact ⟨'+', _, by rw [Numeral.text, hs]; rfl, .inr (.inl rfl)⟩
  · exact ⟨'-', _, by rw [Numeral.text, hs]; rfl, .inr (.inr rfl)⟩

theorem IsNumberStart.reads {c : CodePoint} (h : IsNumberStart c) :
    c.isBlank = false ∧ c ≠ '"' ∧ Lexeme.punctuation? c = none := by
  rcases h with hd | rfl | rfl
  · have hne : ∀ d : CodePoint, d.isDigit = false → c ≠ d :=
      fun d => CodePoint.ne_of_isDigit hd
    have hval := CodePoint.val_of_isDigit hd
    refine ⟨CodePoint.isBlank_of_between (by omega) (by omega), hne _ (by decide), ?_⟩
    exact punctuation?_eq_none (hne _ (by decide)) (hne _ (by decide)) (hne _ (by decide))
  · decide
  · decide

/-- A written numeral is one token up to its end. -/
theorem read_numeral {n : Numeral} {x : Binary64.Finite} {c : CodePoint} {t rest : Text}
    (hn : n.Written) (hx : n.nearest? = some x) (ht : n.text = c :: t) (h : rest.Stops) :
    Lexeme.read c (t ++ rest) = .ok ⟨.number (.finite x), t.length⟩ := by
  obtain ⟨d, u, hd, hstart⟩ := exists_isNumberStart hn
  obtain ⟨rfl, rfl⟩ := List.cons.inj (ht.symm.trans hd)
  obtain ⟨-, hquote, hmark⟩ := hstart.reads
  have hread := Numeral.read?_text hn (ends_of_stops h)
  have hdrop : (c :: (t ++ rest)).drop n.text.length = rest := by
    rw [ht, ← List.cons_append, List.drop_left]
  rw [ht, List.cons_append] at hread
  rw [Lexeme.read, if_neg hquote, hmark]
  simp only [hread, hdrop]
  rw [ofNumeral_stops hx h, ht]
  rfl

theorem scans_number (x : Binary64.Finite) {rest : Text} (h : rest.Stops) :
    Scans x.render rest (Single (.number (.finite x)) x.render) := by
  obtain ⟨n, hn, ht, hv⟩ := x.render_reads_back
  obtain ⟨c, t, hc, hstart⟩ := exists_isNumberStart hn
  rw [← ht, hc]
  exact scans_single hstart.reads.1 (read_numeral hn hv hc h)

/-! Words. -/

theorem val_of_isNameStart {c : CodePoint} (h : c.isNameStart = true) :
    (0x41 ≤ c.val ∧ c.val ≤ 0x7a) ∨ c.val = 0x24 := by
  simp only [CodePoint.isNameStart, CodePoint.isLetter, Bool.or_eq_true, Bool.and_eq_true,
    decide_eq_true_eq, beq_iff_eq] at h
  rcases h with (h | h) | h
  · omega
  · rw [h]
    decide
  · exact .inr (congrArg CodePoint.val h)

theorem read_of_isNameStart {c : CodePoint} (h : c.isNameStart = true) (t : Text) :
    Lexeme.read c t = .ok (Lexeme.ofName (c :: nameRest t)) := by
  have hne : ∀ d : CodePoint, d.isNameStart = false → c ≠ d :=
    fun d => CodePoint.ne_of_isNameStart h
  have hdigit : c.isDigit = false := by
    have hval := val_of_isNameStart h
    simp only [CodePoint.isDigit, Bool.and_eq_false_iff, decide_eq_false_iff_not]
    omega
  have hnumeral : Numeral.read? (c :: t) = none := by
    simp [Numeral.read?, Numeral.signPart, Numeral.digitPart, hne '+' (by decide),
      hne '-' (by decide), hdigit]
  have hstart : ∀ (d : CodePoint) (s : Text), d.isNameStart = false →
      Text.startsWith (c :: t) (d :: s) = false := by
    intro d s hd
    show (d == c && s.isPrefixOf t) = false
    rw [beq_false_of_ne (hne d hd).symm, Bool.false_and]
  have hequality : Text.startsWith (c :: t) "==" = false := hstart '=' _ (by decide)
  have hconjunction : Text.startsWith (c :: t) "&&" = false := hstart '&' _ (by decide)
  have hdisjunction : Text.startsWith (c :: t) "||" = false := hstart '|' _ (by decide)
  have hnegation : Text.startsWith (c :: t) "!" = false := hstart '!' _ (by decide)
  have hoperator : Lexeme.operatorLength? (c :: t) = none := by
    simp [Lexeme.operatorLength?, hequality, hconjunction, hdisjunction, hnegation]
  have hmark := punctuation?_eq_none (hne _ (by decide)) (hne _ (by decide)) (hne _ (by decide))
  rw [Lexeme.read, if_neg (hne _ (by decide)), hmark]
  simp only [hnumeral, hoperator, if_pos h]

/-- A name, or a word of the form of one, is one token up to its end. -/
theorem read_word {c : CodePoint} {t rest : Text} (h : Text.IsDotted (c :: t)) (hr : rest.Stops) :
    c.isNameStart = true ∧ Lexeme.read c (t ++ rest) = .ok (Lexeme.ofName (c :: t)) := by
  obtain ⟨d, u, hcons, hd, hrest⟩ := exists_nameRest h hr
  obtain ⟨rfl, rfl⟩ := List.cons.inj hcons
  exact ⟨hd, by rw [read_of_isNameStart hd, hrest]⟩

theorem scans_word {t rest : Text} (h : t.IsDotted) (hr : rest.Stops) :
    Scans t rest (Single (Lexeme.ofName t).kind t) := by
  obtain ⟨c, t, rfl, hc, -⟩ := exists_nameRest h hr
  have hval := val_of_isNameStart hc
  apply scans_single (CodePoint.isBlank_of_between (by omega) (by omega))
  exact (read_word h hr).2

end Query

end Keyring
