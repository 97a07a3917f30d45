import Keyring.Proofs.Number.Numeral

/-!
# Numerals in text

What is taken for a numeral at the beginning of a text is a prefix of the text and of the form of a
written numeral. On its own it is a number text, and the number it spells is the nearest one.
-/

namespace Keyring

open Text (Digits)

namespace Numeral

theorem isSign_signPart (t : Text) : IsSign (signPart t) := by
  cases t with
  | nil => exact .inl rfl
  | cons c t =>
    simp only [signPart]
    split
    next h =>
      have hs : c = '+' ∨ c = '-' := by simpa using h
      rcases hs with rfl | rfl
      · exact .inr (.inl rfl)
      · exact .inr (.inr rfl)
    next => exact .inl rfl

theorem isDigit_of_mem_digitPart {t : Text} {c : CodePoint} (h : c ∈ digitPart t) :
    c.isDigit = true :=
  List.all_eq_true.mp List.all_takeWhile c h

theorem digits_digitPart {t : Text} (h : (digitPart t).isEmpty = false) : Digits (digitPart t) :=
  ⟨List.isEmpty_eq_false_iff.mp h, fun _ => isDigit_of_mem_digitPart⟩

theorem isFraction_fractionPart (t : Text) : IsFraction (fractionPart t) := by
  cases t with
  | nil => exact .none
  | cons c t =>
    simp only [fractionPart]
    split
    next h =>
      obtain ⟨rfl, hd⟩ : c = '.' ∧ (digitPart t).isEmpty = false := by simpa using h
      exact .digits (digits_digitPart hd)
    next => exact .none

theorem isExponent_exponentPart (t : Text) : IsExponent (exponentPart t) := by
  cases t with
  | nil => exact .none
  | cons c t =>
    simp only [exponentPart]
    split
    next h =>
      obtain ⟨hm, hd⟩ : (c = 'e' ∨ c = 'E') ∧
          (digitPart (t.drop (signPart t).length)).isEmpty = false := by simpa using h
      exact .digits hm (isSign_signPart t) (digits_digitPart hd)
    next => exact .none

theorem signPart_isPrefix (t : Text) : signPart t <+: t := by
  cases t with
  | nil => exact List.nil_prefix
  | cons c t =>
    simp only [signPart]
    split
    · exact ⟨t, rfl⟩
    · exact List.nil_prefix

theorem fractionPart_isPrefix (t : Text) : fractionPart t <+: t := by
  cases t with
  | nil => exact List.nil_prefix
  | cons c t =>
    simp only [fractionPart]
    split
    · exact (List.prefix_cons_inj c).mpr (List.takeWhile_prefix _)
    · exact List.nil_prefix

private theorem append_isPrefix {a b t : Text} (ha : a <+: t) (hb : b <+: t.drop a.length) :
    a ++ b <+: t := by
  have ht := List.prefix_iff_eq_append.mp ha
  rw [← ht]
  exact (List.prefix_append_right_inj a).mpr hb

theorem exponentPart_isPrefix (t : Text) : exponentPart t <+: t := by
  cases t with
  | nil => exact List.nil_prefix
  | cons c t =>
    simp only [exponentPart]
    split
    · have h := append_isPrefix (signPart_isPrefix t) (List.takeWhile_prefix CodePoint.isDigit)
      exact (List.prefix_cons_inj c).mpr h
    · exact List.nil_prefix

theorem read?_eq_some {t : Text} {n : Numeral} (h : read? t = some n) :
    n.Written ∧ n.text <+: t := by
  simp only [read?] at h
  split at h
  next => cases h
  next hd =>
    have hd := digits_digitPart (Bool.eq_false_iff.mpr hd)
    obtain rfl := Option.some.inj h
    refine ⟨⟨isSign_signPart t, hd, isFraction_fractionPart _, isExponent_exponentPart _⟩, ?_⟩
    have hfraction : ∀ u : Text, _ <+: u := fun u =>
      append_isPrefix (fractionPart_isPrefix u) (exponentPart_isPrefix _)
    have hwhole : ∀ u : Text, _ <+: u := fun u =>
      append_isPrefix (List.takeWhile_prefix CodePoint.isDigit) (hfraction (u.drop _))
    exact append_isPrefix (signPart_isPrefix t) (hwhole (t.drop _))

def IsPart (c : CodePoint) : Prop :=
  c.isDigit = true ∨ c = '+' ∨ c = '-' ∨ c = '.' ∨ c = 'e' ∨ c = 'E'

private theorem isPart_of_mem_sign {sign : Text} (h : IsSign sign) {c : CodePoint}
    (hc : c ∈ sign) : IsPart c := by
  rcases h with rfl | rfl | rfl
  · cases hc
  · exact .inr (.inl (List.mem_singleton.mp hc))
  · exact .inr (.inr (.inl (List.mem_singleton.mp hc)))

theorem Written.isPart {n : Numeral} (h : n.Written) {c : CodePoint} (hc : c ∈ n.text) :
    IsPart c := by
  obtain ⟨sign, whole, fraction, exponent⟩ := n
  obtain ⟨hs, hw, hf, he⟩ := h
  simp only [text, List.mem_append] at hc
  rcases hc with hc | hc | hc | hc
  · exact isPart_of_mem_sign hs hc
  · exact .inl (hw.2 c hc)
  · cases hf with
    | none => cases hc
    | digits hd =>
      rcases List.mem_cons.mp hc with rfl | hc
      · exact .inr (.inr (.inr (.inl rfl)))
      · exact .inl (hd.2 c hc)
  · cases he with
    | none => cases hc
    | digits hm hsign hd =>
      rcases List.mem_cons.mp hc with rfl | hc
      · exact .inr (.inr (.inr (.inr hm)))
      · rcases List.mem_append.mp hc with hc | hc
        · exact isPart_of_mem_sign hsign hc
        · exact .inl (hd.2 c hc)

theorem IsPart.val_between {c : CodePoint} (h : IsPart c) : 0x20 < c.val ∧ c.val < 0x80 := by
  rcases h with h | rfl | rfl | rfl | rfl | rfl
  · have hval := CodePoint.val_of_isDigit h
    omega
  all_goals decide

theorem IsPart.ne_underscore {c : CodePoint} (h : IsPart c) : c ≠ '_' := by
  rcases h with h | rfl | rfl | rfl | rfl | rfl
  · exact CodePoint.ne_of_isDigit h (by decide)
  all_goals decide

end Numeral

namespace Text

theorem asciiDigit_of_isAscii {c : CodePoint} (h : c.val < 0x80) : asciiDigit c = c := by
  have hzeros : ∀ start ∈ zerosBeyondAscii, 0x80 ≤ start := by decide
  have hnone : (zerosBeyondAscii.find? fun start => start ≤ c.val && c.val < start + 10) =
      none := by
    refine List.find?_eq_none.mpr fun start hstart => ?_
    have hle := hzeros start hstart
    simp only [Bool.and_eq_true, decide_eq_true_eq]
    omega
  rw [asciiDigit, hnone]

theorem trimWhile_eq_self {p : CodePoint → Bool} {t : Text} (h : ∀ c ∈ t, p c = false) :
    trimWhile p t = t := by
  have hdrop : ∀ u : Text, (∀ c ∈ u, p c = false) → u.dropWhile p = u := by
    intro u hu
    cases u with
    | nil => rfl
    | cons c u => rw [List.dropWhile_cons_of_neg (by simp [hu c List.mem_cons_self])]
  have hreverse : ∀ c ∈ t.reverse, p c = false := fun c hc => h c (List.mem_reverse.mp hc)
  rw [trimWhile, hdrop t h, hdrop t.reverse hreverse, List.reverse_reverse]

theorem ungroup_eq_some {t : Text} (h : ∀ c ∈ t, c ≠ CodePoint.ofChar '_') (afterDigit : Bool) :
    ungroup afterDigit t = some t := by
  induction t generalizing afterDigit with
  | nil => rfl
  | cons c t ih =>
    have hrest := ih (fun d hd => h d (List.mem_cons_of_mem c hd)) c.isDigit
    rw [ungroup, if_neg (h c List.mem_cons_self), hrest]
    rfl

end Text

namespace Binary64

open Numeral

private theorem toLower_of_isDigit {c : CodePoint} (h : c.isDigit = true) : c.toLower = c := by
  have hval := CodePoint.val_of_isDigit h
  have hcapital : ¬ (0x41 ≤ c.val ∧ c.val ≤ 0x5a) := by omega
  have hkelvin : c.val ≠ 0x212a := by omega
  simp [CodePoint.toLower, hcapital, hkelvin]

private theorem toLower_ne_word {ds t word : Text} (hd : Digits ds)
    (hw : ∀ c ∈ word.head?, c.isDigit = false) : Text.toLower (ds ++ t) ≠ word := by
  obtain ⟨d, ds, rfl⟩ := List.exists_cons_of_ne_nil hd.1
  have hdigit := hd.2 d List.mem_cons_self
  rintro rfl
  have hne := hw d.toLower rfl
  rw [toLower_of_isDigit hdigit, hdigit] at hne
  cases hne

/-- A numeral as the body of a number text, where digits may be missing on one side of the point. -/
theorem ofBody?_text {n : Numeral} (h : n.Written) : ofBody? n.text = some (ofNumeral n) := by
  obtain ⟨sign, whole, fraction, exponent⟩ := n
  obtain ⟨hs, hw, hf, he⟩ := h
  have hends : Ends [] := fun c hc => by cases hc
  have hexp := he.head hends
  have hfrac := hf.head (fun c hc => (hexp c hc).1)
  simp only [List.append_nil] at hexp hfrac
  have hword : ∀ word : Text, (∀ c ∈ word.head?, c.isDigit = false) →
      Text.toLower (whole ++ (fraction ++ exponent)) ≠ word :=
    fun word hword => toLower_ne_word hw hword
  have hinf := hword "inf" (by decide)
  have hinfinity := hword "infinity" (by decide)
  have hnan := hword "nan" (by decide)
  have hexponent : exponentPart exponent = exponent := by
    have happend := exponentPart_append (t := []) he (fun c hc => by cases hc)
    rwa [List.append_nil] at happend
  simp only [ofBody?, text, signPart_digits hs hw, List.drop_left, hinf, hinfinity, hnan,
    digitPart_append hw.2 hfrac]
  -- a point is looked for after the whole digits, and what follows it is the exponent
  cases hf with
  | none =>
    cases exponent with
    | nil => simp [hw.1, exponentPart]
    | cons c exponent => simp [hw.1, hexponent, (hexp c rfl).2]
  | digits hd =>
    simp [hw.1, hexponent, digitPart_append hd.2 (fun c hc => (hexp c hc).1)]

theorem ofText?_text {n : Numeral} (h : n.Written) : ofText? n.text = some (ofNumeral n) := by
  have hval : ∀ c ∈ n.text, 0x20 < c.val ∧ c.val < 0x80 := fun c hc => (h.isPart hc).val_between
  have hdigits : n.text.map Text.asciiDigit = n.text :=
    (List.map_congr_left fun c hc => Text.asciiDigit_of_isAscii (hval c hc).2).trans
      (List.map_id _)
  have hspace : ∀ c ∈ n.text, c.isUnicodeSpace = false := by
    intro c hc
    have hblank := CodePoint.isBlank_of_between (hval c hc).1 (hval c hc).2
    rw [CodePoint.isUnicodeSpace, hblank, Bool.false_and]
  have hungroup := Text.ungroup_eq_some (fun c hc => (h.isPart hc).ne_underscore) false
  rw [ofText?, hdigits, Text.trimWhile_eq_self hspace, hungroup, Option.bind_some,
    ofBody?_text h]

end Binary64

end Keyring
