import Keyring.Proofs.Number.Digits
import Keyring.Proofs.Number.Shortest

/-!
# Written numbers read back

A written number is one numeral. The numeral is read again from any text in which nothing that
could continue it comes after it, and the number nearest to it is the number that was written.
-/

namespace Keyring

open Text (Digits)

namespace Numeral

def IsSign (sign : Text) : Prop :=
  sign = [] ∨ sign = "+" ∨ sign = "-"

/-- A point and digits. -/
inductive IsFraction : Text → Prop
  | none : IsFraction []
  | digits {ds : Text} (h : Digits ds) : IsFraction ('.' :: ds)

inductive IsExponent : Text → Prop
  | none : IsExponent []
  | digits {mark : CodePoint} {sign ds : Text} (hm : mark = 'e' ∨ mark = 'E') (hs : IsSign sign)
      (h : Digits ds) : IsExponent (mark :: (sign ++ ds))

structure Written (n : Numeral) : Prop where
  sign : IsSign n.sign
  whole : Digits n.whole
  fraction : IsFraction n.fraction
  exponent : IsExponent n.exponent

/-- A text that cannot go on a numeral before it. -/
def Ends (rest : Text) : Prop :=
  ∀ c ∈ rest.head?, c.isDigit = false ∧ c ≠ '.' ∧ c ≠ 'e' ∧ c ≠ 'E'

theorem digitPart_append {ds t : Text} (hd : ∀ c ∈ ds, c.isDigit = true)
    (ht : ∀ c ∈ t.head?, c.isDigit = false) : digitPart (ds ++ t) = ds := by
  rw [digitPart, List.takeWhile_append_of_pos hd]
  cases t with
  | nil => rw [List.takeWhile_nil, List.append_nil]
  | cons c t => rw [List.takeWhile_cons_of_neg (by simp [ht c rfl]), List.append_nil]

theorem signPart_append {sign t : Text} (hs : IsSign sign)
    (ht : ∀ c ∈ t.head?, c ≠ '+' ∧ c ≠ '-') : signPart (sign ++ t) = sign := by
  rcases hs with rfl | rfl | rfl
  · cases t with
    | nil => rfl
    | cons c t => simp [signPart, ht c rfl]
  · rfl
  · rfl

theorem signPart_digits {sign ds : Text} (hs : IsSign sign) (hd : Digits ds) (t : Text) :
    signPart (sign ++ (ds ++ t)) = sign := by
  apply signPart_append hs
  intro c hc
  obtain ⟨d, ds, rfl⟩ := List.exists_cons_of_ne_nil hd.1
  have hdigit := hd.2 d List.mem_cons_self
  obtain rfl : d = c := by simpa using hc
  exact ⟨CodePoint.ne_of_isDigit hdigit (by decide), CodePoint.ne_of_isDigit hdigit (by decide)⟩

theorem fractionPart_append {fraction t : Text} (hf : IsFraction fraction)
    (ht : ∀ c ∈ t.head?, c.isDigit = false ∧ c ≠ '.') :
    fractionPart (fraction ++ t) = fraction := by
  cases hf with
  | none =>
    cases t with
    | nil => rfl
    | cons c t => simp [fractionPart, (ht c rfl).2]
  | digits h =>
    rw [List.cons_append, fractionPart, digitPart_append h.2 (fun c hc => (ht c hc).1)]
    simp [h.1]

theorem exponentPart_append {exponent t : Text} (he : IsExponent exponent)
    (ht : ∀ c ∈ t.head?, c.isDigit = false ∧ c ≠ 'e' ∧ c ≠ 'E') :
    exponentPart (exponent ++ t) = exponent := by
  cases he with
  | none =>
    cases t with
    | nil => rfl
    | cons c t => simp [exponentPart, (ht c rfl).2.1, (ht c rfl).2.2]
  | digits hm hs h =>
    rw [List.cons_append, List.append_assoc, exponentPart, signPart_digits hs h,
      List.drop_left, digitPart_append h.2 (fun c hc => (ht c hc).1)]
    simp [h.1, hm]

theorem IsExponent.head {exponent rest : Text} (he : IsExponent exponent) (hr : Ends rest) :
    ∀ c ∈ (exponent ++ rest).head?, c.isDigit = false ∧ c ≠ '.' := by
  intro c hc
  cases he with
  | none => exact ⟨(hr c hc).1, (hr c hc).2.1⟩
  | @digits mark _ _ hm =>
    obtain rfl : mark = c := by simpa using hc
    rcases hm with rfl | rfl <;> decide

theorem IsFraction.head {fraction t : Text} (hf : IsFraction fraction)
    (ht : ∀ c ∈ t.head?, c.isDigit = false) : ∀ c ∈ (fraction ++ t).head?, c.isDigit = false := by
  intro c hc
  cases hf with
  | none => exact ht c hc
  | digits =>
    obtain rfl : '.' = c := by simpa using hc
    decide

theorem read?_text {n : Numeral} (h : n.Written) {rest : Text} (hr : Ends rest) :
    read? (n.text ++ rest) = some n := by
  have hexp := h.exponent.head hr
  have hfrac := h.fraction.head (fun c hc => (hexp c hc).1)
  have hne : n.whole.isEmpty = false := by simp [h.whole.1]
  simp only [read?, text, List.append_assoc, signPart_digits h.sign h.whole, List.drop_left,
    digitPart_append h.whole.2 hfrac, hne, fractionPart_append h.fraction hexp,
    exponentPart_append h.exponent (fun c hc => ⟨(hr c hc).1, (hr c hc).2.2⟩)]
  rfl

private theorem exponentValue_digits {sign ds : Text} (hs : IsSign sign) (hd : Digits ds) :
    exponentValue ('e' :: (sign ++ ds)) =
      if sign = ("-" : Text) then -(Text.toNat ds : Int) else Text.toNat ds := by
  have hsign := signPart_digits hs hd []
  rw [List.append_nil] at hsign
  simp only [exponentValue, List.drop_succ_cons, List.drop_zero, hsign, List.drop_left]

/-- A text that is one numeral without a sign, which stands for the given decimal up to zeros at
the end of its digits. -/
def Spells (t : Text) (d : Decimal) : Prop :=
  ∃ n : Numeral, n.sign = [] ∧ n.Written ∧ n.text = t ∧
    ∃ k : Nat, n.decimal = ⟨d.coefficient * 10 ^ k, d.exponent - k⟩

private theorem spells_point {whole ds : Text} (hw : Digits whole) (hd : Digits ds)
    {c k : Nat} {e : Int}
    (hc : Text.toNat (whole ++ ds) = c * 10 ^ k) (he : e - k = -(ds.length : Int)) :
    Spells (whole ++ ("." ++ ds)) ⟨c, e⟩ := by
  refine ⟨⟨[], whole, '.' :: ds, []⟩, rfl, ⟨.inl rfl, hw, .digits hd, .none⟩, ?_, k, ?_⟩
  · simp only [text, List.nil_append, List.append_nil]
    rfl
  · have hnone : exponentValue [] = 0 := rfl
    simp only [decimal, List.drop_succ_cons, List.drop_zero, List.length_cons, hc, he, hnone,
      Nat.add_sub_cancel]
    rw [Int.zero_sub]

end Numeral

namespace NumberLayout

open Numeral

theorem positional_spells {digits : Text} (hd : Digits digits) (e : Int) :
    Spells (positional digits (digits.length + e)) ⟨Text.toNat digits, e⟩ := by
  have hzero : Text.toNat ("0" : Text) = 0 := by decide
  have hwhole : Digits ("0" : Text) := by unfold Digits; decide
  unfold positional
  split
  next hle =>
    have hds := Text.zeros_append_digits (-(digits.length + e)).toNat hd
    refine spells_point (k := 0) hwhole hds ?_ ?_
    · rw [Text.toNat_append, hzero, Text.toNat_zeros_append, Nat.zero_mul, Nat.zero_add,
        Nat.pow_zero, Nat.mul_one]
    · simp only [zeros, List.length_append, List.length_replicate]
      omega
  next hpos =>
    split
    next hge =>
      obtain ⟨n, rfl⟩ := Int.eq_ofNat_of_zero_le (show 0 ≤ e by omega)
      have hn : ((digits.length : Int) + (n : Int)).toNat - digits.length = n := by omega
      have hlen : ("0" : Text).length = 1 := rfl
      rw [hn, ← List.append_assoc]
      refine spells_point (k := n + 1) (hd.append (Text.zeros_isDigit n)) hwhole ?_ ?_
      · rw [Text.toNat_append, Text.toNat_append, Text.toNat_zeros, hzero, hlen]
        simp only [zeros, List.length_replicate, Nat.add_zero, Nat.pow_succ, Nat.pow_zero,
          Nat.one_mul, Nat.mul_assoc]
      · rw [hlen]
        omega
    next hlt =>
      obtain ⟨n, hn⟩ : ∃ n, ((digits.length : Int) + e).toNat = n := ⟨_, rfl⟩
      rw [hn]
      refine spells_point (k := 0) (hd.take (by omega)) (hd.drop (by omega)) ?_ ?_
      · rw [List.take_append_drop, Nat.pow_zero, Nat.mul_one]
      · rw [List.length_drop]
        omega

private theorem exists_exponent (layout : NumberLayout) (p : Int) :
    ∃ part, IsExponent part ∧ exponentValue part = p ∧
      (if p < 0 then "e-" else "e+" : Text) ++
        (zeros (layout.exponentWidth - (Text.ofNat p.natAbs).length) ++ Text.ofNat p.natAbs) =
          part := by
  have hpower := Text.zeros_append_digits (layout.exponentWidth - (Text.ofNat p.natAbs).length)
    (Text.ofNat_digits p.natAbs)
  have hvalue : Text.toNat (zeros (layout.exponentWidth - (Text.ofNat p.natAbs).length) ++
      Text.ofNat p.natAbs) = p.natAbs := by
    rw [Text.toNat_zeros_append, Text.toNat_ofNat]
  by_cases hneg : p < 0
  · have hsign : IsSign "-" := .inr (.inr rfl)
    refine ⟨_, .digits (.inl rfl) hsign hpower, ?_, ?_⟩
    · rw [exponentValue_digits hsign hpower, if_pos rfl, hvalue]
      omega
    · rw [if_pos hneg]
      rfl
  · have hsign : IsSign "+" := .inr (.inl rfl)
    refine ⟨_, .digits (.inl rfl) hsign hpower, ?_, ?_⟩
    · rw [exponentValue_digits hsign hpower, if_neg (by decide), hvalue]
      omega
    · rw [if_neg hneg]
      rfl

theorem scientific_spells (layout : NumberLayout) {digits : Text} (hd : Digits digits) (e : Int) :
    Spells (layout.scientific digits (digits.length + e - 1)) ⟨Text.toNat digits, e⟩ := by
  obtain ⟨part, hpart, hvalue, htext⟩ := exists_exponent layout (digits.length + e - 1)
  simp only [scientific, htext]
  split
  next hone =>
    refine ⟨⟨[], digits, [], part⟩, rfl, ⟨.inl rfl, hd, .none, hpart⟩, ?_, 0, ?_⟩
    · simp only [text, List.nil_append]
    · have hpos := List.length_pos_iff.mpr hd.1
      simp only [decimal, hvalue, List.drop_nil, List.append_nil, List.length_nil, Nat.pow_zero,
        Nat.mul_one, Decimal.mk.injEq, true_and]
      omega
  next hmany =>
    have hfirst := hd.take (n := 1) Nat.one_pos
    have hrest := hd.drop (n := 1) (by omega)
    refine ⟨⟨[], digits.take 1, '.' :: digits.drop 1, part⟩, rfl,
      ⟨.inl rfl, hfirst, .digits hrest, hpart⟩, ?_, 0, ?_⟩
    · simp only [text, List.nil_append, List.append_assoc]
      rfl
    · simp only [decimal, hvalue, List.drop_succ_cons, List.drop_zero, List.take_append_drop,
        List.length_cons, List.length_drop, Nat.pow_zero, Nat.mul_one, Decimal.mk.injEq, true_and]
      omega

theorem write_spells (layout : NumberLayout) (d : Decimal) : Spells (layout.write d) d := by
  have hd := Text.ofNat_digits d.coefficient
  have hpositional := positional_spells hd d.exponent
  have hscientific := scientific_spells layout hd d.exponent
  rw [Text.toNat_ofNat] at hpositional hscientific
  unfold write
  dsimp only
  split
  · exact hpositional
  · exact hscientific

end NumberLayout

namespace Numeral

private theorem written_sign {n : Numeral} (h : n.Written) {sign : Text} (hs : IsSign sign) :
    ({ n with sign } : Numeral).Written :=
  ⟨hs, h.whole, h.fraction, h.exponent⟩

theorem Spells.nearest? {t : Text} {d : Decimal} (h : Spells t d) (sign : Text)
    (hs : IsSign sign) : ∃ n : Numeral, n.Written ∧ n.text = sign ++ t ∧
      n.nearest? = d.nearest? (sign == ("-" : Text)) := by
  obtain ⟨n, hsign, hn, ht, k, hd⟩ := h
  refine ⟨{ n with sign }, written_sign hn hs, ?_, ?_⟩
  · rw [← ht, text, text, hsign, List.nil_append]
  · have he : d.exponent - k + (k : Int) = d.exponent := by omega
    have hdec : ({ n with sign } : Numeral).decimal = n.decimal := rfl
    rw [Numeral.nearest?, hdec, hd, Decimal.nearest?_scale, he]
    rfl

end Numeral

namespace Binary64

open Numeral

theorem Finite.magnitude_spells (x : Finite) : ∃ d : Decimal,
    Spells (if x.units = 0 then "0.0" else queryLayout.write (Decimal.shortest x.units)) d ∧
      d.nearest? x.negative = some x := by
  by_cases hz : x.units = 0
  · refine ⟨⟨0, 0⟩, ?_, Decimal.nearest?_zero x hz 0⟩
    rw [if_pos hz]
    have hzero : Digits ("0" : Text) := by unfold Text.Digits; decide
    exact spells_point (k := 1) hzero hzero (by decide) rfl
  · refine ⟨_, ?_, Decimal.nearest?_shortest x⟩
    rw [if_neg hz]
    exact NumberLayout.write_spells _ _

/-- A number in query text is one numeral, and the number nearest to that is the number. -/
theorem Finite.render_reads_back (x : Finite) :
    ∃ n : Numeral, n.Written ∧ n.text = x.render ∧ n.nearest? = some x := by
  obtain ⟨d, hspells, hnear⟩ := x.magnitude_spells
  generalize hm : (if x.units = 0 then "0.0" else queryLayout.write (Decimal.shortest x.units) :
    Text) = magnitude at hspells
  obtain ⟨sign, hsign, htext, hneg⟩ : ∃ sign : Text, IsSign sign ∧ sign ++ magnitude = x.render ∧
      (sign == ("-" : Text)) = x.negative := by
    rw [Finite.render, hm]
    cases x.negative with
    | false => exact ⟨[], .inl rfl, rfl, rfl⟩
    | true => exact ⟨"-", .inr (.inr rfl), rfl, rfl⟩
  obtain ⟨n, hn, ht, hv⟩ := hspells.nearest? sign hsign
  refine ⟨n, hn, ?_, ?_⟩
  · rw [ht, htext]
  · rw [hv, hneg, hnear]

end Binary64

end Keyring
