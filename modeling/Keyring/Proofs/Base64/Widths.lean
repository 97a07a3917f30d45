import Keyring.Proofs.Base64.Acceptance
import Keyring.Proofs.Base64.Lines
import Keyring.Validation

/-!
# Widths of lines

Bytes in lines of a width are full lines and a last one. Where the width is a multiple of four, no
quad of digits is cut, so each line is read on its own and the lines together are the bytes. For every
other width there are bytes of which lines cannot be read, or are read with the bits lost that are cut.
-/

namespace Keyring.Base64

/-! ## Lines of a text -/

def splitBreaks : Text → List Text
  | [] => [[]]
  | [c] => [[c]]
  | c :: d :: rest =>
    if c = CodePoint.ofChar '\r' ∧ d = CodePoint.ofChar '\n' then [] :: splitBreaks rest
    else (splitBreaks (d :: rest)).modifyHead (c :: ·)

theorem splitBreaks_cons {c : CodePoint} (h : c ≠ CodePoint.ofChar '\r') (t : Text) :
    splitBreaks (c :: t) = (splitBreaks t).modifyHead (c :: ·) := by
  cases t with
  | nil => rfl
  | cons d rest => rw [splitBreaks, if_neg fun hbreak => h hbreak.1]

theorem splitBreaks_line {line : Text} (h : CodePoint.ofChar '\r' ∉ line) :
    splitBreaks line = [line] := by
  induction line with
  | nil => rfl
  | cons c line ih =>
    obtain ⟨hc, hline⟩ := List.ne_and_not_mem_of_not_mem_cons h
    rw [splitBreaks_cons (Ne.symm hc), ih hline, List.modifyHead_cons]

theorem splitBreaks_append {line : Text} (h : CodePoint.ofChar '\r' ∉ line) (t : Text) :
    splitBreaks (line ++ lineSeparator ++ t) = line :: splitBreaks t := by
  induction line with
  | nil =>
    show splitBreaks (CodePoint.ofChar '\r' :: CodePoint.ofChar '\n' :: t) = [] :: splitBreaks t
    rw [splitBreaks, if_pos ⟨rfl, rfl⟩]
  | cons c line ih =>
    obtain ⟨hc, hline⟩ := List.ne_and_not_mem_of_not_mem_cons h
    rw [List.cons_append, List.cons_append, splitBreaks_cons (Ne.symm hc), ih hline,
      List.modifyHead_cons]

theorem splitBreaks_join {lines : List Text} (hne : lines ≠ [])
    (h : ∀ line ∈ lines, CodePoint.ofChar '\r' ∉ line) :
    splitBreaks (Text.join lineSeparator lines) = lines := by
  induction lines with
  | nil => exact absurd rfl hne
  | cons line lines ih =>
    have hline := h line List.mem_cons_self
    cases lines with
    | nil => exact splitBreaks_line hline
    | cons next lines =>
      have hrest := ih (List.cons_ne_nil next lines) fun l hl => h l (List.mem_cons_of_mem line hl)
      rw [Text.join_cons_cons, splitBreaks_append hline, hrest]

/-! ## Cut lines -/

/-- Of the lines that a text is cut into all but the last are full, and the last is not empty. -/
theorem exists_last_cut {width : Nat} (hw : 0 < width) {t : Text} (ht : t ≠ []) :
    ∃ full last, cut width t = full ++ [last] ∧ (∀ line ∈ full, line.length = width) ∧
      last ≠ [] ∧ last.length ≤ width := by
  induction t using cut.induct width with
  | case1 t h => exact absurd (h.resolve_right (by omega)) ht
  | case2 t h ih =>
    rw [cut, if_neg h]
    by_cases hlong : width < t.length
    · have hrest : t.drop width ≠ [] := by
        apply List.ne_nil_of_length_pos
        rw [List.length_drop]
        omega
      obtain ⟨full, last, hcut, hfull, hlast⟩ := ih hrest
      refine ⟨t.take width :: full, last, by rw [hcut, List.cons_append], ?_, hlast⟩
      intro line hline
      rcases List.mem_cons.mp hline with rfl | hline
      · rw [List.length_take]
        omega
      · exact hfull line hline
    · have hdrop : t.drop width = [] := List.drop_eq_nil_of_le (by omega)
      have htake : t.take width = t := List.take_of_length_le (by omega)
      rw [hdrop, htake, cut_nil]
      exact ⟨[], t, rfl, fun _ hline => absurd hline List.not_mem_nil, ht, by omega⟩

theorem mem_of_mem_cut {width : Nat} (hw : 0 < width) {t line : Text} (hline : line ∈ cut width t)
    {c : CodePoint} (hc : c ∈ line) : c ∈ t := by
  rw [← flatten_cut hw t]
  exact List.mem_flatten_of_mem hline hc

theorem return_not_mem_encode (alphabet : Alphabet) (b : Bytes) :
    CodePoint.ofChar '\r' ∉ encode alphabet b := by
  rw [encode_eq]
  exact return_not_mem_digits alphabet (sextetsOf b) _

/-- The lines of bytes; of no bytes it is one empty line. -/
def linesOf (alphabet : Alphabet) (width : Nat) (b : Bytes) : List Text :=
  if b = [] then [[]] else cut width (encode alphabet b)

theorem encode_ne_nil (alphabet : Alphabet) {b : Bytes} (h : b ≠ []) : encode alphabet b ≠ [] :=
  ne_nil_of_mem_spellings (encode_mem_spellings alphabet b) h

theorem splitBreaks_encodeLines (alphabet : Alphabet) {width : Int} (hw : 0 < width) (b : Bytes) :
    ∃ text, encodeLines alphabet width b = .ok text ∧
      splitBreaks text = linesOf alphabet width.toNat b := by
  refine ⟨_, if_neg (by omega), ?_⟩
  have hpos : 0 < width.toNat := by omega
  by_cases hb : b = []
  · rw [linesOf, if_pos hb, hb, encode, cut_nil]
    rfl
  · rw [linesOf, if_neg hb]
    obtain ⟨full, last, hcut, -⟩ := exists_last_cut hpos (encode_ne_nil alphabet hb)
    apply splitBreaks_join
    · rw [hcut]
      exact List.concat_ne_nil last full
    · intro line hline hreturn
      exact return_not_mem_encode alphabet b (mem_of_mem_cut hpos hline hreturn)

/-! ## Lines on their own -/

/-- Each line is in some form on its own, and together they are the bytes. -/
structure ReadAlone (lines : List Text) (b : Bytes) : Prop where
  accepted : ∀ line ∈ lines, (detect line).isSome = true
  joined : (lines.filterMap decode).flatten = b

theorem ReadAlone.cons {line : Text} {lines : List Text} {b bs : Bytes} (hline : decode line = some b)
    (h : ReadAlone lines bs) : ReadAlone (line :: lines) (b ++ bs) := by
  constructor
  · intro other hother
    rcases List.mem_cons.mp hother with rfl | hother
    · rw [decode, Option.map_eq_some_iff] at hline
      obtain ⟨found, hfound, -⟩ := hline
      rw [hfound, Option.isSome_some]
    · exact h.accepted other hother
  · rw [List.filterMap_cons_some hline, List.flatten_cons, h.joined]

theorem decode_encode (alphabet : Alphabet) {b : Bytes} (h : b ≠ []) :
    decode (encode alphabet b) = some b :=
  decode_of_breaks h (encode_mem_spellings alphabet b) (.refl _)

theorem split_encode (alphabet : Alphabet) (quads : Nat) (b : Bytes) :
    (encode alphabet b).take (4 * quads) = encode alphabet (b.take (3 * quads)) ∧
      (encode alphabet b).drop (4 * quads) = encode alphabet (b.drop (3 * quads)) := by
  induction quads generalizing b with
  | zero => exact ⟨rfl, rfl⟩
  | succ quads ih =>
    rw [Nat.mul_succ, Nat.mul_succ]
    match b with
    | [] => simp [encode]
    | [x] => simp [encode]
    | [x, y] => simp [encode]
    | x :: y :: z :: rest =>
      obtain ⟨htake, hdrop⟩ := ih rest
      simp [encode, htake, hdrop]

theorem readAlone_cut (alphabet : Alphabet) {quads : Nat} (hq : 0 < quads) (b : Bytes) :
    ReadAlone (cut (4 * quads) (encode alphabet b)) b := by
  induction hn : b.length using Nat.strongRecOn generalizing b with
  | ind n ih =>
    by_cases hb : b = []
    · rw [hb, encode, cut_nil]
      exact ⟨fun _ hline => absurd hline List.not_mem_nil, rfl⟩
    · have hpos := List.length_pos_iff.mpr hb
      obtain ⟨htake, hdrop⟩ := split_encode alphabet quads b
      have hfirst : b.take (3 * quads) ≠ [] := by
        apply List.ne_nil_of_length_pos
        rw [List.length_take]
        omega
      have hshort : (b.drop (3 * quads)).length < n := by
        rw [List.length_drop]
        omega
      have hrest := ih _ hshort (b.drop (3 * quads)) rfl
      have hall := ReadAlone.cons (decode_encode alphabet hfirst) hrest
      rw [List.take_append_drop] at hall
      rw [cut_of_ne_nil (by omega) (encode_ne_nil alphabet hb), htake, hdrop]
      exact hall

/-! ## Widths that cut quads -/

/-- The bytes of a text without padding and line breaks are as many as fit into its digits. -/
theorem length_of_decode {t : Text} {b : Bytes} (hbreak : hasBreak t = false)
    (hpadding : padding ∉ t) (h : decode t = some b) : b.length = 3 * t.length / 4 := by
  obtain ⟨⟨form, b⟩, hdetect, rfl⟩ := Option.map_eq_some_iff.mp h
  have hline := (detect_eq_some hdetect).2.1
  rw [removeBreaks_of_hasBreak hbreak] at hline
  obtain ⟨digits, count, -, -, rfl, rfl⟩ := exists_digits_of_decodeLine hline
  have hcount : count = 0 := by
    by_contra hne
    exact hpadding (List.mem_append_right _ (List.mem_replicate.mpr ⟨hne, rfl⟩))
  rw [length_bytesOf, hcount, List.length_append, List.length_map, List.length_replicate,
    Nat.add_zero]

theorem encode_zeros (alphabet : Alphabet) (count : Nat) :
    encode alphabet (List.replicate (3 * count) 0) =
      List.replicate (4 * count) (alphabet.digit 0) := by
  induction count with
  | zero => rfl
  | succ count ih =>
    rw [Nat.mul_succ, Nat.mul_succ, List.replicate_succ, List.replicate_succ, List.replicate_succ,
      encode, ih]
    rfl

theorem cut_replicate {width : Nat} (hw : 0 < width) (count : Nat) (c : CodePoint) :
    cut width (List.replicate (count * width) c) =
      List.replicate count (List.replicate width c) := by
  induction count with
  | zero => rw [Nat.zero_mul, List.replicate_zero, cut_nil, List.replicate_zero]
  | succ count ih =>
    have hne : List.replicate ((count + 1) * width) c ≠ [] := by
      apply List.ne_nil_of_length_pos
      rw [List.length_replicate]
      exact Nat.mul_pos (Nat.succ_pos count) hw
    have htake : min width ((count + 1) * width) = width := by
      rw [Nat.succ_mul]
      omega
    have hdrop : (count + 1) * width - width = count * width := by
      rw [Nat.succ_mul]
      omega
    rw [cut_of_ne_nil hw hne, List.take_replicate, List.drop_replicate, htake, hdrop, ih,
      ← List.replicate_succ]

theorem dvd_of_readAlone_zeros {alphabet : Alphabet} {width : Nat} (hw : 0 < width)
    (h : ReadAlone (cut width (encode alphabet (List.replicate (3 * width) 0)))
      (List.replicate (3 * width) 0)) : 4 ∣ width := by
  rw [encode_zeros, cut_replicate hw] at h
  obtain ⟨found, hfound⟩ := Option.isSome_iff_exists.mp
    (h.accepted (List.replicate width (alphabet.digit 0)) (List.mem_replicate.mpr ⟨by decide, rfl⟩))
  have hread : decode (List.replicate width (alphabet.digit 0)) = some found.2 := by
    rw [decode, hfound, Option.map_some]
  have hbreak : hasBreak (List.replicate width (alphabet.digit 0)) = false := by
    rw [hasBreak, List.any_eq_false]
    intro c hc
    rw [List.eq_of_mem_replicate hc]
    cases alphabet <;> decide
  have hpadding : padding ∉ List.replicate width (alphabet.digit 0) :=
    fun hmem => digit_ne_padding alphabet 0 (List.eq_of_mem_replicate hmem).symm
  have hline := length_of_decode hbreak hpadding hread
  -- the four lines are alike, so all that is read is four times what one line holds
  have hall := congrArg List.length h.joined
  rw [List.filterMap_replicate_of_some hread, List.length_flatten, List.map_replicate,
    List.sum_replicate_nat, List.length_replicate, hline, List.length_replicate] at hall
  omega

/-! ## The rule on widths -/

/-- Bytes in lines of a width can be read line by line. -/
def ReadsByLine (alphabet : Alphabet) (width : Int) (b : Bytes) : Prop :=
  ∃ text, encodeLines alphabet width b = .ok text ∧ ReadAlone (splitBreaks text) b

theorem readsByLine_iff {alphabet : Alphabet} {width : Int} (hw : 0 < width) {b : Bytes} :
    ReadsByLine alphabet width b ↔ ReadAlone (linesOf alphabet width.toNat b) b := by
  obtain ⟨text, htext, hlines⟩ := splitBreaks_encodeLines alphabet hw b
  rw [ReadsByLine, htext, ← hlines]
  constructor
  · rintro ⟨other, hother, hread⟩
    cases hother
    exact hread
  · intro hread
    exact ⟨text, rfl, hread⟩

theorem readsByLine_of_dvd {width : Int} (hw : 0 < width) (h : 4 ∣ width) (alphabet : Alphabet)
    (b : Bytes) : ReadsByLine alphabet width b := by
  rw [readsByLine_iff hw, linesOf]
  by_cases hb : b = []
  · rw [if_pos hb, hb]
    exact ⟨fun line hline => by rw [List.mem_singleton.mp hline]; rfl, rfl⟩
  · obtain ⟨quads, rfl⟩ := h
    have hnat : (4 * quads).toNat = 4 * quads.toNat := by omega
    rw [if_neg hb, hnat]
    exact readAlone_cut alphabet (by omega) b

theorem dvd_of_readsByLine {width : Int} (hw : 0 < width) {alphabet : Alphabet}
    (h : ∀ b, ReadsByLine alphabet width b) : 4 ∣ width := by
  have hread := (readsByLine_iff hw).mp (h (List.replicate (3 * width.toNat) 0))
  have hne : List.replicate (3 * width.toNat) (0 : UInt8) ≠ [] := by
    apply List.ne_nil_of_length_pos
    rw [List.length_replicate]
    omega
  rw [linesOf, if_neg hne] at hread
  have hdvd := dvd_of_readAlone_zeros (by omega) hread
  omega

theorem dvd_iff_readsByLine {width : Int} (hw : 0 < width) :
    4 ∣ width ↔ ∀ alphabet b, ReadsByLine alphabet width b := by
  constructor
  · intro h alphabet b
    exact readsByLine_of_dvd hw h alphabet b
  · intro h
    exact dvd_of_readsByLine hw (h .standard)

theorem linesOf_flatten (alphabet : Alphabet) {width : Nat} (hw : 0 < width) (b : Bytes) :
    (linesOf alphabet width b).flatten = encode alphabet b := by
  rw [linesOf]
  split
  next hb => rw [hb]; rfl
  next => exact flatten_cut hw (encode alphabet b)

theorem checkWidth_eq_nil_iff {settings : Settings} :
    settings.checkWidth = [] ↔ 4 ∣ settings.chunkWidth := by
  rw [Settings.checkWidth, Nat.dvd_iff_mod_eq_zero]
  split
  next h => exact iff_of_true rfl h
  next h => exact iff_of_false (List.cons_ne_nil _ _) h

/-- Bytes in lines of a width are full lines and a last one of at least one digit, or one empty line
if there are no bytes, and together the lines are the text in one line. Each line can be read on its
own, and the lines together for the bytes, exactly for the widths that are multiples of four; every
other width fails in either alphabet. The check of the settings accepts just these. -/
theorem width_rule_exact {width : Int} (hw : 0 < width) :
    (∀ alphabet b, ∃ text, encodeLines alphabet width b = .ok text ∧
      (splitBreaks text).flatten = encode alphabet b ∧
      (b = [] → splitBreaks text = [[]]) ∧
      (b ≠ [] → ∃ full last, splitBreaks text = full ++ [last] ∧
        (∀ line ∈ full, (line.length : Int) = width) ∧
        1 ≤ last.length ∧ (last.length : Int) ≤ width)) ∧
    (4 ∣ width ↔ ∀ alphabet b, ReadsByLine alphabet width b) ∧
    (∀ alphabet, (∀ b, ReadsByLine alphabet width b) → 4 ∣ width) ∧
    ∀ settings : Settings, settings.checkWidth = [] ↔
      ∀ alphabet b, ReadsByLine alphabet settings.chunkWidth b := by
  have hpos : 0 < width.toNat := by omega
  refine ⟨?_, dvd_iff_readsByLine hw, fun alphabet h => dvd_of_readsByLine hw h, ?_⟩
  · intro alphabet b
    obtain ⟨text, htext, hlines⟩ := splitBreaks_encodeLines alphabet hw b
    refine ⟨text, htext, ?_, ?_, ?_⟩
    · rw [hlines]
      exact linesOf_flatten alphabet hpos b
    · intro hb
      rw [hlines, linesOf, if_pos hb]
    · intro hb
      obtain ⟨full, last, hcut, hfull, hne, hlast⟩ :=
        exists_last_cut hpos (encode_ne_nil alphabet hb)
      refine ⟨full, last, by rw [hlines, linesOf, if_neg hb, hcut], ?_, ?_, by omega⟩
      · intro line hline
        have hlength := hfull line hline
        omega
      · exact List.length_pos_iff.mpr hne
  · intro settings
    rw [checkWidth_eq_nil_iff, ← dvd_iff_readsByLine (Int.natCast_pos.mpr settings.chunkWidth_pos)]
    omega

theorem width_rule_exact_six :
    (0 : Int) < 6 ∧ ∀ alphabet, ¬∀ b, ReadsByLine alphabet 6 b := by
  have hw : (0 : Int) < 6 := by decide
  refine ⟨hw, fun alphabet h => ?_⟩
  have hdvd := (width_rule_exact hw).2.2.1 alphabet h
  exact absurd hdvd (by decide)

end Keyring.Base64
