import Keyring.Proofs.Base64.Detection
import Mathlib.Data.Set.List
import Mathlib.Tactic.Ring

/-!
# What detection accepts

A text that some form accepts is digits of one alphabet and at most two marks of padding, with line
breaks put in, and its bytes are the whole bytes in the bits of the digits, the first bit first.
-/

namespace Keyring.Base64

/-! ## Bits of digits and of bytes -/

/-- The lowest bits of a number, the highest of them first. -/
def bits : Nat → Nat → List Bool
  | 0, _ => []
  | width + 1, n => n.testBit width :: bits width n

def digitBits (digits : List Sextet) : List Bool :=
  digits.flatMap fun digit => bits 6 digit.val

def byteBits (b : Bytes) : List Bool :=
  b.flatMap fun byte => bits 8 byte.toNat

@[simp] theorem length_bits (width n : Nat) : (bits width n).length = width := by
  induction width with
  | zero => rfl
  | succ width ih => rw [bits, List.length_cons, ih]

theorem bits_congr {width m n : Nat} (h : ∀ i < width, m.testBit i = n.testBit i) :
    bits width m = bits width n := by
  induction width with
  | zero => rfl
  | succ width ih =>
    rw [bits, bits, h width (Nat.lt_succ_self width), ih fun i hi => h i (Nat.lt_succ_of_lt hi)]

theorem bits_append (count : Nat) {width : Nat} (high : Nat) {low : Nat} (h : low < 2 ^ width) :
    bits (count + width) (2 ^ width * high + low) = bits count high ++ bits width low := by
  induction count with
  | zero =>
    rw [Nat.zero_add]
    exact bits_congr fun i hi => by rw [Nat.testBit_two_pow_mul_add high h, if_pos hi]
  | succ count ih =>
    have hbit : (2 ^ width * high + low).testBit (count + width) = high.testBit count := by
      rw [Nat.testBit_two_pow_mul_add high h, if_neg (by omega), Nat.add_sub_cancel]
    rw [Nat.succ_add, bits, bits, ih, hbit, List.cons_append]

private theorem bits_byte {n : Nat} (h : n < 256) : bits 8 (UInt8.ofNat n).toNat = bits 8 n := by
  rw [UInt8.toNat_ofNat', Nat.mod_eq_of_lt h]

section Quad

variable (a b c d : Sextet)

private theorem bits_second : bits 6 b.val = bits 2 (b.val / 16) ++ bits 4 (b.val % 16) := by
  rw [← bits_append 2 (b.val / 16) (Nat.mod_lt b.val (by decide) : b.val % 16 < 2 ^ 4)]
  exact congrArg (bits 6) (Nat.div_add_mod b.val 16).symm

private theorem bits_third : bits 6 c.val = bits 4 (c.val / 4) ++ bits 2 (c.val % 4) := by
  rw [← bits_append 4 (c.val / 4) (Nat.mod_lt c.val (by decide) : c.val % 4 < 2 ^ 2)]
  exact congrArg (bits 6) (Nat.div_add_mod c.val 4).symm

private theorem bits_firstByte :
    bits 8 (UInt8.ofNat (a.val * 4 + b.val / 16)).toNat =
      bits 6 a.val ++ bits 2 (b.val / 16) := by
  have hlow : b.val / 16 < 2 ^ 2 := by omega
  rw [bits_byte (by omega), Nat.mul_comm]
  exact bits_append 6 a.val hlow

private theorem bits_secondByte :
    bits 8 (UInt8.ofNat (b.val % 16 * 16 + c.val / 4)).toNat =
      bits 4 (b.val % 16) ++ bits 4 (c.val / 4) := by
  have hlow : c.val / 4 < 2 ^ 4 := by omega
  rw [bits_byte (by omega), Nat.mul_comm]
  exact bits_append 4 (b.val % 16) hlow

private theorem bits_thirdByte :
    bits 8 (UInt8.ofNat (c.val % 4 * 64 + d.val)).toNat = bits 2 (c.val % 4) ++ bits 6 d.val := by
  have hlow : d.val < 2 ^ 6 := d.isLt
  rw [bits_byte (by omega), Nat.mul_comm]
  exact bits_append 2 (c.val % 4) hlow

end Quad

theorem length_bytesOf : ∀ digits : List Sextet, (bytesOf digits).length = 3 * digits.length / 4
  | [] => rfl
  | [_] => by simp [bytesOf]
  | [_, _] => by simp [bytesOf]
  | [_, _, _] => by simp [bytesOf]
  | a :: b :: c :: d :: rest => by
    have ih := length_bytesOf rest
    simp only [bytesOf, List.length_cons]
    omega

/-- The bits of digits are those of their bytes and then those that make no whole byte. A byte ends
inside the second and the third digit of a quad, which are cut there. -/
theorem byteBits_isPrefix : ∀ digits : List Sextet, byteBits (bytesOf digits) <+: digitBits digits
  | [] => List.prefix_rfl
  | [_] => List.nil_prefix
  | [a, b] => by
    refine ⟨bits 4 (b.val % 16), ?_⟩
    simp only [bytesOf, byteBits, digitBits, List.flatMap_cons, List.flatMap_nil, bits_firstByte,
      bits_second b, List.append_nil, List.append_assoc]
  | [a, b, c] => by
    refine ⟨bits 2 (c.val % 4), ?_⟩
    simp only [bytesOf, byteBits, digitBits, List.flatMap_cons, List.flatMap_nil, bits_firstByte,
      bits_secondByte, bits_second b, bits_third c, List.append_nil, List.append_assoc]
  | a :: b :: c :: d :: rest => by
    obtain ⟨spare, hspare⟩ := byteBits_isPrefix rest
    refine ⟨spare, ?_⟩
    simp only [byteBits, digitBits] at hspare
    simp only [bytesOf, byteBits, digitBits, List.flatMap_cons, bits_firstByte, bits_secondByte,
      bits_thirdByte, bits_second b, bits_third c, ← hspare, List.append_assoc]

theorem length_byteBits (b : Bytes) : (byteBits b).length = 8 * b.length := by
  induction b with
  | nil => rfl
  | cons byte b ih =>
    simp only [byteBits, List.flatMap_cons, List.length_append, length_bits,
      List.length_cons] at ih ⊢
    omega

theorem byteBits_bytesOf (digits : List Sextet) :
    byteBits (bytesOf digits) = (digitBits digits).take (8 * (3 * digits.length / 4)) := by
  rw [List.prefix_iff_eq_take.mp (byteBits_isPrefix digits), length_byteBits, length_bytesOf]

/-! ## Accepted lines -/

theorem digit_of_value? {alphabet : Alphabet} {c : CodePoint} {s : Sextet}
    (h : alphabet.value? c = some s) : alphabet.digit s = c := by
  unfold Alphabet.value? at h
  split_ifs at h with hupper hlower hnumber hfirst hlast
  · cases h
    rw [Alphabet.digit, if_pos (show c.val - 0x41 < 26 by omega)]
    exact (CodePoint.eq_ofNat (show c.val = 0x41 + (c.val - 0x41) by omega)).symm
  · cases h
    rw [Alphabet.digit, if_neg (show ¬c.val - 0x61 + 26 < 26 by omega),
      if_pos (show c.val - 0x61 + 26 < 52 by omega)]
    exact (CodePoint.eq_ofNat (show c.val = 0x61 + (c.val - 0x61 + 26 - 26) by omega)).symm
  · cases h
    rw [Alphabet.digit, if_neg (show ¬c.val - 0x30 + 52 < 26 by omega),
      if_neg (show ¬c.val - 0x30 + 52 < 52 by omega),
      if_pos (show c.val - 0x30 + 52 < 62 by omega)]
    exact (CodePoint.eq_ofNat (show c.val = 0x30 + (c.val - 0x30 + 52 - 52) by omega)).symm
  · cases h
    exact hfirst.symm
  · cases h
    exact hlast.symm

theorem exists_digits_of_isShaped {alphabet : Alphabet} {t : Text}
    (h : isShaped alphabet t = true) :
    ∃ (digits : List Sextet) (count : Nat), count ≤ 2 ∧
      t = digits.map alphabet.digit ++ List.replicate count padding := by
  simp only [isShaped, Bool.and_eq_true, decide_eq_true_eq, List.all_eq_true, beq_iff_eq] at h
  have hfront : t.takeWhile (fun c => (alphabet.value? c).isSome) ∈
      Set.range (List.map alphabet.digit) := by
    rw [Set.range_list_map]
    intro c hc
    obtain ⟨s, hs⟩ := Option.isSome_iff_exists.mp (List.all_eq_true.mp List.all_takeWhile c hc)
    exact ⟨s, digit_of_value? hs⟩
  obtain ⟨digits, hdigits⟩ := hfront
  refine ⟨digits, _, h.1, ?_⟩
  rw [hdigits, ← List.eq_replicate_of_mem h.2, List.takeWhile_append_dropWhile]

private theorem decode?_eq_some {t : Text} {b : Bytes} :
    decode? t = some b ↔ decodeStrict t = .ok b := by
  rw [decode?]
  cases decodeStrict t <;> simp

/-- An accepted line is digits that are not one more than whole quads and at most two marks of
padding, and its bytes are what the digits hold. -/
theorem exists_digits_of_decodeLine {alphabet : Alphabet} {t : Text} {b : Bytes}
    (h : decodeLine alphabet t = some b) :
    ∃ (digits : List Sextet) (count : Nat), count ≤ 2 ∧ digits.length % 4 ≠ 1 ∧
      t = digits.map alphabet.digit ++ List.replicate count padding ∧ b = bytesOf digits := by
  obtain ⟨digits, count, hcount, rfl⟩ := exists_digits_of_isShaped (isShaped_of_decodeLine h)
  cases alphabet with
  | standard =>
    have hread := decode?_eq_some.mp (decodeLine_standard.mp h).2.2
    obtain ⟨hmod, hb⟩ := decodeStrict_padded (fun c hc => List.eq_of_mem_replicate hc) hread
    exact ⟨digits, count, hcount, hmod, rfl, hb⟩
  | urlSafe =>
    -- the padding that is put in comes after that of the text
    have hread := decode?_eq_some.mp (decodeLine_urlSafe.mp h).2.2
    rw [toStandard_digits, List.append_assoc] at hread
    have hmarks : ∀ n, ∀ c ∈ List.replicate count padding ++ paddingFor n, c = padding := by
      intro n c hc
      rcases List.mem_append.mp hc with hc | hc
      · exact List.eq_of_mem_replicate hc
      · exact List.eq_of_mem_replicate hc
    obtain ⟨hmod, hb⟩ := decodeStrict_padded (hmarks _) hread
    exact ⟨digits, count, hcount, hmod, rfl, hb⟩

/-! ## Line breaks -/

theorem breaks_removeBreaks : ∀ t : Text, Breaks (removeBreaks t) t
  | [] => .done
  | c :: rest => by
    have hrest := breaks_removeBreaks rest
    by_cases hfeed : c = CodePoint.ofChar '\n'
    · rw [hfeed, removeBreaks_feed]
      exact .lf hrest
    by_cases hreturn : c = CodePoint.ofChar '\r' ∧ rest.head? = some (CodePoint.ofChar '\n')
    · obtain ⟨rfl, hhead⟩ := hreturn
      obtain ⟨rest, rfl⟩ := List.head?_eq_some_iff.mp hhead
      rw [removeBreaks_return]
      exact .crlf (breaks_removeBreaks rest)
    · rw [removeBreaks_keep hfeed (not_and.mp hreturn)]
      exact .keep c hrest

theorem hasBreak_iff {t : Text} : hasBreak t = true ↔ CodePoint.ofChar '\n' ∈ t := by
  simp only [hasBreak, List.any_eq_true, beq_iff_eq, exists_eq_right]

theorem head_of_return {t before after : Text}
    (h : CodePoint.ofChar '\r' ∉ removeBreaks t)
    (ht : t = before ++ CodePoint.ofChar '\r' :: after) :
    after.head? = some (CodePoint.ofChar '\n') := by
  subst ht
  induction before with
  | nil =>
    by_contra hhead
    rw [List.nil_append, removeBreaks_keep (by decide) fun _ => hhead] at h
    exact h List.mem_cons_self
  | cons c before ih =>
    apply ih
    intro hmem
    apply h
    rw [List.cons_append, removeBreaks]
    split
    · exact hmem
    · exact List.mem_cons_of_mem c hmem

/-! ## Accepted texts -/

theorem detect_eq_some {t : Text} {form : Form} {b : Bytes} (h : detect t = some (form, b)) :
    form.chunked = hasBreak t ∧ decodeLine form.alphabet (removeBreaks t) = some b ∧
      (form.alphabet = .urlSafe ↔ decodeLine .standard (removeBreaks t) = none) := by
  rw [detect_eq] at h
  split at h
  next => cases h
  next =>
    cases hs : decodeLine .standard (removeBreaks t) with
    | some a =>
      rw [hs, Option.map_some, Option.some_or] at h
      cases h
      exact ⟨rfl, hs, by simp⟩
    | none =>
      rw [hs, Option.map_none, Option.none_or] at h
      obtain ⟨a, hu, ha⟩ := Option.map_eq_some_iff.mp h
      cases ha
      exact ⟨rfl, hu, by simp⟩

private theorem digit_ne_return (alphabet : Alphabet) (s : Sextet) :
    alphabet.digit s ≠ CodePoint.ofChar '\r' := by
  revert s
  cases alphabet <;> decide

theorem return_not_mem_digits (alphabet : Alphabet) (digits : List Sextet) (count : Nat) :
    CodePoint.ofChar '\r' ∉ digits.map alphabet.digit ++ List.replicate count padding := by
  intro hmem
  rcases List.mem_append.mp hmem with hmem | hmem
  · obtain ⟨s, -, hs⟩ := List.mem_map.mp hmem
    exact digit_ne_return alphabet s hs
  · exact absurd (List.eq_of_mem_replicate hmem) (by decide)

theorem isAscii_of_decode {t : Text} {b : Bytes} (h : decode t = some b) {c : CodePoint}
    (hc : c ∈ t) : c.isAscii = true := by
  obtain ⟨⟨form, b⟩, hdetect, rfl⟩ := Option.map_eq_some_iff.mp h
  obtain ⟨digits, count, -, -, hline, -⟩ :=
    exists_digits_of_decodeLine (detect_eq_some hdetect).2.1
  rcases (breaks_removeBreaks t).mem hc with hc | rfl | rfl
  · rw [hline] at hc
    rcases List.mem_append.mp hc with hc | hc
    · obtain ⟨s, -, rfl⟩ := List.mem_map.mp hc
      exact digit_isAscii form.alphabet s
    · rw [List.eq_of_mem_replicate hc]
      decide
  · decide
  · decide

/-- An accepted text is lines exactly if it has a line feed, and a carriage return stands before a
line feed only. Without its line breaks it is digits of one alphabet, which is the URL-safe one only
where the standard one with all its padding does not do, and at most two marks of padding. Its bytes
are the whole bytes in the bits of the digits. -/
theorem detection_sound {t : Text} {form : Form} {b : Bytes} (h : detect t = some (form, b)) :
    (form.chunked = true ↔ CodePoint.ofChar '\n' ∈ t) ∧
    (∀ before after, t = before ++ CodePoint.ofChar '\r' :: after →
      after.head? = some (CodePoint.ofChar '\n')) ∧
    (form.alphabet = .urlSafe ↔ decodeLine .standard (removeBreaks t) = none) ∧
    ∃ (digits : List Sextet) (count : Nat), count ≤ 2 ∧ digits.length % 4 ≠ 1 ∧
      removeBreaks t = digits.map form.alphabet.digit ++ List.replicate count padding ∧
      Breaks (digits.map form.alphabet.digit ++ List.replicate count padding) t ∧
      b.length = 3 * digits.length / 4 ∧
      byteBits b = (digitBits digits).take (8 * (3 * digits.length / 4)) := by
  obtain ⟨hchunked, hline, hurlSafe⟩ := detect_eq_some h
  obtain ⟨digits, count, hcount, hmod, ht, rfl⟩ := exists_digits_of_decodeLine hline
  have hreturn : CodePoint.ofChar '\r' ∉ removeBreaks t := by
    rw [ht]
    exact return_not_mem_digits form.alphabet digits count
  refine ⟨?_, fun before after hsplit => head_of_return hreturn hsplit, hurlSafe, digits, count,
    hcount, hmod, ht, ?_, length_bytesOf digits, byteBits_bytesOf digits⟩
  · rw [hchunked]
    exact hasBreak_iff
  · rw [← ht]
    exact breaks_removeBreaks t

theorem detection_sound_broken :
    detect ("-\n_8=" : Text) = some (.urlSafeLines, [0xfb, 0xff]) ∧
      ∃ (digits : List Sextet) (count : Nat),
        removeBreaks ("-\n_8=" : Text) =
          digits.map Alphabet.urlSafe.digit ++ List.replicate count padding ∧
        byteBits [0xfb, 0xff] = (digitBits digits).take (8 * (3 * digits.length / 4)) := by
  have hdetect : detect ("-\n_8=" : Text) = some (.urlSafeLines, [0xfb, 0xff]) := rfl
  obtain ⟨-, -, -, digits, count, -, -, hline, -, -, hbits⟩ := detection_sound hdetect
  exact ⟨hdetect, digits, count, hline, hbits⟩

end Keyring.Base64
