import Keyring.Base64.Form

/-!
# Digits and padding

Encoded bytes are digits and then the padding that completes the last quad. The strict reader takes
such text apart again, and whole bytes are what the sextets of bytes hold. Of digits before other
padding it takes some too, and then for the same bytes.
-/

namespace Keyring.Base64

def sextetsOf : Bytes → List Sextet
  | [] => []
  | [a] => [high a, middle a 0]
  | [a, b] => [high a, middle a b, lower b 0]
  | a :: b :: c :: rest => high a :: middle a b :: lower b c :: low c :: sextetsOf rest

def paddingFor (count : Nat) : Text :=
  List.replicate ((4 - count % 4) % 4) padding

theorem sextetsOf_length_mod (b : Bytes) : (sextetsOf b).length % 4 ≠ 1 := by
  induction b using sextetsOf.induct with
  | case4 a b c rest ih =>
    simp only [sextetsOf, List.length_cons]
    omega
  | _ => simp [sextetsOf]

theorem encode_eq (alphabet : Alphabet) (b : Bytes) :
    encode alphabet b =
      (sextetsOf b).map alphabet.digit ++ paddingFor (sextetsOf b).length := by
  induction b using sextetsOf.induct with
  | case4 a b c rest ih =>
    have hp : paddingFor ((sextetsOf rest).length + 1 + 1 + 1 + 1) =
        paddingFor (sextetsOf rest).length := by
      simp only [paddingFor, Nat.add_assoc, Nat.reduceAdd, Nat.add_mod_right]
    simp only [encode, sextetsOf, ih, List.map_cons, List.length_cons, List.cons_append, hp]
  | _ => rfl

private theorem toNat_inj {a b : UInt8} (h : a.toNat = b.toNat) : a = b :=
  UInt8.toNat_inj.mp h

private theorem byte_high_middle (a b : UInt8) :
    UInt8.ofNat ((high a).val * 4 + (middle a b).val / 16) = a := by
  have ha := a.toNat_lt
  have hb := b.toNat_lt
  apply toNat_inj
  simp only [high, middle, UInt8.toNat_ofNat']
  omega

private theorem byte_middle_lower (a b c : UInt8) :
    UInt8.ofNat ((middle a b).val % 16 * 16 + (lower b c).val / 4) = b := by
  have hb := b.toNat_lt
  have hc := c.toNat_lt
  apply toNat_inj
  simp only [middle, lower, UInt8.toNat_ofNat']
  omega

private theorem byte_lower_low (b c : UInt8) :
    UInt8.ofNat ((lower b c).val % 4 * 64 + (low c).val) = c := by
  have hc := c.toNat_lt
  apply toNat_inj
  simp only [lower, low, UInt8.toNat_ofNat']
  omega

/-- The sextets of bytes hold the bytes. -/
theorem bytesOf_sextetsOf (b : Bytes) : bytesOf (sextetsOf b) = b := by
  induction b using sextetsOf.induct with
  | case1 => rfl
  | case2 a => simp only [sextetsOf, bytesOf, byte_high_middle]
  | case3 a b => simp only [sextetsOf, bytesOf, byte_high_middle, byte_middle_lower]
  | case4 a b c rest ih =>
    simp only [sextetsOf, bytesOf, byte_high_middle, byte_middle_lower, byte_lower_low, ih]

@[simp] theorem value?_digit (alphabet : Alphabet) (s : Sextet) :
    alphabet.value? (alphabet.digit s) = some s := by
  revert s
  cases alphabet <;> decide

@[simp] theorem value?_padding (alphabet : Alphabet) : alphabet.value? padding = none := by
  cases alphabet <;> decide

theorem digit_ne_padding (alphabet : Alphabet) (s : Sextet) : alphabet.digit s ≠ padding := by
  intro h
  have hv := value?_digit alphabet s
  rw [h, value?_padding] at hv
  cases hv

theorem digit_isAscii (alphabet : Alphabet) (s : Sextet) : (alphabet.digit s).isAscii = true := by
  revert s
  cases alphabet <;> decide

theorem standardDigit_digit (s : Sextet) :
    standardDigit (Alphabet.urlSafe.digit s) = Alphabet.standard.digit s := by
  revert s
  decide

private theorem sextets_digits (count : Nat) (ds : List Sextet) (rest : Text) :
    sextets count 0 false (ds.map Alphabet.standard.digit ++ rest) =
      (sextets (count + ds.length) 0 false rest).map (ds ++ ·) := by
  induction ds generalizing count with
  | nil =>
    simp only [List.map_nil, List.nil_append, List.length_nil, Nat.add_zero]
    cases sextets count 0 false rest <;> rfl
  | cons d ds ih =>
    simp only [List.map_cons, List.cons_append, sextets, if_neg (digit_ne_padding .standard d),
      value?_digit, ih, List.length_cons, Bool.false_eq_true, if_false]
    rw [show count + 1 + ds.length = count + (ds.length + 1) by omega]
    cases sextets (count + (ds.length + 1)) 0 false rest <;> rfl

private theorem sextets_paddingFor {count : Nat} (h : count % 4 ≠ 1) :
    sextets count 0 false (paddingFor count) = .ok [] := by
  have hc : count % 4 = 0 ∨ count % 4 = 2 ∨ count % 4 = 3 := by omega
  rcases hc with hc | hc | hc <;> simp [paddingFor, hc, sextets, List.replicate]

theorem decodeStrict_digits {ds : List Sextet} (h : ds.length % 4 ≠ 1) :
    decodeStrict (ds.map Alphabet.standard.digit ++ paddingFor ds.length) = .ok (bytesOf ds) := by
  have hascii : (ds.map Alphabet.standard.digit ++ paddingFor ds.length).all
      CodePoint.isAscii = true := by
    have hp : padding.isAscii = true := by decide
    simp [paddingFor, List.all_eq_true, digit_isAscii, hp]
  have hhead : (ds.map Alphabet.standard.digit ++ paddingFor ds.length).head? ≠ some padding := by
    cases ds with
    | nil => decide
    | cons d ds =>
      intro hd
      exact digit_ne_padding .standard d (Option.some.inj hd)
  simp only [decodeStrict, hascii, Bool.not_true, Bool.false_eq_true, if_false, if_neg hhead,
    sextets_digits, Nat.zero_add, sextets_paddingFor h, Except.map, List.append_nil]

/-- Padding adds no digits, and no amount of it completes a quad of one digit. -/
private theorem sextets_padding {count pads : Nat} {padded : Bool} {marks : Text}
    {ds : List Sextet} (hm : ∀ c ∈ marks, c = padding)
    (h : sextets count pads padded marks = .ok ds) : count % 4 ≠ 1 ∧ ds = [] := by
  induction marks generalizing pads padded with
  | nil =>
    simp only [sextets] at h
    split at h
    next hwhole =>
      cases h
      exact ⟨by omega, rfl⟩
    next =>
      split at h <;> cases h
  | cons c marks ih =>
    have hrest : ∀ d ∈ marks, d = padding := fun d hd => hm d (List.mem_cons_of_mem c hd)
    simp only [sextets, if_pos (hm c List.mem_cons_self)] at h
    split at h
    next hquad =>
      split at h
      next =>
        split at h
        · cases h
          exact ⟨by omega, rfl⟩
        · cases h
      next => exact ih hrest h
    next => exact ih hrest h

/-- Digits before any padding are read for the bytes that they hold, or not at all. -/
theorem decodeStrict_padded {ds : List Sextet} {marks : Text} {b : Bytes}
    (hm : ∀ c ∈ marks, c = padding)
    (h : decodeStrict (ds.map Alphabet.standard.digit ++ marks) = .ok b) :
    ds.length % 4 ≠ 1 ∧ b = bytesOf ds := by
  simp only [decodeStrict, sextets_digits, Nat.zero_add] at h
  split at h
  next => cases h
  next =>
    split at h
    next => cases h
    next =>
      cases hread : sextets ds.length 0 false marks with
      | error fault =>
        rw [hread] at h
        cases h
      | ok others =>
        obtain ⟨hlength, rfl⟩ := sextets_padding hm hread
        rw [hread] at h
        cases h
        exact ⟨hlength, congrArg bytesOf (List.append_nil ds)⟩

end Keyring.Base64
