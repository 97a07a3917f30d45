import Keyring.Proofs.Base64.Digits

/-!
# Detection of forms

Line breaks only choose between the forms of one line and the forms in lines, and a line that both
alphabets take is the same bytes in both. So text is read for its bytes however it was wrapped.
-/

namespace Keyring.Base64

/-- The second text is the first with line breaks put in, each a line feed with or without a
carriage return before it. -/
inductive Breaks : Text → Text → Prop
  | done : Breaks [] []
  | keep {t u : Text} (c : CodePoint) (h : Breaks t u) : Breaks (c :: t) (c :: u)
  | lf {t u : Text} (h : Breaks t u) : Breaks t (CodePoint.ofChar '\n' :: u)
  | crlf {t u : Text} (h : Breaks t u) :
      Breaks t (CodePoint.ofChar '\r' :: CodePoint.ofChar '\n' :: u)

theorem Breaks.refl (t : Text) : Breaks t t := by
  induction t with
  | nil => exact .done
  | cons c t ih => exact .keep c ih

def decodeEither (t : Text) : Option Bytes :=
  (decodeLine .standard t).or (decodeLine .urlSafe t)

private theorem mem_of_isShaped {alphabet : Alphabet} {t : Text} (h : isShaped alphabet t = true)
    {c : CodePoint} (hc : c ∈ t) : (alphabet.value? c).isSome = true ∨ c = padding := by
  simp only [isShaped, Bool.and_eq_true, List.all_eq_true, beq_iff_eq] at h
  rw [← List.takeWhile_append_dropWhile (p := fun c => (alphabet.value? c).isSome) (l := t)] at hc
  rcases List.mem_append.mp hc with hc | hc
  · exact .inl (List.all_eq_true.mp List.all_takeWhile c hc)
  · exact .inr (h.2 c hc)

theorem decodeLine_standard {t : Text} {b : Bytes} :
    decodeLine .standard t = some b ↔
      t.length % 4 = 0 ∧ isShaped .standard t = true ∧ decode? t = some b := by
  simp only [decodeLine, Option.ite_none_right_eq_some, Bool.and_eq_true, decide_eq_true_eq,
    and_assoc]

theorem decodeLine_urlSafe {t : Text} {b : Bytes} :
    decodeLine .urlSafe t = some b ↔
      t.length % 4 ≠ 1 ∧ isShaped .urlSafe t = true ∧
        decode? (toStandard t ++ paddingFor t.length) = some b := by
  simp only [decodeLine, Option.ite_none_right_eq_some, Bool.and_eq_true, decide_eq_true_eq,
    and_assoc, paddingFor]

theorem isShaped_of_decodeLine {alphabet : Alphabet} {t : Text} {b : Bytes}
    (h : decodeLine alphabet t = some b) : isShaped alphabet t = true := by
  cases alphabet with
  | standard => exact (decodeLine_standard.mp h).2.1
  | urlSafe => exact (decodeLine_urlSafe.mp h).2.1

theorem decodeLine_of_hasBreak {t : Text} (h : hasBreak t = true) (alphabet : Alphabet) :
    decodeLine alphabet t = none := by
  cases hd : decodeLine alphabet t with
  | none => rfl
  | some b =>
    obtain ⟨c, hc, hn⟩ := List.any_eq_true.mp h
    have hm := mem_of_isShaped (isShaped_of_decodeLine hd) hc
    rw [eq_of_beq hn] at hm
    cases alphabet <;> exact absurd hm (by decide)

theorem removeBreaks_feed (t : Text) :
    removeBreaks (CodePoint.ofChar '\n' :: t) = removeBreaks t := by
  rw [removeBreaks, if_pos (by simp)]

theorem removeBreaks_return (t : Text) :
    removeBreaks (CodePoint.ofChar '\r' :: CodePoint.ofChar '\n' :: t) = removeBreaks t := by
  rw [removeBreaks, if_pos (by simp), removeBreaks_feed]

theorem removeBreaks_keep {c : CodePoint} {t : Text} (hfeed : c ≠ CodePoint.ofChar '\n')
    (hreturn : c = CodePoint.ofChar '\r' → t.head? ≠ some (CodePoint.ofChar '\n')) :
    removeBreaks (c :: t) = c :: removeBreaks t := by
  rw [removeBreaks, if_neg (by simpa [hfeed] using hreturn)]

theorem removeBreaks_of_hasBreak {t : Text} (h : hasBreak t = false) : removeBreaks t = t := by
  induction t with
  | nil => rfl
  | cons c rest ih =>
    simp only [hasBreak, List.any_cons, Bool.or_eq_false_iff, beq_eq_false_iff_ne] at h
    have hhead : rest.head? ≠ some (CodePoint.ofChar '\n') := by
      intro hr
      have hn := List.any_eq_false.mp h.2 _ (List.mem_of_mem_head? hr)
      simp at hn
    rw [removeBreaks_keep h.1 fun _ => hhead, ih h.2]

/-- Detection looks at what is left when line breaks are removed, first in the standard alphabet;
whether there are any is all that they decide. -/
theorem detect_eq (t : Text) :
    detect t = if hasBreak t && (removeBreaks t).isEmpty then none
      else ((decodeLine .standard (removeBreaks t)).map fun b => (⟨.standard, hasBreak t⟩, b)).or
        ((decodeLine .urlSafe (removeBreaks t)).map fun b => (⟨.urlSafe, hasBreak t⟩, b)) := by
  cases hb : hasBreak t with
  | true =>
    cases he : (removeBreaks t).isEmpty <;>
    cases hs : decodeLine .standard (removeBreaks t) <;>
    cases hu : decodeLine .urlSafe (removeBreaks t) <;>
      simp [detect, detectAmong, Form.all, Form.decode, Form.standard, Form.lines,
        Form.urlSafe, Form.urlSafeLines, decodeLine_of_hasBreak hb, hb, he, hs, hu]
  | false =>
    have hr := removeBreaks_of_hasBreak hb
    cases hs : decodeLine .standard t <;> cases hu : decodeLine .urlSafe t <;>
      simp [detect, detectAmong, Form.all, Form.decode, Form.standard, Form.lines,
        Form.urlSafe, Form.urlSafeLines, hb, hr, hs, hu]

theorem decode_eq (t : Text) :
    decode t = if hasBreak t && (removeBreaks t).isEmpty then none
      else decodeEither (removeBreaks t) := by
  rw [decode, detect_eq, decodeEither]
  split
  · rfl
  · cases decodeLine .standard (removeBreaks t) <;>
    cases decodeLine .urlSafe (removeBreaks t) <;> rfl

theorem Breaks.removeBreaks {t u : Text} (h : Breaks t u)
    (hn : ∀ c ∈ t, c ≠ CodePoint.ofChar '\n' ∧ c ≠ CodePoint.ofChar '\r') :
    Base64.removeBreaks u = t := by
  induction h with
  | done => rfl
  | keep c _ ih =>
    have hc := hn c List.mem_cons_self
    rw [removeBreaks_keep hc.1 fun hreturn => absurd hreturn hc.2,
      ih fun d hd => hn d (List.mem_cons_of_mem c hd)]
  | lf _ ih => rw [removeBreaks_feed, ih hn]
  | crlf _ ih => rw [removeBreaks_return, ih hn]

theorem Breaks.mem {t u : Text} (h : Breaks t u) {c : CodePoint} (hc : c ∈ u) :
    c ∈ t ∨ c = CodePoint.ofChar '\r' ∨ c = CodePoint.ofChar '\n' := by
  induction h with
  | done => exact .inl hc
  | keep d _ ih =>
    rcases List.mem_cons.mp hc with rfl | hc
    · exact .inl List.mem_cons_self
    · exact (ih hc).imp_left (List.mem_cons_of_mem d)
  | lf _ ih =>
    rcases List.mem_cons.mp hc with rfl | hc
    · exact .inr (.inr rfl)
    · exact ih hc
  | crlf _ ih =>
    rcases List.mem_cons.mp hc with rfl | hc
    · exact .inr (.inl rfl)
    · rcases List.mem_cons.mp hc with rfl | hc
      · exact .inr (.inr rfl)
      · exact ih hc

theorem Breaks.length_le {t u : Text} (h : Breaks t u) : t.length ≤ u.length := by
  induction h with
  | done => exact Nat.le_refl 0
  | keep c _ ih => exact Nat.succ_le_succ ih
  | lf _ ih => exact Nat.le_succ_of_le ih
  | crlf _ ih => exact Nat.le_succ_of_le (Nat.le_succ_of_le ih)

/-- A line that both alphabets take is the same bytes in both. -/
theorem decodeLine_agree {t : Text} {a b : Bytes} (ha : decodeLine .standard t = some a)
    (hb : decodeLine .urlSafe t = some b) : a = b := by
  obtain ⟨hl, hs, ha⟩ := decodeLine_standard.mp ha
  obtain ⟨_, hu, hb⟩ := decodeLine_urlSafe.mp hb
  have hsame : toStandard t = t := by
    refine (List.map_congr_left fun c hc => ?_).trans (List.map_id t)
    have hm := mem_of_isShaped hs hc
    have hminus : c ≠ CodePoint.ofChar '-' := by
      rintro rfl
      exact absurd hm (by decide)
    have hunder : c ≠ CodePoint.ofChar '_' := by
      rintro rfl
      exact absurd hm (by decide)
    rw [standardDigit, if_neg hminus, if_neg hunder, id]
  have hp : paddingFor t.length = [] := by simp [paddingFor, hl]
  rw [hsame, hp, List.append_nil, ha] at hb
  exact Option.some.inj hb

theorem decodeEither_of_decodeLine {alphabet : Alphabet} {t : Text} {b : Bytes}
    (h : decodeLine alphabet t = some b) : decodeEither t = some b := by
  unfold decodeEither
  cases alphabet with
  | standard => rw [h, Option.some_or]
  | urlSafe =>
    cases hs : decodeLine .standard t with
    | none => exact h
    | some a => rw [decodeLine_agree hs h, Option.some_or]

section Digits

variable {ds : List Sextet}

private theorem isShaped_digits (alphabet : Alphabet) (ds : List Sextet) {count : Nat}
    (h : count ≤ 2) :
    isShaped alphabet (ds.map alphabet.digit ++ List.replicate count padding) = true := by
  have hd : (ds.map alphabet.digit ++ List.replicate count padding).dropWhile
      (fun c => (alphabet.value? c).isSome) = List.replicate count padding := by
    induction ds with
    | nil =>
      cases count <;> simp [List.replicate]
    | cons d ds ih => simp [ih]
  simp [isShaped, hd, h]

private theorem paddingFor_le (h : ds.length % 4 ≠ 1) : (4 - ds.length % 4) % 4 ≤ 2 := by
  omega

private theorem decodeLine_standard_digits (h : ds.length % 4 ≠ 1) :
    decodeLine .standard (ds.map Alphabet.standard.digit ++ paddingFor ds.length) =
      some (bytesOf ds) := by
  refine decodeLine_standard.mpr ⟨?_, isShaped_digits .standard ds (paddingFor_le h), ?_⟩
  · simp only [paddingFor, List.length_append, List.length_map, List.length_replicate]
    omega
  · rw [decode?, decodeStrict_digits h]

theorem toStandard_digits (ds : List Sextet) (count : Nat) :
    toStandard (ds.map Alphabet.urlSafe.digit ++ List.replicate count padding) =
      ds.map Alphabet.standard.digit ++ List.replicate count padding := by
  have hp : standardDigit padding = padding := by decide
  have hd : standardDigit ∘ Alphabet.urlSafe.digit = Alphabet.standard.digit :=
    funext standardDigit_digit
  simp [toStandard, hp, hd]

private theorem decodeLine_urlSafe_digits (h : ds.length % 4 ≠ 1) {count : Nat}
    (hc : count = 0 ∨ count = (4 - ds.length % 4) % 4) :
    decodeLine .urlSafe (ds.map Alphabet.urlSafe.digit ++ List.replicate count padding) =
      some (bytesOf ds) := by
  have hle := paddingFor_le h
  refine decodeLine_urlSafe.mpr ⟨?_, isShaped_digits .urlSafe ds (by omega), ?_⟩
  · simp only [List.length_append, List.length_map, List.length_replicate]
    omega
  · have hp : List.replicate count padding ++ paddingFor (ds.length + count) =
        paddingFor ds.length := by
      rw [paddingFor, paddingFor, List.replicate_append_replicate]
      congr 1
      omega
    rw [toStandard_digits, List.length_append, List.length_map, List.length_replicate,
      List.append_assoc, hp, decode?, decodeStrict_digits h]

end Digits

/-- The ways to write bytes in one line: with padding in either alphabet, and without padding in the
URL-safe one. -/
def spellings (b : Bytes) : List Text :=
  [encode .standard b, encode .urlSafe b, (encode .urlSafe b).filter (· != padding)]

private theorem filter_padding (b : Bytes) :
    (encode .urlSafe b).filter (· != padding) =
      (sextetsOf b).map Alphabet.urlSafe.digit ++ List.replicate 0 padding := by
  rw [encode_eq, List.filter_append, paddingFor, List.filter_replicate_of_neg (by simp)]
  congr 1
  refine List.filter_eq_self.mpr fun c hc => ?_
  obtain ⟨s, _, rfl⟩ := List.mem_map.mp hc
  simpa using digit_ne_padding .urlSafe s

private theorem exists_digits_of_mem_spellings {b : Bytes} {t : Text} (h : t ∈ spellings b) :
    ∃ alphabet count, t = (sextetsOf b).map (Alphabet.digit alphabet) ++
      List.replicate count padding := by
  simp only [spellings, List.mem_cons, List.not_mem_nil, or_false] at h
  rcases h with rfl | rfl | rfl
  · exact ⟨_, _, encode_eq .standard b⟩
  · exact ⟨_, _, encode_eq .urlSafe b⟩
  · exact ⟨_, _, filter_padding b⟩

theorem decodeLine_standard_encode (b : Bytes) :
    decodeLine .standard (encode .standard b) = some b := by
  rw [encode_eq, decodeLine_standard_digits (sextetsOf_length_mod b), bytesOf_sextetsOf]

theorem decodeEither_of_mem_spellings {b : Bytes} {t : Text} (h : t ∈ spellings b) :
    decodeEither t = some b := by
  have hmod := sextetsOf_length_mod b
  simp only [spellings, List.mem_cons, List.not_mem_nil, or_false] at h
  rcases h with rfl | rfl | rfl
  · exact decodeEither_of_decodeLine (decodeLine_standard_encode b)
  · rw [encode_eq, paddingFor,
      decodeEither_of_decodeLine (decodeLine_urlSafe_digits hmod (.inr rfl)), bytesOf_sextetsOf]
  · rw [filter_padding, decodeEither_of_decodeLine (decodeLine_urlSafe_digits hmod (.inl rfl)),
      bytesOf_sextetsOf]

theorem value?_of_mem_spellings {b : Bytes} {t : Text} (h : t ∈ spellings b) {c : CodePoint}
    (hc : c ∈ t) : (∃ alphabet, (Alphabet.value? alphabet c).isSome = true) ∨ c = padding := by
  obtain ⟨alphabet, count, rfl⟩ := exists_digits_of_mem_spellings h
  rcases List.mem_append.mp hc with hc | hc
  · obtain ⟨s, _, rfl⟩ := List.mem_map.mp hc
    exact .inl ⟨alphabet, by simp⟩
  · exact .inr (List.eq_of_mem_replicate hc)

theorem ne_nil_of_mem_spellings {b : Bytes} {t : Text} (h : t ∈ spellings b) (hb : b ≠ []) :
    t ≠ [] := by
  obtain ⟨alphabet, count, rfl⟩ := exists_digits_of_mem_spellings h
  intro ht
  have hs : sextetsOf b = [] := List.map_eq_nil_iff.mp (List.append_eq_nil_iff.mp ht).1
  have hback := bytesOf_sextetsOf b
  rw [hs] at hback
  exact hb hback.symm

/-- Bytes are read from any of their spellings, wherever it was broken into lines. -/
theorem decode_of_breaks {b : Bytes} {t u : Text} (hb : b ≠ []) (ht : t ∈ spellings b)
    (hu : Breaks t u) : decode u = some b := by
  have hn : ∀ c ∈ t, c ≠ CodePoint.ofChar '\n' ∧ c ≠ CodePoint.ofChar '\r' := by
    intro c hc
    constructor <;>
    · rintro rfl
      rcases value?_of_mem_spellings ht hc with ⟨alphabet, hv⟩ | hp
      · cases alphabet <;> exact absurd hv (by decide)
      · exact absurd hp (by decide)
  have hne : (removeBreaks u).isEmpty = false := by
    rw [hu.removeBreaks hn]
    exact List.isEmpty_eq_false_iff.mpr (ne_nil_of_mem_spellings ht hb)
  rw [decode_eq, hne, Bool.and_false, if_neg Bool.false_ne_true, hu.removeBreaks hn,
    decodeEither_of_mem_spellings ht]

end Keyring.Base64
