import Keyring.Proofs.Text.Parts
import Keyring.Query.Scope
import Keyring.Query.Token

/-!
# Names in text

A name is found again at the beginning of a text in which nothing that could continue it comes after
it.
-/

namespace Keyring

theorem CodePoint.ne_of_isNameStart {c d : CodePoint} (hc : c.isNameStart = true)
    (hd : d.isNameStart = false) : c ≠ d := by
  rintro rfl
  rw [hc] at hd
  cases hd

namespace Text

/-- A text that cannot go on a name or a number before it. -/
def Stops (rest : Text) : Prop :=
  ∀ c ∈ rest.head?, c.isNamePart = false ∧ c ≠ '.'

theorem stops_nil : Stops [] :=
  fun _ h => nomatch h

theorem stops_cons {c : CodePoint} (hpart : c.isNamePart = false) (hdot : c ≠ '.') (rest : Text) :
    Stops (c :: rest) := by
  intro d h
  obtain rfl : c = d := by simpa using h
  exact ⟨hpart, hdot⟩

theorem Stops.replace {t rest rest' : Text} (h : Stops (t ++ rest)) (hr : Stops rest') :
    Stops (t ++ rest') := by
  cases t with
  | nil => exact hr
  | cons c t => exact h

/-- Segments between full stops: a name, or a word that looks like one. -/
def IsDotted (t : Text) : Prop :=
  (splitOn '.' t).all isNameSegment = true

end Text

namespace Query

private theorem splitOn_cons (sep c : CodePoint) (t : Text) :
    ∃ part parts, Text.splitOn sep t = part :: parts ∧
      Text.splitOn sep (c :: t) =
        if c = sep then [] :: part :: parts else (c :: part) :: parts := by
  obtain ⟨part, parts, hparts⟩ := List.exists_cons_of_ne_nil (Text.splitOn_ne_nil sep t)
  refine ⟨part, parts, hparts, ?_⟩
  simp only [Text.splitOn, hparts]

private theorem head_of_splitOn {sep c : CodePoint} {t part : Text} {parts : List Text}
    (h : Text.splitOn sep t = (c :: part) :: parts) : ∃ t', t = c :: t' := by
  cases t with
  | nil => cases h
  | cons d t =>
    obtain ⟨p, ps, -, hcons⟩ := splitOn_cons sep d t
    rw [hcons] at h
    split at h
    · cases h
    · cases h
      exact ⟨t, rfl⟩

private theorem isNamePart_of_isNameStart {c : CodePoint} (h : c.isNameStart = true) :
    c.isNamePart = true := by
  simp [CodePoint.isNamePart, h]

private theorem nameRest_cons {c : CodePoint} (h : c.isNamePart = true) (t : Text) :
    nameRest (c :: t) = c :: nameRest t := by
  rw [nameRest.eq_def]
  simp only [if_pos h]

private theorem nameRest_point {c : CodePoint} (h : c.isNameStart = true) (t : Text) :
    nameRest ('.' :: c :: t) = CodePoint.ofChar '.' :: nameRest (c :: t) := by
  have hpoint : CodePoint.isNamePart '.' = false := by decide
  rw [nameRest_cons (isNamePart_of_isNameStart h), nameRest.eq_def]
  simp [hpoint, h]

private theorem isNameSegment_cons {part : Text} (h : part.isNameSegment = true) :
    ∃ c t, part = c :: t ∧ c.isNameStart = true ∧ t.all CodePoint.isNamePart = true := by
  cases part with
  | nil => cases h
  | cons c t =>
    simp only [Text.isNameSegment, Bool.and_eq_true] at h
    exact ⟨c, t, rfl, h.1, h.2⟩

theorem nameRest_isPrefix (t : Text) : nameRest t <+: t := by
  induction t using nameRest.induct with
  | case2 c t hc ih =>
    rw [nameRest_cons hc]
    exact (List.prefix_cons_inj c).mpr ih
  | case3 start t hstart _ ih =>
    rw [nameRest_point hstart, nameRest_cons (isNamePart_of_isNameStart hstart)]
    exact (List.prefix_cons_inj _).mpr ((List.prefix_cons_inj start).mpr ih)
  | _ =>
    unfold nameRest
    simp_all

private theorem splitOn_nameRest (t : Text) :
    ∃ part parts, Text.splitOn '.' (nameRest t) = part :: parts ∧
      part.all CodePoint.isNamePart = true ∧ parts.all Text.isNameSegment = true := by
  induction t using nameRest.induct with
  | case2 c t hc ih =>
    obtain ⟨part, parts, hsplit, hpart, hparts⟩ := ih
    have hdot : c ≠ '.' := by
      rintro rfl
      exact absurd hc (by decide)
    refine ⟨c :: part, parts, ?_, by simp [hc, hpart], hparts⟩
    simp only [nameRest_cons hc, Text.splitOn, hsplit, if_neg hdot]
  | case3 start t hstart _ ih =>
    obtain ⟨part, parts, hsplit, hpart, hparts⟩ := ih
    have hdot : start ≠ '.' := CodePoint.ne_of_isNameStart hstart (by decide)
    have hsegment : Text.isNameSegment (start :: part) = true := by
      simp [Text.isNameSegment, hstart, hpart]
    refine ⟨[], (start :: part) :: parts, ?_, rfl, by simp [hsegment, hparts]⟩
    simp only [nameRest_point hstart, nameRest_cons (isNamePart_of_isNameStart hstart),
      Text.splitOn, hsplit, if_neg hdot, if_true]
  | _ =>
    refine ⟨[], [], ?_, rfl, rfl⟩
    rw [nameRest.eq_def]
    simp_all [Text.splitOn]

theorem isDotted_nameRest {c : CodePoint} (hc : c.isNameStart = true) (t : Text) :
    Text.IsDotted (c :: nameRest t) := by
  obtain ⟨part, parts, hsplit, hpart, hparts⟩ := splitOn_nameRest t
  have hdot : c ≠ '.' := CodePoint.ne_of_isNameStart hc (by decide)
  have hcons : Text.splitOn '.' (c :: nameRest t) = (c :: part) :: parts := by
    simp only [Text.splitOn, hsplit, if_neg hdot]
  rw [Text.IsDotted, hcons]
  simp [Text.isNameSegment, hc, hpart, hparts]

/-- The rest of a name ends where the name does: the text goes on a segment that has begun, and
segments between full stops follow. -/
theorem nameRest_append {t part : Text} {parts : List Text}
    (h : Text.splitOn '.' t = part :: parts) (hpart : part.all CodePoint.isNamePart = true)
    (hparts : parts.all Text.isNameSegment = true) {rest : Text} (hr : rest.Stops) :
    nameRest (t ++ rest) = t := by
  induction t generalizing part parts with
  | nil =>
    cases rest with
    | nil => rfl
    | cons c rest =>
      obtain ⟨hc, hdot⟩ := hr c rfl
      rw [List.nil_append, nameRest.eq_def]
      simp [hc, hdot]
  | cons c t ih =>
    obtain ⟨p, ps, hsplit, hcons⟩ := splitOn_cons '.' c t
    rw [hcons] at h
    by_cases hc : c = '.'
    -- a full stop is taken together with the first code point of the segment after it
    · rw [if_pos hc] at h
      cases h
      simp only [List.all_cons, Bool.and_eq_true] at hparts
      obtain ⟨d, q, rfl, hd, hq⟩ := isNameSegment_cons hparts.1
      have hall : (d :: q).all CodePoint.isNamePart = true := by
        simp only [List.all_cons, isNamePart_of_isNameStart hd, hq, Bool.and_self]
      have hrest := ih hsplit hall hparts.2
      obtain ⟨t, rfl⟩ := head_of_splitOn hsplit
      rw [hc, List.cons_append, List.cons_append, nameRest_point hd, ← List.cons_append, hrest]
    · rw [if_neg hc] at h
      cases h
      simp only [List.all_cons, Bool.and_eq_true] at hpart
      rw [List.cons_append, nameRest_cons hpart.1, ih hsplit hpart.2 hparts]

theorem nameRest_append_stops (t : Text) {rest : Text} (hr : rest.Stops) :
    nameRest (t ++ rest) = nameRest t := by
  induction t using nameRest.induct with
  | case1 =>
    cases rest with
    | nil => rfl
    | cons c rest =>
      obtain ⟨hc, hdot⟩ := hr c rfl
      rw [List.nil_append, nameRest.eq_def]
      simp [hc, hdot, nameRest]
  | case2 c t hc ih => rw [List.cons_append, nameRest_cons hc, nameRest_cons hc, ih]
  | case3 start t hstart _ ih =>
    have hpart := isNamePart_of_isNameStart hstart
    rw [List.cons_append, List.cons_append, nameRest_point hstart, nameRest_point hstart,
      nameRest_cons hpart, nameRest_cons hpart, ih]
  | case4 start t hstart hpart =>
    rw [List.cons_append, List.cons_append, nameRest.eq_def, nameRest.eq_def]
    simp [hpart, hstart]
  | case5 hpart =>
    -- a full stop at the end of the text begins no segment with what stops it
    cases rest with
    | nil => rfl
    | cons c rest =>
      have hc : c.isNameStart = false := by
        have h := (hr c rfl).1
        simp only [CodePoint.isNamePart, Bool.or_eq_false_iff] at h
        exact h.1
      rw [List.singleton_append, nameRest.eq_def, nameRest.eq_def ['.']]
      simp [hpart, hc]
  | case6 c t hpart hdot =>
    rw [List.cons_append, nameRest.eq_def, nameRest.eq_def (c :: t)]
    simp [hpart, hdot]

theorem exists_nameRest {t rest : Text} (h : t.IsDotted) (hr : rest.Stops) :
    ∃ c t', t = c :: t' ∧ c.isNameStart = true ∧ nameRest (t' ++ rest) = t' := by
  cases hsplit : Text.splitOn '.' t with
  | nil => exact absurd hsplit (Text.splitOn_ne_nil '.' t)
  | cons part parts =>
    rw [Text.IsDotted, hsplit, List.all_cons, Bool.and_eq_true] at h
    obtain ⟨c, q, rfl, hc, hq⟩ := isNameSegment_cons h.1
    have hpart := isNamePart_of_isNameStart hc
    have hall : (c :: q).all CodePoint.isNamePart = true := by
      simp only [List.all_cons, hpart, hq, Bool.and_self]
    have hrest := nameRest_append hsplit hall h.2 hr
    obtain ⟨t', rfl⟩ := head_of_splitOn hsplit
    rw [List.cons_append, nameRest_cons hpart] at hrest
    exact ⟨c, t', rfl, hc, (List.cons.inj hrest).2⟩

theorem Name.isDotted (name : Name) : name.text.IsDotted := by
  have h := name.isName_text
  simp only [Text.isName, Bool.and_eq_true] at h
  exact h.1

theorem isDotted_name (scope : Scope) : scope.name.IsDotted := by
  cases scope <;> (unfold Text.IsDotted; decide)

end Query

end Keyring
