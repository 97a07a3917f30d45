import Keyring.Text.CodePoint

/-!
# Texts in parts

A text is split at the occurrences of a code point and joined from its parts, and each undoes the
other.
-/

namespace Keyring.Text

theorem splitOn_eq (sep : CodePoint) (t : Text) : splitOn sep t = List.splitOn sep t := by
  induction t with
  | nil => rfl
  | cons c t ih =>
    rw [List.splitOn_cons_eq_if_modifyHead, ← ih]
    cases hsplit : splitOn sep t with
    | nil =>
      rw [ih] at hsplit
      exact absurd hsplit (List.splitOn_ne_nil sep t)
    | cons part parts => simp [splitOn, hsplit]

theorem join_cons_cons (sep part next : Text) (parts : List Text) :
    join sep (part :: next :: parts) = part ++ sep ++ join sep (next :: parts) :=
  rfl

theorem join_eq (sep : Text) (parts : List Text) : join sep parts = sep.intercalate parts := by
  induction parts with
  | nil => rfl
  | cons part parts ih =>
    cases parts with
    | nil => exact List.intercalate_singleton.symm
    | cons next parts => rw [join_cons_cons, ih, List.intercalate_cons_cons]

theorem splitOn_ne_nil (sep : CodePoint) (t : Text) : splitOn sep t ≠ [] := by
  rw [splitOn_eq]
  exact List.splitOn_ne_nil sep t

theorem join_splitOn (sep : CodePoint) (t : Text) : join [sep] (splitOn sep t) = t := by
  rw [splitOn_eq, join_eq, List.intercalate_splitOn]

theorem splitOn_join {sep : CodePoint} {parts : List Text} (hne : parts ≠ [])
    (h : ∀ part ∈ parts, sep ∉ part) : splitOn sep (join [sep] parts) = parts := by
  rw [splitOn_eq, join_eq, List.splitOn_intercalate sep h hne]

theorem not_mem_of_mem_splitOn {sep : CodePoint} {t part : Text} (h : part ∈ splitOn sep t) :
    sep ∉ part := by
  rw [splitOn_eq] at h
  induction t generalizing part with
  | nil =>
    rw [List.splitOn_nil, List.mem_singleton] at h
    exact h ▸ List.not_mem_nil
  | cons c t ih =>
    rw [List.splitOn_cons_eq_if_modifyHead] at h
    split at h
    · rcases List.mem_cons.mp h with rfl | h
      · exact List.not_mem_nil
      · exact ih h
    · rename_i hc
      cases hsplit : List.splitOn sep t with
      | nil => exact absurd hsplit (List.splitOn_ne_nil sep t)
      | cons first parts =>
        rw [hsplit, List.modifyHead_cons] at h
        rcases List.mem_cons.mp h with rfl | h
        · have hfirst : sep ∉ first := ih (hsplit ▸ List.mem_cons_self)
          have hne : sep ≠ c := fun heq => hc (beq_iff_eq.mpr heq.symm)
          exact List.not_mem_cons_of_ne_of_not_mem hne hfirst
        · exact ih (hsplit ▸ List.mem_cons_of_mem first h)

theorem join_cons (sep part : Text) (parts : List Text) :
    join sep (part :: parts) = part ++ parts.flatMap (sep ++ ·) := by
  induction parts generalizing part with
  | nil => exact (List.append_nil part).symm
  | cons next parts ih =>
    rw [join_cons_cons, ih, List.flatMap_cons, List.append_assoc, List.append_assoc]

theorem join_append (sep : Text) {parts : List Text} (hne : parts ≠ []) (more : List Text) :
    join sep (parts ++ more) = join sep parts ++ more.flatMap (sep ++ ·) := by
  obtain ⟨part, rest, rfl⟩ := List.exists_cons_of_ne_nil hne
  rw [List.cons_append, join_cons, join_cons, List.flatMap_append, List.append_assoc]

end Keyring.Text
