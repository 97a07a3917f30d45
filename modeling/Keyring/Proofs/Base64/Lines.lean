import Keyring.Proofs.Base64.Detection
import Keyring.Proofs.Text.Parts

/-!
# Text in lines

A text that is cut into lines and joined again is the text with line breaks put in, so bytes that
are written in lines are read as bytes that are written in one line.
-/

namespace Keyring.Base64

theorem Breaks.append {t t' u u' : Text} (h : Breaks t u) (h' : Breaks t' u') :
    Breaks (t ++ t') (u ++ u') := by
  induction h with
  | done => exact h'
  | keep c _ ih => exact .keep c ih
  | lf _ ih => exact .lf ih
  | crlf _ ih => exact .crlf ih

theorem breaks_join (lines : List Text) :
    Breaks lines.flatten (Text.join lineSeparator lines) := by
  induction lines with
  | nil => exact .done
  | cons line lines ih =>
    cases lines with
    | nil =>
      rw [List.flatten_cons, List.flatten_nil, List.append_nil]
      exact .refl line
    | cons next lines =>
      have hbreak : Breaks ([] ++ (next :: lines).flatten)
          (lineSeparator ++ Text.join lineSeparator (next :: lines)) :=
        .append (.crlf .done) ih
      rw [List.flatten_cons, Text.join_cons_cons, List.append_assoc]
      exact .append (.refl line) hbreak

@[simp] theorem cut_nil (width : Nat) : cut width [] = [] := by
  rw [cut, if_pos (.inl rfl)]

theorem cut_of_ne_nil {width : Nat} (hw : 0 < width) {t : Text} (ht : t ≠ []) :
    cut width t = t.take width :: cut width (t.drop width) := by
  rw [cut, if_neg (not_or.mpr ⟨ht, by omega⟩)]

theorem flatten_cut {width : Nat} (hw : 0 < width) (t : Text) : (cut width t).flatten = t := by
  induction t using cut.induct width with
  | case1 t h =>
    have ht : t = [] := h.resolve_right (by omega)
    rw [cut, if_pos h, ht, List.flatten_nil]
  | case2 t h ih =>
    rw [cut, if_neg h, List.flatten_cons, ih, List.take_append_drop]

/-- Bytes in lines of a width are their text in one line with breaks put in. -/
theorem exists_encodeLines (alphabet : Alphabet) {width : Int} (hw : 0 < width) (b : Bytes) :
    ∃ u, encodeLines alphabet width b = .ok u ∧ Breaks (encode alphabet b) u := by
  have hpos : 0 < width.toNat := by omega
  have hbreaks := breaks_join (cut width.toNat (encode alphabet b))
  rw [flatten_cut hpos] at hbreaks
  exact ⟨_, if_neg (by omega), hbreaks⟩

theorem encode_mem_spellings (alphabet : Alphabet) (b : Bytes) :
    encode alphabet b ∈ spellings b := by
  cases alphabet with
  | standard => exact List.mem_cons_self
  | urlSafe => exact List.mem_cons_of_mem _ List.mem_cons_self

end Keyring.Base64
