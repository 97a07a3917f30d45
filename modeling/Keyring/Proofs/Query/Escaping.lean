import Keyring.Proofs.Query.Lexing

/-!
# No way out of a literal

A value that is escaped and put in quotes is one token, whatever it holds and whatever comes after
the closing quote. Between the quotes stand only code points that can be shown, or that lie beyond
the reach of four hexadecimal digits, so a written literal never breaks its line.
-/

namespace Keyring

namespace CodePoint

/-- A control code, by the general category. -/
def IsControl (c : CodePoint) : Prop :=
  c.val < 0x20 ∨ (0x7f ≤ c.val ∧ c.val ≤ 0x9f)

/-- Where text is broken into lines: four controls from the line feed to the return, the separators
of files, groups and records, the next line, and the separators of lines and paragraphs. -/
def IsLineBreak (c : CodePoint) : Prop :=
  (0x0a ≤ c.val ∧ c.val ≤ 0x0d) ∨ (0x1c ≤ c.val ∧ c.val ≤ 0x1e) ∨ c.val = 0x85 ∨
    c.val = 0x2028 ∨ c.val = 0x2029

theorem isPrintable_ascii {c : CodePoint} (h : c.val < 0x80) :
    c.isPrintable = true ↔ 0x20 ≤ c.val ∧ c.val < 0x7f := by
  simp [isPrintable, isAscii, h]

theorem not_isPrintable_of_mem {c : CodePoint} {low high : Nat}
    (hm : (low, high) ∈ unprintableRanges) (ha : 0x80 ≤ c.val) (hl : low ≤ c.val)
    (hh : c.val ≤ high) : ¬c.isPrintable = true := by
  have hany : (unprintableRanges.any fun range => range.1 ≤ c.val && c.val ≤ range.2) = true := by
    apply List.any_eq_true.mpr
    exact ⟨_, hm, by simp [hl, hh]⟩
  have hascii : c.isAscii = false := by simp [isAscii, ha]
  simp [isPrintable, hascii, hany]

/-- What can be shown, or lies beyond U+FFFF, is no control and breaks no line. -/
theorem not_isControl_of_shown {c : CodePoint} (h : c.isPrintable = true ∨ 0xffff < c.val) :
    ¬c.IsControl ∧ ¬c.IsLineBreak := by
  rcases h with h | h
  · by_cases ha : c.val < 0x80
    · have hrange := (isPrintable_ascii ha).mp h
      simp only [IsControl, IsLineBreak]
      omega
    · have hcontrols : ¬(0x80 ≤ c.val ∧ c.val ≤ 0xa0) := by
        intro hr
        exact not_isPrintable_of_mem (by decide +kernel) (by omega) hr.1 hr.2 h
      have hseparators : ¬(0x2028 ≤ c.val ∧ c.val ≤ 0x202f) := by
        intro hr
        exact not_isPrintable_of_mem (by decide +kernel) (by omega) hr.1 hr.2 h
      simp only [IsControl, IsLineBreak]
      omega
  · simp only [IsControl, IsLineBreak]
    omega

end CodePoint

namespace Query

private theorem isPrintable_digitOf {d : Nat} (h : d < 16) :
    (Text.digitOf d).isPrintable = true := by
  have hd : ∀ d : Fin 16, (Text.digitOf d.val).isPrintable = true := by decide
  exact hd ⟨d, h⟩

private theorem isPrintable_hexFixed (width n : Nat) :
    ∀ c ∈ Text.hexFixed width n, c.isPrintable = true := by
  induction width generalizing n with
  | zero => simp [Text.hexFixed]
  | succ width ih =>
    intro c hc
    rcases List.mem_append.mp hc with hc | hc
    · exact ih (n / 16) c hc
    · rw [List.mem_singleton.mp hc]
      exact isPrintable_digitOf (Nat.mod_lt n (by decide))

theorem shown_escapeOne (d : CodePoint) :
    ∀ c ∈ escapeOne d, c.isPrintable = true ∨ 0xffff < c.val := by
  intro c hc
  by_cases hshort : d = '\\' ∨ d = '"' ∨ d = '\t' ∨ d = '\n' ∨ d = '\r' ∨ d = .ofNat 8 ∨
      d = .ofNat 12
  · have hall : ∀ c ∈ escapeOne d, c.isPrintable = true := by
      rcases hshort with rfl | rfl | rfl | rfl | rfl | rfl | rfl <;> decide
    exact .inl (hall c hc)
  · simp only [not_or] at hshort
    obtain ⟨hslash, hquote, htab, hline, hreturn, hback, hfeed⟩ := hshort
    have hback' : d.val ≠ 8 := fun h => hback (CodePoint.eq_ofNat h)
    have hfeed' : d.val ≠ 12 := fun h => hfeed (CodePoint.eq_ofNat h)
    simp only [escapeOne, hslash, hquote, htab, hline, hreturn, hback', hfeed', if_false] at hc
    by_cases hu : (!d.isPrintable && decide (d.val ≤ 0xffff)) = true
    · rw [if_pos hu] at hc
      have hmark : ∀ c ∈ ("\\u" : Text), c.isPrintable = true := by decide
      rcases List.mem_append.mp hc with hc | hc
      · exact .inl (hmark c hc)
      · exact .inl (isPrintable_hexFixed 4 d.val c hc)
    · rw [if_neg hu] at hc
      rw [List.mem_singleton.mp hc]
      by_cases hp : d.isPrintable = true
      · exact .inl hp
      · right
        simpa [hp] using hu

theorem shown_escape (value : Text) :
    ∀ c ∈ escape value, c.isPrintable = true ∨ 0xffff < c.val := by
  intro c hc
  obtain ⟨d, -, hd⟩ := List.mem_flatMap.mp hc
  exact shown_escapeOne d c hd

theorem read_quoted (value rest : Text) :
    Lexeme.read '"' (escape value ++ CodePoint.ofChar '"' :: rest) =
      .ok ⟨.string value, (escape value).length + 1⟩ := by
  rw [Lexeme.read, if_pos rfl, readString_escape]

/-- An escaped value between quotes is read as one token with that value, which ends with the
closing quote; what follows is read by itself. No control and no line break stands in it. -/
theorem quoted_is_sealed (value rest : Text) :
    Lexeme.read '"' (escape value ++ CodePoint.ofChar '"' :: rest) =
        .ok ⟨.string value, (escape value).length + 1⟩ ∧
    (∀ offset, scan offset ('"' :: (escape value ++ CodePoint.ofChar '"' :: rest)) =
      (scan (offset + ((escape value).length + 2)) rest).map
        (⟨.string value, '"' :: (escape value ++ ("\"" : Text)), offset⟩ :: ·)) ∧
    (∀ c ∈ escape value, c.isPrintable = true ∨ 0xffff < c.val) ∧
    ∀ c ∈ escape value, ¬c.IsControl ∧ ¬c.IsLineBreak := by
  have hread := read_quoted value rest
  refine ⟨hread, ?_, shown_escape value, fun c hc => ?_⟩
  · intro offset
    have hblank : (CodePoint.ofChar '"').isBlank = false := by decide
    have hsplit : escape value ++ CodePoint.ofChar '"' :: rest =
        (escape value ++ ("\"" : Text)) ++ rest := by
      rw [List.append_assoc]
      rfl
    have hlength : (escape value ++ ("\"" : Text)).length = (escape value).length + 1 :=
      List.length_append
    rw [scan_lexeme hblank hread, hsplit]
    dsimp only
    rw [← hlength, List.drop_left, List.take_left, hlength, Nat.add_assoc]
  · exact CodePoint.not_isControl_of_shown (shown_escape value c hc)

private def awkward : Text :=
  [.ofNat 1, .ofChar '\\', .ofChar '"', .ofNat 0xd800]

theorem quoted_is_sealed_awkward :
    tokenize ("\"\\u0001\\\\\\\"\\ud800\"41" : Text) =
        (scan 18 "41").map (⟨.string awkward, "\"\\u0001\\\\\\\"\\ud800\"", 0⟩ :: ·) ∧
      CodePoint.ofChar 'd' ∈ escape awkward ∧ ¬(CodePoint.ofChar 'd').IsLineBreak := by
  have hescape : escape awkward = "\\u0001\\\\\\\"\\ud800" := by decide +kernel
  have hscan := (quoted_is_sealed awkward "41").2.1 0
  have hmem : CodePoint.ofChar 'd' ∈ escape awkward := by rw [hescape]; decide
  have hbreak := ((quoted_is_sealed awkward []).2.2.2 _ hmem).2
  rw [hescape] at hscan
  exact ⟨hscan, hmem, hbreak⟩

end Query

end Keyring
