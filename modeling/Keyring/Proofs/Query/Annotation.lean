import Keyring.Proofs.Text.Parts
import Keyring.Query.Error
import Mathlib.Data.List.DropRight

/-!
# The caret of an error report

A report shows the query line by line, and the caret row stands directly below the line of the
offset, under the code point at the offset or just behind the end of the line. Without that row and
the indents the report is the query.
-/

namespace Keyring.Query

/-- An offset into joined lines is on the line of a number, at a column. The end of a line is still
on it, and the line feed that follows counts as one. -/
inductive Placed : List Text → Nat → Nat → Nat → Prop
  | here {line : Text} {rest : List Text} {offset : Nat} (h : offset ≤ line.length) :
    Placed (line :: rest) offset 0 offset
  | later {line : Text} {rest : List Text} {offset number column : Nat}
    (h : Placed rest offset number column) :
    Placed (line :: rest) (line.length + 1 + offset) (number + 1) column

private theorem join_line (line : Text) {rest : List Text} (h : rest ≠ []) :
    Text.join "\n" (line :: rest) = line ++ CodePoint.ofChar '\n' :: Text.join "\n" rest := by
  obtain ⟨next, rest, rfl⟩ := List.exists_cons_of_ne_nil h
  rw [Text.join_cons_cons, List.append_assoc]
  rfl

theorem exists_placed {lines : List Text} (hne : lines ≠ []) {offset : Nat}
    (h : offset ≤ (Text.join "\n" lines).length) :
    ∃ number column, Placed lines offset number column := by
  induction lines generalizing offset with
  | nil => exact absurd rfl hne
  | cons line rest ih =>
    by_cases hline : offset ≤ line.length
    · exact ⟨0, offset, .here hline⟩
    · cases rest with
      | nil => exact absurd h hline
      | cons next rest =>
        rw [join_line line (List.cons_ne_nil next rest), List.length_append, List.length_cons] at h
        obtain ⟨later, rfl⟩ : ∃ later, offset = line.length + 1 + later :=
          ⟨offset - (line.length + 1), by omega⟩
        have hlater : later ≤ (Text.join "\n" (next :: rest)).length := by omega
        obtain ⟨number, column, hplaced⟩ := ih (List.cons_ne_nil next rest) hlater
        exact ⟨number + 1, column, .later hplaced⟩

namespace Placed

variable {lines : List Text} {offset number column : Nat}

theorem number_lt (h : Placed lines offset number column) : number < lines.length := by
  induction h with
  | here _ => exact Nat.zero_lt_succ _
  | later _ ih => exact Nat.succ_lt_succ ih

theorem ne_nil (h : Placed lines offset number column) : lines ≠ [] :=
  List.ne_nil_of_length_pos (Nat.zero_lt_of_lt h.number_lt)

theorem annotateLines_eq (h : Placed lines offset number column) (position : Int) (detail : Text) :
    annotateLines (position + offset) detail position lines =
      (lines.take (number + 1)).map indentLine ++
        caretLine column detail :: (lines.drop (number + 1)).map indentLine := by
  induction h generalizing position with
  | @here line rest offset h =>
    have hreached : (position + offset ≤ position + line.length || rest.isEmpty) = true := by
      rw [Bool.or_eq_true, decide_eq_true_iff]
      left
      omega
    have hcolumn : (position + offset - position).toNat = offset := by omega
    rw [annotateLines, if_pos hreached, hcolumn]
    rfl
  | @later line rest offset number column h ih =>
    have hnext : position + line.length + 1 + offset =
        position + (line.length + 1 + offset : Nat) := by
      omega
    have hpassed : ¬(position + (line.length + 1 + offset : Nat) ≤ position + line.length ||
        rest.isEmpty) = true := by
      rw [Bool.or_eq_true, decide_eq_true_iff, List.isEmpty_iff, not_or]
      exact ⟨by omega, h.ne_nil⟩
    rw [annotateLines, if_neg hpassed, ← hnext, ih]
    rfl

end Placed

/-! ## The line and the column of an offset -/

/-- The text behind the last line feed of a text. -/
def lastLine (t : Text) : Text :=
  t.rtakeWhile (· != CodePoint.ofChar '\n')

theorem lastLine_line {line : Text} (h : CodePoint.ofChar '\n' ∉ line) : lastLine line = line := by
  apply List.rtakeWhile_eq_self_iff.mpr
  intro c hc
  rw [bne_iff_ne]
  rintro rfl
  exact h hc

theorem lastLine_append (line t : Text) :
    lastLine (line ++ CodePoint.ofChar '\n' :: t) = lastLine t := by
  have hstop : ∀ u : Text,
      (u ++ CodePoint.ofChar '\n' :: line.reverse).takeWhile (· != CodePoint.ofChar '\n') =
        u.takeWhile (· != CodePoint.ofChar '\n') := by
    intro u
    induction u with
    | nil => simp
    | cons c u ih => rw [List.cons_append, List.takeWhile_cons, List.takeWhile_cons, ih]
  rw [lastLine, lastLine, List.rtakeWhile, List.rtakeWhile, ← hstop t.reverse]
  simp

namespace Placed

variable {lines : List Text} {offset number column : Nat}

theorem take_eq_of_le {line : Text} {rest : List Text} (h : offset ≤ line.length) :
    (Text.join "\n" (line :: rest)).take offset = line.take offset := by
  rw [Text.join_cons, List.take_append_of_le_length h]

/-- Each line before the one of the offset ends with one of the line feeds before the offset, and
the column is what comes behind the last of them. -/
theorem position_eq (h : Placed lines offset number column)
    (hlines : ∀ line ∈ lines, CodePoint.ofChar '\n' ∉ line) :
    ((Text.join "\n" lines).take offset).count (CodePoint.ofChar '\n') = number ∧
      (lastLine ((Text.join "\n" lines).take offset)).length = column := by
  induction h with
  | @here line rest offset h =>
    have hfeed : CodePoint.ofChar '\n' ∉ line.take offset := fun hmem =>
      hlines line List.mem_cons_self (List.mem_of_mem_take hmem)
    rw [take_eq_of_le h, lastLine_line hfeed, List.length_take, Nat.min_eq_left h]
    exact ⟨List.count_eq_zero.mpr hfeed, rfl⟩
  | @later line rest offset number column h ih =>
    obtain ⟨hnumber, hcolumn⟩ := ih fun other hother =>
      hlines other (List.mem_cons_of_mem line hother)
    have hline : CodePoint.ofChar '\n' ∉ line := hlines line List.mem_cons_self
    have hbefore : (Text.join "\n" (line :: rest)).take (line.length + 1 + offset) =
        line ++ CodePoint.ofChar '\n' :: (Text.join "\n" rest).take offset := by
      rw [join_line line h.ne_nil, Nat.add_assoc, List.take_length_add_append, Nat.add_comm 1,
        List.take_succ_cons]
    rw [hbefore, lastLine_append, List.count_append, List.count_cons_self,
      List.count_eq_zero.mpr hline, hnumber, hcolumn]
    exact ⟨Nat.zero_add _, rfl⟩

/-- What is at the offset is in its line at the column, unless that is where the line ends. -/
theorem getElem?_eq (h : Placed lines offset number column) {c : CodePoint}
    (hc : (Text.join "\n" lines)[offset]? = some c) (hfeed : c ≠ CodePoint.ofChar '\n') :
    ∃ text, lines[number]? = some text ∧ text[column]? = some c := by
  induction h with
  | @here line rest offset h =>
    refine ⟨line, rfl, ?_⟩
    rcases Nat.lt_or_eq_of_le h with hlt | rfl
    · rwa [Text.join_cons, List.getElem?_append_left hlt] at hc
    · cases rest with
      | nil =>
        rw [Text.join_cons, List.flatMap_nil, List.append_nil] at hc
        exact hc
      | cons next rest =>
        rw [join_line line (List.cons_ne_nil next rest),
          List.getElem?_append_right (Nat.le_refl _), Nat.sub_self] at hc
        exact absurd (Option.some.inj hc).symm hfeed
  | @later line rest offset number column h ih =>
    rw [join_line line h.ne_nil, List.getElem?_append_right (by omega)] at hc
    have hrest : line.length + 1 + offset - line.length = offset + 1 := by omega
    rw [hrest, List.getElem?_cons_succ] at hc
    exact ih hc

end Placed

/-! ## The report -/

theorem unindent_join {lines : List Text} (hne : lines ≠ [])
    (h : ∀ line ∈ lines, CodePoint.ofChar '\n' ∉ line) :
    (Text.splitOn '\n' (Text.join "\n" (lines.map indentLine))).map (List.drop 4) = lines := by
  have hindent : CodePoint.ofChar '\n' ∉ ("    " : Text) := by decide
  have hall : ∀ line ∈ lines.map indentLine, CodePoint.ofChar '\n' ∉ line := by
    intro line hline
    obtain ⟨bare, hbare, rfl⟩ := List.mem_map.mp hline
    rw [indentLine, List.mem_append, not_or]
    exact ⟨hindent, h bare hbare⟩
  have hsplit : Text.splitOn '\n' (Text.join "\n" (lines.map indentLine)) = lines.map indentLine :=
    Text.splitOn_join (by simpa using hne) hall
  rw [hsplit, List.map_map]
  exact List.map_id lines

/-- A report shows the lines of the query, indented by four spaces, and directly below the line of
the offset the caret row: as many spaces more as the offset is away from the start of the line, the
caret and the detail. The caret is under the code point at the offset, and without its row and the
indents the query is left. -/
theorem annotate_places_caret (query detail : Text) {offset : Nat} (h : offset ≤ query.length) :
    let lines := query.splitOn '\n'
    let number := (query.take offset).count (CodePoint.ofChar '\n')
    let column := (lastLine (query.take offset)).length
    let indented := fun line : Text => ("    " : Text) ++ line
    let row : Text := "    " ++ (List.replicate column (CodePoint.ofChar ' ') ++ ("^ " ++ detail))
    Text.join "\n" lines = query ∧ (∀ line ∈ lines, CodePoint.ofChar '\n' ∉ line) ∧
      number < lines.length ∧
      annotate query offset detail =
        Text.join "\n" ((lines.take (number + 1)).map indented ++
          row :: (lines.drop (number + 1)).map indented) ∧
      (∀ c, query[offset]? = some c → c ≠ CodePoint.ofChar '\n' →
        ∃ text, lines[number]? = some text ∧ text[column]? = some c) ∧
      ∃ above below, above = Text.join "\n" ((lines.take (number + 1)).map indented) ∧
        annotate query offset detail = above ++ ("\n" ++ row) ++ below ∧
        Text.join "\n" (((above ++ below).splitOn '\n').map (List.drop 4)) = query := by
  intro lines number column indented row
  have hquery : Text.join "\n" lines = query := Text.join_splitOn '\n' query
  have hlines : ∀ line ∈ lines, CodePoint.ofChar '\n' ∉ line :=
    fun _ => Text.not_mem_of_mem_splitOn
  have hne : lines ≠ [] := Text.splitOn_ne_nil '\n' query
  obtain ⟨k, col, hplaced⟩ := exists_placed hne (hquery.symm ▸ h)
  have hposition := hplaced.position_eq hlines
  rw [hquery] at hposition
  obtain ⟨rfl, rfl⟩ : number = k ∧ column = col := hposition
  have hshown : annotateLines offset detail 0 lines =
      (lines.take (number + 1)).map indented ++ row :: (lines.drop (number + 1)).map indented := by
    have hrows := hplaced.annotateLines_eq 0 detail
    rwa [Int.zero_add] at hrows
  have habove : (lines.take (number + 1)).map indented ≠ [] := by
    simp [hne]
  refine ⟨hquery, hlines, hplaced.number_lt, congrArg _ hshown, ?_,
    Text.join "\n" ((lines.take (number + 1)).map indented),
    ((lines.drop (number + 1)).map indented).flatMap (("\n" : Text) ++ ·), rfl, ?_, ?_⟩
  · intro c hc hfeed
    exact hplaced.getElem?_eq (hquery.symm ▸ hc) hfeed
  · show Text.join "\n" (annotateLines offset detail 0 lines) = _
    rw [hshown, Text.join_append _ habove, List.flatMap_cons]
    simp only [List.append_assoc]
  · rw [← Text.join_append _ habove, ← List.map_append, List.take_append_drop]
    exact (congrArg _ (unindent_join hne hlines)).trans hquery

private def threeLines : Text := "x ==\n  ?\n"

theorem annotate_places_caret_threeLines :
    7 ≤ threeLines.length ∧
      annotate threeLines (7 : Nat) "bad" = "    x ==\n      ?\n      ^ bad\n    " ∧
      annotate threeLines (4 : Nat) "bad" = "    x ==\n        ^ bad\n      ?\n    " := by
  have h7 : 7 ≤ threeLines.length := by decide
  have h4 : 4 ≤ threeLines.length := by decide
  refine ⟨h7, (annotate_places_caret threeLines "bad" h7).2.2.2.1.trans ?_,
    (annotate_places_caret threeLines "bad" h4).2.2.2.1.trans ?_⟩
  · decide
  · decide

end Keyring.Query
