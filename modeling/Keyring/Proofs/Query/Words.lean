import Keyring.Proofs.Query.RoundTrip
import Keyring.Proofs.Query.Tokenization

/-!
# Names are words

The texts that an expression takes as a name are the texts that are one identifier token and not the
word before a type name. Each is read where a query has a property or a type, also where it is a
word with a meaning elsewhere, or has such a word among its segments.
-/

namespace Keyring

def Binary64.Finite.one : Binary64.Finite :=
  ⟨false, Binary64.unitsPerOne, by decide +kernel, by decide +kernel⟩

namespace Query

open Text (Stops stops_nil stops_cons)

theorem isName_iff {t : Text} :
    t.isName = true ↔
      t.IsDotted ∧ t ≠ Text.instanceofWord ∧ t ≠ Text.trueWord ∧ t ≠ Text.falseWord := by
  simp [Text.isName, Text.IsDotted, Text.reservedWords]

theorem exists_isLexeme {t : Text} (h : t.IsDotted) (ht : t ≠ Text.trueWord)
    (hf : t ≠ Text.falseWord) :
    ∃ c body, t = c :: body ∧ c.isBlank = false ∧ IsLexeme c body .identifier := by
  obtain ⟨c, body, rfl, hc, -⟩ := exists_nameRest h stops_nil
  have hblank : c.isBlank = false := by
    have hval := val_of_isNameStart hc
    apply CodePoint.isBlank_of_between
    · omega
    · omega
  refine ⟨c, body, rfl, hblank, ?_, h, ht, hf⟩
  intro rest hr
  rw [(read_word h hr).2]
  simp [Lexeme.ofName, ht, hf]

theorem tokenize_of_isName {t : Text} (h : t.isName = true) :
    tokenize t = .ok [⟨.identifier, t, 0⟩, .ending t.length] := by
  obtain ⟨hdotted, -, ht, hf⟩ := isName_iff.mp h
  obtain ⟨c, body, rfl, hc, hlexeme⟩ := exists_isLexeme hdotted ht hf
  exact hlexeme.tokenize hc

theorem isName_of_tokenize {t : Text}
    (h : tokenize t = .ok [⟨.identifier, t, 0⟩, .ending t.length])
    (hi : t ≠ Text.instanceofWord) : t.isName = true := by
  have hwell : (⟨.identifier, t, 0⟩ : Token).WellFormed :=
    wellFormed_of_tokenize h _ List.mem_cons_self
  obtain ⟨hdotted, ht, hf⟩ := hwell
  exact isName_iff.mpr ⟨hdotted, hi, ht, hf⟩

private theorem scans_one : Scans ("1" : Text) [] (Single (.number (.finite .one)) "1") := by
  apply scans_single rfl
  decide +kernel

theorem ofText_comparison (name : Name) :
    Expr.ofText (name.text ++ (" == 1" : Text)) = .ok (.equals name (.number .one)) := by
  have htext : (" == 1" : Text) = " == " ++ ("1" : Text) := by decide
  have hblank : (name.text ++ (" == 1" : Text)).isBlank = false := by
    rw [Text.isBlank, List.all_append]
    simp [show (" == 1" : Text).all CodePoint.isBlank = false by decide]
  apply Expr.ofText_of_scans hblank
  rw [htext]
  apply (scans_operands rfl (fun _ => scans_name name) scans_equality scans_one).mono
  intro ts h
  obtain ⟨ls, us, rfl, ⟨t, rfl, ht⟩, os, rs, rfl, ⟨o, rfl, ho⟩, v, rfl, hv⟩ := h
  exact .ofConjunction (.ofUnary (.ofPrimary (.equals ht ho hv.1)))

theorem ofText_typeTest (name : Name) :
    Expr.ofText ("instanceof " ++ name.text) = .ok (.instanceOf name) := by
  have hblank : ("instanceof " ++ name.text).isBlank = false := rfl
  apply Expr.ofText_of_scans hblank
  exact scans_typeTest name stops_nil

private theorem parse_of_ofText {text : Text} {e : Expr} (h : Expr.ofText text = .ok e) :
    parse (some text) = pure (.ok e) := by
  simp only [parse, h]

/-- A text is a name exactly if it is one identifier token and not the word before a type name. A
name is then read as a property with a comparison after it, and as a type after that word. -/
theorem names_are_words (t : Text) :
    (t.isName = true ↔ tokenize t = .ok [⟨.identifier, t, 0⟩, .ending t.length] ∧
      t ≠ Text.instanceofWord) ∧
    ∀ h : t.isName = true,
      parse (some (t ++ (" == 1" : Text))) =
          pure (.ok (.equals ⟨t, h⟩ (.number Binary64.Finite.one))) ∧
        parse (some ("instanceof " ++ t)) = pure (.ok (.instanceOf ⟨t, h⟩)) := by
  refine ⟨⟨fun h => ⟨tokenize_of_isName h, (isName_iff.mp h).2.1⟩, ?_⟩, fun h => ⟨?_, ?_⟩⟩
  · rintro ⟨htokens, hi⟩
    exact isName_of_tokenize htokens hi
  · exact parse_of_ofText (ofText_comparison ⟨t, h⟩)
  · exact parse_of_ofText (ofText_typeTest ⟨t, h⟩)

theorem names_are_words_scope :
    ("scope" : Text).isName = true ∧ ("a.true.instanceof" : Text).isName = true ∧
      parse (some ("scope" ++ (" == 1" : Text))) =
        pure (.ok (.equals .scope (.number Binary64.Finite.one))) ∧
      tokenize "a.true.instanceof" = .ok [⟨.identifier, "a.true.instanceof", 0⟩, .ending 17] := by
  have hscope : ("scope" : Text).isName = true := by decide
  have hdotted : ("a.true.instanceof" : Text).isName = true := by decide
  have hwords := (names_are_words "a.true.instanceof").1.mp hdotted
  exact ⟨hscope, hdotted, ((names_are_words "scope").2 hscope).1, hwords.1⟩

end Query

end Keyring
