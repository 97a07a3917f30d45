import Keyring.Proofs.Query.Joining
import Keyring.Proofs.Query.RoundTrip
import Keyring.Proofs.Query.Viability

/-!
# Queries put together

A query keeps its meaning within a larger one: its tokens stay what they are, wherever they stand,
and tokens in parentheses make what they make alone. White space matters only as white space.
-/

namespace Keyring.Query

open Reading
open Text (Stops stops_nil)

theorem map_shape_shift (distance : Int) (ts : List Token) :
    (ts.map (Token.shift distance)).map Token.shape = ts.map Token.shape := by
  rw [List.map_map]
  rfl

theorem Derives.congr {ts us : List Token} {e : Expr} (h : Derives .disjunction ts e)
    (hs : ts.map Token.shape = us.map Token.shape) : Derives .disjunction us e := by
  obtain ⟨before, last, rfl, hts⟩ := h.completes []
  have hus : Reads start us ⟨[], ⟨before, none, 0⟩, .connective last⟩ := hts.congr hs
  have hread : Expr.ofTokens (us ++ [.ending 0]) [] = .ok (Pending.join .or before last) := by
    rw [Expr.ofTokens, hus.run]
    rfl
  have hd := derives_of_ofTokens hread
  rwa [beforeEnd_append_ending hus.kind_ne_endOfInput] at hd

theorem scans_of_ofText {t : Text} {e : Expr} (hb : t.isBlank = false)
    (h : Expr.ofText t = .ok e) {rest : Text} (hr : Stops rest) :
    Scans t rest fun ts => Derives .disjunction ts e := by
  obtain ⟨ts, hts⟩ := exists_tokenize hb h
  have hd := (ofText_eq_ok_iff hb hts).mp h
  have hlexes := (lexes_of_tokenize hts).replace stops_nil hr
  intro offset
  have hmoved := hlexes.shift offset offset (by simp)
  exact ⟨_, hd.congr (map_shape_shift _ _).symm, hmoved.scan⟩

/-! Larger queries. -/

private theorem ofText_not {a : Text} {e : Expr} (ha : a.isBlank = false)
    (he : Expr.ofText a = .ok e) :
    Expr.ofText (("!(" : Text) ++ a ++ (")" : Text)) = .ok (.not e) := by
  have hgroup := scans_group (fun _ => scans_of_ofText ha he) []
  have hall := (scans_negation _).append hgroup
  rw [List.append_assoc]
  apply Expr.ofText_of_scans rfl
  apply hall.mono
  intro ts h
  obtain ⟨us, vs, rfl, ⟨o, rfl, ho⟩, hvs⟩ := h
  exact .ofConjunction (.ofUnary (.not ho hvs))

private theorem ofText_operands {a b op : Text} {e f whole : Expr} (mark : Text)
    (hm : mark = (") " : Text) ++ (op ++ (" (" : Text))) (ha : a.isBlank = false)
    (hb : b.isBlank = false) (he : Expr.ofText a = .ok e) (hf : Expr.ofText b = .ok f)
    (ho : ∀ rest, Scans op rest (Single .operator op))
    (hd : ∀ ls o rs, Derives .unary ls e → o.Is .operator op → Derives .unary rs f →
      Derives .disjunction (ls ++ o :: rs) whole) :
    Expr.ofText (("(" : Text) ++ a ++ mark ++ b ++ (")" : Text)) = .ok whole := by
  have hleft := scans_group fun _ => scans_of_ofText ha he
  have hright := scans_group (fun _ => scans_of_ofText hb hf) []
  have hall := scans_operands rfl (fun rest _ => hleft rest) ho hright
  have htext : ("(" : Text) ++ a ++ mark ++ b ++ (")" : Text) =
      CodePoint.ofChar '(' :: (a ++ (")" : Text)) ++
        (CodePoint.ofChar ' ' :: (op ++ (" " : Text)) ++
          CodePoint.ofChar '(' :: (b ++ (")" : Text))) := by
    simp only [hm, List.append_assoc, List.cons_append]
    rfl
  rw [htext]
  apply Expr.ofText_of_scans rfl
  apply hall.mono
  intro ts h
  obtain ⟨ls, us, rfl, hls, os, rs, rfl, ⟨o, rfl, ho⟩, hrs⟩ := h
  exact hd ls o rs hls ho hrs

/-! White space between texts. -/

theorem eq_of_tokenize {t : Text} {ts : List Token} (h : tokenize t = .ok ts) :
    ts = beforeEnd ts ++ [.ending t.length] := by
  have hts := (lexes_of_tokenize h).tokenize
  rw [h] at hts
  exact Except.ok.inj hts

private theorem map_shift_of_tokenize {t : Text} {ts : List Token} (h : tokenize t = .ok ts)
    (distance : Int) :
    ts.map (Token.shift distance) =
      (beforeEnd ts).map (Token.shift distance) ++ [.ending (t.length + distance)] := by
  conv_lhs => rw [eq_of_tokenize h, List.map_append]
  rfl

private theorem tokenize_joined {a b w : Text} {ts us : List Token} (ha : tokenize a = .ok ts)
    (hb : tokenize b = .ok us) (hne : w ≠ []) (hw : w.isBlank = true) :
    tokenize (a ++ w ++ b) =
      .ok (beforeEnd ts ++ us.map (Token.shift (a.length + w.length))) := by
  have hleft := (lexes_of_tokenize ha).replace stops_nil (stops_blank hne hw b)
  have hright := (lexes_of_tokenize hb).shift (a.length + w.length) (a.length + w.length) (by simp)
  have hend : (b.length : Int) + (a.length + w.length) = (a ++ w ++ b).length := by
    simp only [List.length_append, Nat.cast_add]
    omega
  rw [(hleft.join hw hright).tokenize, map_shift_of_tokenize hb, hend, List.append_assoc]

section Respacing

variable {u w w' v : Text} {ts : List Token}

private theorem lexes_respaced (hne : w ≠ []) (hw : w.isBlank = true) (hne' : w' ≠ [])
    (hw' : w'.isBlank = true) (h : tokenize (u ++ w ++ v) = .ok ts)
    (hfree : ∀ t ∈ ts, ¬t.Covers u.length) :
    ∃ us, Lexes [] 0 (u ++ w' ++ v) us ∧
      us.map Token.shape = (beforeEnd ts).map Token.shape := by
  obtain ⟨us, vs, hts, hus, hvs⟩ := exists_lexes_around h hw hfree
  have hleft := hus.replace (stops_blank hne hw v) (stops_blank hne' hw' v)
  have hright := hvs.shift (w'.length - w.length) (u.length + w'.length) (by omega)
  refine ⟨_, hleft.join hw' hright, ?_⟩
  rw [hts, List.map_append, List.map_append, map_shape_shift]

private theorem ofText_respaced (hne : w ≠ []) (hw : w.isBlank = true) (hne' : w' ≠ [])
    (hw' : w'.isBlank = true) (h : tokenize (u ++ w ++ v) = .ok ts)
    (hfree : ∀ t ∈ ts, ¬t.Covers u.length) (e : Expr) :
    Expr.ofText (u ++ w ++ v) = .ok e ↔ Expr.ofText (u ++ w' ++ v) = .ok e := by
  obtain ⟨us, hus, hshape⟩ := lexes_respaced hne hw hne' hw' h hfree
  have hblank : ∀ w : Text, w.isBlank = true →
      (u ++ w ++ v).isBlank = (u.isBlank && v.isBlank) := by
    intro w hw
    simp only [Text.isBlank, List.all_append] at hw ⊢
    rw [hw, Bool.and_true]
  cases hb : u.isBlank && v.isBlank with
  | true => simp only [Expr.ofText, hblank w hw, hblank w' hw', hb, if_true]
  | false =>
    have hb' := (hblank w' hw').trans hb
    rw [ofText_eq_ok_iff ((hblank w hw).trans hb) h, ofText_eq_ok_iff hb' hus.tokenize,
      beforeEnd_append_ending hus.kind_ne_endOfInput]
    exact ⟨fun hd => hd.congr hshape.symm, fun hd => hd.congr hshape⟩

end Respacing

/-- Texts with white space between them are read one after the other; queries in parentheses make up
a larger one as their expressions do; and for white space where no token stands there may be any
other. -/
theorem texts_compose :
    (∀ (a b w : Text) (ts us : List Token), tokenize a = .ok ts → tokenize b = .ok us →
      w ≠ [] → w.isBlank = true →
      tokenize (a ++ w ++ b) =
        .ok (beforeEnd ts ++ us.map (Token.shift (a.length + w.length)))) ∧
    (∀ (a b : Text) (e f : Expr), a.isBlank = false → b.isBlank = false →
      (parse (some a)).value = .ok e → (parse (some b)).value = .ok f →
      parse (some (("(" : Text) ++ a ++ (") && (" : Text) ++ b ++ (")" : Text))) =
          pure (.ok (.and e f)) ∧
        parse (some (("(" : Text) ++ a ++ (") || (" : Text) ++ b ++ (")" : Text))) =
          pure (.ok (.or e f)) ∧
        parse (some (("!(" : Text) ++ a ++ (")" : Text))) = pure (.ok (.not e))) ∧
    ∀ (u w w' v : Text) (ts : List Token), w ≠ [] → w.isBlank = true →
      w' ≠ [] → w'.isBlank = true →
      tokenize (u ++ w ++ v) = .ok ts → (∀ t ∈ ts, ¬t.Covers u.length) →
      (∃ ts', tokenize (u ++ w' ++ v) = .ok ts' ∧ ts'.map Token.shape = ts.map Token.shape) ∧
        ∀ e, (parse (some (u ++ w ++ v))).value = .ok e ↔
          (parse (some (u ++ w' ++ v))).value = .ok e := by
  refine ⟨?_, ?_, ?_⟩
  · intro a b w ts us ha hb hne hw
    exact tokenize_joined ha hb hne hw
  · intro a b e f ha hb he hf
    rw [value_parse] at he hf
    have hand := ofText_operands ") && (" rfl ha hb he hf scans_conjunction
      fun _ _ _ hl ho hr => .ofConjunction (.and (.ofUnary hl) ho hr)
    have hor := ofText_operands ") || (" rfl ha hb he hf scans_disjunction
      fun _ _ _ hl ho hr => .or (.ofConjunction (.ofUnary hl)) ho (.ofUnary hr)
    have hnot := ofText_not ha he
    simp only [parse, hand, hor, hnot, and_self]
  · intro u w w' v ts hne hw hne' hw' h hfree
    obtain ⟨us, hus, hshape⟩ := lexes_respaced hne hw hne' hw' h hfree
    refine ⟨⟨_, hus.tokenize, ?_⟩, fun e => ?_⟩
    · rw [eq_of_tokenize h, List.map_append, List.map_append, hshape]
      rfl
    · rw [value_parse, value_parse]
      exact ofText_respaced hne hw hne' hw' h hfree e

private def numberQuery : Text :=
  "x == -0"

private def quotedQuery : Text :=
  "e3 == \"a) && (b\""

private theorem spacing_zero_dvd : Binary64.spacing 0 ∣ 0 :=
  ⟨0, rfl⟩

private def minusZero : Binary64.Finite :=
  ⟨true, 0, spacing_zero_dvd, Binary64.limit_pos⟩

private theorem isName_number : ("x" : Text).isName = true := by decide

private def numberExpr : Expr :=
  .equals ⟨"x", isName_number⟩ (.number minusZero)

private def quotedExpr : Expr :=
  .equals ⟨"e3", by decide⟩ (.text "a) && (b")

private def numberTokens : List Token :=
  [⟨.identifier, "x", 0⟩, ⟨.operator, "==", 2⟩,
    ⟨.number (.finite minusZero), "-0", 5⟩, .ending 7]

private def quotedTokens : List Token :=
  [⟨.identifier, "e3", 0⟩, ⟨.operator, "==", 3⟩, ⟨.string "a) && (b", "\"a) && (b\"", 6⟩,
    .ending 16]

private def spacedTokens : List Token :=
  [⟨.identifier, "scope", 0⟩, ⟨.identifier, "in", 6⟩, ⟨.leftParen, "(", 9⟩,
    ⟨.identifier, "USER", 10⟩, ⟨.rightParen, ")", 14⟩, .ending 15]

theorem texts_compose_adjacent :
    tokenize (numberQuery ++ ("\t" : Text) ++ quotedQuery) =
        .ok (beforeEnd numberTokens ++ quotedTokens.map (Token.shift 8)) ∧
      parse (some (("(" : Text) ++ numberQuery ++ (") && (" : Text) ++ quotedQuery ++
        (")" : Text))) = pure (.ok (.and numberExpr quotedExpr)) ∧
      ((parse (some (("scope" : Text) ++ (" " : Text) ++ ("in (USER)" : Text)))).value =
          .ok (.scopeIn (.ofList [.user])) ↔
        (parse (some (("scope" : Text) ++ ("\n\t" : Text) ++ ("in (USER)" : Text)))).value =
          .ok (.scopeIn (.ofList [.user]))) := by
  have hnumber : tokenize numberQuery = .ok numberTokens := by decide +kernel
  have hquoted : tokenize quotedQuery = .ok quotedTokens := by decide +kernel
  have hspaced : tokenize (("scope" : Text) ++ (" " : Text) ++ ("in (USER)" : Text)) =
      .ok spacedTokens := by decide +kernel
  have hgap : ∀ t ∈ spacedTokens, ¬t.Covers 5 := by decide
  obtain ⟨hjoin, hpair, hrespaced⟩ := texts_compose
  refine ⟨hjoin _ _ "\t" _ _ hnumber hquoted (by decide) (by decide), ?_, ?_⟩
  · exact (hpair _ _ numberExpr quotedExpr (by decide) (by decide) (by decide +kernel)
      (by decide +kernel)).1
  · exact (hrespaced "scope" " " "\n\t" "in (USER)" _ (by decide) (by decide) (by decide)
      (by decide) hspaced hgap).2 _

end Keyring.Query
