import Keyring.Query.Token
import Keyring.Query.Writing

/-!
# Quoted literals read back

What stands between the quotes of a written literal is read as the value that was written, whatever
code points are in it.
-/

namespace Keyring.Query

private theorem hexDigit?_digitOf {d : Nat} (h : d < 16) : (Text.digitOf d).hexDigit? = some d := by
  have hd : ∀ d : Fin 16, (Text.digitOf d.val).hexDigit? = some d.val := by decide
  exact hd ⟨d, h⟩

private theorem exists_hexFixed {n : Nat} (h : n ≤ 0xffff) :
    ∃ a b c d, Text.hexFixed 4 n = [a, b, c, d] ∧ Text.hex4? a b c d = some n := by
  refine ⟨_, _, _, _, rfl, ?_⟩
  have hmod : ∀ k, (Text.digitOf (k % 16)).hexDigit? = some (k % 16) :=
    fun k => hexDigit?_digitOf (Nat.mod_lt k (by decide))
  simp only [Text.hex4?, hmod, Option.some.injEq]
  omega

theorem readString_quote (position : Nat) (rest : Text) :
    readString position ('"' :: rest) = .ok ([], 1) := by
  rw [readString.eq_def]
  rfl

theorem readString_simple {code meaning : CodePoint} (h : simpleEscape code = some meaning)
    (position : Nat) (rest : Text) :
    readString position ('\\' :: code :: rest) =
      extendString meaning 2 (readString (position + 2) rest) := by
  have hmark : CodePoint.ofChar '\\' ≠ '"' := by decide
  rw [readString.eq_def]
  simp only [if_neg hmark, if_true, h]

theorem readString_plain {c : CodePoint} (hquote : c ≠ '"') (hslash : c ≠ '\\')
    (position : Nat) (rest : Text) :
    readString position (c :: rest) = extendString c 1 (readString (position + 1) rest) := by
  rw [readString.eq_def]
  simp only [if_neg hquote, if_neg hslash]

theorem readString_unicode {a b d e : CodePoint} {n : Nat}
    (h : Text.hex4? a b d e = some n) (position : Nat) (rest : Text) :
    readString position ('\\' :: 'u' :: a :: b :: d :: e :: rest) =
      extendString (.ofNat n) 6 (readString (position + 6) rest) := by
  have hmark : CodePoint.ofChar '\\' ≠ '"' := by decide
  have hsimple : simpleEscape 'u' = none := by decide
  rw [readString.eq_def]
  simp only [if_neg hmark, if_true, hsimple, h]

theorem readString_escapeOne (c : CodePoint) (position : Nat) (rest : Text) :
    ∃ next, readString position (escapeOne c ++ rest) =
      extendString c (escapeOne c).length (readString next rest) := by
  by_cases hshort : c = '\\' ∨ c = '"' ∨ c = '\t' ∨ c = '\n' ∨ c = '\r' ∨ c = .ofNat 8 ∨
      c = .ofNat 12
  -- the escapes of one letter compute; all else is an escape by number or stands for itself
  · rcases hshort with rfl | rfl | rfl | rfl | rfl | rfl | rfl <;> exact ⟨_, rfl⟩
  · simp only [not_or] at hshort
    obtain ⟨hslash, hquote, htab, hline, hreturn, hback, hfeed⟩ := hshort
    have hback' : c.val ≠ 8 := fun h => hback (CodePoint.eq_ofNat h)
    have hfeed' : c.val ≠ 12 := fun h => hfeed (CodePoint.eq_ofNat h)
    simp only [escapeOne, hslash, hquote, htab, hline, hreturn, hback', hfeed', if_false]
    by_cases hu : (!c.isPrintable && decide (c.val ≤ 0xffff)) = true
    · obtain ⟨a, b, d, e, hhex, hval⟩ := exists_hexFixed (n := c.val) (by simp_all)
      refine ⟨position + 6, ?_⟩
      rw [if_pos hu, hhex]
      have hread := readString_unicode hval position rest
      rwa [CodePoint.ofNat_val] at hread
    · refine ⟨position + 1, ?_⟩
      rw [if_neg hu, List.singleton_append, readString_plain hquote hslash,
        List.length_singleton]

theorem extendString_ok (c : CodePoint) (width : Nat) (value : Text) (length : Nat) :
    extendString c width (.ok (value, length)) = .ok (c :: value, length + width) :=
  rfl

/-- A written value with its closing quote is read up to that quote. -/
theorem readString_escape (value : Text) (position : Nat) (rest : Text) :
    readString position (escape value ++ (CodePoint.ofChar '"' :: rest)) =
      .ok (value, (escape value).length + 1) := by
  induction value generalizing position with
  | nil =>
    rw [readString.eq_def]
    rfl
  | cons c value ih =>
    have hcons : escape (c :: value) = escapeOne c ++ escape value := rfl
    obtain ⟨next, hread⟩ := readString_escapeOne c position
      (escape value ++ (CodePoint.ofChar '"' :: rest))
    rw [hcons, List.append_assoc, hread, ih, extendString_ok, List.length_append]
    simp only [Except.ok.injEq, Prod.mk.injEq, true_and]
    omega

end Keyring.Query
