import Keyring.Proofs.Base64.Detection

/-!
# The order of the forms

Detection stops at the first form that accepts, but all that accept read the same bytes. So the order
of the forms decides how a text is called and never what it holds, and a form that comes last decides
texts only that were none before.
-/

namespace Keyring.Base64

theorem Form.decode_eq_some {form : Form} {t : Text} {b : Bytes} :
    form.decode t = some b ↔ form.chunked = hasBreak t ∧
      (form.chunked = true → removeBreaks t ≠ []) ∧
        decodeLine form.alphabet (removeBreaks t) = some b := by
  cases hc : form.chunked with
  | true =>
    simp only [decode, hc, if_true, Option.ite_none_right_eq_some, Bool.and_eq_true,
      Bool.not_eq_true', List.isEmpty_eq_false_iff, forall_const, and_assoc, eq_comm (a := true)]
  | false =>
    simp only [decode, hc, Bool.false_eq_true, if_false, false_implies, true_and]
    cases hb : hasBreak t with
    | true => simp [decodeLine_of_hasBreak hb]
    | false => simp [removeBreaks_of_hasBreak hb]

/-- What any form reads is what detection reads. -/
theorem decode_of_form {form : Form} {t : Text} {b : Bytes} (h : form.decode t = some b) :
    decode t = some b := by
  obtain ⟨hchunked, hne, hline⟩ := Form.decode_eq_some.mp h
  have hempty : ¬(hasBreak t && (removeBreaks t).isEmpty) = true := by
    rw [← hchunked]
    simpa using hne
  rw [decode_eq, if_neg hempty]
  exact decodeEither_of_decodeLine hline

theorem decode_eq_none_iff {t : Text} :
    decode t = none ↔ ∀ form ∈ Form.all, form.decode t = none := by
  simp only [decode, detect, detectAmong, Option.map_eq_none_iff, List.findSome?_eq_none_iff]

theorem decode_eq_of_perm {forms : List Form} (h : forms.Perm Form.all) (t : Text) :
    (detectAmong forms t).map (·.2) = decode t := by
  cases hdetect : detectAmong forms t with
  | none =>
    rw [detectAmong, List.findSome?_eq_none_iff] at hdetect
    refine (decode_eq_none_iff.mpr fun form hform => ?_).symm
    exact Option.map_eq_none_iff.mp (hdetect form (h.mem_iff.mpr hform))
  | some found =>
    obtain ⟨form, -, hfound⟩ := List.exists_of_findSome?_eq_some hdetect
    obtain ⟨b, hb, rfl⟩ := Option.map_eq_some_iff.mp hfound
    exact (decode_of_form hb).symm

/-- A form together with how it is read, which may be in any way. -/
structure Reader where
  name : Text
  form : Form
  read : Text → Option Bytes

def Form.reader (form : Form) : Reader :=
  ⟨form.name, form, form.decode⟩

def detectWith (readers : List Reader) (t : Text) : Option (Reader × Bytes) :=
  readers.findSome? fun reader => (reader.read t).map fun bytes => (reader, bytes)

theorem detectWith_reader (forms : List Form) (t : Text) :
    detectWith (forms.map Form.reader) t =
      (detectAmong forms t).map fun found => (found.1.reader, found.2) := by
  induction forms with
  | nil => rfl
  | cons form forms ih =>
    rw [detectWith, detectAmong, List.map_cons, List.findSome?_cons, List.findSome?_cons]
    cases hread : form.decode t with
    | none =>
      simp only [Form.reader, hread, Option.map_none]
      exact ih
    | some b => simp only [Form.reader, hread, Option.map_some]

theorem detectWith_eq_none_iff {readers : List Reader} {t : Text} :
    detectWith readers t = none ↔ ∀ reader ∈ readers, reader.read t = none := by
  simp only [detectWith, List.findSome?_eq_none_iff, Option.map_eq_none_iff]

/-- A reader that comes last is asked where the others accept nothing. -/
theorem detectWith_concat (readers : List Reader) (last : Reader) (t : Text) :
    detectWith (readers ++ [last]) t =
      (detectWith readers t).or ((last.read t).map fun bytes => (last, bytes)) := by
  rw [detectWith, List.findSome?_append, List.findSome?_singleton]
  rfl

/-- All forms that accept a text read the same bytes, and so detection does in every order of the
forms. A form that is put behind others, read in whatever way, is found exactly where it accepts a
text that none of them accepts, and nothing changes elsewhere. -/
theorem order_never_decides (t : Text) :
    (∀ first ∈ Form.all, ∀ second ∈ Form.all, ∀ a b,
      first.decode t = some a → second.decode t = some b → a = b) ∧
    (∀ forms, forms.Perm Form.all → (detectAmong forms t).map (·.2) = decode t) ∧
    detectWith (Form.all.map Form.reader) t =
      (detect t).map (fun found => (found.1.reader, found.2)) ∧
    ∀ readers last, detectWith (readers ++ [last]) t ≠ detectWith readers t ↔
      (∀ reader ∈ readers, reader.read t = none) ∧ (last.read t).isSome = true := by
  refine ⟨?_, fun forms h => decode_eq_of_perm h t, detectWith_reader Form.all t, ?_⟩
  · intro first _ second _ a b ha hb
    have hsame := (decode_of_form ha).symm.trans (decode_of_form hb)
    exact Option.some.inj hsame
  · intro readers last
    rw [detectWith_concat, ← detectWith_eq_none_iff]
    cases detectWith readers t <;> cases last.read t <;> simp

theorem order_never_decides_reversed :
    Form.all.reverse.Perm Form.all ∧
      detectAmong Form.all.reverse ("QUJD" : Text) = some (.urlSafe, [0x41, 0x42, 0x43]) ∧
      detect ("QUJD" : Text) = some (.standard, [0x41, 0x42, 0x43]) ∧
      (detectAmong Form.all.reverse ("QUJD" : Text)).map (·.2) = decode ("QUJD" : Text) := by
  have hperm : Form.all.reverse.Perm Form.all := List.reverse_perm Form.all
  exact ⟨hperm, rfl, rfl, (order_never_decides ("QUJD" : Text)).2.1 _ hperm⟩

end Keyring.Base64
