import Keyring.Proofs.Trace
import Keyring.Query.Selection

/-!
# Selections from collections

All helpers select by one test: whether an entry has a candidate and the expression holds of it. The
whole of a list is asked to filter it, and the list up to the first entry that is selected to find
that one. A mapping is filtered as the list of its keys or of its values.
-/

namespace Keyring.Query

variable {α κ ν : Type}

def selected (candidate : α → Option Candidate) (e : Expr) (a : α) : Bool :=
  (candidate a).any fun c => (evaluate e c).value

/-- What is asked, and logged, to find out whether an entry is selected. -/
def asked (candidate : α → Option Candidate) (e : Expr) (a : α) : List Observation :=
  (candidate a).elim [] fun c => (evaluate e c).trace

section

variable (candidate : α → Option Candidate) (e : Expr)

theorem value_accepts (a : α) : (accepts e (candidate a)).value = selected candidate e a := by
  rw [selected]
  cases candidate a <;> rfl

theorem trace_accepts (a : α) : (accepts e (candidate a)).trace = asked candidate e a := by
  rw [asked]
  cases candidate a <;> rfl

theorem value_selectAll (as : List α) :
    (selectAll candidate e as).value = as.filter (selected candidate e) := by
  induction as with
  | nil => rfl
  | cons a as ih =>
    rw [selectAll, Traced.value_bind, Traced.value_bind, Traced.value_pure, value_accepts, ih,
      List.filter_cons]

theorem trace_selectAll (as : List α) :
    (selectAll candidate e as).trace = as.flatMap (asked candidate e) := by
  induction as with
  | nil => rfl
  | cons a as ih =>
    rw [selectAll, Traced.trace_bind, Traced.trace_bind, Traced.trace_pure, trace_accepts, ih,
      List.append_nil, List.flatMap_cons]

theorem value_selectFirst (as : List α) :
    (selectFirst candidate e as).value = as.find? (selected candidate e) := by
  induction as with
  | nil => rfl
  | cons a as ih =>
    rw [selectFirst, Traced.value_bind, value_accepts, List.find?_cons]
    cases selected candidate e a with
    | true => rfl
    | false => exact ih

theorem trace_selectFirst (as : List α) :
    (selectFirst candidate e as).trace =
      (throughFirst (selected candidate e) as).flatMap (asked candidate e) := by
  induction as with
  | nil => rfl
  | cons a as ih =>
    rw [selectFirst, Traced.trace_bind, value_accepts, trace_accepts, throughFirst_cons]
    cases selected candidate e a with
    | true => rfl
    | false => exact congrArg _ ih

/-- Entries are selected by a part of them as the list of those parts is. -/
theorem selectAll_part {β : Type} (part : β → α) (bs : List β) :
    (selectAll (fun b => candidate (part b)) e bs).value.map part =
        (selectAll candidate e (bs.map part)).value ∧
      (selectAll (fun b => candidate (part b)) e bs).trace =
        (selectAll candidate e (bs.map part)).trace := by
  constructor
  · rw [value_selectAll, value_selectAll, List.filter_map]
    rfl
  · rw [trace_selectAll, trace_selectAll, List.flatMap_map]
    rfl

end

/-- The helpers make one selection. A list is filtered by whether an entry has a candidate of which
the expression holds; the first match is the first of what the filter keeps, and what is asked to
find it is what the filter asks of the entries up to it. A mapping is filtered as its keys or its
values are, each entry as it is. -/
theorem selections_agree (context : Log.Context) (candidate : α → Option Candidate) (e : Expr)
    (candidates : List α) :
    (filterCandidates context candidate e candidates).value =
        candidates.filter (selected candidate e) ∧
      (filterCandidates context candidate e candidates).observations =
        candidates.flatMap (asked candidate e) ∧
      (firstMatch context candidate e candidates).value =
        (filterCandidates context candidate e candidates).value.head? ∧
      (∀ default, (firstOrDefault context candidate e candidates default).value =
        (filterCandidates context candidate e candidates).value.head?.getD default) ∧
      (∀ default, (firstOrDefault context candidate e candidates default).observations =
        (firstMatch context candidate e candidates).observations) ∧
      (firstMatch context candidate e candidates).observations =
        (filterCandidates context candidate e
          (throughFirst (selected candidate e) candidates)).observations ∧
      (firstMatch context candidate e candidates).observations <+:
        (filterCandidates context candidate e candidates).observations ∧
      (∀ entries : List (α × ν),
        (filterKeys context candidate e entries).value =
            entries.filter (fun entry => selected candidate e entry.1) ∧
          (filterKeys context candidate e entries).value.map Prod.fst =
            (filterCandidates context candidate e (entries.map Prod.fst)).value ∧
          (filterKeys context candidate e entries).observations =
            (filterCandidates context candidate e (entries.map Prod.fst)).observations) ∧
      ∀ entries : List (κ × α),
        (filterValues context candidate e entries).value =
            entries.filter (fun entry => selected candidate e entry.2) ∧
          (filterValues context candidate e entries).value.map Prod.snd =
            (filterCandidates context candidate e (entries.map Prod.snd)).value ∧
          (filterValues context candidate e entries).observations =
            (filterCandidates context candidate e (entries.map Prod.snd)).observations := by
  have hfirst : (selectFirst candidate e candidates).value =
      (selectAll candidate e candidates).value.head? := by
    rw [value_selectFirst, value_selectAll, List.head?_filter]
  have hthrough : (selectFirst candidate e candidates).trace =
      (selectAll candidate e (throughFirst (selected candidate e) candidates)).trace := by
    rw [trace_selectFirst, trace_selectAll]
  have hbefore : (selectFirst candidate e candidates).trace <+:
      (selectAll candidate e candidates).trace := by
    obtain ⟨later, hlater⟩ := throughFirst_isPrefix (selected candidate e) candidates
    rw [hthrough, trace_selectAll, trace_selectAll candidate e candidates, ← hlater,
      List.flatMap_append, hlater]
    exact List.prefix_append _ _
  refine ⟨value_selectAll candidate e candidates, trace_selectAll candidate e candidates, hfirst,
    fun default => congrArg (fun first => first.getD default) hfirst, fun _ => rfl, hthrough,
    hbefore, fun entries => ⟨?_, ?_⟩, fun entries => ⟨?_, ?_⟩⟩
  · exact value_selectAll (fun entry => candidate entry.1) e entries
  · exact selectAll_part candidate e Prod.fst entries
  · exact value_selectAll (fun entry => candidate entry.2) e entries
  · exact selectAll_part candidate e Prod.snd entries

end Keyring.Query
