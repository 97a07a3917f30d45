import Keyring.Trace

/-!
# Traced searches

A list whose elements are asked one after another, up to the first answer that decides. The elements
that are asked are the ones before it and the one that decides; what is seen is what each of them
shows, in order.
-/

namespace Keyring

variable {α ω : Type}

/-- The elements of a list up to and with the first one that decides; all, if none does. -/
def throughFirst (decides : α → Bool) (as : List α) : List α :=
  as.takeWhile (fun a => !decides a) ++ (as.find? decides).toList

theorem throughFirst_cons (decides : α → Bool) (a : α) (as : List α) :
    throughFirst decides (a :: as) =
      if decides a then [a] else a :: throughFirst decides as := by
  cases h : decides a <;> simp [throughFirst, h]

theorem throughFirst_isPrefix (decides : α → Bool) (as : List α) :
    throughFirst decides as <+: as := by
  induction as with
  | nil => exact List.prefix_rfl
  | cons a as ih =>
    rw [throughFirst_cons]
    split
    · exact List.prefix_append [a] as
    · exact (List.prefix_cons_inj a).mpr ih

namespace Traced

variable (ask : α → Traced ω Bool) (as : List α)

end Traced

end Keyring
