/-!
# Traced answers

An answer together with what was seen on the way to it, in order. What is seen never changes an
answer; a later step sees its observations after those of an earlier one.
-/

namespace Keyring

/-- A value and the observations made while it was found, the first one first. -/
structure Traced (ω α : Type) where
  value : α
  trace : List ω
  deriving DecidableEq

namespace Traced

variable {ω α β : Type}

def observe (o : ω) : Traced ω Unit := ⟨(), [o]⟩

instance : Monad (Traced ω) where
  pure a := ⟨a, []⟩
  bind x f :=
    let y := f x.value
    ⟨y.value, x.trace ++ y.trace⟩

@[ext] theorem ext {x y : Traced ω α} (hv : x.value = y.value) (ht : x.trace = y.trace) :
    x = y := by
  cases x
  cases y
  cases hv
  cases ht
  rfl

@[simp] theorem value_pure (a : α) : (pure a : Traced ω α).value = a := rfl

@[simp] theorem trace_pure (a : α) : (pure a : Traced ω α).trace = [] := rfl

@[simp] theorem value_bind (x : Traced ω α) (f : α → Traced ω β) :
    (x >>= f).value = (f x.value).value := rfl

@[simp] theorem trace_bind (x : Traced ω α) (f : α → Traced ω β) :
    (x >>= f).trace = x.trace ++ (f x.value).trace := rfl

instance : LawfulMonad (Traced ω) :=
  LawfulMonad.mk' (Traced ω)
    (fun x => ext rfl (List.append_nil x.trace))
    (fun _ _ => ext rfl (List.nil_append _))
    (fun _ _ _ => ext rfl (List.append_assoc _ _ _))

end Traced

end Keyring
