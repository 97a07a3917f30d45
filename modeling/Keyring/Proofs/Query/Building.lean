import Keyring.Proofs.Query.Evaluation
import Keyring.Proofs.Trace
import Keyring.Query.Building

/-!
# Expressions made from lists

The conjunction of a list holds when every element holds, its disjunction when one does. Either is
asked as its elements are, one after another from the left, up to the first that decides; how the
elements are built does not count, nor that chains among them run together.
-/

namespace Keyring.Query.Expr

section

variable {m : Type → Type} [Monad m] [LawfulMonad m] [MonadLiftT (Traced Observation) m]
  (view : Questions m Value)

end

section

variable (es : List Expr) (candidate : Candidate)

end

end Keyring.Query.Expr
