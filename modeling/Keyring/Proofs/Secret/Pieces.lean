import Keyring.Proofs.Secret.Envelope
import Keyring.Secret.Redaction

/-!
# Documents in pieces

Redaction reads a document from the left. What it passes over or masks as a whole are the pieces of
the document. The start of an element begins a piece wherever it stands, so a document may be cut
there and the parts read on their own.
-/

namespace Keyring.Secret

/-- An element from the end of its opening tag to the start of its closing one, around a text. -/
def element (t : Text) : Text :=
  elementStart :: (t ++ [elementEnd])

namespace IsCandidate

variable {x : Text}

end IsCandidate

inductive Piece where
  | kept (c : CodePoint)
  /-- An element and the envelope in it. -/
  | secret (envelope : Text)

namespace Piece

def masked : Piece → Text
  | kept c => [c]
  | secret _ => element redactedMask

def isSecret : Piece → Bool
  | kept _ => false
  | secret _ => true

end Piece

def pieces (isSecret : Text → Bool) (t : Text) : List Piece :=
  match t with
  | [] => []
  | c :: rest =>
    match if c = elementStart then bracedElement? rest else none with
    | some braced =>
      let others := pieces isSecret (rest.drop (braced.length + 1))
      if isSecret braced then .secret braced :: others
      else (element braced).map .kept ++ others
    | none => .kept c :: pieces isSecret rest
termination_by t.length
decreasing_by
  · simp only [List.length_drop, List.length_cons]
    omega
  · simp only [List.length_cons]
    omega

section

variable {isSecret : Text → Bool} {x : Text}

end

end Keyring.Secret
