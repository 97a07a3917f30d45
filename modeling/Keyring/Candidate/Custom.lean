import Keyring.Candidate.Basic

/-!
# Values of classes with code of their own

The class of a value may compute the class that the value claims to have, and may decide what the
value equals and what it contains. Such code may raise, and an equality may give an object that is
no boolean.
-/

namespace Keyring

/-- What a comparison gives. An object that is no boolean has a truth of its own, and an equality
with booleans. -/
inductive Answer where
  | boolean (value : Bool)
  | object (truth : Outcome Bool) (equals : Bool → Except Fault Answer)

namespace Answer

def isTrue : Answer → Outcome Bool
  | boolean value => .ok value
  | object truth _ => truth

def equals : Answer → Bool → Outcome Answer
  | boolean value, expected => .ok (.boolean (value == expected))
  | object _ equals, expected => equals expected

end Answer

inductive Kind where
  | text
  | boolean
  | integer
  | number
  deriving DecidableEq

/-- A value of a class with code of its own. -/
structure Custom where
  /-- The built-in class that its class extends. -/
  base : Option Kind
  /-- No class extends that of the booleans. -/
  base_ne : base ≠ some .boolean
  /-- Whether the class that it claims to have is, or extends, a built-in one. -/
  claims : Kind → Outcome Bool
  equals : Query.Literal → Outcome Answer
  contains : Text → Outcome Bool

namespace Custom

/-- The class that a value claims to have is asked for only if its class is not of the kind. -/
def isA (c : Custom) (kind : Kind) : Outcome Bool :=
  if c.base = some kind then .ok true else c.claims kind

def isNumber (c : Custom) : Outcome Bool := do
  let numeric ← if ← c.isA .integer then pure true else c.isA .number
  if numeric then return !(← c.isA .boolean) else return false

/-- Compares a value with a literal: it has to be of the literal's kind, and is then asked by its
own equality. -/
def compare (c : Custom) : Query.Literal → Outcome Answer
  | .text t => do
    if ← c.isA .text then c.equals (.text t) else return .boolean false
  | .boolean _ => do
    -- no value of a class of its own is one of the two booleans
    let _ ← c.isA .boolean
    return .boolean false
  | .number x => do
    if ← c.isNumber then c.equals (.number x) else return .boolean false

end Custom

/-- What a lookup finds. -/
inductive Found where
  | plain (value : Value)
  | custom (value : Custom)

def Query.Literal.compare (expected : Query.Literal) : Found → Outcome Answer
  | .plain value => .ok (.boolean (expected.equals value))
  | .custom c => c.compare expected

end Keyring
