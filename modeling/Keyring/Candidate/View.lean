import Keyring.Candidate.Custom

/-!
# Views of candidates

A query asks a candidate for its identifier, its scope, the names of its types and its properties.
A candidate that answers these questions itself is asked directly. Any other is wrapped: a property
is what its accessor method returns, else its attribute that is no function, else, in a mapping, the
entry of that name.
-/

namespace Keyring

/-- The questions that a query asks, in the monad in which they are answered: it may keep a state
on which later answers depend. -/
structure Questions (m : Type → Type) (V : Type) where
  id : m (Outcome V)
  scope : m (Outcome V)
  typeNames : m (Outcome V)
  property : Text → m (Outcome V)

def Questions.map {m n : Type → Type} {V W : Type} (hand : m (Outcome V) → n (Outcome W))
    (view : Questions m V) : Questions n W where
  id := hand view.id
  scope := hand view.scope
  typeNames := hand view.typeNames
  property name := hand (view.property name)

abbrev View := Questions (Traced Observation) Value

abbrev FoundView := Questions (Traced Observation) Found

/-- A view that finds plain values only. -/
def View.found (view : View) : FoundView :=
  view.map fun ask => do return (← ask).map .plain

namespace Candidate

def accessorStarts : List Text :=
  ["get_", "is_"].map Text.ofString

def classMember : Text := "__class__"

/-- The entries of a candidate that is a mapping. To find out, the candidate is asked for its class:
one that is computed runs, and neither what it gives nor a method is a class. No value of a property
is a class, so none that is computed can be taken for one. A stored attribute hides no class. -/
def asMapping (c : Candidate) : Traced Observation (Outcome (Option (List (Text × Value)))) := do
  (Access.lookup classMember).observe
  match c.member? classMember with
  | some (.computed outcome) =>
    (Access.run classMember).observe
    match outcome with
    | .ok _ => return .error .notClass
    | .error fault => return .error fault
  | some (.method _) => return .error .notClass
  | some (.keyed _) => return .error .notClass
  | _ => return .ok c.entries

/-- What is left when no member holds a property: the entry of that name in a mapping. The mapping
is asked through its own member `get`, and one that hides the usual member takes no key and a
default. -/
def entry (c : Candidate) (name : Text) : Traced Observation (Outcome Value) := do
  match ← c.asMapping with
  | .error fault => return .error fault
  | .ok none => return .ok .absent
  | .ok (some entries) =>
    match ← c.read "get" with
    | .error fault => return .error fault
    | .ok .standard =>
      (Access.call "get").observe
      return .ok ((entryOf entries name).getD .absent)
    | .ok found =>
      if found.isCallable then
        (Access.call "get").observe
        return .error (.raised .type)
      else return .error (.notCallable found.toValue.typeName)

def plainProperty (c : Candidate) (name : Text) : Traced Observation (Outcome Value) := do
  match ← c.read? name with
  | .error fault => return .error (.lookup name (some fault.name))
  | .ok none => c.entry name
  | .ok (some (.value .absent)) => c.entry name
  | .ok (some found) =>
    if found.isCallable then return .ok .absent else return .ok found.toValue

/-- The outcome of the first accessor method of a property that is there, or of `otherwise`. -/
def throughAccessors (c : Candidate) (name : Text)
    (otherwise : Traced Observation (Outcome Value)) :
    List Text → Traced Observation (Outcome Value)
  | [] => otherwise
  | start :: rest => do
    match ← c.read? (start ++ name) with
    | .error fault => return .error fault
    | .ok none => c.throughAccessors name otherwise rest
    | .ok (some found) =>
      if found.isCallable then
        match ← found.call (start ++ name) with
        | .ok value => return .ok value
        | .error fault => return .error (.lookup name (some fault.name))
      else c.throughAccessors name otherwise rest

/-- A property of a wrapped candidate. Names that are not for queries are never looked up. -/
def property (c : Candidate) (name : Text) : Traced Observation (Outcome Value) :=
  if name.isPropertyName then c.throughAccessors name (c.plainProperty name) accessorStarts
  else return .ok .absent

def propertyIf (c : Candidate) (name : Text) (isRight : Value → Bool) :
    Traced Observation (Outcome Value) := do
  match ← c.property name with
  | .ok value => return .ok (if isRight value then value else .null)
  | .error (.lookup _ _) => return .ok .null
  | .error fault => return .error fault

def isIdentifier : Value → Bool
  | .text _ => true
  | _ => false

def isScope : Value → Bool
  | .scope _ => true
  | _ => false

def wrapped (c : Candidate) : View where
  id := c.propertyIf "id" isIdentifier
  scope := c.propertyIf "scope" isScope
  typeNames := return .ok (.list (c.typeNames.map Value.text))
  property := c.property

def readValue (c : Candidate) (name : Text) : Traced Observation (Outcome Value) := do
  match ← c.read name with
  | .ok found => return .ok found.toValue
  | .error fault => return .error fault

def direct (c : Candidate) : View where
  id := c.readValue "id"
  scope := c.readValue "scope"
  typeNames := do
    match ← c.read "type_names" with
    | .ok found => found.call "type_names"
    | .error fault => return .error fault
  property name := do
    match ← c.read "get_property" with
    | .ok found => found.callWith "get_property" name
    | .error fault => return .error fault

def view (c : Candidate) : View :=
  if c.isView then c.direct else c.wrapped

def wrappedText (c : Candidate) : Text :=
  "BeanCredentialView(" ++ ((c.typeNames.head?.getD []) ++ (")" : Text))

end Candidate

end Keyring
