import Keyring.Candidate.Value
import Keyring.Log.Event
import Keyring.Text.Identifier
import Keyring.Trace

/-!
# Candidates

A candidate is what a query is asked about: an object with the names of its types, members that may
run code of their own when they are read or called, and entries if it is a dict. Reading a candidate
leaves a trace of every member looked up, run or called.
-/

namespace Keyring

/-- The kind of an exception that a candidate's own code raises. An `other` class does not extend
that of a missing attribute. -/
inductive ErrorKind where
  | missingAttribute
  | key
  | runtime
  | type
  | value
  | other (name : Text)
  deriving DecidableEq

def ErrorKind.name : ErrorKind → Text
  | missingAttribute => "AttributeError"
  | key => "KeyError"
  | runtime => "RuntimeError"
  | type => "TypeError"
  | value => "ValueError"
  | other name => name

/-- An exception met on the way to a value: one that the candidate raised, a call of what is no
function, a class of the candidate that is none, or the report that a property could not be read,
which names the cause if there is one. -/
inductive Fault where
  | raised (kind : ErrorKind)
  | notCallable (typeName : Text)
  | notClass
  | lookup (property : Text) (cause : Option Text)
  deriving DecidableEq

def Fault.name : Fault → Text
  | raised kind => kind.name
  | notCallable _ => ErrorKind.type.name
  | notClass => ErrorKind.type.name
  | lookup _ _ => "PropertyLookupFailure"

def Fault.notCallableMessage (typeName : Text) : Text :=
  "'" ++ (typeName ++ ("' object is not callable" : Text))

def Fault.notClassMessage : Text := "issubclass() arg 1 must be a class"

inductive Access where
  | lookup (name : Text)
  | run (label : Text)
  | call (name : Text)
  deriving DecidableEq

/-- What is seen while a query is asked about a candidate. -/
inductive Observation where
  | access (access : Access)
  | event (event : Log.Event)
  deriving DecidableEq

namespace Observation

def event? : Observation → Option Log.Event
  | event e => some e
  | access _ => none

def run? : Observation → Option Text
  | access (.run label) => some label
  | _ => none

end Observation

abbrev Outcome (α : Type) := Except Fault α

def Value.lists (name : Text) (value : Value) : Outcome Bool :=
  match value.lists? name with
  | some answer => .ok answer
  | none => .error (.raised .type)

def Access.observe (a : Access) : Traced Observation Unit :=
  .observe (.access a)

/-- A member of a candidate: a method with no parameter or with one, or an attribute, which is
computed when it is read or stored. -/
inductive Member where
  | method (outcome : Outcome Value)
  | keyed (outcome : Text → Outcome Value)
  | computed (outcome : Outcome Value)
  | stored (value : Value)

/-- The qualified name of a type. Types of the module `builtins` are known by their bare name. -/
structure TypeName where
  modulePath : Text
  name : Text

def TypeName.qualified (t : TypeName) : Text :=
  if t.modulePath = "builtins" then t.name else t.modulePath ++ ("." ++ t.name)

def TypeName.ofText (t : Text) : TypeName :=
  match (Text.splitOn '.' t).reverse with
  | name :: path :: paths => ⟨Text.join "." (path :: paths).reverse, name⟩
  | _ => ⟨"builtins", t⟩

/-- Something that a query can be asked about. -/
structure Candidate where
  /-- The qualified names of its type and all supertypes, the nearest first. -/
  typeNames : List Text
  members : List (Text × Member)
  entries : Option (List (Text × Value))

namespace Candidate

def rootType : Text := "object"

def mappingType : Text := "dict"

/-- The methods of a dict. Mappings are dicts here. -/
def mappingMembers : List Text :=
  ["clear", "copy", "fromkeys", "get", "items", "keys", "pop", "popitem", "setdefault", "update",
    "values"].map Text.ofString

def nothing : Candidate := ⟨["NoneType", rootType], [], none⟩

def object (types : List TypeName) (members : List (Text × Member)) : Candidate :=
  ⟨types.map TypeName.qualified ++ [rootType], members, none⟩

def mapping (types : List TypeName) (members : List (Text × Member))
    (entries : List (Text × Value)) : Candidate :=
  ⟨types.map TypeName.qualified ++ [mappingType, rootType], members, some entries⟩

def member? (c : Candidate) (name : Text) : Option Member :=
  (c.members.find? fun entry => entry.1 == name).map (·.2)

def entryOf (entries : List (Text × Value)) (name : Text) : Option Value :=
  (entries.find? fun entry => entry.1 == name).map (·.2)

/-- Whether a candidate answers the four questions of a view itself. Nothing of it is run to find
out. -/
def isView (c : Candidate) : Bool :=
  ([["id", "scope"], ["type_names", "get_property"]].flatten.map Text.ofString).all
    fun name => (c.member? name).isSome

end Candidate

inductive Attribute where
  | value (value : Value)
  | method (outcome : Outcome Value)
  | keyed (outcome : Text → Outcome Value)
  /-- A method of every mapping. -/
  | standard

namespace Attribute

def isCallable : Attribute → Bool
  | value v => v.isCallable
  | _ => true

def toValue : Attribute → Value
  | value v => v
  | _ => .method

def call (name : Text) : Attribute → Traced Observation (Outcome Value)
  | value (.function result) => do
    (Access.call name).observe
    return .ok result
  | method outcome => do
    (Access.call name).observe
    (Access.run name).observe
    return outcome
  | value v =>
    if v.isCallable then do
      (Access.call name).observe
      return .error (.raised .type)
    else return .error (.notCallable v.typeName)
  | _ => do
    (Access.call name).observe
    return .error (.raised .type)

def callWith (name argument : Text) : Attribute → Traced Observation (Outcome Value)
  | keyed outcome => do
    (Access.call name).observe
    (Access.run (name ++ (":" ++ argument))).observe
    return outcome argument
  | value v =>
    if v.isCallable then do
      (Access.call name).observe
      return .error (.raised .type)
    else return .error (.notCallable v.typeName)
  | _ => do
    (Access.call name).observe
    return .error (.raised .type)

end Attribute

namespace Candidate

/-- Reads a member by name. A computed attribute runs, and what it raises is the outcome; a member
that is not there raises too. -/
def read (c : Candidate) (name : Text) : Traced Observation (Outcome Attribute) := do
  (Access.lookup name).observe
  match c.member? name with
  | some (.method outcome) => return .ok (.method outcome)
  | some (.keyed outcome) => return .ok (.keyed outcome)
  | some (.stored value) => return .ok (.value value)
  | some (.computed outcome) =>
    (Access.run name).observe
    match outcome with
    | .ok value => return .ok (.value value)
    | .error fault => return .error fault
  | none =>
    if c.entries.isSome && mappingMembers.contains name then return .ok .standard
    else return .error (.raised .missingAttribute)

/-- Reads a member that need not be there: a missing attribute is no fault, and an exception of an
`other` class is one. -/
def read? (c : Candidate) (name : Text) : Traced Observation (Outcome (Option Attribute)) := do
  match ← c.read name with
  | .ok found => return .ok (some found)
  | .error (.raised .missingAttribute) => return .ok none
  | .error fault => return .error fault

end Candidate

end Keyring
