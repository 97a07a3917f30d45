import Keyring.Number.Binary64
import Keyring.Query.Expr
import Keyring.Query.Scope
import Keyring.Text.Utf8

/-!
# Property values

What a candidate may answer when a property is read, and how answers compare with literals: text
with text, booleans with booleans, numbers with numbers by exact value, and nothing else.
-/

namespace Keyring

/-- The value of a property. -/
inductive Value where
  | null
  | boolean (value : Bool)
  | text (value : Text)
  | integer (value : Int)
  | number (value : Binary64)
  | scope (value : Scope)
  | bytes (value : Bytes)
  | list (items : List Value)
  /-- The mark of a property that is not there. -/
  | absent
  /-- A function without parameters that returns a value. -/
  | function (result : Value)
  | method
  deriving Inhabited

namespace Value

def typeName : Value → Text
  | null => "NoneType"
  | boolean _ => "bool"
  | text _ => "str"
  | integer _ => "int"
  | number _ => "float"
  | scope _ => "CredentialsScope"
  | bytes _ => "bytes"
  | list _ => "list"
  | absent => "_Absent"
  | function _ => "function"
  | method => "method"

def isCallable : Value → Bool
  | function _ => true
  | method => true
  | _ => false

def isTruthy : Value → Bool
  | null => false
  | boolean value => value
  | text value => !value.isEmpty
  | integer value => value != 0
  | number (.finite x) => x.units != 0
  | bytes value => !value.isEmpty
  | list items => !items.isEmpty
  | absent => false
  | _ => true

def isText (name : Text) : Value → Bool
  | text t => t == name
  | _ => false

/-- Whether a name is among the names that a value lists; a text lists its parts. Of these values no
other can be searched: other containers are of classes with code of their own. -/
def lists? (name : Text) : Value → Option Bool
  | list items => some (items.any (isText name))
  | text t => some (t.contains name)
  | _ => none

end Value

namespace Query

/-- Whether a property value equals a literal of the same kind. -/
def Literal.equals : Literal → Value → Bool
  | .text expected, .text actual => actual == expected
  | .boolean expected, .boolean actual => actual == expected
  | .number expected, .integer actual => expected.value == actual * Binary64.unitsPerOne
  | .number expected, .number (.finite actual) => expected.value == actual.value
  | _, _ => false

inductive NoLiteral where
  | unsupported (typeName : Text)
  | tooLarge
  | invalid (part : InvalidPart)
  deriving DecidableEq

def NoLiteral.message : NoLiteral → Text
  | .unsupported typeName => "Unsupported literal type: " ++ typeName
  | .tooLarge => "int too large to convert to float"
  | .invalid part => part.message

def Literal.ofRounded : Option Binary64.Finite → Except NoLiteral Literal
  | some x => .ok (.number x)
  | none => .error .tooLarge

/-- The literal of a value: a boolean, a text, or a number, which an integer is rounded to. -/
def Literal.ofValue : Value → Except NoLiteral Literal
  | .boolean value => .ok (.boolean value)
  | .text value => .ok (.text value)
  | .integer value => Literal.ofRounded (Binary64.Finite.ofInt? value)
  | .number value =>
    match Literal.ofBinary64 value with
    | .ok literal => .ok literal
    | .error part => .error (.invalid part)
  | other => .error (.unsupported other.typeName)

end Query

end Keyring
