import Keyring.Number.Layout
import Keyring.Query.Name
import Keyring.Query.Scope
import Keyring.Text.Quoted

/-!
# Query expressions

What a query asks of a credential. Names in an expression are valid and its numbers finite, so
every expression can be written as query text.
-/

namespace Keyring.Query

inductive Literal where
  | text (value : Text)
  | number (value : Binary64.Finite)
  | boolean (value : Bool)
  deriving DecidableEq, Hashable

inductive Expr where
  | always
  | never
  | not (operand : Expr)
  | and (left right : Expr)
  | or (left right : Expr)
  | instanceOf (typeName : Name)
  | equals (property : Name) (value : Literal)
  | scopeIn (scopes : ScopeSet)
  deriving DecidableEq, Hashable

/-- Why an expression cannot be built from given parts. -/
inductive InvalidPart where
  | typeName (text : Text)
  | propertyName (text : Text)
  | number (value : Binary64)
  deriving DecidableEq

def InvalidPart.message : InvalidPart → Text
  | .typeName text => "Invalid type name: " ++ text.quoted
  | .propertyName text => "Invalid property name: " ++ text.quoted
  | .number value => "Number literal must be finite, got " ++ value.render

def Literal.ofBinary64 : Binary64 → Except InvalidPart Literal
  | .finite x => .ok (.number x)
  | other => .error (.number other)

def Literal.unsignZero : Literal → Literal
  | .number x => .number x.unsignZero
  | other => other

namespace Expr

def ofTypeName (text : Text) : Except InvalidPart Expr :=
  match Name.ofText? text with
  | some name => .ok (.instanceOf name)
  | none => .error (.typeName text)

def ofProperty (text : Text) (value : Literal) : Except InvalidPart Expr :=
  match Name.ofText? text with
  | some name => .ok (.equals name value)
  | none => .error (.propertyName text)

def negate : Nat → Expr → Expr
  | 0, e => e
  | count + 1, e => .not (negate count e)

inductive Connective where
  | conjunction
  | disjunction
  deriving DecidableEq

def Connective.node : Connective → Expr → Expr → Expr
  | .conjunction => Expr.and
  | .disjunction => Expr.or

/-- The operands of a chain of one connective that is nested to the left, from left to right. An
expression that is no such node is its own only operand. -/
def operands (connective : Connective) : Expr → List Expr
  | .and left right =>
    match connective with
    | .conjunction => operands connective left ++ [right]
    | .disjunction => [.and left right]
  | .or left right =>
    match connective with
    | .conjunction => [.or left right]
    | .disjunction => operands connective left ++ [right]
  | e => [e]

def stripNegations : Expr → Nat × Expr
  | .not operand =>
    let inner := stripNegations operand
    (inner.1 + 1, inner.2)
  | e => (0, e)

/-- Membership of the empty set of scopes is written as the condition that never holds. -/
def norm : Expr → Expr
  | .not operand => .not operand.norm
  | .and left right => .and left.norm right.norm
  | .or left right => .or left.norm right.norm
  | .scopeIn scopes => if scopes = .empty then .never else .scopeIn scopes
  | e => e

def unsignZeros : Expr → Expr
  | .not operand => .not operand.unsignZeros
  | .and left right => .and left.unsignZeros right.unsignZeros
  | .or left right => .or left.unsignZeros right.unsignZeros
  | .equals property value => .equals property value.unsignZero
  | e => e

/-- Equality of expressions part by part; the two zeros are equal numbers. -/
def same (a b : Expr) : Bool :=
  a.unsignZeros == b.unsignZeros

def key (e : Expr) : UInt64 :=
  hash e.unsignZeros

end Expr

end Keyring.Query
