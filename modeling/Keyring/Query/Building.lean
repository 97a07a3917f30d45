import Keyring.Candidate.Value

/-!
# Building expressions

Expressions made from parts, without query text.
-/

namespace Keyring.Query.Expr

/-- Holds when all hold: of no expressions, always. -/
def allOf : List Expr → Expr
  | [] => .always
  | first :: rest => rest.foldl .and first

/-- Holds when one holds: of no expressions, never. -/
def anyOf : List Expr → Expr
  | [] => .never
  | first :: rest => rest.foldl .or first

def noneOf (expressions : List Expr) : Expr :=
  .not (anyOf expressions)

def withId (id : Text) : Expr :=
  .equals .id (.text id)

def withUsername (username : Text) : Expr :=
  .equals .username (.text username)

def withProperty (name : Text) (value : Value) : Except NoLiteral Expr :=
  match Literal.ofValue value with
  | .error reason => .error reason
  | .ok literal =>
    match ofProperty name literal with
    | .ok e => .ok e
    | .error part => .error (.invalid part)

def withScope (scope : Scope) : Expr :=
  .scopeIn (ScopeSet.empty.insert scope)

def withScopes (scopes : List Scope) : Expr :=
  .scopeIn (.ofList scopes)

end Keyring.Query.Expr
