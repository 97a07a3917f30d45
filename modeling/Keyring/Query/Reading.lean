import Keyring.Query.Error

/-!
# Reading expressions

An expression is read from tokens in one pass. What has been read of the groups still open is held
as a stack, and a phase says what may come next, so each token either moves the reading on or is the
first that no query can have there.

    or      := and ('||' and)*
    and     := unary ('&&' unary)*
    unary   := '!' unary | primary
    primary := '(' or ')' | 'true' | 'false' | 'instanceof' Name | Name '==' Literal
             | 'scope' '==' ScopeName | 'scope' 'in' '(' ScopeName (',' ScopeName)* ')'
-/

namespace Keyring.Query

/-- What has been read of a group before its next operand. -/
structure Pending where
  /-- The alternatives before the last `||`. -/
  disjunction : Option Expr
  /-- The conditions since then before the last `&&`. -/
  conjunction : Option Expr
  /-- The negations since then. -/
  negations : Nat
  deriving DecidableEq

namespace Pending

def none : Pending := ⟨.none, .none, 0⟩

def join (node : Expr → Expr → Expr) (before : Option Expr) (operand : Expr) : Expr :=
  match before with
  | .none => operand
  | some left => node left operand

def conjoin (p : Pending) (operand : Expr) : Expr :=
  join .and p.conjunction (.negate p.negations operand)

def disjoin (p : Pending) (conjunction : Expr) : Expr :=
  join .or p.disjunction conjunction

end Pending

/-- What may come next in a group. -/
inductive Phase where
  | operand
  /-- A connective, or the end of the group; the conjunction read last is complete. -/
  | connective (conjunction : Expr)
  | typeName
  /-- The `==` after a property name. -/
  | comparison (property : Text)
  | literal (property : Text)
  | scopeRelation
  /-- The scope name or literal after `scope ==`. -/
  | scopeValue
  /-- The parenthesis after `scope in`. -/
  | scopeList
  /-- A scope name in a list that holds `scopes` so far. -/
  | scopeName (scopes : ScopeSet)
  /-- A comma or the end of a list that holds `scopes`. -/
  | scopeSeparator (scopes : ScopeSet)
  deriving DecidableEq

/-- The groups still open, from the inside out, and what may come next in the innermost one. -/
structure Reading where
  outer : List Pending
  group : Pending
  phase : Phase
  deriving DecidableEq

inductive Rejection where
  | unexpected (expected : Expected)
  | invalid (part : InvalidPart)
  deriving DecidableEq

def Rejection.error (token : Token) : Rejection → QueryError
  | .unexpected expected => .malformed (.ofToken expected token)
  | .invalid part => .invalid part

namespace Reading

def scopeWord : Text := "scope"

def inWord : Text := "in"

def start : Reading := ⟨[], .none, .operand⟩

def withOperand (r : Reading) (operand : Expr) : Reading :=
  ⟨r.outer, ⟨r.group.disjunction, .none, 0⟩, .connective (r.group.conjoin operand)⟩

def withOperand? (r : Reading) : Except InvalidPart Expr → Except Rejection Reading
  | .ok operand => .ok (r.withOperand operand)
  | .error part => .error (.invalid part)

def toPhase (r : Reading) (phase : Phase) : Reading :=
  { r with phase }

def expected (r : Reading) : Expected :=
  match r.phase with
  | .operand => .operand
  | .connective _ => if r.outer.isEmpty then .connective else .closing
  | .typeName => .typeName
  | .comparison _ => .comparison
  | .literal _ => .literal
  | .scopeRelation => .comparison
  | .scopeValue => .literal
  | .scopeList => .scopeList
  | .scopeName _ => .scopeName
  | .scopeSeparator _ => .scopeSeparator

def reject (r : Reading) : Except Rejection Reading :=
  .error (.unexpected r.expected)

def literal? : TokenKind → Option (Except InvalidPart Literal)
  | .string value => some (.ok (.text value))
  | .number value => some (Literal.ofBinary64 value)
  | .boolean value => some (.ok (.boolean value))
  | _ => .none

/-- The comparison of a property with a literal; an invalid literal is reported before an invalid
name. -/
def compare (property : Text) : Except InvalidPart Literal → Except InvalidPart Expr
  | .ok value => Expr.ofProperty property value
  | .error part => .error part

def stepOperand (r : Reading) (t : Token) : Except Rejection Reading :=
  match t.kind with
  | .leftParen => .ok ⟨r.group :: r.outer, .none, .operand⟩
  | .boolean value => .ok (r.withOperand (if value then .always else .never))
  | .operator =>
    if t.text = "!" then
      .ok ⟨r.outer, { r.group with negations := r.group.negations + 1 }, .operand⟩
    else r.reject
  | .identifier =>
    if t.text = Text.instanceofWord then .ok (r.toPhase .typeName)
    else if t.text = scopeWord then .ok (r.toPhase .scopeRelation)
    else .ok (r.toPhase (.comparison t.text))
  | _ => r.reject

def stepConnective (r : Reading) (conjunction : Expr) (t : Token) : Except Rejection Reading :=
  match t.kind with
  | .operator =>
    if t.text = "&&" then
      .ok ⟨r.outer, ⟨r.group.disjunction, some conjunction, 0⟩, .operand⟩
    else if t.text = "||" then
      .ok ⟨r.outer, ⟨some (r.group.disjoin conjunction), .none, 0⟩, .operand⟩
    else r.reject
  | .rightParen =>
    match r.outer with
    | [] => r.reject
    | group :: outer =>
      .ok (Reading.withOperand ⟨outer, group, .operand⟩ (r.group.disjoin conjunction))
  | _ => r.reject

def stepScopeRelation (r : Reading) (t : Token) : Except Rejection Reading :=
  match t.kind with
  | .identifier =>
    if t.text = inWord then .ok (r.toPhase .scopeList)
    else .error (.unexpected .scopeRelation)
  | .operator => if t.text = "==" then .ok (r.toPhase .scopeValue) else r.reject
  | _ => r.reject

def stepScopeValue (r : Reading) (t : Token) : Except Rejection Reading :=
  match t.kind with
  | .identifier =>
    match Scope.ofName? t.text with
    | some scope => .ok (r.withOperand (.scopeIn (ScopeSet.empty.insert scope)))
    | .none => .error (.unexpected .knownScope)
  | kind =>
    match literal? kind with
    | some value => r.withOperand? (compare scopeWord value)
    | .none => r.reject

def stepScopeName (r : Reading) (scopes : ScopeSet) (t : Token) : Except Rejection Reading :=
  match t.kind with
  | .identifier =>
    match Scope.ofName? t.text with
    | some scope => .ok (r.toPhase (.scopeSeparator (scopes.insert scope)))
    | .none => .error (.unexpected .knownScope)
  | _ => r.reject

def step (r : Reading) (t : Token) : Except Rejection Reading :=
  match r.phase with
  | .operand => r.stepOperand t
  | .connective conjunction => r.stepConnective conjunction t
  | .typeName =>
    if t.kind = .identifier ∧ t.text ≠ Text.instanceofWord then
      r.withOperand? (Expr.ofTypeName t.text)
    else r.reject
  | .comparison property =>
    if t.kind = .operator ∧ t.text = "==" then .ok (r.toPhase (.literal property)) else r.reject
  | .literal property =>
    match literal? t.kind with
    | some value => r.withOperand? (compare property value)
    | .none => r.reject
  | .scopeRelation => r.stepScopeRelation t
  | .scopeValue => r.stepScopeValue t
  | .scopeList =>
    if t.kind = .leftParen then .ok (r.toPhase (.scopeName .empty)) else r.reject
  | .scopeName scopes => r.stepScopeName scopes t
  | .scopeSeparator scopes =>
    match t.kind with
    | .comma => .ok (r.toPhase (.scopeName scopes))
    | .rightParen => .ok (r.withOperand (.scopeIn scopes))
    | _ => r.reject

def finish (r : Reading) : Except Rejection Expr :=
  match r.phase, r.outer with
  | .connective conjunction, [] => .ok (r.group.disjoin conjunction)
  | _, _ => .error (.unexpected r.expected)

/-- The expression of the tokens up to the first end of input, or to `ending` if there is none. -/
def run (ending : Token) : Reading → List Token → Except QueryError Expr
  | r, [] =>
    match r.finish with
    | .ok e => .ok e
    | .error rejection => .error (rejection.error ending)
  | r, t :: rest =>
    if t.kind = .endOfInput then
      match r.finish with
      | .ok e => .ok e
      | .error rejection => .error (rejection.error t)
    else
      match r.step t with
      | .ok next => run ending next rest
      | .error rejection => .error (rejection.error t)

end Reading

/-- The expression that tokens of a query make. Tokens after the first end of input do not count;
without one the query ends after its text. -/
def Expr.ofTokens (tokens : List Token) (query : Text) : Except QueryError Expr :=
  Reading.run (.ending query.length) .start tokens

/-- The expression of query text; blank text holds of every credential. -/
def Expr.ofText (query : Text) : Except QueryError Expr :=
  if query.isBlank then .ok .always
  else
    match tokenize query with
    | .ok tokens => Expr.ofTokens tokens query
    | .error misread => .error (.malformed (.ofMisread misread))

end Keyring.Query
