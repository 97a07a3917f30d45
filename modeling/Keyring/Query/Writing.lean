import Keyring.Query.Expr

/-!
# Written expressions

The canonical text of an expression. Every operator and test stands in parentheses, so the text
reads back as the same expression whatever surrounds it.
-/

namespace Keyring.Query

/-- What stands for a code point in a quoted literal: marks and controls have short escapes, and
what is not printable is named by four hexadecimal digits, which reach up to `U+FFFF`. -/
def escapeOne (c : CodePoint) : Text :=
  if c = '\\' then "\\\\"
  else if c = '"' then "\\\""
  else if c = '\t' then "\\t"
  else if c = '\n' then "\\n"
  else if c = '\r' then "\\r"
  else if c.val = 8 then "\\b"
  else if c.val = 12 then "\\f"
  else if !c.isPrintable && c.val ≤ 0xffff then "\\u" ++ Text.hexFixed 4 c.val
  else [c]

def escape (t : Text) : Text :=
  t.flatMap escapeOne

def Literal.render : Literal → Text
  | .text value => '"' :: (escape value ++ ("\"" : Text))
  | .number value => value.render
  | .boolean value => if value then Text.trueWord else Text.falseWord

namespace Expr

def renderPair (left mark right : Text) : Text :=
  '(' :: (left ++ (mark ++ (right ++ (")" : Text))))

/-- The canonical text of an expression that is no node of a connective. -/
def renderLeaf : Expr → Text
  | .always => Text.trueWord
  | .instanceOf typeName => "(instanceof " ++ (typeName.text ++ (")" : Text))
  | .equals property value => renderPair property.text " == " value.render
  | .scopeIn scopes =>
    if scopes = .empty then Text.falseWord
    else "(scope in (" ++ (Text.join ", " (scopes.toList.map Scope.name) ++ ("))" : Text))
  | _ => Text.falseWord

/-- The canonical text of an expression with `rest` after it. Each code point is laid down once,
however deep its node is. -/
def renderBefore (rest : Text) : Expr → Text
  | .not operand => '!' :: operand.renderBefore rest
  | .and left right =>
    '(' :: left.renderBefore (" && " ++ right.renderBefore (')' :: rest))
  | .or left right =>
    '(' :: left.renderBefore (" || " ++ right.renderBefore (')' :: rest))
  | leaf => leaf.renderLeaf ++ rest

def render (e : Expr) : Text :=
  e.renderBefore []

theorem renderBefore_eq (e : Expr) : ∀ rest : Text, e.renderBefore rest = e.render ++ rest := by
  induction e with
  | not operand ih =>
    intro rest
    simp only [render, renderBefore, List.cons_append, ih rest]
  | and left right ihl ihr | or left right ihl ihr =>
    intro rest
    simp only [render, renderBefore, List.cons_append, List.append_assoc, List.nil_append,
      ihl (_ ++ _), ihr (_ :: _)]
  | _ =>
    intro rest
    simp only [render, renderBefore, List.append_nil]

@[simp] theorem render_always : Expr.always.render = Text.trueWord := List.append_nil _

@[simp] theorem render_never : Expr.never.render = Text.falseWord := List.append_nil _

@[simp] theorem render_not (operand : Expr) :
    (Expr.not operand).render = CodePoint.ofChar '!' :: operand.render :=
  rfl

@[simp] theorem render_and (left right : Expr) :
    (Expr.and left right).render = renderPair left.render " && " right.render := by
  rw [render, renderBefore, renderBefore_eq left, renderBefore_eq right]
  rfl

@[simp] theorem render_or (left right : Expr) :
    (Expr.or left right).render = renderPair left.render " || " right.render := by
  rw [render, renderBefore, renderBefore_eq left, renderBefore_eq right]
  rfl

@[simp] theorem render_instanceOf (typeName : Name) :
    (Expr.instanceOf typeName).render = "(instanceof " ++ (typeName.text ++ (")" : Text)) :=
  List.append_nil _

@[simp] theorem render_equals (property : Name) (value : Literal) :
    (Expr.equals property value).render = renderPair property.text " == " value.render :=
  List.append_nil _

@[simp] theorem render_scopeIn (scopes : ScopeSet) :
    (Expr.scopeIn scopes).render =
      if scopes = .empty then Text.falseWord
      else "(scope in (" ++ (Text.join ", " (scopes.toList.map Scope.name) ++ ("))" : Text)) :=
  List.append_nil _

end Expr

end Keyring.Query
