import Keyring.Query.Expr
import Keyring.Query.Token

/-!
# Query errors

Why a text is no query and where, and the report of it: the query line by line with a caret under
the offending code point.
-/

namespace Keyring.Query

/-- What a reader of tokens is waiting for. -/
inductive Expected where
  | connective
  | closing
  | operand
  | typeName
  | scopeRelation
  | scopeList
  | scopeName
  | knownScope
  | scopeSeparator
  | comparison
  | literal
  deriving DecidableEq

def Expected.phrase : Expected → Text
  | .connective => "'&&', '||' or end of input"
  | .closing => "')'"
  | .operand => "property name, 'instanceof', '!' or '('"
  | .typeName => "type name"
  | .scopeRelation => "'in' or '=='"
  | .scopeList => "'('"
  | .scopeName => "scope name"
  | .knownScope => "one of " ++ Text.join ", " (Scope.all.map Scope.name)
  | .scopeSeparator => "',' or ')'"
  | .comparison => "'=='"
  | .literal => "string, number or boolean literal"

/-- What is wrong with a text that is no query. -/
inductive Problem where
  | unreadable (fault : LexFault)
  | unexpected (expected : Expected) (found : Token)
  deriving DecidableEq

structure SyntaxError where
  offset : Int
  problem : Problem
  deriving DecidableEq

def indentLine (line : Text) : Text :=
  "    " ++ line

/-- The row that points at a column and says what is wrong there. -/
def caretLine (column : Nat) (detail : Text) : Text :=
  indentLine (List.replicate column (CodePoint.ofChar ' ') ++ ("^ " ++ detail))

/-- Indented lines, the first of which begins at `position`, with the caret row below the line that
holds the offset; what lies beyond the end belongs to the last line. -/
def annotateLines (offset : Int) (detail : Text) (position : Int) : List Text → List Text
  | [] => []
  | line :: rest =>
    if offset ≤ position + line.length || rest.isEmpty then
      indentLine line :: caretLine (offset - position).toNat detail :: rest.map indentLine
    else
      indentLine line :: annotateLines offset detail (position + line.length + 1) rest

def annotate (query : Text) (offset : Int) (detail : Text) : Text :=
  Text.join "\n" (annotateLines offset detail 0 (query.splitOn '\n'))

namespace SyntaxError

def expected (e : SyntaxError) : Option Expected :=
  match e.problem with
  | .unreadable _ => none
  | .unexpected expected _ => some expected

def found (e : SyntaxError) : Option Text :=
  match e.problem with
  | .unreadable _ => none
  | .unexpected _ token => if token.text.isEmpty then none else some token.text

def detail (e : SyntaxError) : Text :=
  match e.problem with
  | .unreadable fault => fault.reason
  | .unexpected expected token =>
    "expected " ++ expected.phrase ++ (", found " ++ token.describe)

def message (query : Text) (e : SyntaxError) : Text :=
  "CQL syntax error at offset " ++ Text.ofInt e.offset ++ (": " ++ e.detail) ++
    ("\n" ++ annotate query e.offset e.detail)

def ofMisread (m : Misread) : SyntaxError :=
  ⟨m.position, .unreadable m.fault⟩

def ofToken (expected : Expected) (token : Token) : SyntaxError :=
  ⟨token.offset, .unexpected expected token⟩

end SyntaxError

/-- Why tokens make no expression: the grammar, or a part that no query text can hold. -/
inductive QueryError where
  | malformed (error : SyntaxError)
  | invalid (part : InvalidPart)
  deriving DecidableEq

end Keyring.Query
