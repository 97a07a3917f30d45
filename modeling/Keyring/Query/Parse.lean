import Keyring.Log.Event
import Keyring.Query.Reading
import Keyring.Trace

/-!
# Parsing queries

The reading of stored query text. A text that is no query is logged by place and by what was
expected there, never by what it says.
-/

namespace Keyring.Query

def SyntaxError.kind (e : SyntaxError) : Text :=
  match e.problem with
  | .unreadable _ => "CQLLexError"
  | .unexpected _ _ => "CQLSyntaxError"

def SyntaxError.event (e : SyntaxError) : Log.Event :=
  ⟨"cql_parse_failed", .debug,
    [("offset", .int e.offset), ("expected", .ofText? (e.expected.map Expected.phrase)),
      ("error_type", .text e.kind)]⟩

/-- The expression of query text, or of no text at all, which holds of every credential. -/
def parse : Option Text → Traced Log.Event (Except QueryError Expr)
  | none => pure (.ok .always)
  | some text =>
    match Expr.ofText text with
    | .error (.malformed e) => ⟨.error (.malformed e), [e.event]⟩
    | answer => pure answer

end Keyring.Query
