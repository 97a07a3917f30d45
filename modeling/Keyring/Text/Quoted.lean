import Keyring.Text.Digits
import Keyring.Text.Printable

/-!
# Quoted text in messages

Messages show foreign text in quotes. Single quotes are used unless the text has a single quote and
no double one; backslash, the quote in use, three controls and whatever is not printable are
escaped.
-/

namespace Keyring.Text

def quoteMark (t : Text) : CodePoint :=
  if t.any (· == CodePoint.ofChar '\'') && !t.any (· == CodePoint.ofChar '"') then '"' else '\''

/-- The name of a code point: the shortest of `\xhh`, `\uhhhh` and `\Uhhhhhhhh`. -/
def codeName (c : CodePoint) : Text :=
  if c.val ≤ 0xff then "\\x" ++ hexFixed 2 c.val
  else if c.val ≤ 0xffff then "\\u" ++ hexFixed 4 c.val
  else "\\U" ++ hexFixed 8 c.val

def quoteOne (mark c : CodePoint) : Text :=
  if c = mark || c = '\\' then ['\\', c]
  else if c = '\t' then "\\t"
  else if c = '\n' then "\\n"
  else if c = '\r' then "\\r"
  else if c.isPrintable then [c]
  else codeName c

def quoted (t : Text) : Text :=
  let mark := quoteMark t
  mark :: (t.flatMap (quoteOne mark) ++ [mark])

end Keyring.Text
