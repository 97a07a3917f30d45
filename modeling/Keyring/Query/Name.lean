import Keyring.Text.CodePoint

/-!
# Names in queries

A property or type name is one or more segments between full stops, each a letter, underscore or
dollar sign with more of these or digits after it. Three words have a meaning of their own and are
no names.
-/

namespace Keyring

namespace CodePoint

def isNameStart (c : CodePoint) : Bool :=
  c.isLetter || c == '_' || c == '$'

def isNamePart (c : CodePoint) : Bool :=
  c.isNameStart || c.isDigit

end CodePoint

namespace Text

def isNameSegment : Text → Bool
  | [] => false
  | c :: rest => c.isNameStart && rest.all CodePoint.isNamePart

def instanceofWord : Text := "instanceof"

def trueWord : Text := "true"

def falseWord : Text := "false"

def reservedWords : List Text :=
  [instanceofWord, trueWord, falseWord]

/-- Whether a query can use the text as a property or type name. -/
def isName (t : Text) : Bool :=
  (t.splitOn '.').all isNameSegment && !reservedWords.contains t

end Text

namespace Query

structure Name where
  text : Text
  isName_text : text.isName = true
  deriving DecidableEq

namespace Name

instance : Hashable Name := ⟨fun n => hash n.text⟩

def ofText? (t : Text) : Option Name :=
  if h : t.isName = true then some ⟨t, h⟩ else none

def id : Name := ⟨"id", by decide⟩

def scope : Name := ⟨"scope", by decide⟩

def username : Name := ⟨"username", by decide⟩

end Name

end Query

end Keyring
