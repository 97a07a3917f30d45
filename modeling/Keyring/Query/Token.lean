import Keyring.Number.Layout
import Keyring.Query.Name
import Keyring.Text.Quoted

/-!
# Tokens

The words, literals and marks of query text. `tokenize` reads them from left to right, the longest
token first; white space separates tokens and means nothing else.
-/

namespace Keyring.Query

inductive TokenKind where
  | identifier
  | string (value : Text)
  | number (value : Binary64)
  | boolean (value : Bool)
  | operator
  | leftParen
  | rightParen
  | comma
  | endOfInput
  deriving DecidableEq

/-- A token, its text in the query and the offset of its first code point. -/
structure Token where
  kind : TokenKind
  text : Text
  offset : Int
  deriving DecidableEq

namespace Token

def ending (offset : Int) : Token :=
  ⟨.endOfInput, [], offset⟩

def describe (t : Token) : Text :=
  if t.kind = .endOfInput then "end of input" else t.text.quoted

end Token

/-- Why query text cannot be split into tokens. -/
inductive LexFault where
  | unterminatedString
  | unterminatedEscape
  | invalidUnicodeEscape
  | invalidEscape (code : CodePoint)
  | malformedNumber
  | numberOutOfRange
  | unexpectedCharacter (c : CodePoint)
  deriving DecidableEq

def LexFault.reason : LexFault → Text
  | .unterminatedString => "Unterminated string literal"
  | .unterminatedEscape => "Unterminated escape sequence"
  | .invalidUnicodeEscape => "Invalid unicode escape"
  | .invalidEscape code => "Invalid escape sequence '\\" ++ ([code] ++ ("'" : Text))
  | .malformedNumber => "Malformed number literal"
  | .numberOutOfRange => "Number literal out of range"
  | .unexpectedCharacter c => "Unexpected character " ++ Text.quoted [c]

structure Misread where
  position : Nat
  fault : LexFault
  deriving DecidableEq

def simpleEscape (c : CodePoint) : Option CodePoint :=
  if c = '"' then some '"'
  else if c = '\\' then some '\\'
  else if c = '\'' then some '\''
  else if c = 't' then some '\t'
  else if c = 'n' then some '\n'
  else if c = 'r' then some '\r'
  else if c = 'b' then some (CodePoint.ofNat 8)
  else if c = 'f' then some (CodePoint.ofNat 12)
  else none

def extendString (c : CodePoint) (width : Nat) :
    Except Misread (Text × Nat) → Except Misread (Text × Nat)
  | .ok (value, length) => .ok (c :: value, length + width)
  | .error misread => .error misread

/-- The value of a string literal and the number of code points up to and with its closing quote.
The text begins at `position`, after the opening quote; the literal begins at position zero. -/
def readString (position : Nat) : Text → Except Misread (Text × Nat)
  | [] => .error ⟨0, .unterminatedString⟩
  | c :: rest =>
    if c = '"' then .ok ([], 1)
    else if c = '\\' then
      match rest with
      | [] => .error ⟨position, .unterminatedEscape⟩
      | code :: rest =>
        match simpleEscape code with
        | some meaning => extendString meaning 2 (readString (position + 2) rest)
        | none =>
          if code = 'u' then
            match rest with
            | h₁ :: h₂ :: h₃ :: h₄ :: rest =>
              match Text.hex4? h₁ h₂ h₃ h₄ with
              | some n => extendString (.ofNat n) 6 (readString (position + 6) rest)
              | none => .error ⟨position, .invalidUnicodeEscape⟩
            | _ => .error ⟨position, .invalidUnicodeEscape⟩
          else .error ⟨position, .invalidEscape code⟩
    else extendString c 1 (readString (position + 1) rest)

/-- The part of a name that follows one of its code points: a full stop counts only when a segment
begins after it. -/
def nameRest : Text → Text
  | [] => []
  | c :: rest =>
    if c.isNamePart then c :: nameRest rest
    else if c = '.' then
      match rest with
      | start :: rest => if start.isNameStart then c :: start :: nameRest rest else []
      | [] => []
    else []

/-- What one token is and how many code points it has after the first. -/
structure Lexeme where
  kind : TokenKind
  extra : Nat
  deriving DecidableEq

namespace Lexeme

def punctuation? (c : CodePoint) : Option TokenKind :=
  if c = '(' then some .leftParen
  else if c = ')' then some .rightParen
  else if c = ',' then some .comma
  else none

def operatorLength? (t : Text) : Option Nat :=
  if t.startsWith "==" || t.startsWith "&&" || t.startsWith "||" then some 2
  else if t.startsWith "!" then some 1
  else none

/-- A numeral as a token: no name may touch it and its number must be finite. -/
def ofNumeral (n : Numeral) (following : Text) : Except Misread Lexeme :=
  match following with
  | c :: _ =>
    if c.isNamePart || c = '.' then .error ⟨0, .malformedNumber⟩ else ofValue
  | [] => ofValue
where
  ofValue : Except Misread Lexeme :=
    match n.nearest? with
    | some x => .ok ⟨.number (.finite x), n.text.length - 1⟩
    | none => .error ⟨0, .numberOutOfRange⟩

def ofName (name : Text) : Lexeme :=
  let kind : TokenKind :=
    if name = Text.trueWord then .boolean true
    else if name = Text.falseWord then .boolean false
    else .identifier
  ⟨kind, name.length - 1⟩

def read (c : CodePoint) (rest : Text) : Except Misread Lexeme :=
  if c = '"' then
    match readString 1 rest with
    | .ok (value, length) => .ok ⟨.string value, length⟩
    | .error misread => .error misread
  else
    match punctuation? c with
    | some kind => .ok ⟨kind, 0⟩
    | none =>
      match Numeral.read? (c :: rest) with
      | some n => ofNumeral n ((c :: rest).drop n.text.length)
      | none =>
        match operatorLength? (c :: rest) with
        | some length => .ok ⟨.operator, length - 1⟩
        | none =>
          if c.isNameStart then .ok (ofName (c :: nameRest rest))
          else .error ⟨0, .unexpectedCharacter c⟩

end Lexeme

/-- The tokens of a text that begins at `offset` of the query. -/
def scan (offset : Nat) (t : Text) : Except Misread (List Token) :=
  match t with
  | [] => .ok [Token.ending offset]
  | c :: rest =>
    if c.isBlank then scan (offset + 1) rest
    else
      match Lexeme.read c rest with
      | .error misread => .error { misread with position := offset + misread.position }
      | .ok lexeme =>
        match scan (offset + lexeme.extra + 1) (rest.drop lexeme.extra) with
        | .error misread => .error misread
        | .ok tokens => .ok (⟨lexeme.kind, c :: rest.take lexeme.extra, offset⟩ :: tokens)
termination_by t.length
decreasing_by
  · simp
  · simp only [List.length_drop, List.length_cons]
    omega

def tokenize (t : Text) : Except Misread (List Token) :=
  scan 0 t

end Keyring.Query
