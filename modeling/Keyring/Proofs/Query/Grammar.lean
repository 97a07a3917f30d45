import Keyring.Query.Reading

/-!
# The grammar of queries

Which tokens make which expression, said without a reader: one rule for each alternative of the
grammar, over tokens wherever they stand in the query. Operators of one connective group to the
left.
-/

namespace Keyring.Query

namespace Token

def Is (t : Token) (kind : TokenKind) (text : Text) : Prop :=
  t.kind = kind ∧ t.text = text

def NamesScope (t : Token) (scope : Scope) : Prop :=
  t.kind = .identifier ∧ t.text.lastSegment = scope.name

/-- What the reading of text promises of a token: an identifier is segments between full stops and
none of the two words that are literals, and a number is finite. -/
def WellFormed (t : Token) : Prop :=
  match t.kind with
  | .identifier =>
    (t.text.splitOn '.').all Text.isNameSegment ∧ t.text ≠ Text.trueWord ∧ t.text ≠ Text.falseWord
  | .number value => ∃ x, value = .finite x
  | _ => True

end Token

def Literal.kind : Literal → TokenKind
  | .text value => .string value
  | .number value => .number (.finite value)
  | .boolean value => .boolean value

inductive ScopeNames : List Token → List Scope → Prop
  | one {t : Token} {scope : Scope} (ht : t.NamesScope scope) : ScopeNames [t] [scope]
  | more {ts : List Token} {scopes : List Scope} {comma t : Token} {scope : Scope}
      (hts : ScopeNames ts scopes) (hc : comma.kind = .comma) (ht : t.NamesScope scope) :
      ScopeNames (ts ++ [comma, t]) (scopes ++ [scope])

inductive Level where
  | disjunction
  | conjunction
  | unary
  | primary

/-- The tokens make the expression at a level of the grammar. -/
inductive Derives : Level → List Token → Expr → Prop
  | ofConjunction {ts : List Token} {e : Expr} (h : Derives .conjunction ts e) :
      Derives .disjunction ts e
  | or {ls rs : List Token} {o : Token} {l r : Expr} (hl : Derives .disjunction ls l)
      (ho : o.Is .operator "||") (hr : Derives .conjunction rs r) :
      Derives .disjunction (ls ++ o :: rs) (.or l r)
  | ofUnary {ts : List Token} {e : Expr} (h : Derives .unary ts e) : Derives .conjunction ts e
  | and {ls rs : List Token} {o : Token} {l r : Expr} (hl : Derives .conjunction ls l)
      (ho : o.Is .operator "&&") (hr : Derives .unary rs r) :
      Derives .conjunction (ls ++ o :: rs) (.and l r)
  | ofPrimary {ts : List Token} {e : Expr} (h : Derives .primary ts e) : Derives .unary ts e
  | not {ts : List Token} {o : Token} {e : Expr} (ho : o.Is .operator "!")
      (h : Derives .unary ts e) : Derives .unary (o :: ts) (.not e)
  | group {ts : List Token} {opening closing : Token} {e : Expr}
      (ho : opening.kind = .leftParen) (h : Derives .disjunction ts e)
      (hc : closing.kind = .rightParen) : Derives .primary (opening :: (ts ++ [closing])) e
  | always {t : Token} (ht : t.kind = .boolean true) : Derives .primary [t] .always
  | never {t : Token} (ht : t.kind = .boolean false) : Derives .primary [t] .never
  | instanceOf {word t : Token} {name : Name} (hw : word.Is .identifier Text.instanceofWord)
      (ht : t.Is .identifier name.text) : Derives .primary [word, t] (.instanceOf name)
  | equals {t o v : Token} {name : Name} {value : Literal} (ht : t.Is .identifier name.text)
      (ho : o.Is .operator "==") (hv : v.kind = value.kind) :
      Derives .primary [t, o, v] (.equals name value)
  | scopeIs {word o t : Token} {scope : Scope} (hw : word.Is .identifier Reading.scopeWord)
      (ho : o.Is .operator "==") (ht : t.NamesScope scope) :
      Derives .primary [word, o, t] (.scopeIn (.ofList [scope]))
  | scopeIn {word inside opening closing : Token} {ts : List Token} {scopes : List Scope}
      (hw : word.Is .identifier Reading.scopeWord) (hi : inside.Is .identifier Reading.inWord)
      (ho : opening.kind = .leftParen) (hts : ScopeNames ts scopes)
      (hc : closing.kind = .rightParen) :
      Derives .primary (word :: inside :: opening :: (ts ++ [closing])) (.scopeIn (.ofList scopes))

def beforeEnd (tokens : List Token) : List Token :=
  tokens.takeWhile fun t => t.kind ≠ .endOfInput

theorem beforeEnd_append_ending {ts : List Token} (h : ∀ t ∈ ts, t.kind ≠ .endOfInput)
    (offset : Int) : beforeEnd (ts ++ [.ending offset]) = ts := by
  rw [beforeEnd, List.takeWhile_append_of_pos (by simpa using h)]
  exact List.append_nil ts

theorem Token.WellFormed.exists_name {t : Token} (h : t.WellFormed) (hk : t.kind = .identifier)
    (hi : t.text ≠ Text.instanceofWord) : ∃ name : Name, t.text = name.text := by
  simp only [WellFormed, hk] at h
  have hn : t.text.isName = true := by
    simp [Text.isName, Text.reservedWords, h, hi]
  exact ⟨⟨t.text, hn⟩, rfl⟩

theorem Name.text_ne_instanceofWord (name : Name) : name.text ≠ Text.instanceofWord := by
  intro h
  have hn := name.isName_text
  rw [h] at hn
  exact absurd hn (by decide)

end Keyring.Query
