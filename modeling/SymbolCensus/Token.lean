import SymbolCensus.Failure
import SymbolCensus.Position

/-!
# Tokens

A token is a lexeme with its kind, the place where it starts and, for a constant, the type of its
value.

- `TokenKind`: the five coarse kinds, with their labels.
- `Token.isA`: a test for a kind and, if any are listed, for one of several lexemes.
-/

namespace SymbolCensus

/-- The coarse kinds of tokens. -/
inductive TokenKind where
  | keyword
  | operator
  | identifier
  | constant
  | punctuation
deriving DecidableEq, Repr, Inhabited

namespace TokenKind

/-- The kinds in their usual order. -/
def all : List TokenKind :=
  [keyword, operator, identifier, constant, punctuation]

/-- The name of a kind as tables show it. -/
def label : TokenKind → String
  | keyword => "Keyword"
  | operator => "Operator"
  | identifier => "Identifier"
  | constant => "Constant"
  | punctuation => "Punctuation"

/-- The name of a kind in capitals. -/
def tag : TokenKind → String
  | keyword => "KEYWORD"
  | operator => "OPERATOR"
  | identifier => "IDENTIFIER"
  | constant => "CONSTANT"
  | punctuation => "PUNCTUATION"

/-- The kind that has a label. -/
def ofLabel (label : String) : Except Failure TokenKind :=
  match all.find? (·.label == label) with
  | some kind => .ok kind
  | none => .error (.unknownLabel label "Category")

theorem ofLabel_label (kind : TokenKind) : ofLabel kind.label = .ok kind := by
  cases kind <;> rfl

end TokenKind

/-- A lexeme with its kind and place; `valueType` is set for constants alone while a text is read,
but a token made by hand may carry any. -/
structure Token where
  kind : TokenKind
  lexeme : String
  position : Position
  valueType : Option String := none
deriving DecidableEq, Repr, Inhabited

/-- The token has the kind and one of the lexemes; an empty list stands for any lexeme. -/
def Token.isA (token : Token) (kind : TokenKind) (lexemes : List String) : Bool :=
  token.kind == kind && (lexemes.isEmpty || lexemes.contains token.lexeme)

end SymbolCensus
