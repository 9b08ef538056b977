import SymbolCensus.Token
import SymbolCensus.Unicode.LetterCase
import SymbolCensus.Unicode.Numeric

/-!
# The lexicon

The fixed words and characters of the source language, each list in code point order, and the
character classes of its words and numbers.

- `isTypeLike`: which tokens can name the type of a declaration that follows.
- `startsTypeName`: which keywords leave a type waiting for the next identifier.
-/

namespace SymbolCensus.Lexicon

/-- The reserved words. -/
def keywords : List String :=
  ["String", "boolean", "break", "case", "class", "continue", "double", "else", "false", "final",
   "for", "if", "int", "new", "private", "protected", "public", "return", "static", "switch",
   "this", "true", "void", "while"]

/-- The keywords that name a type. -/
def typeWords : List String :=
  ["String", "boolean", "double", "int", "void"]

/-- The keywords that mark a declaration as a member. -/
def modifiers : List String :=
  ["private", "protected", "public", "static"]

/-- The operators of two characters. -/
def compoundOperators : List String :=
  ["!=", "&&", "*=", "++", "+=", "--", "-=", "/=", "<=", "==", ">=", "||"]

/-- The operators of one character. -/
def operators : List Char :=
  ['!', '%', '*', '+', '-', '.', '/', ':', '<', '=', '>']

/-- The punctuation characters. -/
def punctuation : List Char :=
  ['(', ')', ',', ';', '[', ']', '{', '}']

/-- The characters that only separate. -/
def blanks : List Char :=
  ['\t', '\n', '\r', ' ']

/-- A character only separates. -/
def isBlank (c : Char) : Bool :=
  blanks.contains c

/-- A character can start a word: a letter of any script, an underscore or a dollar sign. -/
def isWordStart (c : Char) : Bool :=
  Unicode.isLetter c || c == '_' || c == '$'

/-- A character can go on with a word: one that can start it, or one with a numeric value. -/
def isWordPart (c : Char) : Bool :=
  Unicode.isAlphanumeric c || c == '_' || c == '$'

theorem isWordPart_of_isWordStart {c : Char} (h : isWordStart c = true) :
    isWordPart c = true := by
  simp only [isWordStart, isWordPart, Unicode.isAlphanumeric, Bool.or_eq_true] at h ⊢
  rcases h with (h | h) | h <;> simp [h]

/-- The first character of a lexeme, which an empty lexeme lacks. -/
def firstCharacter (lexeme : String) : Except Failure Char :=
  match lexeme.toList with
  | [] => .error .outsideText
  | c :: _ => .ok c

/-- A keyword leaves a type waiting for the next identifier: the type words do, and so does any
keyword that starts with an uppercase character. -/
def startsTypeName (lexeme : String) : Except Failure Bool :=
  if typeWords.contains lexeme then .ok true
  else (firstCharacter lexeme).map Unicode.isUppercase

/-- A token can name the type of the declaration after it: the keywords that are type words, and
any other keyword whose first character is not lowercase. -/
def isTypeLike (token : Token) : Except Failure Bool :=
  if token.kind ≠ .keyword then .ok false
  else if typeWords.contains token.lexeme then .ok true
  else (firstCharacter token.lexeme).map fun c => !Unicode.isLowercase c

end SymbolCensus.Lexicon
