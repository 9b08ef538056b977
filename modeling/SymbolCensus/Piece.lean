import SymbolCensus.Diagnostic
import SymbolCensus.Lexicon

/-!
# Pieces of source text

A source text falls into pieces: blanks, comments, words, string literals, numerals and marks. This
module says where each piece ends and what it stands for, without any memory of what came before
it.

- `Piece.wordAt`, `Piece.literalAt`, …: a piece of one sort read off the front of a text, whatever
  character is there.
- `Piece.leading`: the piece that a text starts with, its sort chosen by the first two characters.
- `Piece.token?`, `Piece.fault?`: the token that a piece yields and what is wrong with it.
- `Piece.isPrefix_text_leading`, `Piece.text_leading_ne_nil`: the piece that a text starts with
  covers a nonempty first part of it.
-/

namespace SymbolCensus

/-- How a string literal ends. -/
inductive LiteralEnd where
  /-- With a quotation mark. -/
  | closed
  /-- Before a newline. -/
  | lineEnd
  /-- At the end of the text. -/
  | textEnd
deriving DecidableEq, Repr, Inhabited

/-- A part of a source text with the characters it covers. -/
inductive Piece where
  /-- A character that only separates. -/
  | blank (c : Char)
  /-- A comment up to the end of its line. -/
  | lineComment (text : List Char)
  /-- A comment between its marks, or up to the end of the text if it is not closed. -/
  | blockComment (text : List Char) (closed : Bool)
  /-- A keyword or an identifier. -/
  | word (text : List Char)
  /-- A string literal as written, from its opening quotation mark on. -/
  | literal (text : List Char) (ending : LiteralEnd)
  /-- A number: its digits, those behind a decimal point if it has one, and whether another point
  comes next. -/
  | numeral (whole : List Char) (fraction : Option (List Char)) (pointFollows : Bool)
  /-- An operator of two characters. -/
  | compound (first second : Char)
  /-- Any other single character. -/
  | mark (c : Char)
deriving DecidableEq, Repr, Inhabited

namespace Piece

/-! ## Where pieces end -/

/-- The rest of a string literal behind its opening quotation mark, and how it ends. A backslash
takes the next character with it, a newline included; one at the very end of the text stands
alone. -/
def literalBody : List Char → List Char × LiteralEnd
  | [] => ([], .textEnd)
  | '\n' :: _ => ([], .lineEnd)
  | '"' :: _ => (['"'], .closed)
  | ['\\'] => (['\\'], .textEnd)
  | '\\' :: c :: rest =>
    let (body, ending) := literalBody rest
    ('\\' :: c :: body, ending)
  | c :: rest =>
    let (body, ending) := literalBody rest
    (c :: body, ending)

/-- The rest of a block comment behind its opening mark, and whether it is closed. -/
def commentBody : List Char → List Char × Bool
  | [] => ([], false)
  | '*' :: '/' :: _ => (['*', '/'], true)
  | c :: rest =>
    let (body, closed) := commentBody rest
    (c :: body, closed)

/-- A word: one character and all word characters behind it. -/
def wordAt (text : List Char) : Piece :=
  .word (text.take 1 ++ (text.drop 1).takeWhile Lexicon.isWordPart)

/-- A string literal whose opening mark is the next character. -/
def literalAt (text : List Char) : Piece :=
  let (body, ending) := literalBody (text.drop 1)
  .literal (text.take 1 ++ body) ending

/-- A line comment whose opening mark is the next two characters; the newline is left in place. -/
def lineCommentAt (text : List Char) : Piece :=
  .lineComment (text.take 2 ++ (text.drop 2).takeWhile (· != '\n'))

/-- A block comment whose opening mark is the next two characters. -/
def blockCommentAt (text : List Char) : Piece :=
  let (body, closed) := commentBody (text.drop 2)
  .blockComment (text.take 2 ++ body) closed

/-- A number: digits, then a point and digits if a point comes next. -/
def numeralAt (text : List Char) : Piece :=
  let whole := text.takeWhile Char.isDigit
  match text.dropWhile Char.isDigit with
  | '.' :: rest =>
    .numeral whole (some (rest.takeWhile Char.isDigit))
      ((rest.dropWhile Char.isDigit).head? == some '.')
  | _ => .numeral whole none false

/-- Two characters are an operator together. -/
def isCompound (first second : Char) : Bool :=
  Lexicon.compoundOperators.contains (String.ofList [first, second])

/-- A mark: the next character, with the one behind it if the two are an operator together. -/
def markAt (c : Char) (rest : List Char) : Piece :=
  match rest with
  | [] => .mark c
  | second :: _ => if isCompound c second then .compound c second else .mark c

/-- The piece that a text starts with. -/
def leading (c : Char) (rest : List Char) : Piece :=
  if Lexicon.isBlank c then .blank c
  else if c = '/' ∧ rest.head? = some '/' then lineCommentAt (c :: rest)
  else if c = '/' ∧ rest.head? = some '*' then blockCommentAt (c :: rest)
  else if Lexicon.isWordStart c then wordAt (c :: rest)
  else if c = '"' then literalAt (c :: rest)
  else if c.isDigit then numeralAt (c :: rest)
  else markAt c rest

/-! ## What pieces stand for -/

/-- The characters that a piece covers. -/
def text : Piece → List Char
  | blank c => [c]
  | lineComment text => text
  | blockComment text _ => text
  | word text => text
  | literal text _ => text
  | numeral whole none _ => whole
  | numeral whole (some fraction) _ => whole ++ '.' :: fraction
  | compound first second => [first, second]
  | mark c => [c]

/-- The lexeme of a piece: its characters, with the closing quotation mark supplied to a string
literal that lacks it. -/
def lexeme (piece : Piece) : String :=
  match piece with
  | literal text .lineEnd => String.ofList (text ++ ['"'])
  | literal text .textEnd => String.ofList (text ++ ['"'])
  | _ => String.ofList piece.text

/-- The character of a piece, if it belongs to no class of the lexicon. -/
def strange? : Piece → Option Char
  | mark c =>
    if Lexicon.punctuation.contains c || Lexicon.operators.contains c then none else some c
  | _ => none

/-- The kind of the token that a piece yields; blanks and comments yield none. A character that
belongs to no class counts as punctuation. -/
def kind? (piece : Piece) : Option TokenKind :=
  match piece with
  | blank _ => none
  | lineComment _ => none
  | blockComment _ _ => none
  | word _ => some (if Lexicon.keywords.contains piece.lexeme then .keyword else .identifier)
  | literal _ _ => some .constant
  | numeral _ _ _ => some .constant
  | compound _ _ => some .operator
  | mark c => some (if Lexicon.operators.contains c then .operator else .punctuation)

/-- The type of the value of a constant. -/
def valueType? : Piece → Option String
  | literal _ _ => some "string"
  | numeral _ none _ => some "int"
  | numeral _ (some _) _ => some "double"
  | _ => none

/-- The token that a piece yields at a position. -/
def token? (piece : Piece) (position : Position) : Option Token :=
  piece.kind?.map fun kind =>
    { kind, lexeme := piece.lexeme, position, valueType := piece.valueType? }

/-- What is wrong with a piece. -/
def fault? (piece : Piece) : Option Fault :=
  match piece with
  | blockComment _ false => some .openComment
  | literal _ .lineEnd => some .brokenLiteral
  | literal _ .textEnd => some .openLiteral
  | numeral _ (some _) true => some (.secondPoint piece.lexeme)
  | _ => none

/-- After such a piece no declared type waits for an identifier any more. Words settle this by
themselves, and blanks and comments leave it alone. -/
def endsDeclaration : Piece → Bool
  | literal _ _ => true
  | numeral _ _ _ => true
  | compound _ _ => true
  | mark _ => true
  | _ => false

/-! ## A piece is a nonempty first part of the text -/

theorem isPrefix_literalBody (text : List Char) : (literalBody text).1 <+: text := by
  fun_induction literalBody text <;> simp_all [List.prefix_cons_iff]

theorem isPrefix_commentBody (text : List Char) : (commentBody text).1 <+: text := by
  fun_induction commentBody text <;> simp_all [List.prefix_cons_iff]

theorem isPrefix_text_wordAt (text : List Char) : (wordAt text).text <+: text := by
  have h := List.takeWhile_prefix (l := text.drop 1) Lexicon.isWordPart
  have h := (List.prefix_append_right_inj (text.take 1)).2 h
  rwa [List.take_append_drop] at h

theorem isPrefix_text_literalAt (text : List Char) : (literalAt text).text <+: text := by
  have h := (List.prefix_append_right_inj (text.take 1)).2 (isPrefix_literalBody (text.drop 1))
  rwa [List.take_append_drop] at h

theorem isPrefix_text_lineCommentAt (text : List Char) : (lineCommentAt text).text <+: text := by
  have h := List.takeWhile_prefix (l := text.drop 2) (· != '\n')
  have h := (List.prefix_append_right_inj (text.take 2)).2 h
  rwa [List.take_append_drop] at h

theorem isPrefix_text_blockCommentAt (text : List Char) :
    (blockCommentAt text).text <+: text := by
  have h := (List.prefix_append_right_inj (text.take 2)).2 (isPrefix_commentBody (text.drop 2))
  rwa [List.take_append_drop] at h

theorem isPrefix_text_numeralAt (text : List Char) : (numeralAt text).text <+: text := by
  have split := List.takeWhile_append_dropWhile (p := Char.isDigit) (l := text)
  unfold numeralAt
  split
  next rest hrest =>
    rw [hrest] at split
    conv => rhs; rw [← split]
    simp only [Piece.text, List.prefix_append_right_inj, List.prefix_cons_inj]
    exact List.takeWhile_prefix _
  next => exact List.takeWhile_prefix _

theorem isPrefix_text_markAt (c : Char) (rest : List Char) :
    (markAt c rest).text <+: c :: rest := by
  unfold markAt
  split
  next => simp [Piece.text]
  next => split <;> simp [Piece.text]

/-- The piece that a text starts with covers a first part of it. -/
theorem isPrefix_text_leading (c : Char) (rest : List Char) :
    (leading c rest).text <+: c :: rest := by
  unfold leading
  split
  · simp [Piece.text]
  split
  · exact isPrefix_text_lineCommentAt _
  split
  · exact isPrefix_text_blockCommentAt _
  split
  · exact isPrefix_text_wordAt _
  split
  · exact isPrefix_text_literalAt _
  split
  · exact isPrefix_text_numeralAt _
  · exact isPrefix_text_markAt c rest

/-- The piece that a text starts with covers at least one character. -/
theorem text_leading_ne_nil (c : Char) (rest : List Char) : (leading c rest).text ≠ [] := by
  unfold leading
  split
  · simp [Piece.text]
  split
  · simp [lineCommentAt, Piece.text]
  split
  · simp [blockCommentAt, Piece.text]
  split
  · simp [wordAt, Piece.text]
  split
  · simp [literalAt, Piece.text]
  split
  next h =>
    unfold numeralAt
    split <;> simp [Piece.text, h]
  next =>
    unfold markAt
    split
    next => simp [Piece.text]
    next => split <;> simp [Piece.text]

end Piece

end SymbolCensus
