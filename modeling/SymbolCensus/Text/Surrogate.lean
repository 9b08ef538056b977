import SymbolCensus.Text.Quoted

/-!
# Surrogates

Text is made of characters. What reaches a program from outside can also hold surrogates, which are
code points but no characters: they stand for bytes of a path or of a setting that are not UTF-8, and
there are encodings that can write them.

- `CodePoints`: text that may hold surrogates.
- `CodePoints.string?`: the text as a string, if it holds none.
- `CodePoints.quoted`: the text between quotes, as `quote` shows a string.
-/

namespace SymbolCensus.Text

/-- A code point: a character or a surrogate, which is counted from the first one, U+D800. -/
inductive CodePoint where
  | char (c : Char)
  | surrogate (index : Fin 0x800)
deriving DecidableEq, Repr

namespace CodePoint

def char? : CodePoint → Option Char
  | char c => some c
  | surrogate _ => none

def isSurrogate : CodePoint → Bool
  | char _ => false
  | surrogate _ => true

def toNat : CodePoint → Nat
  | char c => c.toNat
  | surrogate index => 0xD800 + index

end CodePoint

/-- Text that may hold surrogates. -/
abbrev CodePoints := List CodePoint

namespace CodePoints

def ofString (text : String) : CodePoints :=
  text.toList.map .char

/-- The characters of a text, without its surrogates. -/
def characters (text : CodePoints) : List Char :=
  text.filterMap CodePoint.char?

/-- A text without surrogates as a string. -/
def string? (text : CodePoints) : Option String :=
  if text.any CodePoint.isSurrogate then none else some (String.ofList (characters text))

/-- A text between quotes. Surrogates go by number. -/
def quoted (text : CodePoints) : String :=
  let mark := quoteMark (characters text)
  let shown : CodePoint → List Char
    | .char c => escape mark c
    | .surrogate index => '\\' :: 'u' :: hexadecimal 4 (0xD800 + index)
  String.ofList (mark :: (text.flatMap shown ++ [mark]))

example : quoted [.char 'a', .surrogate 0x480] = "'a\\udc80'" := by decide +kernel

end CodePoints

end SymbolCensus.Text
