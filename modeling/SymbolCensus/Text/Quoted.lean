import SymbolCensus.Unicode.Printable

/-!
# Quoted text

How a piece of text is shown inside a message: between quotes, with every character that would not
be seen written by number.

- `quote`: the text between two quotes.
- `quoteMark`: apostrophes are used, unless the text has an apostrophe and no quotation mark.
- `escape`: what one character becomes.
-/

namespace SymbolCensus.Text

/-- A number in hexadecimal, with zeros before it up to a width. -/
def hexadecimal (width n : Nat) : List Char :=
  (Nat.toDigits 16 n).leftpad width '0'

/-- A character by number: two, four or eight digits, whichever is the first to suffice. -/
def numbered (c : Char) : List Char :=
  if c.toNat < 0x100 then '\\' :: 'x' :: hexadecimal 2 c.toNat
  else if c.toNat < 0x10000 then '\\' :: 'u' :: hexadecimal 4 c.toNat
  else '\\' :: 'U' :: hexadecimal 8 c.toNat

/-- A character between quotes of the given kind. The backslash and the quote itself take a
backslash, three controls have a letter each, and what is not printable goes by number. -/
def escape (mark c : Char) : List Char :=
  if c = mark ∨ c = '\\' then ['\\', c]
  else if c = '\n' then ['\\', 'n']
  else if c = '\r' then ['\\', 'r']
  else if c = '\t' then ['\\', 't']
  else if Unicode.isPrintable c then [c]
  else numbered c

/-- The quote that surrounds a text: a quotation mark if that saves escaping an apostrophe. -/
def quoteMark (text : List Char) : Char :=
  if text.contains '\'' && !text.contains '"' then '"' else '\''

/-- A text between quotes. -/
def quote (text : String) : String :=
  let mark := quoteMark text.toList
  String.ofList (mark :: (text.toList.flatMap (escape mark) ++ [mark]))

example : quote "it's" = "\"it's\"" := by decide +kernel

example : quote "a\n\"b'" = "'a\\n\"b\\''" := by decide +kernel

example : quote "\u200b" = "'\\u200b'" := by decide +kernel

end SymbolCensus.Text
