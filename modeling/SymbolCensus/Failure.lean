import SymbolCensus.Text.Quoted

/-!
# Failures

The ways in which an operation can be asked for something that does not exist. Faults in a source
text are not among them: those are diagnostics, and a scan goes on after each.
-/

namespace SymbolCensus

/-- Why an operation has no result. -/
inductive Failure where
  /-- A character was asked for where the text has none: before its start, or in an empty lexeme. -/
  | outsideText
  /-- A character was asked for at a place that no 64-bit integer can count. -/
  | uncountablePlace
  /-- An operator or punctuation character was to be read at the end of the text. -/
  | nothingLeft
  /-- A symbol was asked for that no table entry names. -/
  | unknownSymbol (name : String)
  /-- A label belongs to no member of a family. -/
  | unknownLabel (label family : String)
  /-- The path of a file holds the character NUL. -/
  | nullInPath
  /-- The name of an encoding holds the character NUL. -/
  | nullInEncoding
deriving DecidableEq, Repr

/-- The wording of a failure. -/
def Failure.message : Failure → String
  | outsideText => "string index out of range"
  | uncountablePlace => "cannot fit 'int' into an index-sized integer"
  | nothingLeft => "unsupported operand type(s) for +: 'NoneType' and 'str'"
  | unknownSymbol name => Text.quote name
  | unknownLabel label family => Text.quote label ++ " is not a valid " ++ family
  | nullInPath => "embedded null byte"
  | nullInEncoding => "embedded null character"

end SymbolCensus
