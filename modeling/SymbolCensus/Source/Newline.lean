import SymbolCensus.Text.Surrogate

/-!
# Line ends

Source files end their lines in three ways. Reading makes a single newline of each, so that a line
and a column mean the same whichever way a file uses.
-/

namespace SymbolCensus.Source

open Text

/-- A text with a newline in place of each carriage return, and of each pair of a carriage return
and a newline. -/
def withPlainNewlines : CodePoints → CodePoints
  | [] => []
  | .char '\r' :: .char '\n' :: rest => .char '\n' :: withPlainNewlines rest
  | .char '\r' :: rest => .char '\n' :: withPlainNewlines rest
  | point :: rest => point :: withPlainNewlines rest

end SymbolCensus.Source
