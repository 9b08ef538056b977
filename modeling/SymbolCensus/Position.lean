/-!
# Positions

A place in a source text: line and column, both counted from 1 while a text is read. Tokens made by
hand may carry any integers, so both fields are integers.
-/

namespace SymbolCensus

/-- A line and a column. -/
structure Position where
  line : Int
  column : Int
deriving DecidableEq, Repr, Inhabited

/-- A position is written with a colon between line and column. -/
def Position.text (p : Position) : String :=
  toString p.line ++ ":" ++ toString p.column

end SymbolCensus
