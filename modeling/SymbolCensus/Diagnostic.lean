import SymbolCensus.Position
import SymbolCensus.Text.Quoted

/-!
# Diagnostics

What a scan finds wrong with a source text. No fault stops a scan: the text that was read is kept
and reading goes on behind it.
-/

namespace SymbolCensus

/-- What is wrong with a part of the source text. -/
inductive Fault where
  /-- A block comment that is still open at the end of the text. -/
  | openComment
  /-- A string literal that is still open at the end of the text. -/
  | openLiteral
  /-- A string literal that is still open at the end of its line. -/
  | brokenLiteral
  /-- A number with a second decimal point behind it. -/
  | secondPoint (numeral : String)
deriving DecidableEq, Repr, Inhabited

/-- The wording of a fault. -/
def Fault.message : Fault → String
  | openComment => "Unterminated block comment"
  | openLiteral => "Unterminated string literal"
  | brokenLiteral => "Unterminated string literal, closed at end of line"
  | secondPoint numeral =>
    "Malformed numeric literal " ++ Text.quote numeral ++ " (multiple decimal points)"

/-- A fault and the place where the faulty part starts. -/
structure Diagnostic where
  fault : Fault
  position : Position
deriving DecidableEq, Repr, Inhabited

/-- The message of a diagnostic. -/
def Diagnostic.message (diagnostic : Diagnostic) : String :=
  diagnostic.fault.message

/-- A diagnostic in one phrase: the message and the place. -/
def Diagnostic.text (diagnostic : Diagnostic) : String :=
  diagnostic.message ++ " at " ++ diagnostic.position.text

end SymbolCensus
