import SymbolCensus.Scan.Basic

/-!
# The log

What the program tells about its work as it goes: a line with a severity and a message for each
remark.

- `channelName`: the name under which a part of the program logs.
- `Note.message`: the wording of a scan's note.
-/

namespace SymbolCensus.Log

/-- The name under which all parts of the program log. -/
def root : String := "symscan"

/-- The name under which a part of the program logs: names outside the common one are put below
it. -/
def channelName (name : String) : String :=
  if name = root ∨ name.startsWith (root ++ ".") then name else root ++ "." ++ name

/-- How much a remark matters. -/
inductive Severity where
  | debug
  | warning
deriving DecidableEq, Repr

/-- The name of a severity. -/
def Severity.label : Severity → String
  | debug => "DEBUG"
  | warning => "WARNING"

/-- A remark as a line of the log. -/
def line (severity : Severity) (message : String) : String :=
  severity.label ++ ": " ++ message ++ "\n"

/-- The wording of a scan's note. -/
def noteMessage (filename : String) : Note → String
  | .reported diagnostic => filename ++ ": " ++ diagnostic.text
  | .strange c position =>
    filename ++ ": unrecognized character " ++ Text.quote c.toString ++ " at " ++ position.text
  | .finished tokens symbols diagnostics =>
    filename ++ ": " ++ toString tokens ++ " tokens, " ++ toString symbols ++ " symbols, " ++
      toString diagnostics ++ " diagnostics"

end SymbolCensus.Log
