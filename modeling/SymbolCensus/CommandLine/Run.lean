import SymbolCensus.Analysis.File
import SymbolCensus.Analysis.Sample
import SymbolCensus.CommandLine.Request
import SymbolCensus.Log
import SymbolCensus.Report.Table

/-!
# Running a command line

What a command line prints, on which of the two channels, and the exit code that it ends with.

- `run`: the whole program but for input and output.
-/

namespace SymbolCensus.CommandLine

/-- What a run leaves behind. -/
structure Outcome where
  exitCode : Nat
  output : String := ""
  errors : String := ""
deriving DecidableEq, Repr

/-- How the program is called. -/
def usage : String :=
  "usage: symscan [-h] [--tokens-only | --symbols-only] [--no-refine]\n" ++
  "               [--encoding ENCODING] [-v]\n" ++
  "               [source]\n"

/-- How the program is called and what its arguments mean. -/
def help : String :=
  usage ++
  "\nTokenize source and build a symbol table\n" ++
  "\npositional arguments:\n" ++
  "  source               Input source file (default: built-in sample)\n" ++
  "\noptions:\n" ++
  "  -h, --help           show this help message and exit\n" ++
  "  --tokens-only        Print only the token list\n" ++
  "  --symbols-only       Print only the symbol table\n" ++
  "  --no-refine          Skip the refinement pass\n" ++
  "  --encoding ENCODING  Source encoding (default: $SYMSCAN_ENCODING or utf-8)\n" ++
  "  -v, --verbose        Enable debug logging\n"

/-- The analysis that a request asks for: of the file at its source, or of the sample program. -/
def analysis (request : Request) (surroundings : Source.Surroundings) :
    Except Failure Analysis :=
  match request.source with
  | none => .ok (Analysis.ofText "<sample>" Sample.text (!request.noRefine))
  | some path =>
    Analysis.ofFile surroundings path (surroundings.encodingFor request.encoding)
      (!request.noRefine)

/-- The sections of a report, with an empty line between two. -/
def report (request : Request) (census : Census) : List String :=
  let tokens := if request.symbolsOnly then [] else Report.tokenSection census.tokens
  let symbols :=
    if request.tokensOnly then [] else Report.symbolSection census.symbols census.className
  if tokens.isEmpty || symbols.isEmpty then tokens ++ symbols else tokens ++ "" :: symbols

/-- What the scan noted, as the log shows it. -/
def scanLog (filename : String) (census : Census) : List String :=
  census.notes.map fun note => Log.line .debug (Log.noteMessage filename note)

/-- The diagnostics, as the log shows them. -/
def diagnosticLog (filename : String) (census : Census) : List String :=
  census.diagnostics.map fun diagnostic =>
    Log.line .warning (filename ++ ": " ++ diagnostic.text)

/-- Prints an analysis: the report, with the log on the other channel, or the read error. -/
def present (request : Request) (analysis : Analysis) : Outcome :=
  match analysis.outcome with
  | .ok census =>
    let log :=
      (if request.verbose then scanLog analysis.filename census else []) ++
        diagnosticLog analysis.filename census
    { exitCode := 0
      output := "\n".intercalate (report request census) ++ "\n"
      errors := String.join log }
  | .error error =>
    { exitCode := 1
      output := String.join (analysis.errors.map fun line => "Error: " ++ line ++ "\n")
      errors :=
        if request.verbose then
          Log.line .debug ("cannot read " ++ analysis.filename ++ ": " ++ error.message)
        else "" }

/-- Runs a command line. -/
def run (arguments : List String) (surroundings : Source.Surroundings) :
    Except Failure Outcome := do
  match Invocation.ofArguments arguments with
  | .error error =>
    return { exitCode := 2, errors := usage ++ "symscan: error: " ++ error.message ++ "\n" }
  | .ok .help => return { exitCode := 0, output := help }
  | .ok (.analyse request) => return present request (← analysis request surroundings)

end SymbolCensus.CommandLine
