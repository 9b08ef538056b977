import SymbolCensus.Analysis.Census
import SymbolCensus.Source.Reading

/-!
# The analysis of a file

An analysis takes the census of a source, or tells why the source cannot be read. It is all or
nothing: a file that cannot be read in full yields no token, no symbol and no diagnostic.
-/

namespace SymbolCensus

/-- The outcome of an analysis: the name of the source, and its census if it could be read. -/
structure Analysis where
  filename : String
  outcome : Except Source.ReadError Census

namespace Analysis

/-- The census of the source, empty if it could not be read. -/
def census (analysis : Analysis) : Census :=
  match analysis.outcome with
  | .ok census => census
  | .error _ => {}

/-- The source could be read. -/
def succeeded (analysis : Analysis) : Bool :=
  match analysis.outcome with
  | .ok _ => true
  | .error _ => false

/-- What went wrong, in words. -/
def errors (analysis : Analysis) : List String :=
  match analysis.outcome with
  | .ok _ => []
  | .error error => ["Failed to read source file: " ++ error.message]

/-- The analysis of a text. -/
def ofText (filename text : String) (refine : Bool) : Analysis :=
  { filename, outcome := .ok (Census.ofText text refine) }

/-- The analysis of the file at a path. No file can be asked for with a NUL in its path or in the
name of its encoding. -/
def ofFile (surroundings : Source.Surroundings) (path encoding : String) (refine : Bool) :
    Except Failure Analysis :=
  match surroundings.host.read (.ofString path) (.ofString encoding) with
  | .ok text => .ok (ofText path (String.ofList text.characters) refine)
  | .error .nullInEncoding => .error .nullInEncoding
  | .error .nullInPath => .error .nullInPath
  | .error error => .ok { filename := path, outcome := .error error }

end Analysis

end SymbolCensus
