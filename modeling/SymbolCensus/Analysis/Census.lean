import SymbolCensus.Refinement
import SymbolCensus.Scan.Basic

/-!
# The census of a text

A census is everything that a source text yields: its tokens, its symbols with their roles, its
diagnostics and the class that it seems to be about.

- `Census.ofText`: reads a text and, if asked to, refines the roles of its symbols.
-/

namespace SymbolCensus

/-- What a source text yields. -/
structure Census where
  tokens : List Token := []
  symbols : SymbolTable := {}
  diagnostics : List Diagnostic := []
  className : Option String := none
  notes : List Note := []
deriving Repr, Inhabited

namespace Census

/-- What a scan found. -/
def ofScan (scan : Scan) : Census :=
  { tokens := scan.tokens.toList
    symbols := scan.symbols
    diagnostics := scan.diagnostics.toList
    className := scan.context.className
    notes := scan.notes.toList }

/-- The census with its symbols refined. The class that the refinement met last comes before the
one that the scan met. -/
def refined (census : Census) : Census :=
  let refinement : Refinement := { symbols := census.symbols }
  let refinement := refinement.refine census.tokens
  { census with
    symbols := refinement.symbols
    className :=
      match refinement.className with
      | none | some "" => census.className
      | some name => some name }

/-- Reads a text from start to end and, if asked to, refines the roles of its symbols. -/
def ofText (text : String) (refine : Bool) : Census :=
  let census := ofScan (Scan.ofText text).run
  if refine then census.refined else census

end Census

end SymbolCensus
