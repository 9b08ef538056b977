/-!
# Sets of code points

A property of characters is tabulated as a list of *runs*, pairs of a first and a last code point
with everything between them, or, where upper and lower case letters take turns, as a list of
*alternations*, pairs between which every second code point belongs to the set. The tables of this
folder hold the properties as Unicode 14.0 assigns them, from U+0080 on; the ASCII part of each
property is stated by a formula beside its table, so that the common characters need no search.
-/

namespace SymbolCensus.Unicode

/-- A code point lies in one of the runs. -/
def inRuns (runs : List (Nat × Nat)) (point : Nat) : Bool :=
  runs.any fun (first, last) => first ≤ point && point ≤ last

/-- A code point lies in one of the alternations, an even distance from its start. -/
def inAlternations (alternations : List (Nat × Nat)) (point : Nat) : Bool :=
  alternations.any fun (first, last) =>
    first ≤ point && point ≤ last && (point - first) % 2 == 0

end SymbolCensus.Unicode
