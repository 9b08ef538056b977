/-!
# Clipped text

A long name is shown up to a number of bytes of its UTF-8 form.
-/

namespace SymbolCensus.Text

/-- The characters that fit into a number of bytes of UTF-8. A character of which only a first part
fits is shown as the replacement character. -/
def clippedFrom : (bytes : Nat) → List Char → List Char
  | _, [] => []
  | 0, _ => []
  | bytes + 1, c :: rest =>
    if c.utf8Size ≤ bytes + 1 then c :: clippedFrom (bytes + 1 - c.utf8Size) rest
    else ['\ufffd']

/-- A text up to a number of bytes of UTF-8. -/
def clipped (bytes : Nat) (text : String) : String :=
  String.ofList (clippedFrom bytes text.toList)

example : clipped 3 "aéb" = "aé" := by decide +kernel

example : clipped 2 "aéb" = "a\ufffd" := by decide +kernel

end SymbolCensus.Text
