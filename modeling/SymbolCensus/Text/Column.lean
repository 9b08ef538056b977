/-!
# Columns of text

Fields of a table row are filled up with spaces to the width of their column. A field that is wider
than its column keeps all its characters and pushes the rest of the row to the right.
-/

namespace SymbolCensus.Text

/-- A field at the left of its column. -/
def leftAligned (width : Nat) (field : String) : String :=
  String.ofList (field.toList.rightpad width ' ')

/-- A field at the right of its column. -/
def rightAligned (width : Nat) (field : String) : String :=
  String.ofList (field.toList.leftpad width ' ')

/-- A row without the spaces at its end. -/
def withoutTrailingSpaces (row : String) : String :=
  String.ofList (row.toList.reverse.dropWhile (· == ' ')).reverse

end SymbolCensus.Text
