import SymbolCensus.SymbolTable.Basic
import SymbolCensus.Text.Column

/-!
# Tables for reading

Tokens and symbols as rows of a table with aligned columns, each section under a heading.

- `tokenRow`, `symbolRow`: one row.
- `tokenSection`, `symbolSection`: a heading and the rows below it.
-/

namespace SymbolCensus.Report

open Text

/-- A token: its place, its lexeme between quotation marks, its kind and, if it has one, the type
of its value between angle brackets. -/
def tokenRow (token : Token) : String :=
  let valueType :=
    match token.valueType with
    | none | some "" => ""
    | some type => " <" ++ type ++ ">"
  withoutTrailingSpaces <|
    rightAligned 3 (toString token.position.line) ++ ":" ++
    leftAligned 3 (toString token.position.column) ++ "  " ++
    leftAligned 30 ("\"" ++ token.lexeme ++ "\"") ++ " " ++
    leftAligned 12 token.kind.label ++ valueType

/-- The declared type of a symbol, a dash standing for none. -/
def typeField (symbol : Symbol) : String :=
  match symbol.declaredType with
  | none | some "" => "-"
  | some type => type

/-- A symbol: its name, role and declared type, where it was seen first and how often. -/
def symbolRow (symbol : Symbol) : String :=
  leftAligned 20 symbol.name ++ " " ++
  leftAligned 12 symbol.role.label ++ " " ++
  leftAligned 12 (typeField symbol) ++ " " ++
  rightAligned 4 (toString symbol.first.line) ++ ":" ++
  leftAligned 3 (toString symbol.first.column) ++ "  occurrences=" ++
  toString symbol.sightings

/-- The rows of a token list under their heading. -/
def tokenSection (tokens : List Token) : List String :=
  "=== Tokens ===" :: tokens.map tokenRow

/-- The row that names the class of a text; there is none for a missing or empty name. -/
def classRows : Option String → List String
  | none | some "" => []
  | some name => ["class: " ++ name]

/-- The rows of a symbol table under their heading, in the order of first sightings, with the class
of the text before them. -/
def symbolSection (symbols : SymbolTable) (className : Option String) : List String :=
  "=== Symbol Table ===" :: (classRows className ++ symbols.entries.map symbolRow)

/-! ## How rows look -/

example :
    tokenRow { kind := .constant, lexeme := "5.50", position := ⟨3, 45⟩, valueType := "double" } =
      "  3:45   \"5.50\"                         Constant     <double>" := by
  decide +kernel

example :
    tokenRow { kind := .keyword, lexeme := "class", position := ⟨1000, 1⟩ } =
      "1000:1    \"class\"                        Keyword" := by
  decide +kernel

example :
    symbolRow
        { name := "main", role := .method, declaredType := "void", first := ⟨15, 24⟩ } =
      "main                 method       void           15:24   occurrences=1" := by
  decide +kernel

end SymbolCensus.Report
