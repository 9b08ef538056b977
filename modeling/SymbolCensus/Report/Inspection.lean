import SymbolCensus.SymbolTable.Basic

/-!
# Values for inspection

One-line texts of tokens, symbols and symbol tables that show every field, for messages and logs.
-/

namespace SymbolCensus

/-- A token with its kind in capitals, its quoted lexeme, its place and the type of its value. -/
def Token.inspect (token : Token) : String :=
  let valueType :=
    match token.valueType with
    | none | some "" => ""
    | some type => " <" ++ type ++ ">"
  "Token(" ++ token.kind.tag ++ ", " ++ Text.quote token.lexeme ++ ", " ++
    token.position.text ++ valueType ++ ")"

/-- A role with both its names. -/
def Role.inspect (role : Role) : String :=
  "<SymbolKind." ++ role.tag ++ ": " ++ Text.quote role.label ++ ">"

/-- A symbol with all its fields. -/
def Symbol.inspect (symbol : Symbol) : String :=
  "SymbolInfo(name=" ++ Text.quote symbol.name ++
    ", first_line=" ++ toString symbol.first.line ++
    ", first_column=" ++ toString symbol.first.column ++
    ", kind=" ++ symbol.role.inspect ++
    ", declared_type=" ++ (symbol.declaredType.map Text.quote).getD "None" ++
    ", occurrences=" ++ toString symbol.sightings ++ ")"

/-- A symbol table with all its entries. -/
def SymbolTable.inspect (table : SymbolTable) : String :=
  "SymbolTable([" ++ ", ".intercalate (table.entries.map Symbol.inspect) ++ "])"

end SymbolCensus
