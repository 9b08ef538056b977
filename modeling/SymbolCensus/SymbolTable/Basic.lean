import SymbolCensus.Symbol
import SymbolCensus.Token

/-!
# Symbol tables

The symbols of a text in the order in which they were first seen, one entry for each identifier
text. A table knows no scopes: a field and a local variable of one name share an entry.

- `record`, `recordAll`: count sightings, with a new entry at the end for a new name.
- `find?`, `contains`, `names`, `size`: views of the table.
- `modify`, `put`, `bump`, `assign`: change the entry of a name where it stands.
-/

namespace SymbolCensus

/-- Symbols in the order of their first sightings. A table keeps no keys besides the names of its
entries: an entry is found by its own name. -/
structure SymbolTable where
  entries : List Symbol := []
deriving DecidableEq, Repr, Inhabited

namespace SymbolTable

/-- The names of the entries, in order. -/
def names (table : SymbolTable) : List String :=
  table.entries.map (·.name)

/-- The number of entries. -/
def size (table : SymbolTable) : Nat :=
  table.entries.length

/-- The entry of a name, if it has one. -/
def find? (table : SymbolTable) (name : String) : Option Symbol :=
  table.entries.find? (·.name == name)

/-- A name has an entry. -/
def contains (table : SymbolTable) (name : String) : Bool :=
  (table.find? name).isSome

/-- The entry of a name that must have one. -/
def lookup (table : SymbolTable) (name : String) : Except Failure Symbol :=
  match table.find? name with
  | some symbol => .ok symbol
  | none => .error (.unknownSymbol name)

/-- Changes the entry of a name where it stands. -/
def modify (table : SymbolTable) (name : String) (change : Symbol → Symbol) : SymbolTable :=
  ⟨table.entries.map fun symbol => if symbol.name = name then change symbol else symbol⟩

/-- Puts a symbol in the place of the entry of its name, or at the end for a new name. An entry keeps
the position at which its name was seen first. -/
def put (table : SymbolTable) (symbol : Symbol) : SymbolTable :=
  if table.contains symbol.name then
    table.modify symbol.name fun entry => { symbol with first := entry.first }
  else ⟨table.entries ++ [symbol]⟩

/-- The table of a list of symbols. Of several with one name the first gives the position and the
last gives all else. -/
def ofList (symbols : List Symbol) : SymbolTable :=
  symbols.foldl put {}

/-- Counts a sighting of a token's lexeme. -/
def record (table : SymbolTable) (token : Token) : SymbolTable :=
  if table.contains token.lexeme then table.modify token.lexeme Symbol.bump
  else ⟨table.entries ++ [{ name := token.lexeme, first := token.position }]⟩

/-- Counts a sighting of each identifier among some tokens. -/
def recordAll (table : SymbolTable) (tokens : List Token) : SymbolTable :=
  (tokens.filter (·.kind == .identifier)).foldl record table

/-- Counts one more sighting of a name that has an entry. -/
def bump (table : SymbolTable) (name : String) : Except Failure SymbolTable :=
  (table.lookup name).map fun _ => table.modify name Symbol.bump

/-- Gives the entry of a name a role, called by its label, and a declared type. A name without an
entry is noticed before a label without a role. -/
def assign (table : SymbolTable) (name label : String) (declaredType : Option String) :
    Except Failure SymbolTable := do
  let _ ← table.lookup name
  let role ← Role.ofLabel label
  return table.modify name (·.classified role declaredType)

theorem names_modify {table : SymbolTable} {name : String} {change : Symbol → Symbol}
    (h : ∀ symbol, (change symbol).name = symbol.name) :
    (table.modify name change).names = table.names := by
  simp only [names, modify, List.map_map]
  apply List.map_congr_left
  intro symbol _
  simp only [Function.comp]
  split <;> simp [h]

theorem contains_iff {table : SymbolTable} {name : String} :
    table.contains name = true ↔ name ∈ table.names := by
  simp [contains, find?, names]

theorem names_record (table : SymbolTable) (token : Token) :
    (table.record token).names =
      if token.lexeme ∈ table.names then table.names else table.names ++ [token.lexeme] := by
  unfold record
  by_cases h : token.lexeme ∈ table.names
  · rw [if_pos (contains_iff.2 h), if_pos h, names_modify Symbol.name_bump]
  · rw [if_neg (mt contains_iff.1 h), if_neg h]
    simp [names]

end SymbolTable

end SymbolCensus
