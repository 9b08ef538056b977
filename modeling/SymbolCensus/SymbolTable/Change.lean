import SymbolCensus.SymbolTable.Basic

/-!
# Changes to a symbol table

The ways in which a table can be changed from outside, as data, so that a history of a table is a
list.

- `assignRole`, `assignType`: one half of an assignment.
- `apply`: what a change does, and how it can fail.
- `applyAll`: changes one after another, those that fail doing nothing.
-/

namespace SymbolCensus.SymbolTable

/-- A change to a table. -/
inductive Change where
  /-- Count a sighting of a token's lexeme. -/
  | record (token : Token)
  /-- Count one more sighting of a known name. -/
  | bump (name : String)
  /-- Give a known name a role, called by its label, and a declared type. -/
  | assign (name label : String) (declaredType : Option String)
  /-- Give it a role only. -/
  | assignRole (name label : String)
  /-- Give it a declared type only, or take the one away that it has. -/
  | assignType (name : String) (declaredType : Option String)
deriving DecidableEq, Repr

/-- The name whose entry a change touches. -/
def Change.name : Change → String
  | record token => token.lexeme
  | bump name => name
  | assign name _ _ => name
  | assignRole name _ => name
  | assignType name _ => name

/-- Gives the entry of a name a role, called by its label. -/
def assignRole (table : SymbolTable) (name label : String) : Except Failure SymbolTable := do
  let _ ← table.lookup name
  let role ← Role.ofLabel label
  return table.modify name ({ · with role })

/-- Gives the entry of a name a declared type. -/
def assignType (table : SymbolTable) (name : String) (declaredType : Option String) :
    Except Failure SymbolTable :=
  (table.lookup name).map fun _ => table.modify name ({ · with declaredType })

/-- Makes a change. -/
def apply (table : SymbolTable) : Change → Except Failure SymbolTable
  | .record token => .ok (table.record token)
  | .bump name => table.bump name
  | .assign name label declaredType => table.assign name label declaredType
  | .assignRole name label => table.assignRole name label
  | .assignType name declaredType => table.assignType name declaredType

/-- Makes changes one after another. One that fails leaves the table as it is. -/
def applyAll (table : SymbolTable) (changes : List Change) : SymbolTable :=
  changes.foldl (fun table change => (table.apply change).toOption.getD table) table

end SymbolCensus.SymbolTable
