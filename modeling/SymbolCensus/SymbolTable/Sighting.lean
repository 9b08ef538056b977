import SymbolCensus.Context
import SymbolCensus.SymbolTable.Basic

/-!
# Sightings in context

A scan records each identifier in the symbol table as soon as it is read, together with the best
guess that the context allows. The first sighting of a name decides its role; later ones can only
supply a declared type that is still missing.

- `sight`: what a sighting does to the table.
- `observe`: what it does to the table and to the context.
-/

namespace SymbolCensus.SymbolTable

/-- Counts a sighting of an identifier and classifies it by its context and the character right
behind it. -/
def sight (table : SymbolTable) (token : Token) (context : Context) (next : Option Char) :
    SymbolTable :=
  if table.contains token.lexeme then
    (table.record token).modify token.lexeme (·.adopting context.pendingType)
  else
    let (role, declaredType) := context.guess next
    (table.record token).modify token.lexeme (·.classified role declaredType)

/-- A sighting as a whole: the table with the identifier recorded, and the context behind it. -/
def observe (table : SymbolTable) (context : Context) (token : Token) (next : Option Char) :
    SymbolTable × Context :=
  (table.sight token context next,
    context.afterIdentifier token.lexeme (!table.contains token.lexeme))

end SymbolCensus.SymbolTable
