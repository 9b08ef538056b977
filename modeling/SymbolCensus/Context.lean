import SymbolCensus.Lexicon
import SymbolCensus.Symbol

/-!
# The context of an identifier

While a text is read from left to right, a few facts about what came before an identifier decide
which role it seems to play: the type that waits for a name, whether a parenthesis is open, and
whether the keyword `class` has just been read. A context is the record of these facts, and
`Context.guess` is the decision.
-/

namespace SymbolCensus

/-- What the text before a place says about the identifier that may come next. -/
structure Context where
  /-- The type word just read, waiting for the name that it declares. -/
  pendingType : Option String := none
  /-- The last parenthesis read was an opening one. Parentheses are not counted: a closing one ends
  the list even where it closes an inner pair. -/
  inParameters : Bool := false
  /-- The keyword `class` has just been read. -/
  afterClass : Bool := false
  /-- The class whose name was read last. -/
  className : Option String := none
deriving DecidableEq, Repr, Inhabited

namespace Context

/-- The context once no declaration is under way. -/
def clearDeclaration (context : Context) : Context :=
  { context with pendingType := none, afterClass := false }

/-- The role and declared type that a name seen for the first time seems to have, given the
character right behind it. -/
def guess (context : Context) (next : Option Char) : Role × Option String :=
  if context.afterClass then (.classType, none)
  else match context.pendingType with
    | none => (.unknown, none)
    | some type =>
      if next = some '(' then (.method, some type)
      else if context.inParameters then (.parameter, some type)
      else (.field, some type)

/-- The context behind a keyword. -/
def afterKeyword (context : Context) (lexeme : String) : Context :=
  { context with
    afterClass := lexeme == "class"
    pendingType :=
      match Lexicon.startsTypeName lexeme with
      | .ok true => some lexeme
      | _ => none }

/-- The context behind an identifier, which uses up what was waiting for it. It names a class only
at its first sighting. -/
def afterIdentifier (context : Context) (name : String) (isNew : Bool) : Context :=
  { context with
    pendingType := none
    afterClass := false
    className := if isNew && context.afterClass then some name else context.className }

/-- The context behind an operator or punctuation lexeme: only the parentheses matter. -/
def afterMark (context : Context) (lexeme : String) : Context :=
  { context with
    inParameters :=
      if lexeme = "(" then true else if lexeme = ")" then false else context.inParameters }

end Context

end SymbolCensus
