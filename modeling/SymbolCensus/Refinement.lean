import SymbolCensus.Lexicon
import SymbolCensus.SymbolTable.Basic

/-!
# Refinement

Once all tokens of a text are known, the roles guessed on the way can be corrected by looking at a
few tokens around each type word and each keyword `class`.

- A type word, an identifier and an opening parenthesis declare a method.
- A type word, an identifier and one of `=`, `;` and `,` declare a field if a modifier stands among
  the few tokens before the type word, and a local variable otherwise; classes, methods and
  parameters stay what they are.
- The identifier behind the keyword `class` is a class, whatever else it seemed to be.

Nothing but roles and declared types of existing entries changes. A keyword without a character
cannot be judged; the pass stops there and keeps what it did before.
-/

namespace SymbolCensus

/-- A symbol table under refinement and the class whose name the pass met last. -/
structure Refinement where
  symbols : SymbolTable
  className : Option String := none
deriving DecidableEq, Repr, Inhabited

namespace Refinement

/-- How many tokens before a declaration are searched for a modifier. -/
def modifierWindow : Nat := 6

/-- A modifier stands among the tokens right before a declaration, given last first. -/
def hasModifier (before : List Token) : Bool :=
  (before.take modifierWindow).any (·.isA .keyword Lexicon.modifiers)

/-- A plain declaration does not change such a role any more. -/
def isSettled (role : Role) : Bool :=
  role == .classType || role == .method || role == .parameter

/-- The entry of a name behind a type word, given the token behind the name. -/
def declared (symbol : Symbol) (before : List Token) (type : String) (follow : Token) : Symbol :=
  if follow.isA .punctuation ["("] then
    if symbol.role = .classType then symbol else symbol.classified .method (some type)
  else if follow.isA .operator ["="] || follow.isA .punctuation [";", ","] then
    if isSettled symbol.role then symbol
    else if hasModifier before then symbol.classified .field (some type)
    else symbol.classified .localVariable (some type)
  else symbol

/-- What a type word does to the identifier behind it, if one more token follows. -/
def declare (refinement : Refinement) (before : List Token) (type : Token) :
    (after : List Token) → Refinement
  | name :: follow :: _ =>
    if name.kind = .identifier then
      { refinement with
        symbols := refinement.symbols.modify name.lexeme
          (declared · before type.lexeme follow) }
    else refinement
  | _ => refinement

/-- What the keyword `class` does to the identifier behind it. -/
def declareClass (refinement : Refinement) : (after : List Token) → Refinement
  | name :: _ =>
    if name.kind = .identifier then
      { symbols := refinement.symbols.modify name.lexeme (·.classified .classType none)
        className := some name.lexeme }
    else refinement
  | [] => refinement

/-- The pass over the tokens `after` a place, with those `before` it at hand, last first. It gives
the refinement as far as the pass came, and why it stopped if it did. -/
def passFrom (before : List Token) :
    (after : List Token) → Refinement → Refinement × Except Failure Unit
  | [], refinement => (refinement, .ok ())
  | token :: after, refinement =>
    match Lexicon.isTypeLike token with
    | .error failure => (refinement, .error failure)
    | .ok typeLike =>
      let refinement := if typeLike then refinement.declare before token after else refinement
      let refinement :=
        if token.isA .keyword ["class"] then refinement.declareClass after else refinement
      passFrom (token :: before) after refinement

/-- The pass over all tokens of a text. -/
def pass (refinement : Refinement) (tokens : List Token) : Refinement × Except Failure Unit :=
  passFrom [] tokens refinement

/-- The pass over all tokens of a text, however far it comes. -/
def refine (refinement : Refinement) (tokens : List Token) : Refinement :=
  (refinement.pass tokens).1

end Refinement

/-- A table refined by one pass over some tokens, and why the pass stopped if it did. -/
def SymbolTable.refine (table : SymbolTable) (tokens : List Token) :
    SymbolTable × Except Failure Unit :=
  let (refinement, outcome) := Refinement.pass { symbols := table } tokens
  (refinement.symbols, outcome)

end SymbolCensus
