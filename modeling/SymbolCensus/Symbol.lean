import SymbolCensus.Failure
import SymbolCensus.Position

/-!
# Symbols

What is known of one identifier text: the role it seems to play, the type it seems to be declared
with, where it was seen first and how often it was seen.
-/

namespace SymbolCensus

/-- The syntactic role that an identifier seems to play. -/
inductive Role where
  | classType
  | method
  | field
  | parameter
  | localVariable
  | unknown
deriving DecidableEq, Repr, Inhabited

namespace Role

/-- The roles in their usual order. -/
def all : List Role :=
  [classType, method, field, parameter, localVariable, unknown]

/-- The name of a role as tables show it. -/
def label : Role → String
  | classType => "class"
  | method => "method"
  | field => "field"
  | parameter => "parameter"
  | localVariable => "local"
  | unknown => "unknown"

/-- The name of a role in capitals. -/
def tag : Role → String
  | classType => "CLASS"
  | method => "METHOD"
  | field => "FIELD"
  | parameter => "PARAMETER"
  | localVariable => "LOCAL"
  | unknown => "UNKNOWN"

/-- The role that has a label. -/
def ofLabel (label : String) : Except Failure Role :=
  match all.find? (·.label == label) with
  | some role => .ok role
  | none => .error (.unknownLabel label "SymbolKind")

theorem ofLabel_label (role : Role) : ofLabel role.label = .ok role := by
  cases role <;> rfl

end Role

/-- An identifier text with all that is known of it. -/
structure Symbol where
  name : String
  role : Role := .unknown
  declaredType : Option String := none
  first : Position
  sightings : Int := 1
deriving DecidableEq, Repr, Inhabited

namespace Symbol

/-- The symbol after one more sighting. -/
def bump (symbol : Symbol) : Symbol :=
  { symbol with sightings := symbol.sightings + 1 }

/-- The symbol with a role and a declared type of the caller's choice. -/
def classified (symbol : Symbol) (role : Role) (declaredType : Option String) : Symbol :=
  { symbol with role, declaredType }

/-- The symbol with a declared type, if there is one to give, it has none yet and it is no class. -/
def adopting (symbol : Symbol) (declaredType : Option String) : Symbol :=
  if symbol.role ≠ .classType ∧ symbol.declaredType = none then { symbol with declaredType }
  else symbol

@[simp] theorem name_bump (symbol : Symbol) : symbol.bump.name = symbol.name := rfl

@[simp] theorem name_classified (symbol : Symbol) (role : Role) (type : Option String) :
    (symbol.classified role type).name = symbol.name := rfl

end Symbol

end SymbolCensus
