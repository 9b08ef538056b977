import SymbolCensus.CommandLine.Switch
import SymbolCensus.Unicode.Numeric

/-!
# Arguments

Each argument of a command line is an operand or an option, which its spelling alone decides.

- `Argument.ofText`: reads one argument.
- `Argument.longCandidates`: the options that a shortened spelling may stand for.
-/

namespace SymbolCensus.CommandLine

/-- One argument of a command line. -/
inductive Argument where
  | operand (text : String)
  /-- An option in full or shortened, and the value behind an equals sign if there is one. -/
  | option (switch : Switch) (value : Option String)
  /-- A short option and what is written behind it in the same argument, which is nothing only
  behind an equals sign. -/
  | cluster (switch : Switch) (tail : List Char)
  /-- An argument that has the form of an option but is none. -/
  | unknown (text : String)
deriving DecidableEq, Repr

namespace Argument

/-- An argument parted at its first equals sign, with what follows the sign if there is one. -/
def parted (text : List Char) : List Char × Option (List Char) :=
  (text.takeWhile (· != '='), (text.dropWhile (· != '=')).tail?)

/-- An argument has the form of a negative number, which makes it an operand: digits of any script
behind a minus sign, or a point and digits with or without digits before it. A newline at the end is
overlooked. -/
def isNegativeNumber : List Char → Bool
  | '-' :: number =>
    let number := if number.getLast? = some '\n' then number.dropLast else number
    let isDigits (digits : List Char) : Bool := !digits.isEmpty && digits.all Unicode.isDecimal
    isDigits number ||
      match number.dropWhile Unicode.isDecimal with
      | '.' :: fraction => isDigits fraction
      | _ => false
  | _ => false

/-- The long options that an argument may stand for, with their spellings: any first part of a
spelling will do. As no spelling is a first part of another, a full one stands for itself alone. -/
def longCandidates (text : List Char) : List (String × Switch) :=
  Switch.spelled.filter fun (spelling, _) => (parted text).1.isPrefixOf spelling.toList

/-- What is written behind a short option, less the equals sign that may set it off. -/
def clusterTail : List Char → List Char
  | '=' :: tail => tail
  | tail => tail

/-- Reads an argument that starts with a dash and is no full spelling and no lone dash. Two dashes
start the first part of a long option; one dash starts a short option with more written right behind
it. Of the rest, negative numbers and anything with a space in it are operands. -/
def ofDashed (text : List Char) : Except UsageError Argument :=
  let other : Argument :=
    if isNegativeNumber text || text.contains ' ' then operand (String.ofList text)
    else unknown (String.ofList text)
  match text with
  | '-' :: '-' :: _ =>
    match longCandidates text with
    | [] => .ok other
    | [(_, switch)] => .ok (option switch ((parted text).2.map String.ofList))
    | several => .error (.ambiguous (String.ofList text) (several.map (·.1)))
  | _ =>
    match Switch.ofSpelling? (String.ofList (text.take 2)) with
    | some switch => .ok (cluster switch (clusterTail (text.drop 2)))
    | none => .ok other

/-- Reads an argument. What starts with a dash is an option, unless the dash stands alone. -/
def ofText (text : String) : Except UsageError Argument :=
  match Switch.ofSpelling? text with
  | some switch => .ok (option switch none)
  | none =>
    match text.toList with
    | '-' :: c :: rest => ofDashed ('-' :: c :: rest)
    | _ => .ok (operand text)

end Argument

end SymbolCensus.CommandLine
