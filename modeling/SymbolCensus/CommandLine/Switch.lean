import SymbolCensus.Text.Quoted

/-!
# Switches

The options of the command line, how each is spelled, and the ways in which a command line can be
wrong.

- `Switch.ofSpelling?`: the switch that has a spelling.
- `UsageError.message`: the wording of a usage error.
-/

namespace SymbolCensus.CommandLine

/-- The options of the command line. -/
inductive Switch where
  | help
  | tokensOnly
  | symbolsOnly
  | noRefine
  | encoding
  | verbose
deriving DecidableEq, Repr

namespace Switch

/-- The options in the order in which help lists them. -/
def all : List Switch :=
  [help, tokensOnly, symbolsOnly, noRefine, encoding, verbose]

/-- The spellings of a switch, a short one first if it has one. -/
def spellings : Switch → List String
  | help => ["-h", "--help"]
  | tokensOnly => ["--tokens-only"]
  | symbolsOnly => ["--symbols-only"]
  | noRefine => ["--no-refine"]
  | encoding => ["--encoding"]
  | verbose => ["-v", "--verbose"]

/-- A switch as messages call it. -/
def title (switch : Switch) : String :=
  "/".intercalate switch.spellings

/-- The switch needs a value. No switch with a short spelling does. -/
def takesValue : Switch → Bool
  | encoding => true
  | _ => false

/-- All spellings with their switches. -/
def spelled : List (String × Switch) :=
  all.flatMap fun switch => switch.spellings.map (·, switch)

/-- The switch that has a spelling. -/
def ofSpelling? (spelling : String) : Option Switch :=
  spelled.lookup spelling

end Switch

/-- What is wrong with a command line. -/
inductive UsageError where
  /-- A shortened option could stand for several. -/
  | ambiguous (given : String) (candidates : List String)
  /-- A value is attached to an option that takes none. -/
  | unexpectedValue (switch : Switch) (value : String)
  /-- An option lacks its value. -/
  | missingValue (switch : Switch)
  /-- Two options exclude each other. -/
  | conflict (switch earlier : Switch)
  /-- Arguments are left over. -/
  | unrecognized (arguments : List String)
deriving DecidableEq, Repr

/-- The wording of a usage error. -/
def UsageError.message : UsageError → String
  | ambiguous given candidates =>
    "ambiguous option: " ++ given ++ " could match " ++ ", ".intercalate candidates
  | unexpectedValue switch value =>
    "argument " ++ switch.title ++ ": ignored explicit argument " ++ Text.quote value
  | missingValue switch => "argument " ++ switch.title ++ ": expected one argument"
  | conflict switch earlier =>
    "argument " ++ switch.title ++ ": not allowed with argument " ++ earlier.title
  | unrecognized arguments => "unrecognized arguments: " ++ " ".intercalate arguments

end SymbolCensus.CommandLine
