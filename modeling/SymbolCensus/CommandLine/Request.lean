import SymbolCensus.CommandLine.Argument

/-!
# Requests

What a command line asks for. Options may stand before and behind the operand, and a pair of
dashes ends the options: whatever follows it is an operand, its spelling notwithstanding.

- `readAll`: reads arguments from left to right.
- `Invocation.ofArguments`: reads a command line.
-/

namespace SymbolCensus.CommandLine

/-- What a command line asks for. -/
structure Request where
  source : Option String := none
  tokensOnly : Bool := false
  symbolsOnly : Bool := false
  noRefine : Bool := false
  encoding : Option String := none
  verbose : Bool := false
deriving DecidableEq, Repr

/-- How far a command line has been understood: the request so far, the arguments left over, and
whether the argument read last was taken as the source. -/
structure Reading where
  request : Request := {}
  leftOver : List String := []
  sourceLast : Bool := false
deriving DecidableEq, Repr

/-- The outcome of reading some arguments. -/
inductive Step where
  | goOn (reading : Reading)
  /-- Help is asked for, and nothing else matters. -/
  | help
deriving DecidableEq, Repr

namespace Reading

/-- Applies one option. -/
def apply (reading : Reading) (switch : Switch) (value : Option String) :
    Except UsageError Step :=
  let request := reading.request
  let set (request : Request) : Except UsageError Step :=
    .ok (.goOn { reading with request, sourceLast := false })
  match switch with
  | .help => .ok .help
  | .tokensOnly =>
    if request.symbolsOnly then .error (.conflict .tokensOnly .symbolsOnly)
    else set { request with tokensOnly := true }
  | .symbolsOnly =>
    if request.tokensOnly then .error (.conflict .symbolsOnly .tokensOnly)
    else set { request with symbolsOnly := true }
  | .noRefine => set { request with noRefine := true }
  | .encoding => set { request with encoding := value }
  | .verbose => set { request with verbose := true }

/-- Applies options one after another, up to a call for help. -/
def applyAll (reading : Reading) : List Switch → Except UsageError Step
  | [] => .ok (.goOn reading)
  | switch :: switches => do
    match ← reading.apply switch none with
    | .help => return .help
    | .goOn reading => reading.applyAll switches

/-- Leaves an argument over. -/
def leave (reading : Reading) (arguments : List String) : Reading :=
  { reading with leftOver := reading.leftOver ++ arguments, sourceLast := false }

/-- Takes an operand: the first one is the source, and any other is left over. -/
def operand (reading : Reading) (text : String) : Reading :=
  if reading.request.source.isSome then reading.leave [text]
  else { reading with request := { reading.request with source := text }, sourceLast := true }

/-- Takes what follows the pair of dashes, given as all arguments behind it. The dashes themselves
are left over where the source lies further back than right before them. -/
def behindDashes (reading : Reading) (operands : List String) : Reading :=
  if reading.request.source.isSome && !reading.sourceLast then
    reading.leave ("--" :: operands)
  else operands.foldl operand reading

end Reading

/-- Short options written in one argument, given the first and the characters behind it. Each
character has to be an option of its own: none of them takes a value, so whatever stands where the
next option is expected is an unexpected value, and so is nothing at all. -/
def splitCluster (switch : Switch) : List Char → Except UsageError (List Switch)
  | [] => .error (.unexpectedValue switch "")
  | c :: rest =>
    match Switch.ofSpelling? (String.ofList ['-', c]) with
    | none => .error (.unexpectedValue switch (String.ofList (c :: rest)))
    | some next =>
      if rest.isEmpty then .ok [switch, next]
      else (splitCluster next rest).map (switch :: ·)

/-- The value that an option is given behind its equals sign. A pair of dashes is no value: it takes
back any value given before. -/
def attachedValue (value : String) : Option String :=
  if value = "--" then none else some value

/-- Reads arguments from left to right. An option that needs a value takes the one behind its equals
sign, or else the next argument if that is an operand. -/
def readAll : List Argument → Reading → Except UsageError Step
  | [], reading => .ok (.goOn reading)
  | .operand text :: rest, reading => readAll rest (reading.operand text)
  | .unknown text :: rest, reading => readAll rest (reading.leave [text])
  | .cluster switch tail :: rest, reading => do
    match ← reading.applyAll (← splitCluster switch tail) with
    | .help => return .help
    | .goOn reading => readAll rest reading
  | .option switch value :: rest, reading =>
    if switch.takesValue then
      match value, rest with
      | some value, rest => do
        match ← reading.apply switch (attachedValue value) with
        | .help => return .help
        | .goOn reading => readAll rest reading
      | none, .operand value :: rest => do
        match ← reading.apply switch value with
        | .help => return .help
        | .goOn reading => readAll rest reading
      | none, _ => .error (.missingValue switch)
    else
      match value with
      | some value => .error (.unexpectedValue switch value)
      | none => do
        match ← reading.apply switch none with
        | .help => return .help
        | .goOn reading => readAll rest reading

/-- What a command line comes to. -/
inductive Invocation where
  | help
  | analyse (request : Request)
deriving DecidableEq, Repr

/-- Reads a command line. All arguments before a pair of dashes are read one by one before any of
them takes effect, and what is left over is told only when nothing else is wrong. -/
def Invocation.ofArguments (arguments : List String) : Except UsageError Invocation := do
  let read ← (arguments.takeWhile (· != "--")).mapM Argument.ofText
  match ← readAll read {} with
  | .help => return .help
  | .goOn reading =>
    let reading :=
      match arguments.dropWhile (· != "--") with
      | [] => reading
      | _ :: operands => reading.behindDashes operands
    if reading.leftOver.isEmpty then return .analyse reading.request
    else throw (.unrecognized reading.leftOver)

end SymbolCensus.CommandLine
