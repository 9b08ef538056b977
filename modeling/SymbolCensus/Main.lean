import SymbolCensus.CommandLine.Run

/-!
# The program

Reads the source file that the command line names, if it names one, and leaves the rest to
`CommandLine.run`. The locale is taken to be one of UTF-8.
-/

namespace SymbolCensus

/-- The fault behind an error of the file system. An error without a number counts as one of input
or output. -/
def accessFault : IO.Error → Source.AccessFault
  | .alreadyExists _ code details | .otherError code details | .resourceBusy code details
  | .resourceVanished code details | .unsupportedOperation code details
  | .hardwareFault code details | .unsatisfiedConstraints code details
  | .illegalOperation code details | .protocolError code details | .timeExpired code details
  | .interrupted _ code details | .noFileOrDirectory _ code details
  | .invalidArgument _ code details | .permissionDenied _ code details
  | .resourceExhausted _ code details | .inappropriateType _ code details
  | .noSuchThing _ code details => ⟨code.toNat, details⟩
  | .unexpectedEof => ⟨5, "Unexpected end of file"⟩
  | .userError details => ⟨5, details⟩

/-- An open file, read to its end. That a path leads to a folder shows only now, but is a fault of
opening it. -/
def readHandle (handle : IO.FS.Handle) : IO Source.Opened := do
  try
    return .ok (.ok (← handle.readBinToEnd).toList)
  catch error =>
    let fault := accessFault error
    if fault.number = Source.AccessFault.isFolder.number then return .error fault
    return .ok (.error fault)

/-- The file at a path, opened and read to its end. -/
def readFile (path : String) : IO Source.Opened := do
  try
    readHandle (← IO.FS.Handle.mk path .read)
  catch error => return .error (accessFault error)

end SymbolCensus

open SymbolCensus in
/-- Runs the command line and prints what it leaves behind. -/
def main (arguments : List String) : IO UInt32 := do
  let content ←
    match CommandLine.Invocation.ofArguments arguments with
    | .ok (.analyse { source := some path, .. }) => readFile path
    | _ => pure (.error .missing)
  let surroundings : Source.Surroundings :=
    { openFile := fun _ => content, encoding := ← IO.getEnv "SYMSCAN_ENCODING" }
  match CommandLine.run arguments surroundings with
  | .ok outcome =>
    (← IO.getStderr).putStr outcome.errors
    (← IO.getStdout).putStr outcome.output
    return outcome.exitCode.toUInt32
  | .error failure =>
    (← IO.getStderr).putStrLn failure.message
    return 1
