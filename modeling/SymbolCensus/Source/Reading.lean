import SymbolCensus.Failure
import SymbolCensus.Source.Address
import SymbolCensus.Source.Directory
import SymbolCensus.Source.Encoding
import SymbolCensus.Source.Newline
import SymbolCensus.Text.Clipped

/-!
# Reading a source file

A source file is opened, decoded and given plain line ends. Each step can fail in its own way, and
the first failure is the one that is told: a name or a path that cannot be written comes before a path
that leads to no file, that before a name that is no encoding, and that before a file that breaks off
or holds bytes that are no text.

- `Host`: what a program depends on for reading, each part of it free to be anything.
- `Host.read`: the text of the file at a path.
- `Surroundings`: the host of a program that knows no codecs but those of the table.
-/

namespace SymbolCensus.Source

open Text

/-! ## Errors -/

/-- The kinds of errors. -/
inductive ErrorKind where
  /-- A file is not to be had. -/
  | access
  /-- What a name stands for does not exist, or is of no use here. -/
  | lookup
  /-- Bytes are no text. -/
  | decoding
  | other
deriving DecidableEq, Repr

/-- An error under way. -/
structure Raised where
  kind : ErrorKind
  message : String
deriving DecidableEq, Repr

/-- Why a source file cannot be read. -/
inductive ReadError where
  /-- The name of the encoding holds surrogates. -/
  | unwritableEncoding (fault : EncodeFault)
  /-- The name of the encoding holds the character NUL. -/
  | nullInEncoding
  /-- The path has no address, for a reason in the words of the host. -/
  | noAddress (reason : String)
  /-- The address of the path holds the byte 0. -/
  | nullInPath
  | access (fault : AccessFault) (path : CodePoints)
  /-- No codec has the name. -/
  | unknownEncoding (name : String)
  /-- The codec of the name does not make text of bytes. -/
  | noTextEncoding (name : String)
  /-- The file was opened, but not read to its end. -/
  | brokenOff (fault : AccessFault)
  | undecodable (fault : DecodeFault)
  /-- A codec that the table does not name raises an error. -/
  | codec (raised : Raised)
deriving DecidableEq, Repr

namespace ReadError

def kind : ReadError → ErrorKind
  | unwritableEncoding _ => .other
  | nullInEncoding => .other
  | noAddress _ => .other
  | nullInPath => .other
  | access .. => .access
  | unknownEncoding _ => .lookup
  | noTextEncoding _ => .lookup
  | brokenOff _ => .access
  | undecodable _ => .decoding
  | codec raised => raised.kind

/-- The wording of a read error. Of a very long encoding name only the first 400 bytes are shown where
the name stands between quotes. -/
def message : ReadError → String
  | unwritableEncoding fault => fault.message
  | nullInEncoding => Failure.nullInEncoding.message
  | noAddress reason => reason
  | nullInPath => Failure.nullInPath.message
  | access fault path =>
    "[Errno " ++ toString fault.number ++ "] " ++ fault.message ++ ": " ++ path.quoted
  | unknownEncoding name => "unknown encoding: " ++ name
  | noTextEncoding name =>
    "'" ++ Text.clipped 400 name ++
      "' is not a text encoding; use codecs.open() to handle arbitrary codecs"
  | brokenOff fault => "[Errno " ++ toString fault.number ++ "] " ++ fault.message
  | undecodable fault => fault.message
  | codec raised => raised.message

def raised (error : ReadError) : Raised :=
  ⟨error.kind, error.message⟩

end ReadError

/-! ## Reading -/

/-- What a program depends on for reading a file. -/
structure Host where
  /-- The address of a path, or the wording of why it has none. -/
  address : CodePoints → Except String (List UInt8)
  /-- What becomes of opening the file at an address. -/
  openFile : List UInt8 → Opened
  /-- The encoding that the program is told to use by default, if it is told any. -/
  encoding : Option CodePoints
  /-- The name of the encoding that goes with the locale. -/
  locale : String
  /-- The codecs that the table does not name, by their names. Looking for one can raise an error,
  and so can decoding. -/
  codecs : String → Option (Except Raised (List UInt8 → Except Raised CodePoints))

/-- The name of an encoding as a string. -/
def encodingName (encoding : CodePoints) : Except ReadError String :=
  match firstFault? isCharacter 0 encoding with
  | some fault => .error (.unwritableEncoding fault)
  | none =>
    if encoding.contains (.char '\x00') then .error .nullInEncoding
    else .ok (String.ofList encoding.characters)

namespace Host

variable (host : Host)

/-- The encoding for a source file: the chosen one unless it is missing or empty, else that of the
host, even an empty one, else UTF-8. -/
def encodingFor (chosen : Option CodePoints) : CodePoints :=
  (chosen.filter (· ≠ []) <|> host.encoding).getD (CodePoints.ofString "utf-8")

/-- The address at which the file of a path is opened. -/
def fileAddress (path : CodePoints) : Except ReadError (List UInt8) :=
  match host.address path with
  | .error reason => .error (.noAddress reason)
  | .ok address => if address.contains 0 then .error .nullInPath else .ok address

/-- The name under which an encoding is looked up. The name `locale` stands for the encoding of the
locale. -/
def codecName (name : String) : String :=
  if name = "locale" then host.locale else name

/-- The codec that the table has for an encoding. -/
def tableCodec? (encoding : String) : Option Codec :=
  Codec.ofName? (host.codecName encoding)

/-- The decoder of an encoding. -/
def decoder (encoding : String) : Except ReadError (List UInt8 → Except ReadError CodePoints) :=
  match host.tableCodec? encoding with
  | some (.text standard) =>
    .ok fun bytes => ((standard.decode bytes).map (·.map .char)).mapError .undecodable
  | some .transform => .error (.noTextEncoding (host.codecName encoding))
  | none =>
    match host.codecs (host.codecName encoding) with
    | some (.ok decode) => .ok fun bytes => (decode bytes).mapError .codec
    | some (.error raised) => .error (.codec raised)
    | none => .error (.unknownEncoding (host.codecName encoding))

/-- The text of the file at a path. -/
def read (path encoding : CodePoints) : Except ReadError CodePoints := do
  let name ← encodingName encoding
  let address ← host.fileAddress path
  let content ← (host.openFile address).mapError (.access · path)
  let decode ← host.decoder name
  let bytes ← content.mapError .brokenOff
  let text ← decode bytes
  return withPlainNewlines text

end Host

/-! ## Strings for paths and names -/

/-- The surroundings of a program: the files that it can open, the encoding that it is told to use by
default, if it is told any, and the encoding of its locale. -/
structure Surroundings where
  openFile : List UInt8 → Opened
  encoding : Option String := none
  locale : String := "UTF-8"

namespace Surroundings

variable (surroundings : Surroundings)

/-- The surroundings as a host on which paths are written in UTF-8 and the table names all codecs. -/
def host : Host where
  address := addressOf
  openFile := surroundings.openFile
  encoding := surroundings.encoding.map .ofString
  locale := surroundings.locale
  codecs := fun _ => none

/-- The encoding for a source file, as `Host.encodingFor` has it. -/
def encodingFor (chosen : Option String) : String :=
  (chosen.filter (· ≠ "") <|> surroundings.encoding).getD "utf-8"

end Surroundings

end SymbolCensus.Source
