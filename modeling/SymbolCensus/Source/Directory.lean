/-!
# Directories

The files that a program can see, named relative to the directory in which it runs, and what
happens when the file at an address is opened for reading.

- `Directory.walk`: follows an address, one part at a time.
- `Directory.openFile`: the bytes of the file at an address, or why there are none.
-/

namespace SymbolCensus.Source

/-- Why a file cannot be opened or read: a fault of the system, by the number and the wording that the
system gives it. -/
structure AccessFault where
  number : Nat
  message : String
deriving DecidableEq, Repr

namespace AccessFault

def missing : AccessFault := ⟨2, "No such file or directory"⟩

def notFolder : AccessFault := ⟨20, "Not a directory"⟩

def isFolder : AccessFault := ⟨21, "Is a directory"⟩

def nameTooLong : AccessFault := ⟨36, "File name too long"⟩

end AccessFault

/-- What becomes of opening a file: a fault, or an open file, which is read to its end or breaks off
with a fault of its own. -/
abbrev Opened := Except AccessFault (Except AccessFault (List UInt8))

/-- The byte between the parts of an address. -/
def slash : UInt8 := 0x2F

/-- The byte that is a part of its own for a folder itself, and twice for the folder above. -/
def point : UInt8 := 0x2E

/-- The parts of an address, between its slashes. -/
def partsOf : List UInt8 → List (List UInt8)
  | [] => [[]]
  | byte :: rest =>
    if byte = slash then [] :: partsOf rest else (partsOf rest).modifyHead (byte :: ·)

/-- What a name in a directory stands for. -/
inductive Entry where
  | folder
  | file (content : List UInt8)
deriving DecidableEq, Repr

/-- The folders and files below the working directory, each with the parts of its address. -/
structure Directory where
  entries : List (List (List UInt8) × Entry) := []
deriving Repr

/-- Where a walk along an address stands. Outside the working directory only folders above it are
known. -/
inductive Place where
  | inside (parts : List (List UInt8))
  | outside
deriving DecidableEq, Repr

namespace Directory

/-- The folder given by its path, added to a directory. -/
def addFolder (directory : Directory) (path : String) : Directory :=
  ⟨(partsOf path.toUTF8.toList, .folder) :: directory.entries⟩

/-- The file given by its path and content, added to a directory. -/
def addFile (directory : Directory) (path : String) (content : List UInt8) : Directory :=
  ⟨(partsOf path.toUTF8.toList, .file content) :: directory.entries⟩

/-- What the parts of an address lead to. A part of a longer address is a folder. -/
def entry? (directory : Directory) (parts : List (List UInt8)) : Option Entry :=
  if parts.isEmpty then some .folder
  else match directory.entries.lookup parts with
    | some entry => some entry
    | none => if directory.entries.any (parts.isPrefixOf ·.1) then some .folder else none

/-- What stands at a place. -/
def entryAt? (directory : Directory) : Place → Option Entry
  | .inside parts => directory.entry? parts
  | .outside => some .folder

/-- One part of an address, followed from a place that is known to exist. -/
def follow (directory : Directory) (place : Place) (part : List UInt8) :
    Except AccessFault Place :=
  match directory.entryAt? place with
  | some .folder =>
    if part = [] ∨ part = [point] then .ok place
    else if part = [point, point] then
      match place with
      | .inside parts => .ok (if parts.isEmpty then .outside else .inside parts.dropLast)
      | .outside => .ok .outside
    else if 255 < part.length then .error .nameTooLong
    else
      match place with
      | .inside parts =>
        if (directory.entry? (parts ++ [part])).isSome then .ok (.inside (parts ++ [part]))
        else .error .missing
      | .outside => .error .missing
  | _ => .error .notFolder

/-- The place that an address leads to. -/
def walk (directory : Directory) (address : List UInt8) : Except AccessFault Place :=
  let start := if address.head? = some slash then .outside else .inside []
  (partsOf address).foldlM directory.follow start

/-- The file at an address, opened. Reading it never breaks off. -/
def openFile (directory : Directory) (address : List UInt8) : Opened := do
  if address.isEmpty then throw .missing
  if 4096 ≤ address.length then throw .nameTooLong
  match directory.entryAt? (← directory.walk address) with
  | some (.file content) => return .ok content
  | some .folder => throw .isFolder
  | none => throw .missing

end Directory

end SymbolCensus.Source
