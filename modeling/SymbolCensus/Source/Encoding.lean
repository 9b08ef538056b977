import SymbolCensus.Source.Utf8

/-!
# Encodings

The encodings in which a source file can be read, and the many names by which they go. Names are
compared without regard to case and punctuation, so that `UTF-8` and `utf_8` are the same name.

- `Encoding.decode`: the characters of a byte sequence.
- `Codec.ofName?`: the codec that a name stands for.
-/

namespace SymbolCensus.Source

/-- The encodings of source files. -/
inductive Encoding where
  | utf8
  /-- UTF-8 with an optional mark at the start of the file. -/
  | markedUtf8
  | latin1
  | ascii
deriving DecidableEq, Repr

/-- What the name of a codec can stand for. -/
inductive Codec where
  /-- A codec between bytes and text. -/
  | text (encoding : Encoding)
  /-- A codec from bytes to bytes or from text to text, of no use for reading a file. -/
  | transform
deriving DecidableEq, Repr

/-- The bytes of the mark that may precede UTF-8. -/
def byteOrderMark : List UInt8 := [0xEF, 0xBB, 0xBF]

/-- The characters of bytes below 128. -/
def decodeAscii (bytes : List UInt8) : Except DecodeFault (List Char) :=
  let plain := bytes.takeWhile (· < 0x80)
  match bytes.drop plain.length with
  | [] => .ok (plain.map fun byte => Char.ofNat byte.toNat)
  | byte :: _ => .error ⟨"ascii", byte, plain.length, 1, "ordinal not in range(128)"⟩

/-- The characters of UTF-8 behind its mark, if it has one. A file that ends within the mark counts
as empty, and offsets are counted from behind the mark. -/
def decodeMarkedUtf8 (bytes : List UInt8) : Except DecodeFault (List Char) :=
  if bytes.length < 3 && bytes.isPrefixOf byteOrderMark then .ok []
  else if byteOrderMark.isPrefixOf bytes then Utf8.decode (bytes.drop 3)
  else Utf8.decode bytes

/-- The characters of a byte sequence in an encoding. -/
def Encoding.decode : Encoding → List UInt8 → Except DecodeFault (List Char)
  | utf8, bytes => Utf8.decode bytes
  | markedUtf8, bytes => decodeMarkedUtf8 bytes
  | latin1, bytes => .ok (bytes.map fun byte => Char.ofNat byte.toNat)
  | ascii, bytes => decodeAscii bytes

namespace Codec

/-- The codecs by their standard names. -/
def standard : List (String × Codec) :=
  [("utf_8", text .utf8), ("utf_8_sig", text .markedUtf8), ("latin_1", text .latin1),
   ("ascii", text .ascii), ("base64_codec", transform), ("bz2_codec", transform),
   ("hex_codec", transform), ("quopri_codec", transform), ("rot_13", transform),
   ("uu_codec", transform), ("zlib_codec", transform)]

/-- Other names of the codecs, with the standard name of each. -/
def aliases : List (String × String) :=
  [("u8", "utf_8"), ("utf", "utf_8"), ("utf8", "utf_8"), ("utf8_ucs2", "utf_8"),
   ("utf8_ucs4", "utf_8"), ("cp65001", "utf_8"),
   ("8859", "latin_1"), ("cp819", "latin_1"), ("csisolatin1", "latin_1"), ("ibm819", "latin_1"),
   ("iso8859", "latin_1"), ("iso8859_1", "latin_1"), ("iso_8859_1", "latin_1"),
   ("iso_8859_1_1987", "latin_1"), ("iso_ir_100", "latin_1"), ("l1", "latin_1"),
   ("latin", "latin_1"), ("latin1", "latin_1"),
   ("646", "ascii"), ("ansi_x3.4_1968", "ascii"), ("ansi_x3_4_1968", "ascii"),
   ("ansi_x3.4_1986", "ascii"), ("cp367", "ascii"), ("csascii", "ascii"), ("ibm367", "ascii"),
   ("iso646_us", "ascii"), ("iso_646.irv_1991", "ascii"), ("iso_ir_6", "ascii"), ("us", "ascii"),
   ("us_ascii", "ascii"),
   ("base64", "base64_codec"), ("base_64", "base64_codec"), ("bz2", "bz2_codec"),
   ("hex", "hex_codec"), ("quopri", "quopri_codec"), ("quoted_printable", "quopri_codec"),
   ("quotedprintable", "quopri_codec"), ("rot13", "rot_13"), ("uu", "uu_codec"),
   ("zip", "zlib_codec"), ("zlib", "zlib_codec")]

/-- A character that counts in the name of a codec. -/
def isNameCharacter (c : Char) : Bool :=
  c.isAlphanum || c == '.'

/-- The rest of a normalized name, given whether any of it is `written` yet and whether other
characters were met since. -/
def normalizedFrom : (written gap : Bool) → List Char → List Char
  | _, _, [] => []
  | written, gap, c :: rest =>
    if isNameCharacter c then
      (if written && gap then ['_'] else []) ++ c.toLower :: normalizedFrom true false rest
    else normalizedFrom written true rest

/-- A name in the form in which names are compared: ASCII letters in lower case, digits and points
stay, and an underscore stands for each run of other characters between them. -/
def normalized (name : String) : String :=
  String.ofList (normalizedFrom false false name.toList)

/-- A name with underscores for its points, as some aliases are spelled. -/
def withoutPoints (name : String) : String :=
  name.map fun c => if c = '.' then '_' else c

/-- The codec that a name stands for: as an alias, as an alias spelled with points, or as a standard
name. -/
def ofName? (name : String) : Option Codec :=
  let name := normalized name
  let alias? := aliases.lookup name <|> aliases.lookup (withoutPoints name)
  standard.lookup (alias?.getD name)

end Codec

end SymbolCensus.Source
