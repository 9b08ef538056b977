import SymbolCensus.Text.Surrogate

/-!
# Addresses

A file system knows a file by bytes, the address of the path. The address is the path in UTF-8, but
paths are also made from addresses that are not UTF-8, so a surrogate from U+DC80 to U+DCFF in a path
stands for a single byte of 128 or more. No other surrogate can be written, in a path or in any other
UTF-8.

- `firstFault?`: why a text cannot be written.
- `addressOf`: the address of a path.
-/

namespace SymbolCensus.Source

open Text

/-- Surrogates that cannot be written: the first of them, its offset and how many they are. -/
structure EncodeFault where
  point : Nat
  offset : Nat
  length : Nat
deriving DecidableEq, Repr

/-- The wording of a fault: a single surrogate is shown, several are only located, from first to
last. -/
def EncodeFault.message (fault : EncodeFault) : String :=
  let characters :=
    if fault.length = 1 then
      "character '\\u" ++ String.ofList (hexadecimal 4 fault.point) ++ "' in position " ++
        toString fault.offset
    else
      "characters in position " ++ toString fault.offset ++ "-" ++
        toString (fault.offset + fault.length - 1)
  "'utf-8' codec can't encode " ++ characters ++ ": surrogates not allowed"

/-- The first code point from `offset` on that cannot be written, with the surrogates right behind
it. Those are counted whether they can be written or not. -/
def firstFault? (canWrite : CodePoint → Bool) : (offset : Nat) → CodePoints → Option EncodeFault
  | _, [] => none
  | offset, point :: rest =>
    if canWrite point then firstFault? canWrite (offset + 1) rest
    else some ⟨point.toNat, offset, 1 + (rest.takeWhile CodePoint.isSurrogate).length⟩

/-- A code point that UTF-8 can write. -/
def isCharacter (point : CodePoint) : Bool :=
  !point.isSurrogate

/-- A code point that can be written in a path: a character, or a surrogate that stands for a
byte. -/
def hasBytes : CodePoint → Bool
  | .char _ => true
  | .surrogate index => 0x480 ≤ index.val && index.val < 0x500

example : firstFault? hasBytes 0 [.char 'a', .surrogate 0, .surrogate 0x480] =
    some ⟨0xD800, 1, 2⟩ := by
  decide

/-- The bytes of a code point that has some. -/
def bytesOf : CodePoint → List UInt8
  | .char c => String.utf8EncodeChar c
  | .surrogate index => [UInt8.ofNat index]

/-- The address of a path, or the wording of why it has none. -/
def addressOf (path : CodePoints) : Except String (List UInt8) :=
  match firstFault? hasBytes 0 path with
  | some fault => .error fault.message
  | none => .ok (path.flatMap bytesOf)

example : addressOf [.char 'é', .surrogate 0x4FF] = .ok [0xC3, 0xA9, 0xFF] := by cbv

end SymbolCensus.Source
