import SymbolCensus.Text.Quoted

/-!
# Bytes that are no text

Why a byte sequence cannot be decoded, with the place and the wording.
-/

namespace SymbolCensus.Source

/-- Bytes that the named encoding gives no meaning: the first of them, its offset, how many they are
and why. -/
structure DecodeFault where
  encoding : String
  byte : UInt8
  offset : Nat
  length : Nat
  reason : String
deriving DecidableEq, Repr

/-- The wording of a fault: a single byte is shown, several are only located, from first to last. -/
def DecodeFault.message (fault : DecodeFault) : String :=
  let bytes :=
    if fault.length = 1 then
      "byte 0x" ++ String.ofList (Text.hexadecimal 2 fault.byte.toNat) ++
        " in position " ++ toString fault.offset
    else
      "bytes in position " ++ toString fault.offset ++ "-" ++
        toString (fault.offset + fault.length - 1)
  "'" ++ fault.encoding ++ "' codec can't decode " ++ bytes ++ ": " ++ fault.reason

end SymbolCensus.Source
