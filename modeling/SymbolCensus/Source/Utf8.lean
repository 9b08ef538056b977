import SymbolCensus.Source.DecodeFault

/-!
# UTF-8

Decodes UTF-8 and, where bytes do not form a character, says which bytes are at fault. The first
byte of a character fixes how many continuation bytes follow and, so that each character has one
form and surrogates have none, which values the first of these may take.

- `leadOf?`: what the first byte of a character says.
- `decode`: the characters of a byte sequence.
-/

namespace SymbolCensus.Source.Utf8

/-- What the first byte of a character says: the bits that it contributes, how many continuation
bytes follow, and the least and greatest value of the first of them. -/
structure Lead where
  bits : Nat
  tails : Nat
  low : Nat := 0x80
  high : Nat := 0xBF
deriving DecidableEq, Repr

/-- The meaning of a byte at the start of a character, if it can stand there. -/
def leadOf? (byte : Nat) : Option Lead :=
  if byte < 0x80 then some { bits := byte, tails := 0 }
  else if byte < 0xC2 then none
  else if byte < 0xE0 then some { bits := byte - 0xC0, tails := 1 }
  else if byte = 0xE0 then some { bits := 0, tails := 2, low := 0xA0 }
  else if byte = 0xED then some { bits := 0xD, tails := 2, high := 0x9F }
  else if byte < 0xF0 then some { bits := byte - 0xE0, tails := 2 }
  else if byte = 0xF0 then some { bits := 0, tails := 3, low := 0x90 }
  else if byte < 0xF4 then some { bits := byte - 0xF0, tails := 3 }
  else if byte = 0xF4 then some { bits := 4, tails := 3, high := 0x8F }
  else none

/-- The continuation bytes at the front of a byte sequence, `count` of them at most, the first
between the given bounds. -/
def tailsOf : (count low high : Nat) → List UInt8 → List UInt8
  | 0, _, _, _ => []
  | _ + 1, _, _, [] => []
  | count + 1, low, high, byte :: rest =>
    if low ≤ byte.toNat ∧ byte.toNat ≤ high then byte :: tailsOf count 0x80 0xBF rest else []

/-- The code point that a first byte and its continuation bytes stand for. -/
def codePoint (lead : Lead) (tails : List UInt8) : Nat :=
  tails.foldl (fun bits byte => bits * 0x40 + (byte.toNat - 0x80)) lead.bits

/-- The characters of the bytes from `offset` on, behind those already decoded, which are kept last
first. -/
def decodeFrom (offset : Nat) (decoded : List Char) (bytes : List UInt8) :
    Except DecodeFault (List Char) :=
  match bytes with
  | [] => .ok decoded.reverse
  | byte :: rest =>
    match leadOf? byte.toNat with
    | none => .error ⟨"utf-8", byte, offset, 1, "invalid start byte"⟩
    | some lead =>
      let tails := tailsOf lead.tails lead.low lead.high rest
      let rest := rest.drop tails.length
      if tails.length = lead.tails then
        decodeFrom (offset + 1 + tails.length) (Char.ofNat (codePoint lead tails) :: decoded) rest
      else if rest.isEmpty then
        .error ⟨"utf-8", byte, offset, 1 + tails.length, "unexpected end of data"⟩
      else
        .error ⟨"utf-8", byte, offset, 1 + tails.length, "invalid continuation byte"⟩
termination_by bytes.length
decreasing_by simp only [List.length_drop, List.length_cons]; omega

/-- The characters of a byte sequence. -/
def decode (bytes : List UInt8) : Except DecodeFault (List Char) :=
  decodeFrom 0 [] bytes

end SymbolCensus.Source.Utf8
