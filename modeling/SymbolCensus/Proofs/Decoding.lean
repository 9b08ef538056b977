import Mathlib
import SymbolCensus.Source.Encoding

/-!
# Bytes that are text

Each encoding gives a text its bytes, and decoding accepts these and nothing else. Of UTF-8 that
means: no character has a second form, and no surrogate has any.

- `Utf8.AreTails`: the continuation bytes that a first byte lets follow.
- `Utf8.exists_lead`, `Utf8.encode_of_lead`: the bytes of a character are a first byte and its
  continuation bytes, and all such bytes are those of a character.
- `Utf8.decode_eq_ok_iff`: decoding accepts the bytes of a text, by induction on the characters
  decoded.
- `Encoding.Writes`, `Encoding.decode_eq_ok_iff`: the same for all encodings.
-/

namespace SymbolCensus.Source

namespace Utf8

/-! ## First bytes and continuation bytes -/

/-- Continuation bytes, the first of them between the given bounds. -/
def AreTails : (low high : Nat) → List UInt8 → Prop
  | _, _, [] => True
  | low, high, byte :: rest => low ≤ byte.toNat ∧ byte.toNat ≤ high ∧ AreTails 0x80 0xBF rest

theorem areTails_tailsOf (count low high : Nat) (bytes : List UInt8) :
    AreTails low high (tailsOf count low high bytes) := by
  fun_induction tailsOf count low high bytes with
  | case1 low high bytes => trivial
  | case2 count low high => trivial
  | case3 count low high byte rest h ih => exact ⟨h.1, h.2, ih⟩
  | case4 count low high byte rest h => trivial

theorem isPrefix_tailsOf (count low high : Nat) (bytes : List UInt8) :
    tailsOf count low high bytes <+: bytes := by
  fun_induction tailsOf count low high bytes with
  | case1 low high bytes => exact List.nil_prefix
  | case2 count low high => exact List.nil_prefix
  | case3 count low high byte rest h ih => exact (List.prefix_cons_inj byte).mpr ih
  | case4 count low high byte rest h => exact List.nil_prefix

theorem tailsOf_append {low high : Nat} {tails : List UInt8} (h : AreTails low high tails)
    (rest : List UInt8) : tailsOf tails.length low high (tails ++ rest) = tails := by
  induction tails generalizing low high with
  | nil => rfl
  | cons byte tails ih =>
    obtain ⟨hlow, hhigh, htails⟩ := h
    show tailsOf (tails.length + 1) low high (byte :: (tails ++ rest)) = _
    rw [tailsOf, if_pos ⟨hlow, hhigh⟩, ih htails]

theorem valid_toNat (c : Char) :
    c.toNat < 0xD800 ∨ 0xDFFF < c.toNat ∧ c.toNat < 0x110000 :=
  c.valid

/-- The bytes of a character as numbers. -/
theorem map_toNat_utf8EncodeChar (c : Char) :
    (String.utf8EncodeChar c).map UInt8.toNat =
      if c.toNat < 0x80 then [c.toNat]
      else if c.toNat < 0x800 then [0xC0 + c.toNat / 0x40, 0x80 + c.toNat % 0x40]
      else if c.toNat < 0x10000 then
        [0xE0 + c.toNat / 0x1000, 0x80 + c.toNat / 0x40 % 0x40, 0x80 + c.toNat % 0x40]
      else
        [0xF0 + c.toNat / 0x40000, 0x80 + c.toNat / 0x1000 % 0x40, 0x80 + c.toNat / 0x40 % 0x40,
          0x80 + c.toNat % 0x40] := by
  have hvalid := valid_toNat c
  have hval : c.val.toNat = c.toNat := rfl
  unfold String.utf8EncodeChar
  simp only [hval]
  by_cases hone : c.toNat < 0x80
  · rw [if_pos (by omega), if_pos hone]
    simp only [List.map_cons, List.map_nil, UInt8.toNat_ofNat']
    rw [Nat.mod_eq_of_lt (by omega)]
  rw [if_neg (by omega), if_neg hone]
  by_cases htwo : c.toNat < 0x800
  · rw [if_pos (by omega), if_pos htwo]
    simp only [List.map_cons, List.map_nil, UInt8.toNat_ofNat', List.cons.injEq, and_true]
    omega
  rw [if_neg (by omega), if_neg htwo]
  by_cases hthree : c.toNat < 0x10000
  · rw [if_pos (by omega), if_pos hthree]
    simp only [List.map_cons, List.map_nil, UInt8.toNat_ofNat', List.cons.injEq, and_true]
    omega
  · rw [if_neg (by omega), if_neg hthree]
    simp only [List.map_cons, List.map_nil, UInt8.toNat_ofNat', List.cons.injEq, and_true]
    omega

/-- What the first of three bytes says, given its bits. -/
def leadOfThree (bits : Nat) : Lead where
  bits
  tails := 2
  low := if bits = 0 then 0xA0 else 0x80
  high := if bits = 0xD then 0x9F else 0xBF

/-- What the first of four bytes says, given its bits. -/
def leadOfFour (bits : Nat) : Lead where
  bits
  tails := 3
  low := if bits = 0 then 0x90 else 0x80
  high := if bits = 4 then 0x8F else 0xBF

/-- The byte behind the first of three leaves out what has a shorter form and the surrogates. -/
theorem follows_leadOfThree_iff {bits byte : Nat} :
    ((leadOfThree bits).low ≤ byte ∧ byte ≤ (leadOfThree bits).high) ↔
      0x80 ≤ byte ∧ byte ≤ 0xBF ∧ (bits = 0 → 0xA0 ≤ byte) ∧ (bits = 0xD → byte ≤ 0x9F) := by
  unfold leadOfThree
  dsimp only
  split <;> split <;> omega

/-- The byte behind the first of four leaves out what has a shorter form and what is no code
point. -/
theorem follows_leadOfFour_iff {bits byte : Nat} :
    ((leadOfFour bits).low ≤ byte ∧ byte ≤ (leadOfFour bits).high) ↔
      0x80 ≤ byte ∧ byte ≤ 0xBF ∧ (bits = 0 → 0x90 ≤ byte) ∧ (bits = 4 → byte ≤ 0x8F) := by
  unfold leadOfFour
  dsimp only
  split <;> split <;> omega

theorem leadOf?_one {byte : Nat} (h : byte < 0x80) :
    leadOf? byte = some { bits := byte, tails := 0 } := by
  rw [leadOf?, if_pos h]

theorem leadOf?_two {bits : Nat} (hlow : 2 ≤ bits) (hhigh : bits < 0x20) :
    leadOf? (0xC0 + bits) = some { bits, tails := 1 } := by
  interval_cases bits <;> rfl

theorem leadOf?_three {bits : Nat} (h : bits < 0x10) :
    leadOf? (0xE0 + bits) = some (leadOfThree bits) := by
  interval_cases bits <;> rfl

theorem leadOf?_four {bits : Nat} (h : bits < 5) :
    leadOf? (0xF0 + bits) = some (leadOfFour bits) := by
  interval_cases bits <;> rfl

/-- There are no other first bytes. -/
theorem eq_of_leadOf? {byte : Nat} {lead : Lead} (h : leadOf? byte = some lead) :
    (byte < 0x80 ∧ lead = { bits := byte, tails := 0 }) ∨
      (∃ bits, 2 ≤ bits ∧ bits < 0x20 ∧ byte = 0xC0 + bits ∧ lead = { bits, tails := 1 }) ∨
      (∃ bits < 0x10, byte = 0xE0 + bits ∧ lead = leadOfThree bits) ∨
      ∃ bits < 5, byte = 0xF0 + bits ∧ lead = leadOfFour bits := by
  have hnone : ¬ (0x80 ≤ byte ∧ byte < 0xC2) ∧ ¬ 0xF5 ≤ byte := by
    constructor
    · rintro ⟨hlow, hhigh⟩
      rw [leadOf?, if_neg (by omega), if_pos hhigh] at h
      cases h
    · intro hlow
      have hother : leadOf? byte = none := by
        unfold leadOf?
        repeat rw [if_neg (by omega)]
      rw [hother] at h
      cases h
  by_cases hone : byte < 0x80
  · rw [leadOf?_one hone] at h
    exact .inl ⟨hone, (Option.some.inj h).symm⟩
  by_cases htwo : byte < 0xE0
  · obtain ⟨bits, rfl⟩ : ∃ bits, byte = 0xC0 + bits := ⟨byte - 0xC0, by omega⟩
    rw [leadOf?_two (by omega) (by omega)] at h
    exact .inr (.inl ⟨bits, by omega, by omega, rfl, (Option.some.inj h).symm⟩)
  by_cases hthree : byte < 0xF0
  · obtain ⟨bits, rfl⟩ : ∃ bits, byte = 0xE0 + bits := ⟨byte - 0xE0, by omega⟩
    rw [leadOf?_three (by omega)] at h
    exact .inr (.inr (.inl ⟨bits, by omega, rfl, (Option.some.inj h).symm⟩))
  · obtain ⟨bits, rfl⟩ : ∃ bits, byte = 0xF0 + bits := ⟨byte - 0xF0, by omega⟩
    rw [leadOf?_four (by omega)] at h
    exact .inr (.inr (.inr ⟨bits, by omega, rfl, (Option.some.inj h).symm⟩))

/-! ## Characters and their bytes -/

theorem toNat_ofNat_of_valid {n : Nat} (h : n < 0xD800 ∨ 0xDFFF < n ∧ n < 0x110000) :
    (Char.ofNat n).toNat = n := by
  rw [Char.toNat_ofNat, if_pos h]

theorem map_toNat_injective : Function.Injective (List.map UInt8.toNat) :=
  List.map_injective_iff.mpr fun _ _ h => UInt8.toNat_inj.mp h

/-- **A first byte with its continuation bytes are those of a character**: of the one that they
stand for. -/
theorem encode_of_lead {byte : UInt8} {lead : Lead} {tails : List UInt8}
    (hlead : leadOf? byte.toNat = some lead) (hlength : tails.length = lead.tails)
    (htails : AreTails lead.low lead.high tails) :
    String.utf8EncodeChar (Char.ofNat (codePoint lead tails)) = byte :: tails := by
  refine map_toNat_injective ?_
  rw [map_toNat_utf8EncodeChar]
  rcases eq_of_leadOf? hlead with ⟨hbyte, rfl⟩ | ⟨bits, hlow, hhigh, hbyte, rfl⟩ |
    ⟨bits, hbits, hbyte, rfl⟩ | ⟨bits, hbits, hbyte, rfl⟩
  · obtain rfl := List.length_eq_zero_iff.mp hlength
    have hpoint : codePoint { bits := byte.toNat, tails := 0 } [] = byte.toNat := rfl
    rw [hpoint, toNat_ofNat_of_valid (by omega), if_pos hbyte]
    rfl
  · obtain ⟨first, rfl⟩ := List.length_eq_one_iff.mp hlength
    obtain ⟨hfirst, hfirst', -⟩ := htails
    have hpoint : codePoint { bits, tails := 1 } [first] = bits * 0x40 + (first.toNat - 0x80) := rfl
    dsimp only at hfirst hfirst'
    rw [hpoint, toNat_ofNat_of_valid (by omega), if_neg (by omega), if_pos (by omega)]
    simp only [List.map_cons, List.map_nil, List.cons.injEq, and_true]
    omega
  · obtain ⟨first, second, rfl⟩ := List.length_eq_two.mp hlength
    obtain ⟨hlow, hhigh, hsecond, hsecond', -⟩ := htails
    obtain ⟨hfirst, hfirst', hshort, hsurrogate⟩ := follows_leadOfThree_iff.mp ⟨hlow, hhigh⟩
    have hpoint : codePoint (leadOfThree bits) [first, second] =
        (bits * 0x40 + (first.toNat - 0x80)) * 0x40 + (second.toNat - 0x80) := rfl
    rw [hpoint, toNat_ofNat_of_valid (by omega), if_neg (by omega), if_neg (by omega),
      if_pos (by omega)]
    simp only [List.map_cons, List.map_nil, List.cons.injEq, and_true]
    omega
  · obtain ⟨first, second, third, rfl⟩ := List.length_eq_three.mp hlength
    obtain ⟨hlow, hhigh, hsecond, hsecond', hthird, hthird', -⟩ := htails
    obtain ⟨hfirst, hfirst', hshort, hbeyond⟩ := follows_leadOfFour_iff.mp ⟨hlow, hhigh⟩
    have hpoint : codePoint (leadOfFour bits) [first, second, third] =
        ((bits * 0x40 + (first.toNat - 0x80)) * 0x40 + (second.toNat - 0x80)) * 0x40 +
          (third.toNat - 0x80) := rfl
    rw [hpoint, toNat_ofNat_of_valid (by omega), if_neg (by omega), if_neg (by omega),
      if_neg (by omega)]
    simp only [List.map_cons, List.map_nil, List.cons.injEq, and_true]
    omega

/-- **Each character has a first byte** and continuation bytes that may follow it. -/
theorem exists_lead (c : Char) : ∃ byte tails lead, String.utf8EncodeChar c = byte :: tails ∧
    leadOf? byte.toNat = some lead ∧ tails.length = lead.tails ∧
      AreTails lead.low lead.high tails ∧ codePoint lead tails = c.toNat := by
  have hbytes := map_toNat_utf8EncodeChar c
  have hvalid := valid_toNat c
  by_cases hone : c.toNat < 0x80
  · rw [if_pos hone] at hbytes
    obtain ⟨byte, tails, hencode, hbyte, htails⟩ := List.map_eq_cons_iff.mp hbytes
    obtain rfl := List.map_eq_nil_iff.mp htails
    refine ⟨byte, [], _, hencode, hbyte ▸ leadOf?_one hone, rfl, trivial, ?_⟩
    exact hbyte
  rw [if_neg hone] at hbytes
  by_cases htwo : c.toNat < 0x800
  · rw [if_pos htwo] at hbytes
    obtain ⟨byte, tails, hencode, hbyte, htails⟩ := List.map_eq_cons_iff.mp hbytes
    obtain ⟨first, tails, rfl, hfirst, htails⟩ := List.map_eq_cons_iff.mp htails
    obtain rfl := List.map_eq_nil_iff.mp htails
    have hpoint : codePoint { bits := c.toNat / 0x40, tails := 1 } [first] =
        c.toNat / 0x40 * 0x40 + (first.toNat - 0x80) := rfl
    refine ⟨byte, [first], _, hencode, hbyte ▸ leadOf?_two (by omega) (by omega), rfl, ?_, ?_⟩
    · exact ⟨by dsimp only; omega, by dsimp only; omega, trivial⟩
    · rw [hpoint]
      omega
  rw [if_neg htwo] at hbytes
  by_cases hthree : c.toNat < 0x10000
  · rw [if_pos hthree] at hbytes
    obtain ⟨byte, tails, hencode, hbyte, htails⟩ := List.map_eq_cons_iff.mp hbytes
    obtain ⟨first, tails, rfl, hfirst, htails⟩ := List.map_eq_cons_iff.mp htails
    obtain ⟨second, tails, rfl, hsecond, htails⟩ := List.map_eq_cons_iff.mp htails
    obtain rfl := List.map_eq_nil_iff.mp htails
    have hpoint : codePoint (leadOfThree (c.toNat / 0x1000)) [first, second] =
        (c.toNat / 0x1000 * 0x40 + (first.toNat - 0x80)) * 0x40 + (second.toNat - 0x80) := rfl
    have hfollows : (leadOfThree (c.toNat / 0x1000)).low ≤ first.toNat ∧
        first.toNat ≤ (leadOfThree (c.toNat / 0x1000)).high :=
      follows_leadOfThree_iff.mpr ⟨by omega, by omega, by omega, by omega⟩
    refine ⟨byte, [first, second], _, hencode, hbyte ▸ leadOf?_three (by omega), rfl, ?_, ?_⟩
    · exact ⟨hfollows.1, hfollows.2, by omega, by omega, trivial⟩
    · rw [hpoint]
      omega
  · rw [if_neg hthree] at hbytes
    obtain ⟨byte, tails, hencode, hbyte, htails⟩ := List.map_eq_cons_iff.mp hbytes
    obtain ⟨first, tails, rfl, hfirst, htails⟩ := List.map_eq_cons_iff.mp htails
    obtain ⟨second, tails, rfl, hsecond, htails⟩ := List.map_eq_cons_iff.mp htails
    obtain ⟨third, tails, rfl, hthird, htails⟩ := List.map_eq_cons_iff.mp htails
    obtain rfl := List.map_eq_nil_iff.mp htails
    have hpoint : codePoint (leadOfFour (c.toNat / 0x40000)) [first, second, third] =
        ((c.toNat / 0x40000 * 0x40 + (first.toNat - 0x80)) * 0x40 + (second.toNat - 0x80)) * 0x40 +
          (third.toNat - 0x80) := rfl
    have hfollows : (leadOfFour (c.toNat / 0x40000)).low ≤ first.toNat ∧
        first.toNat ≤ (leadOfFour (c.toNat / 0x40000)).high :=
      follows_leadOfFour_iff.mpr ⟨by omega, by omega, by omega, by omega⟩
    refine ⟨byte, [first, second, third], _, hencode, hbyte ▸ leadOf?_four (by omega), rfl, ?_, ?_⟩
    · exact ⟨hfollows.1, hfollows.2, by omega, by omega, by omega, by omega, trivial⟩
    · rw [hpoint]
      omega

/-! ## Decoding -/

/-- The bytes of a text. -/
def encode (text : List Char) : List UInt8 :=
  text.flatMap String.utf8EncodeChar

/-- A character is decoded from its bytes, whatever follows. -/
theorem decodeFrom_encodeChar (offset : Nat) (decoded : List Char) (c : Char) (rest : List UInt8) :
    decodeFrom offset decoded (String.utf8EncodeChar c ++ rest) =
      decodeFrom (offset + (String.utf8EncodeChar c).length) (c :: decoded) rest := by
  obtain ⟨byte, tails, lead, hencode, hlead, hlength, htails, hpoint⟩ := exists_lead c
  have hrest : tailsOf lead.tails lead.low lead.high (tails ++ rest) = tails :=
    hlength ▸ tailsOf_append htails rest
  rw [hencode, List.cons_append, decodeFrom, hlead]
  dsimp only
  rw [hrest, if_pos hlength, hpoint, Char.ofNat_toNat, List.drop_left, List.length_cons]
  congr 1
  omega

/-- What is decoded is what was written, whatever was decoded before. -/
theorem decodeFrom_eq_ok_iff {offset : Nat} {decoded : List Char} {bytes : List UInt8}
    {text : List Char} :
    decodeFrom offset decoded bytes = .ok text ↔
      ∃ more, text = decoded.reverse ++ more ∧ bytes = encode more := by
  constructor
  · intro h
    fun_induction decodeFrom offset decoded bytes with
    | case1 offset decoded =>
      refine ⟨[], ?_, rfl⟩
      rw [List.append_nil, Except.ok.inj h]
    | case2 offset decoded byte rest hlead => cases h
    | case3 offset decoded byte rest lead hlead tails after hlength ih =>
      obtain ⟨more, rfl, hafter⟩ := ih h
      refine ⟨Char.ofNat (codePoint lead tails) :: more, ?_, ?_⟩
      · rw [List.reverse_cons, List.append_assoc]
        rfl
      · have hencode := encode_of_lead hlead hlength (areTails_tailsOf ..)
        have hrest : tails ++ after = rest :=
          List.prefix_iff_eq_append.mp (isPrefix_tailsOf ..)
        rw [encode, List.flatMap_cons, hencode, ← encode, ← hafter, List.cons_append, hrest]
    | case4 offset decoded byte rest lead hlead tails after hlength hafter => cases h
    | case5 offset decoded byte rest lead hlead tails after hlength hafter => cases h
  · rintro ⟨more, rfl, rfl⟩
    induction more generalizing offset decoded with
    | nil => rw [encode, List.flatMap_nil, decodeFrom, List.append_nil]
    | cons c more ih =>
      rw [encode, List.flatMap_cons, decodeFrom_encodeChar]
      rw [← encode, ih, List.reverse_cons, List.append_assoc]
      rfl

/-- **UTF-8 is read as it is written**: all texts, and nothing else. -/
theorem decode_eq_ok_iff {bytes : List UInt8} {text : List Char} :
    decode bytes = .ok text ↔ bytes = encode text := by
  rw [decode, decodeFrom_eq_ok_iff]
  simp

end Utf8

/-! ## All encodings -/

/-- Some bytes are those of a text in an encoding. The mark that may precede UTF-8 is no part of the
text, and a file that ends within it holds the empty text. -/
def Encoding.Writes : Encoding → List Char → List UInt8 → Prop
  | utf8, text, bytes => bytes = Utf8.encode text
  | markedUtf8, text, bytes =>
    if byteOrderMark <+: bytes then bytes = byteOrderMark ++ Utf8.encode text
    else if bytes <+: byteOrderMark then text = []
    else bytes = Utf8.encode text
  | latin1, text, bytes => text.map Char.toNat = bytes.map UInt8.toNat
  | ascii, text, bytes =>
    text.map Char.toNat = bytes.map UInt8.toNat ∧ ∀ c ∈ text, c.toNat < 0x80

/-- One character for each byte. -/
theorem map_ofNat_eq_iff {bytes : List UInt8} {text : List Char} :
    bytes.map (fun byte => Char.ofNat byte.toNat) = text ↔
      text.map Char.toNat = bytes.map UInt8.toNat := by
  have hbyte : ∀ byte : UInt8, (Char.ofNat byte.toNat).toNat = byte.toNat := fun byte =>
    Utf8.toNat_ofNat_of_valid (.inl (Nat.lt_trans byte.toNat_lt (by decide)))
  have hinj : Function.Injective (List.map Char.toNat) :=
    List.map_injective_iff.mpr fun _ _ h => Char.toNat_inj.mp h
  rw [← hinj.eq_iff, List.map_map, eq_comm]
  have hsame : Char.toNat ∘ (fun byte : UInt8 => Char.ofNat byte.toNat) = UInt8.toNat :=
    funext hbyte
  rw [hsame]

theorem decodeMarkedUtf8_eq_ok_iff {bytes : List UInt8} {text : List Char} :
    decodeMarkedUtf8 bytes = .ok text ↔ Encoding.markedUtf8.Writes text bytes := by
  unfold decodeMarkedUtf8 Encoding.Writes
  simp only [Bool.and_eq_true, decide_eq_true_eq, List.isPrefixOf_iff_prefix]
  by_cases hmark : byteOrderMark <+: bytes
  · obtain ⟨rest, rfl⟩ := hmark
    have hlong : ¬ (byteOrderMark ++ rest).length < 3 := by simp [byteOrderMark]
    have hdrop : (byteOrderMark ++ rest).drop 3 = rest := rfl
    rw [if_neg (fun h => hlong h.1), if_pos (List.prefix_append ..), hdrop, Utf8.decode_eq_ok_iff,
      if_pos (List.prefix_append ..), List.append_cancel_left_eq]
  rw [if_neg hmark, if_neg hmark]
  by_cases hpart : bytes <+: byteOrderMark
  · -- it ends within the mark, or it would be the mark
    have hshort : bytes.length < 3 :=
      lt_of_le_of_ne hpart.length_le fun h => hmark (hpart.eq_of_length h ▸ List.prefix_rfl)
    rw [if_pos ⟨hshort, hpart⟩, if_pos hpart, Except.ok.injEq, eq_comm]
  · rw [if_neg (fun h => hpart h.2), if_neg hpart, Utf8.decode_eq_ok_iff]

theorem decodeAscii_eq_ok_iff {bytes : List UInt8} {text : List Char} :
    decodeAscii bytes = .ok text ↔ Encoding.ascii.Writes text bytes := by
  have hplain : ∀ {bytes : List UInt8} {text : List Char}, text.map Char.toNat =
      bytes.map UInt8.toNat → ((∀ c ∈ text, c.toNat < 0x80) ↔ ∀ byte ∈ bytes, byte < 0x80) := by
    intro bytes text h
    have hall := congrArg (fun values => ∀ value ∈ values, value < 0x80) h
    simpa [UInt8.lt_iff_toNat_lt] using hall
  unfold decodeAscii Encoding.Writes
  dsimp only
  by_cases hall : ∀ byte ∈ bytes, byte < 0x80
  · have htake : bytes.takeWhile (· < 0x80) = bytes :=
      List.takeWhile_eq_self_iff.mpr fun byte hmem => decide_eq_true (hall byte hmem)
    rw [htake, List.drop_length]
    dsimp only
    rw [Except.ok.injEq, map_ofNat_eq_iff]
    exact ⟨fun h => ⟨h, (hplain h).mpr hall⟩, And.left⟩
  · have hleft : bytes.drop (bytes.takeWhile (· < 0x80)).length ≠ [] := by
      intro hnil
      rw [List.drop_eq_nil_iff] at hnil
      have hself : bytes.takeWhile (· < 0x80) = bytes :=
        (List.takeWhile_prefix _).eq_of_length_le hnil
      refine hall fun byte hmem => of_decide_eq_true ?_
      exact List.takeWhile_eq_self_iff.mp hself byte hmem
    obtain ⟨byte, rest, hrest⟩ := List.exists_cons_of_ne_nil hleft
    rw [hrest]
    constructor
    · intro h
      cases h
    · rintro ⟨h, hsmall⟩
      exact absurd ((hplain h).mp hsmall) hall

/-- **Decoding accepts what the encoding writes**, and nothing else. -/
theorem Encoding.decode_eq_ok_iff {encoding : Encoding} {bytes : List UInt8} {text : List Char} :
    encoding.decode bytes = .ok text ↔ encoding.Writes text bytes := by
  cases encoding with
  | utf8 => exact Utf8.decode_eq_ok_iff
  | markedUtf8 => exact decodeMarkedUtf8_eq_ok_iff
  | latin1 =>
    rw [Encoding.decode, Except.ok.injEq]
    exact map_ofNat_eq_iff
  | ascii => exact decodeAscii_eq_ok_iff

end SymbolCensus.Source
