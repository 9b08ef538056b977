import SymbolCensus.Proofs.Decoding
import SymbolCensus.Source.Reading

/-!
# Texts with surrogates

When a text is a string, why it cannot be written, and which bytes it is written with.

- `CodePoints.eq_ofString_iff`: strings are the texts without surrogates.
- `EncodeFault.IsFirst`: a fault told by its place in the text; `firstFault?_eq_some_iff` finds it.
- `addressOf_eq_error_iff`, `zero_mem_address_iff`: the paths without an address, and those with the
  byte 0 in it.
-/

namespace SymbolCensus

namespace Text

/-! ## Strings -/

namespace CodePoints

theorem char_mem_ofString_iff {c : Char} {text : String} :
    .char c ∈ ofString text ↔ c ∈ text.toList := by
  simp [ofString]

theorem surrogate_not_mem_ofString (index : Fin 0x800) (text : String) :
    .surrogate index ∉ ofString text := by
  simp [ofString]

theorem characters_ofString (text : String) : characters (ofString text) = text.toList := by
  simp [characters, ofString, List.filterMap_map, Function.comp_def, CodePoint.char?]

theorem ofList_characters_ofString (text : String) :
    String.ofList (characters (ofString text)) = text := by
  rw [characters_ofString, String.ofList_toList]

theorem map_char_characters {text : CodePoints} (h : ∀ index, .surrogate index ∉ text) :
    (characters text).map .char = text := by
  induction text with
  | nil => rfl
  | cons point rest ih =>
    have hrest := ih fun index hmem => h index (List.mem_cons_of_mem _ hmem)
    cases point with
    | char c => exact congrArg (CodePoint.char c :: ·) hrest
    | surrogate index => exact absurd List.mem_cons_self (h index)

/-- **Strings are the texts without surrogates.** -/
theorem eq_ofString_iff {text : CodePoints} :
    text = ofString (String.ofList (characters text)) ↔ ∀ index, .surrogate index ∉ text := by
  constructor
  · intro h index
    rw [h]
    exact surrogate_not_mem_ofString index _
  · intro h
    rw [ofString, String.toList_ofList, map_char_characters h]

theorem any_isSurrogate_iff {text : CodePoints} :
    text.any CodePoint.isSurrogate = true ↔ ∃ index, .surrogate index ∈ text := by
  rw [List.any_eq_true]
  constructor
  · rintro ⟨point, hmem, hpoint⟩
    cases point with
    | char c => cases hpoint
    | surrogate index => exact ⟨index, hmem⟩
  · rintro ⟨index, hmem⟩
    exact ⟨_, hmem, rfl⟩

theorem string?_ofString (text : String) : string? (ofString text) = some text := by
  have hnone : ¬ (ofString text).any CodePoint.isSurrogate = true := by
    rw [any_isSurrogate_iff]
    rintro ⟨index, hmem⟩
    exact surrogate_not_mem_ofString index text hmem
  rw [string?, if_neg hnone, ofList_characters_ofString]

theorem ofString_injective : Function.Injective ofString := by
  intro text other h
  have hsame := congrArg string? h
  rwa [string?_ofString, string?_ofString, Option.some.injEq] at hsame

theorem string?_of_surrogate {index : Fin 0x800} {text : CodePoints}
    (h : .surrogate index ∈ text) : string? text = none := by
  rw [string?, if_pos (any_isSurrogate_iff.mpr ⟨index, h⟩)]

end CodePoints

end Text

namespace Source

open Text

/-! ## Faults -/

/-- A fault lies where a text first holds a code point that cannot be written, and goes on over the
surrogates behind it. -/
def EncodeFault.IsFirst (canWrite : CodePoint → Bool) (text : CodePoints) (fault : EncodeFault) :
    Prop :=
  ∃ before point rest, text = before ++ point :: rest ∧ (∀ earlier ∈ before, canWrite earlier) ∧
    ¬ canWrite point ∧ fault.point = point.toNat ∧ fault.offset = before.length ∧
    fault.length = 1 + (rest.takeWhile CodePoint.isSurrogate).length

section Faults

variable {canWrite : CodePoint → Bool} {offset : Nat} {text : CodePoints}

theorem firstFault?_append {before : CodePoints} (h : ∀ earlier ∈ before, canWrite earlier) :
    firstFault? canWrite offset (before ++ text) =
      firstFault? canWrite (offset + before.length) text := by
  induction before generalizing offset with
  | nil => rfl
  | cons point rest ih =>
    rw [List.forall_mem_cons] at h
    rw [List.cons_append, firstFault?, if_pos h.1, ih h.2, List.length_cons, Nat.add_assoc,
      Nat.add_comm 1]

theorem firstFault?_eq_none_iff :
    firstFault? canWrite offset text = none ↔ ∀ point ∈ text, canWrite point := by
  induction text generalizing offset with
  | nil => simp [firstFault?]
  | cons point rest ih =>
    rw [List.forall_mem_cons, firstFault?]
    by_cases h : canWrite point
    · rw [if_pos h, ih, and_iff_right h]
    · rw [if_neg h]
      simp [h]

/-- A text that cannot be written has a first code point that is to blame. -/
theorem exists_first_of_not_forall (h : ¬ ∀ point ∈ text, canWrite point) :
    ∃ before point rest, text = before ++ point :: rest ∧ (∀ earlier ∈ before, canWrite earlier) ∧
      ¬ canWrite point := by
  induction text with
  | nil => exact absurd (List.forall_mem_nil _) h
  | cons point rest ih =>
    by_cases hpoint : canWrite point
    · have hrest : ¬ ∀ later ∈ rest, canWrite later := fun hall =>
        h (List.forall_mem_cons.mpr ⟨hpoint, hall⟩)
      obtain ⟨before, first, after, rfl, hbefore, hfirst⟩ := ih hrest
      exact ⟨point :: before, first, after, rfl, List.forall_mem_cons.mpr ⟨hpoint, hbefore⟩, hfirst⟩
    · exact ⟨[], point, rest, rfl, List.forall_mem_nil _, hpoint⟩

theorem firstFault?_of_isFirst {fault : EncodeFault} (h : fault.IsFirst canWrite text) :
    firstFault? canWrite 0 text = some fault := by
  obtain ⟨before, point, rest, rfl, hbefore, hpoint, hvalue, hoffset, hlength⟩ := h
  rw [firstFault?_append hbefore, firstFault?, if_neg hpoint, ← hvalue, Nat.zero_add, ← hoffset,
    ← hlength]

/-- **The fault that is found is the first.** -/
theorem firstFault?_eq_some_iff {fault : EncodeFault} :
    firstFault? canWrite 0 text = some fault ↔ fault.IsFirst canWrite text := by
  refine ⟨fun h => ?_, firstFault?_of_isFirst⟩
  have hsome : firstFault? canWrite 0 text ≠ none := by
    rw [h]
    exact Option.some_ne_none fault
  obtain ⟨before, point, rest, htext, hbefore, hpoint⟩ :=
    exists_first_of_not_forall (mt firstFault?_eq_none_iff.mpr hsome)
  have hfirst : EncodeFault.IsFirst canWrite text
      ⟨point.toNat, before.length, 1 + (rest.takeWhile CodePoint.isSurrogate).length⟩ :=
    ⟨before, point, rest, htext, hbefore, hpoint, rfl, rfl, rfl⟩
  rw [firstFault?_of_isFirst hfirst] at h
  exact Option.some.inj h ▸ hfirst

theorem not_isFirst_of_forall {fault : EncodeFault} (h : ∀ point ∈ text, canWrite point) :
    ¬ fault.IsFirst canWrite text := by
  rintro ⟨before, point, rest, rfl, -, hpoint, -⟩
  exact hpoint (h point (List.mem_append_right _ List.mem_cons_self))

theorem forall_isCharacter_iff :
    (∀ point ∈ text, isCharacter point) ↔ ∀ index, .surrogate index ∉ text := by
  constructor
  · intro h index hmem
    cases h _ hmem
  · intro h point hmem
    cases point with
    | char c => rfl
    | surrogate index => exact absurd hmem (h index)

theorem isCharacter_ofString (text : String) :
    ∀ point ∈ CodePoints.ofString text, isCharacter point :=
  forall_isCharacter_iff.mpr fun index => CodePoints.surrogate_not_mem_ofString index text

end Faults

/-! ## Addresses -/

theorem hasBytes_ofString (text : String) : ∀ point ∈ CodePoints.ofString text, hasBytes point := by
  intro point hmem
  cases point with
  | char c => rfl
  | surrogate index => exact absurd hmem (CodePoints.surrogate_not_mem_ofString index text)

/-- NUL alone has the byte 0 in UTF-8. -/
theorem zero_mem_utf8EncodeChar_iff {c : Char} :
    0 ∈ String.utf8EncodeChar c ↔ c = '\x00' := by
  have hbytes := Utf8.map_toNat_utf8EncodeChar c
  have hinj : Function.Injective UInt8.toNat := fun _ _ => UInt8.toNat_inj.mp
  have hzero : UInt8.toNat 0 ∈ (String.utf8EncodeChar c).map UInt8.toNat ↔
      0 ∈ String.utf8EncodeChar c := List.mem_map_of_injective hinj
  have hnull : c = '\x00' ↔ c.toNat = 0 := Char.toNat_inj.symm
  rw [← hzero, hbytes, hnull]
  split
  · simp [eq_comm]
  · split
    · simp
      omega
    · split <;> simp <;> omega

theorem zero_mem_bytesOf_iff {point : CodePoint} (h : hasBytes point) :
    0 ∈ bytesOf point ↔ point = .char '\x00' := by
  cases point with
  | char c => rw [bytesOf, zero_mem_utf8EncodeChar_iff, CodePoint.char.injEq]
  | surrogate index =>
    have hbounds : 0x480 ≤ index.val ∧ index.val < 0x500 := by simpa [hasBytes] using h
    have hbyte : (UInt8.ofNat index.val).toNat = index.val - 0x400 := by
      rw [UInt8.toNat_ofNat']
      omega
    simp [bytesOf, ← UInt8.toNat_inj, hbyte]
    omega

variable {path : CodePoints} {address : List UInt8}

theorem addressOf_eq_ok_iff : addressOf path = .ok address ↔
    (∀ point ∈ path, hasBytes point) ∧ path.flatMap bytesOf = address := by
  rw [← @firstFault?_eq_none_iff _ 0, addressOf]
  cases firstFault? hasBytes 0 path with
  | none => simp
  | some fault => simp

/-- A path has no address if it holds a surrogate that stands for no byte. -/
theorem addressOf_eq_error_iff {reason : String} : addressOf path = .error reason ↔
    ∃ fault : EncodeFault, fault.IsFirst hasBytes path ∧ fault.message = reason := by
  simp only [← firstFault?_eq_some_iff, addressOf]
  cases firstFault? hasBytes 0 path with
  | none => simp
  | some fault => simp

theorem zero_mem_address_iff (h : addressOf path = .ok address) :
    0 ∈ address ↔ .char '\x00' ∈ path := by
  obtain ⟨hall, rfl⟩ := addressOf_eq_ok_iff.mp h
  rw [List.mem_flatMap]
  constructor
  · rintro ⟨point, hmem, hzero⟩
    exact (zero_mem_bytesOf_iff (hall point hmem)).mp hzero ▸ hmem
  · intro hmem
    exact ⟨_, hmem, (zero_mem_bytesOf_iff (hall _ hmem)).mpr rfl⟩

/-! ## Line ends -/

theorem surrogate_mem_withPlainNewlines_iff {index : Fin 0x800} {text : CodePoints} :
    .surrogate index ∈ withPlainNewlines text ↔ .surrogate index ∈ text := by
  fun_induction withPlainNewlines text with
  | case1 => rfl
  | case2 rest ih => simp [ih]
  | case3 rest _ ih => simp [ih]
  | case4 point rest _ _ ih => simp [ih]

/-- A text without surrogates is a string once its line ends are plain. -/
theorem exists_source {text : CodePoints} (h : ∀ index, .surrogate index ∉ text) :
    ∃ source, withPlainNewlines text = .ofString source :=
  ⟨_, CodePoints.eq_ofString_iff.mpr fun index hmem =>
    h index (surrogate_mem_withPlainNewlines_iff.mp hmem)⟩

end Source

end SymbolCensus
