import SymbolCensus.Proofs.Coverage

/-!
# Tokens are as long as they can be

What a token is can be checked without reading the text again: its slice is written in one way for
each kind, and the character right behind it would not have gone on with it. One character of
lookahead settles that for all kinds; the two marks of a comment are the only pair that a single
operator must leave to something else.

- `IsWord`, `IsDigits`: how words and numbers are written.
- `Token.Maximal`: a row for each kind of token and each type of a constant, and no others.
- `Census.maximal_ofText`: every token of a text is in its row.
-/

namespace SymbolCensus

/-- A letter, an underscore or a dollar sign, and behind it such characters and those with a numeric
value. -/
def IsWord (slice : List Char) : Prop :=
  ∃ c rest, slice = c :: rest ∧ Lexicon.isWordStart c = true ∧
    ∀ d ∈ rest, Lexicon.isWordPart d = true

/-- One ASCII digit or several. -/
def IsDigits (slice : List Char) : Prop :=
  slice ≠ [] ∧ ∀ d ∈ slice, d.isDigit = true

/-- A character that neither separates nor starts a word, a number or a string literal, and is no
operator. -/
structure IsOther (c : Char) : Prop where
  blank : Lexicon.isBlank c = false
  wordStart : Lexicon.isWordStart c = false
  digit : c.isDigit = false
  quote : c ≠ '"'
  operator : c ∉ Lexicon.operators

namespace Token

/-- What the slice of a token looks like, and which characters may come next. A constant has one of
three types, and no other token has a type. Of string literals nothing is said here. -/
def Maximal (token : Token) (slice : List Char) (next : Option Char) : Prop :=
  match token.kind, token.valueType with
  | .keyword, none =>
    token.lexeme ∈ Lexicon.keywords ∧ IsWord slice ∧ ∀ c ∈ next, Lexicon.isWordPart c = false
  | .identifier, none =>
    token.lexeme ∉ Lexicon.keywords ∧ IsWord slice ∧ ∀ c ∈ next, Lexicon.isWordPart c = false
  | .constant, some "int" => IsDigits slice ∧ ∀ c ∈ next, c.isDigit = false ∧ c ≠ '.'
  | .constant, some "double" =>
    (∃ whole fraction, slice = whole ++ '.' :: fraction ∧ IsDigits whole ∧
      ∀ d ∈ fraction, d.isDigit = true) ∧ ∀ c ∈ next, c.isDigit = false
  | .constant, some "string" => True
  | .operator, none =>
    (∃ c d, slice = [c, d] ∧ Piece.isCompound c d = true) ∨
      ∃ c, slice = [c] ∧ c ∈ Lexicon.operators ∧
        ∀ d ∈ next, Piece.isCompound c d = false ∧ ¬ (c = '/' ∧ (d = '/' ∨ d = '*'))
  | .punctuation, none =>
    ∃ c, slice = [c] ∧ IsOther c ∧ ∀ d ∈ next, Piece.isCompound c d = false
  | _, _ => False

/-- Constants are the tokens that have a type. -/
theorem Maximal.isSome_valueType_iff {token : Token} {slice : List Char} {next : Option Char}
    (h : token.Maximal slice next) : token.valueType.isSome = true ↔ token.kind = .constant := by
  unfold Maximal at h
  split at h <;> simp_all

end Token

namespace Piece

/-- A piece with its shape, at the end that its successor puts to it, yields such a token. -/
theorem maximal_token? {piece : Piece} {position : Position} {token : Token} {next : Option Char}
    (hshape : piece.Shape) (hstops : piece.StopsAt next)
    (htoken : piece.token? position = some token) : token.Maximal piece.text next := by
  obtain ⟨kind, hkind, rfl⟩ := Option.map_eq_some_iff.mp htoken
  cases piece with
  | blank c => cases hkind
  | lineComment written => cases hkind
  | blockComment written closed => cases hkind
  | word written =>
    obtain rfl := Option.some.inj hkind
    by_cases hkeyword : Lexicon.keywords.contains (word written).lexeme = true
    · rw [if_pos hkeyword]
      exact ⟨List.contains_iff_mem.mp hkeyword, hshape, hstops⟩
    · rw [if_neg hkeyword]
      exact ⟨mt List.contains_iff_mem.mpr hkeyword, hshape, hstops⟩
  | literal written ending =>
    obtain rfl := Option.some.inj hkind
    trivial
  | numeral whole fraction pointFollows =>
    obtain rfl := Option.some.inj hkind
    obtain ⟨hne, hwhole, hfraction, -⟩ := hshape
    cases fraction with
    | none => exact ⟨⟨hne, hwhole⟩, hstops⟩
    | some digits => exact ⟨⟨whole, digits, rfl, ⟨hne, hwhole⟩, hfraction⟩, hstops.1⟩
  | compound first second =>
    obtain rfl := Option.some.inj hkind
    exact .inl ⟨first, second, rfl, hshape⟩
  | mark c =>
    obtain rfl := Option.some.inj hkind
    obtain ⟨hblank, hword, hquote, hdigit⟩ := hshape
    by_cases hoperator : Lexicon.operators.contains c = true
    · rw [if_pos hoperator]
      exact .inr ⟨c, rfl, List.contains_iff_mem.mp hoperator, hstops⟩
    · rw [if_neg hoperator]
      exact ⟨c, rfl, ⟨hblank, hword, hdigit, hquote, mt List.contains_iff_mem.mpr hoperator⟩,
        fun d hd => (hstops d hd).1⟩

end Piece

namespace Census

/-- The character right behind the slice of a token, unless the text ends there. -/
def following (census : Census) (text : List Char) (token : Token) : Option Char :=
  text[token.position.offset text + (census.slice token).length]?

theorem following_eq_head? {text : String} {refine : Bool} {place : Place} {token : Token}
    (h : place ∈ reading text) (htoken : place.token? = some token) :
    (ofText text refine).following text.toList token = place.after.head? := by
  unfold following
  rw [offset_eq_length h htoken, slice_eq_text h htoken, ← List.length_append, ← List.head?_drop,
    drop_past_of_reading h]

/-- **Maximal munch.** In every text the slice of a token stands at its offset, is written as its
kind demands, and could not have been longer; and constants alone have a type. -/
theorem maximal_ofText (text : String) (refine : Bool) :
    ∀ token ∈ (ofText text refine).tokens,
      (ofText text refine).slice token <+: text.toList.drop (token.position.offset text.toList) ∧
      (token.valueType.isSome = true ↔ token.kind = .constant) ∧
      token.Maximal ((ofText text refine).slice token)
        ((ofText text refine).following text.toList token) := by
  intro token hmem
  rw [tokens_ofText] at hmem
  obtain ⟨place, hplace, hyields⟩ := List.mem_filterMap.mp hmem
  have hmaximal :=
    Piece.maximal_token? (fit_reading text hplace) (stopsAt_reading hplace) hyields
  rw [slice_eq_text hplace hyields, offset_eq_length hplace hyields,
    drop_before_of_reading hplace, following_eq_head? hplace hyields]
  exact ⟨List.prefix_append .., hmaximal.isSome_valueType_iff, hmaximal⟩

/-- A slash behind a number that has a second point behind it. -/
theorem maximal_ofText_slash :
    let text := "int8/=1.5./x"
    let census := ofText text true
    let slash : Token := { kind := .operator, lexeme := "/", position := ⟨1, 11⟩ }
    slash ∈ census.tokens ∧ census.slice slash = ['/'] ∧
      census.following text.toList slash = some 'x' ∧
      census.slice slash <+: text.toList.drop (slash.position.offset text.toList) ∧
      (slash.valueType.isSome = true ↔ slash.kind = .constant) ∧
      slash.Maximal ['/'] (some 'x') := by
  intro text census slash
  have hmem : slash ∈ census.tokens := by decide +kernel
  have hslice : census.slice slash = ['/'] := by decide +kernel
  have hnext : census.following text.toList slash = some 'x' := by decide +kernel
  obtain ⟨hstands, htype, hmaximal⟩ := maximal_ofText text true slash hmem
  rw [hslice, hnext] at hmaximal
  exact ⟨hmem, hslice, hnext, hstands, htype, hmaximal⟩

end Census

end SymbolCensus
