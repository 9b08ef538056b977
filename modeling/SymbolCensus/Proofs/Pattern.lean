import Mathlib
import SymbolCensus.Refinement

/-!
# Patterns in a token list

What a token list says about a name is said by a few patterns of neighbouring tokens: an identifier
behind the keyword `class`, or one between a type word and one of `(`, `=`, `;` and `,`. This file
names these patterns by the place at which they start, so that "the last such place" and "the first
occurrence" can be spoken of without a pass over the tokens.

- `lastBelow n p`: the last place below `n` with a property. `lastBelow_succ` is the one equation
  that proofs by induction on `n` need.
- `classAt`, `methodAt`, `plainAt`: the patterns. Which tokens count as type words is a parameter,
  because the refinement accepts more of them than the reserved words supply.
- `memberAt`: a modifier stands in the window before a place.
-/

namespace SymbolCensus

/-! ## The last place with a property -/

/-- The last place below `n` that has the property. -/
def lastBelow (n : Nat) (p : Nat → Bool) : Option Nat :=
  ((List.range n).filter p).getLast?

@[simp] theorem lastBelow_zero (p : Nat → Bool) : lastBelow 0 p = none := rfl

theorem lastBelow_succ (n : Nat) (p : Nat → Bool) :
    lastBelow (n + 1) p = if p n then some n else lastBelow n p := by
  unfold lastBelow
  rw [List.range_succ, List.filter_append]
  by_cases h : p n
  · simp [h]
  · simp [h]

/-- What is found lies below the bound and has the property. -/
theorem lastBelow_eq_some {n j : Nat} {p : Nat → Bool} (h : lastBelow n p = some j) :
    j < n ∧ p j = true := by
  have hmem := List.mem_of_getLast? h
  rw [List.mem_filter, List.mem_range] at hmem
  exact hmem

theorem lastBelow_eq_none_iff {n : Nat} {p : Nat → Bool} :
    lastBelow n p = none ↔ ∀ j < n, p j = false := by
  unfold lastBelow
  rw [List.getLast?_eq_none_iff, List.filter_eq_nil_iff]
  constructor
  · intro h j hj
    simpa using h j (List.mem_range.mpr hj)
  · intro h j hj
    simpa using h j (List.mem_range.mp hj)

theorem lastBelow_congr {n : Nat} {p q : Nat → Bool} (h : ∀ j < n, p j = q j) :
    lastBelow n p = lastBelow n q := by
  unfold lastBelow
  rw [List.filter_congr fun j hj => h j (List.mem_range.mp hj)]

/-! ## Tokens that matter to a pattern -/

namespace Token

/-- The keyword `class`. -/
def isClassWord (token : Token) : Bool :=
  token.isA .keyword ["class"]

/-- One of the reserved words that name a type. -/
def isTypeWord (token : Token) : Bool :=
  token.isA .keyword Lexicon.typeWords

/-- A keyword that names a type, or whose first character is not lowercase. -/
def mayNameType (token : Token) : Bool :=
  token.kind == .keyword &&
    (Lexicon.typeWords.contains token.lexeme || !token.lexeme.toList.head?.any Unicode.isLowercase)

/-- The identifier with the given name. -/
def isNamed (name : String) (token : Token) : Bool :=
  token.isA .identifier [name]

/-- The opening parenthesis. -/
def opensList (token : Token) : Bool :=
  token.isA .punctuation ["("]

/-- One of the marks behind the name in a plain declaration. -/
def endsName (token : Token) : Bool :=
  token.isA .operator ["="] || token.isA .punctuation [";", ","]

theorem isA_singleton_iff {token : Token} {kind : TokenKind} {lexeme : String} :
    token.isA kind [lexeme] = true ↔ token.kind = kind ∧ token.lexeme = lexeme := by
  simp [isA]

theorem isA_of_kind_ne {token : Token} {kind : TokenKind} {lexemes : List String}
    (h : token.kind ≠ kind) : token.isA kind lexemes = false := by
  simp [isA, h]

theorem isNamed_iff {token : Token} {name : String} :
    token.isNamed name = true ↔ token.kind = .identifier ∧ token.lexeme = name :=
  isA_singleton_iff

/-- The token is no keyword, or a keyword with at least one character. -/
def canBeJudged (token : Token) : Bool :=
  !(token.kind == .keyword && token.lexeme == "")

theorem canBeJudged_iff {token : Token} :
    token.canBeJudged = true ↔ (token.kind = .keyword → token.lexeme ≠ "") := by
  simp [canBeJudged, Decidable.imp_iff_not_or]

theorem not_canBeJudged_iff {token : Token} :
    ¬ token.canBeJudged = true ↔ token.kind = .keyword ∧ token.lexeme = "" := by
  simp [canBeJudged]

end Token

/-- A keyword that has a character can be judged, and is judged by the list of type words and its
first character. -/
theorem Lexicon.isTypeLike_eq {token : Token}
    (h : token.kind = .keyword → token.lexeme ≠ "") :
    isTypeLike token = .ok token.mayNameType := by
  unfold isTypeLike Token.mayNameType
  by_cases hkind : token.kind = .keyword
  · rw [if_neg (by simp [hkind])]
    by_cases hword : typeWords.contains token.lexeme = true
    · rw [if_pos hword, hword, hkind]
      rfl
    · rw [if_neg hword]
      obtain ⟨c, rest, hc⟩ : ∃ c rest, token.lexeme.toList = c :: rest := by
        apply List.exists_cons_of_ne_nil
        rw [Ne, String.toList_eq_nil_iff]
        exact h hkind
      simp only [firstCharacter, hc, hkind, Bool.eq_false_iff.mpr hword]
      rfl
  · rw [if_pos hkind]
    simp [hkind]

/-- A keyword without a character cannot be judged. -/
theorem Lexicon.isTypeLike_eq_error {token : Token}
    (h : token.kind = .keyword ∧ token.lexeme = "") :
    isTypeLike token = .error .outsideText := by
  unfold isTypeLike
  rw [h.1, h.2]
  rfl

/-! ## The patterns -/

namespace Pattern

/-- The keyword `class` and the name stand at a place and behind it. -/
def classAt (tokens : List Token) (name : String) (j : Nat) : Bool :=
  tokens[j]?.any Token.isClassWord && tokens[j + 1]?.any (Token.isNamed name)

/-- A type word, the name and a token of some sort stand at a place and behind it. -/
def declarationAt (isType follows : Token → Bool) (tokens : List Token) (name : String)
    (j : Nat) : Bool :=
  tokens[j]?.any isType && tokens[j + 1]?.any (Token.isNamed name) && tokens[j + 2]?.any follows

/-- A type word, the name and an opening parenthesis stand at a place and behind it. -/
def methodAt (isType : Token → Bool) (tokens : List Token) (name : String) (j : Nat) : Bool :=
  declarationAt isType Token.opensList tokens name j

/-- A type word, the name and one of `=`, `;` and `,` stand at a place and behind it. -/
def plainAt (isType : Token → Bool) (tokens : List Token) (name : String) (j : Nat) : Bool :=
  declarationAt isType Token.endsName tokens name j

/-- A modifier stands among the few tokens right before a place. -/
def memberAt (tokens : List Token) (j : Nat) : Bool :=
  ((tokens.take j).drop (j - Refinement.modifierWindow)).any (·.isA .keyword Lexicon.modifiers)

/-- The lexeme at a place, if the list reaches that far. -/
def lexemeAt (tokens : List Token) (j : Nat) : Option String :=
  tokens[j]?.map (·.lexeme)

/-- The keyword `class` and some identifier stand at a place and behind it. -/
def someClassAt (tokens : List Token) (j : Nat) : Bool :=
  tokens[j]?.any Token.isClassWord && tokens[j + 1]?.any (·.kind == .identifier)

theorem someClassAt_of_classAt {tokens : List Token} {name : String} {j : Nat}
    (h : classAt tokens name j = true) : someClassAt tokens j = true := by
  unfold classAt at h
  unfold someClassAt
  rw [Bool.and_eq_true, Option.any_eq_true (p := Token.isNamed name)] at h
  obtain ⟨hword, token, htoken, hnamed⟩ := h
  rw [hword, htoken, Option.any_some, (Token.isNamed_iff.mp hnamed).1]
  rfl

theorem lexemeAt_of_someClassAt {tokens : List Token} {j : Nat}
    (h : someClassAt tokens j = true) : ∃ name, lexemeAt tokens (j + 1) = some name := by
  unfold someClassAt at h
  rw [Bool.and_eq_true, Option.any_eq_true (x := tokens[j + 1]?)] at h
  obtain ⟨-, token, htoken, -⟩ := h
  exact ⟨token.lexeme, by rw [lexemeAt, htoken]; rfl⟩

/-- The last identifier right behind a keyword `class` that stands below a place. -/
def lastClass (tokens : List Token) (n : Nat) : Option String :=
  (lastBelow n (someClassAt tokens)).bind fun j => lexemeAt tokens (j + 1)

theorem lastClass_succ (tokens : List Token) (n : Nat) :
    lastClass tokens (n + 1) =
      if someClassAt tokens n then lexemeAt tokens (n + 1) else lastClass tokens n := by
  unfold lastClass
  rw [lastBelow_succ]
  by_cases h : someClassAt tokens n = true
  · rw [if_pos h, if_pos h]
    rfl
  · rw [if_neg h, if_neg h]

/-- The window before a place, seen from the place backwards. -/
theorem memberAt_eq_hasModifier {tokens before after : List Token}
    (h : tokens = before.reverse ++ after) :
    memberAt tokens before.length = Refinement.hasModifier before := by
  unfold memberAt Refinement.hasModifier
  have htake : tokens.take before.length = before.reverse := by
    rw [h, ← List.length_reverse, List.take_left]
  rw [htake, List.drop_reverse, List.any_reverse]
  rcases Nat.le_total Refinement.modifierWindow before.length with hle | hle
  · rw [Nat.sub_sub_self hle]
  · -- the list is shorter than the window, so all of it is searched
    rw [Nat.sub_eq_zero_of_le hle, Nat.sub_zero, List.take_of_length_le (Nat.le_refl _),
      List.take_of_length_le hle]

end Pattern

end SymbolCensus
