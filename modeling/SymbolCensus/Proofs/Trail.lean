import SymbolCensus.Piece
import SymbolCensus.Proofs.Pattern
import SymbolCensus.Proofs.Sightings

/-!
# What the tokens so far say

A scan carries flags from token to token and a symbol table beside its token list. Both are
functions of the tokens emitted so far, together with the character right behind each: this file
defines these functions and shows that one more token changes them as it changes the scan.

- `Context.behind`: the context as the token list gives it; `Context.past` is the change that a
  scan makes for one token, and `past_behind` says that the two agree.
- `Trail`: tokens with the character behind each. `Trail.sightings` lists the identifiers among them
  with their contexts, so that the table is `sightAll {} trail.sightings`.
-/

namespace SymbolCensus

namespace Pattern

/-- The names of the identifiers among some tokens, one for each occurrence. -/
def identifiers (tokens : List Token) : List String :=
  (tokens.filter (·.kind == .identifier)).map (·.lexeme)

theorem identifiers_concat (tokens : List Token) (token : Token) :
    identifiers (tokens ++ [token]) =
      if token.kind = .identifier then identifiers tokens ++ [token.lexeme]
      else identifiers tokens := by
  unfold identifiers
  rw [List.filter_append, List.map_append]
  by_cases h : token.kind = .identifier
  · simp [h]
  · simp [h]

theorem mem_identifiers_iff {tokens : List Token} {name : String} :
    name ∈ identifiers tokens ↔
      ∃ token ∈ tokens, token.kind = .identifier ∧ token.lexeme = name := by
  simp [identifiers, and_assoc]

/-- An identifier stands at a place for the first time, right behind the keyword `class`. -/
def newClassAt (tokens : List Token) (i : Nat) : Bool :=
  (tokens.take i).getLast?.any Token.isClassWord &&
    tokens[i]?.any fun token =>
      token.kind == .identifier && !(identifiers (tokens.take i)).contains token.lexeme

theorem newClassAt_concat {tokens : List Token} {i : Nat} (token : Token)
    (h : i < tokens.length) : newClassAt (tokens ++ [token]) i = newClassAt tokens i := by
  unfold newClassAt
  rw [List.take_append_of_le_length (Nat.le_of_lt h), List.getElem?_append_left h]

end Pattern

namespace Token

/-- A parenthesis. -/
def isParenthesis (token : Token) : Bool :=
  token.isA .punctuation ["(", ")"]

/-- Only keywords and punctuation characters leave a trace in a context. -/
theorem flags_of_kind_ne {token : Token} (hkeyword : token.kind ≠ .keyword)
    (hpunctuation : token.kind ≠ .punctuation) :
    token.isParenthesis = false ∧ token.isClassWord = false ∧ token.isTypeWord = false :=
  ⟨isA_of_kind_ne hpunctuation, isA_of_kind_ne hkeyword, isA_of_kind_ne hkeyword⟩

/-- What the lexicon promises of the tokens that pieces yield: keywords are reserved words, and no
operator looks like a parenthesis. -/
structure Lexical (token : Token) : Prop where
  keyword : token.kind = .keyword → token.lexeme ∈ Lexicon.keywords
  operator : token.kind = .operator → token.lexeme ≠ "(" ∧ token.lexeme ≠ ")"

end Token

/-- The tokens that pieces yield are lexical. -/
theorem Piece.lexical_token? {piece : Piece} {position : Position} {token : Token}
    (h : piece.token? position = some token) : token.Lexical := by
  obtain ⟨kind, hkind, rfl⟩ := Option.map_eq_some_iff.mp h
  cases piece with
  | blank c => cases hkind
  | lineComment written => cases hkind
  | blockComment written closed => cases hkind
  | word written =>
    obtain rfl := Option.some.inj hkind
    constructor
    · intro hkeyword
      dsimp only at hkeyword ⊢
      by_contra hnot
      rw [if_neg (by simpa using hnot)] at hkeyword
      cases hkeyword
    · intro hoperator
      dsimp only at hoperator
      split at hoperator <;> cases hoperator
  | literal written ending =>
    obtain rfl := Option.some.inj hkind
    constructor
    · intro hkeyword
      cases hkeyword
    · intro hoperator
      cases hoperator
  | numeral whole fraction pointFollows =>
    obtain rfl := Option.some.inj hkind
    constructor
    · intro hkeyword
      cases hkeyword
    · intro hoperator
      cases hoperator
  | compound first second =>
    obtain rfl := Option.some.inj hkind
    refine ⟨fun hkeyword => TokenKind.noConfusion hkeyword, fun _ => ⟨?_, ?_⟩⟩
    · intro hlexeme
      have := congrArg String.toList hlexeme
      simp [lexeme, text] at this
    · intro hlexeme
      have := congrArg String.toList hlexeme
      simp [lexeme, text] at this
  | mark c =>
    obtain rfl := Option.some.inj hkind
    constructor
    · intro hkeyword
      dsimp only at hkeyword
      split at hkeyword <;> cases hkeyword
    · intro hoperator
      have hmem : c ∈ Lexicon.operators := by
        dsimp only at hoperator
        by_contra hnot
        rw [if_neg (by simpa using hnot)] at hoperator
        cases hoperator
      have hne : ∀ d, d ∉ Lexicon.operators → String.ofList [c] ≠ String.ofList [d] := by
        intro d hd hlexeme
        have := congrArg String.toList hlexeme
        rw [String.toList_ofList, String.toList_ofList, List.singleton_inj] at this
        exact hd (this ▸ hmem)
      exact ⟨hne '(' (by decide), hne ')' (by decide)⟩

namespace Context

open Pattern

/-- The context behind some tokens: a type word waits and a class may be named right behind such a
keyword only; the last parenthesis tells whether a list is open; the class named last is the last
name that stood behind `class` when it was new. -/
def behind (tokens : List Token) : Context where
  pendingType := (tokens.getLast?.filter Token.isTypeWord).map (·.lexeme)
  inParameters := (tokens.filter Token.isParenthesis).getLast?.any (·.lexeme == "(")
  afterClass := tokens.getLast?.any Token.isClassWord
  className := (lastBelow tokens.length (newClassAt tokens)).bind (lexemeAt tokens)

/-- The change that a token makes to the context of a scan. -/
def past (context : Context) (token : Token) (isNew : Bool) : Context :=
  match token.kind with
  | .keyword => context.afterKeyword token.lexeme
  | .identifier => context.afterIdentifier token.lexeme isNew
  | .constant => context.clearDeclaration
  | .operator | .punctuation => (context.afterMark token.lexeme).clearDeclaration

theorem pendingType_behind_concat (tokens : List Token) (token : Token) :
    (behind (tokens ++ [token])).pendingType =
      if token.isTypeWord then some token.lexeme else none := by
  show ((tokens ++ [token]).getLast?.filter Token.isTypeWord).map (·.lexeme) = _
  rw [List.getLast?_concat]
  by_cases h : token.isTypeWord = true
  · simp [h, Option.filter]
  · simp [h, Option.filter]

theorem afterClass_behind_concat (tokens : List Token) (token : Token) :
    (behind (tokens ++ [token])).afterClass = token.isClassWord := by
  show (tokens ++ [token]).getLast?.any Token.isClassWord = _
  rw [List.getLast?_concat]
  rfl

theorem inParameters_behind_concat (tokens : List Token) (token : Token) :
    (behind (tokens ++ [token])).inParameters =
      if token.isParenthesis then token.lexeme == "(" else (behind tokens).inParameters := by
  show ((tokens ++ [token]).filter Token.isParenthesis).getLast?.any (·.lexeme == "(") = _
  rw [List.filter_append]
  by_cases h : token.isParenthesis = true
  · simp [h]
  · simp [h, behind]

theorem className_behind_concat (tokens : List Token) (token : Token) :
    (behind (tokens ++ [token])).className =
      if token.kind = .identifier ∧ token.lexeme ∉ identifiers tokens ∧ (behind tokens).afterClass
      then some token.lexeme else (behind tokens).className := by
  show (lastBelow (tokens ++ [token]).length _).bind _ = _
  have hat : newClassAt (tokens ++ [token]) tokens.length = true ↔
      token.kind = .identifier ∧ token.lexeme ∉ identifiers tokens ∧
        (behind tokens).afterClass = true := by
    have hafter : (behind tokens).afterClass = tokens.getLast?.any Token.isClassWord := rfl
    unfold newClassAt
    rw [List.take_left, List.getElem?_concat_length, hafter]
    simp only [Option.any_some, Bool.and_eq_true, beq_iff_eq, Bool.not_eq_true',
      List.contains_eq_mem, decide_eq_false_iff_not]
    tauto
  -- either the new token is the last place of the kind, or the places before it are as they were
  rw [List.length_append, List.length_singleton, lastBelow_succ]
  by_cases hnew : newClassAt (tokens ++ [token]) tokens.length = true
  · rw [if_pos hnew, if_pos (hat.mp hnew)]
    simp [lexemeAt]
  · rw [if_neg hnew, if_neg (mt hat.mpr hnew),
      lastBelow_congr fun i hi => newClassAt_concat token hi]
    show _ = (lastBelow tokens.length (newClassAt tokens)).bind (lexemeAt tokens)
    cases hlast : lastBelow tokens.length (newClassAt tokens) with
    | none => rfl
    | some i =>
      show (tokens ++ [token])[i]?.map _ = tokens[i]?.map _
      rw [List.getElem?_append_left (lastBelow_eq_some hlast).1]

theorem startsTypeName_eq {lexeme : String} (h : lexeme ∈ Lexicon.keywords) :
    Lexicon.startsTypeName lexeme = .ok (Lexicon.typeWords.contains lexeme) := by
  revert lexeme
  decide

/-- **A token changes the context of a scan as it changes the context that the tokens give.** -/
theorem past_behind {token : Token} (h : token.Lexical) (tokens : List Token) :
    (behind tokens).past token (!(identifiers tokens).contains token.lexeme) =
      behind (tokens ++ [token]) := by
  have hexpand : ∀ context : Context, context =
      ⟨context.pendingType, context.inParameters, context.afterClass, context.className⟩ :=
    fun _ => rfl
  rw [hexpand (behind (tokens ++ [token])), pendingType_behind_concat, afterClass_behind_concat,
    inParameters_behind_concat, className_behind_concat]
  -- each kind of token settles by itself which flags it can set
  unfold past
  cases hkind : token.kind with
  | keyword =>
    have hparen : token.isParenthesis = false := Token.isA_of_kind_ne (by simp [hkind])
    have hclass : token.isClassWord = (token.lexeme == "class") := by
      rw [Bool.eq_iff_iff, Token.isClassWord, Token.isA_singleton_iff, hkind, beq_iff_eq]
      exact and_iff_right rfl
    have htype : token.isTypeWord = Lexicon.typeWords.contains token.lexeme := by
      simp [Token.isTypeWord, Token.isA, hkind, Lexicon.typeWords]
    simp only [afterKeyword, startsTypeName_eq (h.keyword hkind), hparen, hclass, htype]
    congr 1
    cases Lexicon.typeWords.contains token.lexeme <;> rfl
  | identifier =>
    obtain ⟨hparen, hclass, htype⟩ :=
      Token.flags_of_kind_ne (by simp [hkind]) (by simp [hkind] : token.kind ≠ .punctuation)
    simp [afterIdentifier, hparen, hclass, htype]
  | constant =>
    obtain ⟨hparen, hclass, htype⟩ :=
      Token.flags_of_kind_ne (by simp [hkind]) (by simp [hkind] : token.kind ≠ .punctuation)
    simp [clearDeclaration, hparen, hclass, htype]
  | operator =>
    obtain ⟨hparen, hclass, htype⟩ :=
      Token.flags_of_kind_ne (by simp [hkind]) (by simp [hkind] : token.kind ≠ .punctuation)
    obtain ⟨hopen, hclose⟩ := h.operator hkind
    simp [afterMark, clearDeclaration, hparen, hclass, htype, hopen, hclose]
  | punctuation =>
    have hclass : token.isClassWord = false := Token.isA_of_kind_ne (by simp [hkind])
    have htype : token.isTypeWord = false := Token.isA_of_kind_ne (by simp [hkind])
    simp only [afterMark, clearDeclaration, hclass, htype]
    by_cases hopen : token.lexeme = "("
    · have hparen : token.isParenthesis = true := by
        simp [Token.isParenthesis, Token.isA, hkind, hopen]
      simp [hopen, hparen]
    by_cases hclose : token.lexeme = ")"
    · have hparen : token.isParenthesis = true := by
        simp [Token.isParenthesis, Token.isA, hkind, hclose]
      simp [hclose, hparen]
    · have hparen : token.isParenthesis = false := by
        simp [Token.isParenthesis, Token.isA, hkind, hopen, hclose]
      simp [hopen, hclose, hparen]

end Context

/-! ## Tokens with the character behind each -/

/-- Tokens in order, each with the character right behind it in the text. -/
abbrev Trail := List (Token × Option Char)

namespace Trail

open Pattern

/-- The tokens of a trail. -/
def tokens (trail : Trail) : List Token :=
  trail.map Prod.fst

theorem tokens_concat (trail : Trail) (token : Token) (next : Option Char) :
    tokens (trail ++ [(token, next)]) = trail.tokens ++ [token] := by
  simp [tokens]

/-- The sighting at a place, if an identifier stands there. -/
def sightingAt (trail : Trail) (i : Nat) : Option Sighting :=
  trail[i]?.bind fun (token, next) =>
    if token.kind = .identifier then
      some { token, context := Context.behind (trail.tokens.take i), next }
    else none

/-- The sightings along a trail. -/
def sightings (trail : Trail) : List Sighting :=
  (List.range trail.length).filterMap trail.sightingAt

theorem sightingAt_concat {trail : Trail} {i : Nat} (token : Token) (next : Option Char)
    (h : i < trail.length) : sightingAt (trail ++ [(token, next)]) i = trail.sightingAt i := by
  have hlength : i ≤ trail.tokens.length := by
    rw [tokens, List.length_map]
    exact Nat.le_of_lt h
  unfold sightingAt
  rw [List.getElem?_append_left h, tokens_concat, List.take_append_of_le_length hlength]

theorem sightings_concat (trail : Trail) (token : Token) (next : Option Char) :
    sightings (trail ++ [(token, next)]) =
      if token.kind = .identifier then
        trail.sightings ++ [{ token, context := Context.behind trail.tokens, next }]
      else trail.sightings := by
  have hbefore : (List.range trail.length).filterMap (sightingAt (trail ++ [(token, next)])) =
      trail.sightings :=
    List.filterMap_congr fun i hi => sightingAt_concat token next (List.mem_range.mp hi)
  have hlength : trail.length = trail.tokens.length := by rw [tokens, List.length_map]
  have hlast : sightingAt (trail ++ [(token, next)]) trail.length =
      if token.kind = .identifier then
        some { token, context := Context.behind trail.tokens, next }
      else none := by
    unfold sightingAt
    rw [List.getElem?_concat_length, tokens_concat, hlength, List.take_left]
    rfl
  unfold sightings
  rw [List.length_append, List.length_singleton, List.range_succ, List.filterMap_append, hbefore,
    List.filterMap_cons, hlast]
  by_cases h : token.kind = .identifier
  · simp [h, sightings]
  · simp [h, sightings]

/-- The names sighted are those of the identifiers. -/
theorem map_name_sightings (trail : Trail) :
    trail.sightings.map Sighting.name = identifiers trail.tokens := by
  induction trail using List.reverseRecOn with
  | nil => rfl
  | append_singleton trail last ih =>
    obtain ⟨token, next⟩ := last
    rw [sightings_concat, tokens_concat, identifiers_concat]
    by_cases h : token.kind = .identifier
    · rw [if_pos h, if_pos h, List.map_append, ih]
      rfl
    · rw [if_neg h, if_neg h, ih]

/-- The table at the end of a trail knows the names of the identifiers. -/
theorem contains_sightAll (trail : Trail) (name : String) :
    (SymbolTable.sightAll {} trail.sightings).contains name =
      (identifiers trail.tokens).contains name := by
  rw [Bool.eq_iff_iff, SymbolTable.contains_sightAll, List.contains_iff_mem, ← map_name_sightings]

end Trail

end SymbolCensus
