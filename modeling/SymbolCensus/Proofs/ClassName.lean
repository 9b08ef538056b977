import SymbolCensus.Proofs.Coverage
import SymbolCensus.Proofs.Relocation

/-!
# Class names

The class that a census reports and the symbols that it takes for classes come about in different
ways: a scan takes the name behind the keyword `class` if it has not met it before, the refinement
takes every such name, and each keeps the last one that it met. This file says which places of the
token list these are (`Pattern.namingAt`, `Pattern.firstNamingAt`), and that the reported class and
the roles in the table go by the same places.

- `Token.LexemeTells`: tokens with one lexeme are identifiers together, since the first character of
  a lexeme and the reserved words tell which is one.
- `Pattern.firstNamingAt_eq_newClassAt`: what is new to a scan is new to the token list.
- `Census.NamesClasses`, `Census.namesClasses_ofText`: the class name and the classes, with
  refinement and without it.
-/

namespace SymbolCensus

/-! ## Lexemes of identifiers -/

namespace Lexicon

/-- The lexeme is one of an identifier: it starts like a word and is not reserved. -/
def isName (lexeme : String) : Bool :=
  lexeme.toList.head?.any isWordStart && !keywords.contains lexeme

theorem isName_eq_false {lexeme : String} {c : Char} {rest : List Char}
    (hlexeme : lexeme.toList = c :: rest) (hc : isWordStart c = false) :
    isName lexeme = false := by
  rw [isName, hlexeme, List.head?_cons, Option.any_some, hc, Bool.false_and]

theorem ne_empty_of_isName {lexeme : String} (h : isName lexeme = true) : lexeme ≠ "" := by
  rintro rfl
  cases h

end Lexicon

/-- The lexeme of the token tells whether it is an identifier. -/
def Token.LexemeTells (token : Token) : Prop :=
  (token.kind == .identifier) = Lexicon.isName token.lexeme

/-- So it does for the tokens of pieces. -/
theorem Piece.lexemeTells_token? {piece : Piece} {position : Position} {token : Token}
    (hshape : piece.Shape) (htoken : piece.token? position = some token) :
    token.LexemeTells := by
  unfold Token.LexemeTells
  obtain ⟨kind, hkind, rfl⟩ := Option.map_eq_some_iff.mp htoken
  cases piece with
  | blank c => cases hkind
  | lineComment written => cases hkind
  | blockComment written closed => cases hkind
  | word written =>
    obtain rfl := Option.some.inj hkind
    obtain ⟨c, rest, rfl, hstart, -⟩ := hshape
    have hname : Lexicon.isName (lexeme (.word (c :: rest))) =
        !Lexicon.keywords.contains (lexeme (.word (c :: rest))) := by
      rw [Lexicon.isName, toList_lexeme]
      show (Lexicon.isWordStart c && _) = _
      rw [hstart, Bool.true_and]
    rw [hname]
    dsimp only
    cases Lexicon.keywords.contains (lexeme (.word (c :: rest))) with
    | true => rfl
    | false => rfl
  | literal written ending =>
    obtain rfl := Option.some.inj hkind
    obtain ⟨rest, rfl⟩ : ∃ rest, written = '"' :: rest := by
      cases ending with
      | closed => exact ⟨_, hshape.choose_spec.1⟩
      | lineEnd => exact ⟨_, hshape.choose_spec.1⟩
      | textEnd =>
        obtain ⟨body, rfl | rfl, -⟩ := hshape
        · exact ⟨_, rfl⟩
        · exact ⟨_, rfl⟩
    exact (Lexicon.isName_eq_false (toList_lexeme _) (by decide)).symm
  | numeral whole fraction pointFollows =>
    obtain rfl := Option.some.inj hkind
    obtain ⟨hne, hdigits, -⟩ := hshape
    obtain ⟨d, rest, rfl⟩ := List.exists_cons_of_ne_nil hne
    have hstart := not_isWordStart_of_isDigit (hdigits d (List.mem_cons_self ..))
    cases fraction with
    | none => exact (Lexicon.isName_eq_false (toList_lexeme _) hstart).symm
    | some digits => exact (Lexicon.isName_eq_false (toList_lexeme _) hstart).symm
  | compound first second =>
    obtain rfl := Option.some.inj hkind
    have hstart := (first_of_isCompound hshape).1.2.1
    exact (Lexicon.isName_eq_false (toList_lexeme _) hstart).symm
  | mark c =>
    obtain rfl := Option.some.inj hkind
    rw [Lexicon.isName_eq_false (toList_lexeme (.mark c)) hshape.2.1]
    dsimp only
    split
    · rfl
    · rfl

/-! ## Places at which a class is named -/

namespace Pattern

/-- An identifier stands at a place, right behind the keyword `class`. -/
def namingAt (tokens : List Token) (i : Nat) : Bool :=
  (tokens.take i).getLast?.any Token.isClassWord && tokens[i]?.any (·.kind == .identifier)

/-- An identifier stands at a place, right behind the keyword `class`, and no token before it has
its lexeme. -/
def firstNamingAt (tokens : List Token) (i : Nat) : Bool :=
  namingAt tokens i &&
    tokens[i]?.any fun token => (tokens.take i).all fun other => other.lexeme != token.lexeme

/-- The lexeme at the last place with a property. -/
def lastLexeme (tokens : List Token) (p : Nat → Bool) : Option String :=
  (lastBelow tokens.length p).bind (lexemeAt tokens)

variable {tokens : List Token} {name : String} {i : Nat}

theorem namingAt_of_firstNamingAt (h : firstNamingAt tokens i = true) :
    namingAt tokens i = true :=
  (Bool.and_eq_true _ _ ▸ h).1

theorem exists_of_namingAt (h : namingAt tokens i = true) :
    ∃ token, tokens[i]? = some token ∧ token.kind = .identifier := by
  rw [namingAt, Bool.and_eq_true, Option.any_eq_true (x := tokens[i]?)] at h
  obtain ⟨-, token, htoken, hkind⟩ := h
  exact ⟨token, htoken, beq_iff_eq.mp hkind⟩

theorem lexemeAt_eq_some_iff :
    lexemeAt tokens i = some name ↔ ∃ token, tokens[i]? = some token ∧ token.lexeme = name :=
  Option.map_eq_some_iff

theorem exists_of_namingAt_lexemeAt (h : namingAt tokens i = true)
    (hlexeme : lexemeAt tokens i = some name) :
    ∃ token, tokens[i]? = some token ∧ token.kind = .identifier ∧ token.lexeme = name := by
  obtain ⟨token, htoken, hkind⟩ := exists_of_namingAt h
  obtain ⟨other, hother, hname⟩ := lexemeAt_eq_some_iff.mp hlexeme
  obtain rfl := Option.some.inj (htoken.symm.trans hother)
  exact ⟨token, htoken, hkind, hname⟩

theorem lt_length_of_namingAt (h : namingAt tokens i = true) : i < tokens.length := by
  obtain ⟨token, htoken, -⟩ := exists_of_namingAt h
  exact (List.getElem?_eq_some_iff.mp htoken).1

/-- The reading from the keyword on and the reading from the name back are the same pattern. -/
theorem namingAt_succ (h : i < tokens.length) : namingAt tokens (i + 1) = someClassAt tokens i := by
  rw [namingAt, someClassAt, getLast?_take_succ h]

theorem lastBelow_namingAt {n : Nat} (h : n ≤ tokens.length) :
    lastBelow (n + 1) (namingAt tokens) = (lastBelow n (someClassAt tokens)).map (· + 1) := by
  induction n with
  | zero => rfl
  | succ n ih =>
    rw [lastBelow_succ, ih (Nat.le_of_succ_le h), namingAt_succ h, lastBelow_succ]
    split
    · rfl
    · rfl

/-- The class that the refinement met last. -/
theorem lastClass_eq_lastLexeme (tokens : List Token) :
    lastClass tokens tokens.length = lastLexeme tokens (namingAt tokens) := by
  have hend : namingAt tokens tokens.length = false := by
    rw [namingAt, List.getElem?_eq_none (Nat.le_refl _), Option.any_none, Bool.and_false]
  have hshift := lastBelow_namingAt (Nat.le_refl tokens.length)
  rw [lastBelow_succ, hend, if_neg Bool.false_ne_true] at hshift
  rw [lastClass, lastLexeme, hshift, Option.bind_map]
  rfl

theorem lastLexeme_eq_some {p : Nat → Bool} (h : lastLexeme tokens p = some name) :
    ∃ i, p i = true ∧ lexemeAt tokens i = some name := by
  obtain ⟨i, hlast, hlexeme⟩ := Option.bind_eq_some_iff.mp h
  exact ⟨i, (lastBelow_eq_some hlast).2, hlexeme⟩

theorem lastLexeme_eq_none_iff {p : Nat → Bool} (hp : ∀ i, p i = true → i < tokens.length) :
    lastLexeme tokens p = none ↔ ∀ i, p i = false := by
  unfold lastLexeme
  cases hlast : lastBelow tokens.length p with
  | none =>
    refine iff_of_true rfl fun i => ?_
    by_contra hi
    rw [Bool.not_eq_false] at hi
    rw [lastBelow_eq_none_iff.mp hlast i (hp i hi)] at hi
    cases hi
  | some j =>
    obtain ⟨hlt, hj⟩ := lastBelow_eq_some hlast
    refine iff_of_false ?_ fun hnone => ?_
    · rw [Option.bind_some, lexemeAt, List.getElem?_eq_getElem hlt]
      exact Option.some_ne_none _
    · rw [hnone j] at hj
      cases hj

/-! ## Names behind the keyword -/

/-- Some occurrence of the name stands right behind the keyword. -/
theorem any_classAt_iff :
    (List.range tokens.length).any (classAt tokens name) = true ↔
      ∃ i, namingAt tokens i = true ∧ lexemeAt tokens i = some name := by
  constructor
  · intro h
    obtain ⟨j, hj, hclass⟩ := List.any_eq_true.mp h
    refine ⟨j + 1, ?_, ?_⟩
    · rw [namingAt_succ (List.mem_range.mp hj)]
      exact someClassAt_of_classAt hclass
    · rw [classAt, Bool.and_eq_true, Option.any_eq_true (x := tokens[j + 1]?)] at hclass
      obtain ⟨-, token, htoken, hnamed⟩ := hclass
      exact lexemeAt_eq_some_iff.mpr ⟨token, htoken, (Token.isNamed_iff.mp hnamed).2⟩
  · rintro ⟨i, hnaming, hlexeme⟩
    obtain ⟨token, htoken, hkind, hname⟩ := exists_of_namingAt_lexemeAt hnaming hlexeme
    rw [namingAt, Bool.and_eq_true] at hnaming
    exact classAt_of_occurrence
      (mem_occurrences.mpr ⟨token, htoken, Token.isNamed_iff.mpr ⟨hkind, hname⟩⟩) hnaming.1

/-- The decision list makes a class of such names and of no others. -/
theorem roleIn_eq_classType_iff :
    (roleIn tokens name).1 = .classType ↔
      ∃ i, namingAt tokens i = true ∧ lexemeAt tokens i = some name := by
  rw [← any_classAt_iff]
  unfold roleIn
  by_cases hclass : (List.range tokens.length).any (classAt tokens name) = true
  · rw [if_pos hclass]
    exact iff_of_true rfl hclass
  · rw [if_neg hclass]
    refine iff_of_false ?_ hclass
    split
    · exact Role.noConfusion
    split
    · exact Role.noConfusion
    split
    · dsimp only
      split
      · exact Role.noConfusion
      · exact Role.noConfusion
    · dsimp only
      split
      · exact Role.noConfusion
      · exact Role.noConfusion

/-- Nor does a class get a type from it. -/
theorem roleIn_snd_eq_none (h : (roleIn tokens name).1 = .classType) :
    (roleIn tokens name).2 = none := by
  rw [roleIn_eq_classType_iff, ← any_classAt_iff] at h
  rw [roleIn, if_pos h]

theorem newClassAt_iff :
    newClassAt tokens i = true ↔
      (tokens.take i).getLast?.any Token.isClassWord = true ∧
        ∃ token, tokens[i]? = some token ∧ token.kind = .identifier ∧
          token.lexeme ∉ identifiers (tokens.take i) := by
  rw [newClassAt, Bool.and_eq_true, Option.any_eq_true (x := tokens[i]?)]
  simp

theorem firstNamingAt_iff :
    firstNamingAt tokens i = true ↔
      (tokens.take i).getLast?.any Token.isClassWord = true ∧
        ∃ token, tokens[i]? = some token ∧ token.kind = .identifier ∧
          ∀ other ∈ tokens.take i, other.lexeme ≠ token.lexeme := by
  rw [firstNamingAt, namingAt]
  cases tokens[i]? with
  | none => simp
  | some token => simp [and_assoc]

/-- A class is new where the first occurrence of its name stands right behind the keyword. -/
theorem newClassAt_and_lexemeAt_iff :
    newClassAt tokens i = true ∧ lexemeAt tokens i = some name ↔
      (occurrences tokens name).head? = some i ∧
        (tokens.take i).getLast?.any Token.isClassWord = true := by
  rw [newClassAt_iff, lexemeAt_eq_some_iff, head?_occurrences_eq_some_iff, mem_occurrences]
  constructor
  · rintro ⟨⟨hafter, token, htoken, hkind, hnew⟩, other, hother, rfl⟩
    obtain rfl := Option.some.inj (htoken.symm.trans hother)
    exact ⟨⟨⟨token, htoken, Token.isNamed_iff.mpr ⟨hkind, rfl⟩⟩, hnew⟩, hafter⟩
  · rintro ⟨⟨⟨token, htoken, hnamed⟩, hnew⟩, hafter⟩
    obtain ⟨hkind, rfl⟩ := Token.isNamed_iff.mp hnamed
    exact ⟨⟨hafter, token, htoken, hkind, hnew⟩, token, htoken, rfl⟩

/-- What is new to a scan is new to the token list, since no token but an identifier has the lexeme
of one. -/
theorem firstNamingAt_eq_newClassAt (h : ∀ token ∈ tokens, token.LexemeTells) :
    firstNamingAt tokens = newClassAt tokens := by
  funext i
  rw [Bool.eq_iff_iff, firstNamingAt_iff, newClassAt_iff]
  refine and_congr_right fun _ => exists_congr fun token => and_congr_right fun htoken =>
    and_congr_right fun hkind => ?_
  rw [mem_identifiers_iff]
  constructor
  · rintro hother ⟨other, hmem, -, hlexeme⟩
    exact hother other hmem hlexeme
  · intro hnew other hmem hlexeme
    refine hnew ⟨other, hmem, ?_, hlexeme⟩
    have hname : (token.kind == .identifier) = Lexicon.isName token.lexeme :=
      h token (List.mem_of_getElem? htoken)
    have hother : (other.kind == .identifier) = Lexicon.isName other.lexeme :=
      h other (List.mem_of_mem_take hmem)
    rw [hkind, ← hlexeme, ← hother] at hname
    exact beq_iff_eq.mp hname.symm

/-- The refinement meets a name at each of the places, so what the scan met never counts. -/
theorem classNameIn_eq_lastLexeme (h : ∀ token ∈ tokens, token.LexemeTells) :
    classNameIn tokens = lastLexeme tokens (namingAt tokens) := by
  unfold classNameIn
  rw [lastClass_eq_lastLexeme]
  split
  next hnone =>
    have hnaming := (lastLexeme_eq_none_iff fun i => lt_length_of_namingAt).mp hnone
    rw [hnone]
    show lastLexeme tokens (newClassAt tokens) = none
    rw [← firstNamingAt_eq_newClassAt h, lastLexeme_eq_none_iff fun i hi =>
      lt_length_of_namingAt (namingAt_of_firstNamingAt hi)]
    intro i
    rw [firstNamingAt, hnaming i, Bool.false_and]
  next hempty =>
    -- no identifier is empty
    obtain ⟨i, hi, hlexeme⟩ := lastLexeme_eq_some hempty
    obtain ⟨token, htoken, hkind, hname⟩ := exists_of_namingAt_lexemeAt hi hlexeme
    have hisName : (token.kind == .identifier) = Lexicon.isName token.lexeme :=
      h token (List.mem_of_getElem? htoken)
    rw [hkind] at hisName
    exact absurd hname (Lexicon.ne_empty_of_isName hisName.symm)
  next hname => exact hname.symm

theorem mem_identifiers_of_namingAt (h : namingAt tokens i = true)
    (hlexeme : lexemeAt tokens i = some name) : name ∈ identifiers tokens := by
  obtain ⟨token, htoken, hkind, hname⟩ := exists_of_namingAt_lexemeAt h hlexeme
  exact mem_identifiers_iff.mpr ⟨token, List.mem_of_getElem? htoken, hkind, hname⟩

end Pattern

namespace Trail

open Pattern Sighting

/-- The sightings of a name make a class of it if its first occurrence is right behind the
keyword. -/
theorem firstRole_eq_classType_iff {trail : Trail} {name : String}
    (hoccurs : name ∈ identifiers trail.tokens) :
    firstRole (own name trail.sightings) = .classType ↔
      ∃ i, newClassAt trail.tokens i = true ∧ lexemeAt trail.tokens i = some name := by
  obtain ⟨i, token, next, hhead, -, hguess⟩ := firstRole_eq_guess hoccurs
  rw [hguess, fst_guess_eq_classType_iff]
  constructor
  · intro hafter
    exact ⟨i, newClassAt_and_lexemeAt_iff.mpr ⟨hhead, hafter⟩⟩
  · rintro ⟨j, hnew⟩
    obtain ⟨hhead', hafter⟩ := newClassAt_and_lexemeAt_iff.mp hnew
    obtain rfl := Option.some.inj (hhead.symm.trans hhead')
    exact hafter

end Trail

/-! ## The class name of a census and its classes -/

namespace Census

open Pattern

/-- The class that a census reports and the classes in its table go by the places that `names` picks
from the tokens. -/
structure NamesClasses (census : Census) (names : List Token → Nat → Bool) : Prop where
  className : census.className = lastLexeme census.tokens (names census.tokens)
  className_eq_none_iff : census.className = none ↔ ∀ i, names census.tokens i = false
  /-- The classes are the names at these places. -/
  classes : ∀ name,
    (∃ symbol ∈ census.symbols.entries, symbol.name = name ∧ symbol.role = .classType) ↔
      ∃ i, names census.tokens i = true ∧ lexemeAt census.tokens i = some name
  untyped : ∀ symbol ∈ census.symbols.entries, symbol.role = .classType →
    symbol.declaredType = none
  /-- The class reported is one of them. -/
  reported : ∀ name, census.className = some name →
    ∃ symbol, census.symbols.find? name = some symbol ∧ symbol.role = .classType

/-- It is enough to look at the entries of the identifiers. -/
theorem namesClasses_of_entries {census : Census} {names : List Token → Nat → Bool}
    {entry : String → Symbol} (hname : ∀ name, (entry name).name = name)
    (hentries : census.symbols.entries = (identifiers census.tokens).eraseDups.map entry)
    (hnaming : ∀ i, names census.tokens i = true → namingAt census.tokens i = true)
    (hrole : ∀ name ∈ identifiers census.tokens, (entry name).role = .classType ↔
      ∃ i, names census.tokens i = true ∧ lexemeAt census.tokens i = some name)
    (huntyped : ∀ name, (entry name).role = .classType → (entry name).declaredType = none)
    (hclassName : census.className = lastLexeme census.tokens (names census.tokens)) :
    census.NamesClasses names where
  className := hclassName
  className_eq_none_iff := by
    rw [hclassName]
    exact lastLexeme_eq_none_iff fun i hi => lt_length_of_namingAt (hnaming i hi)
  classes := by
    intro name
    rw [hentries]
    constructor
    · rintro ⟨symbol, hmem, rfl, hclass⟩
      obtain ⟨name, hkey, rfl⟩ := List.mem_map.mp hmem
      rw [hname]
      exact (hrole name (List.mem_eraseDups.mp hkey)).mp hclass
    · rintro ⟨i, hi, hlexeme⟩
      have hkey := mem_identifiers_of_namingAt (hnaming i hi) hlexeme
      exact ⟨entry name, List.mem_map.mpr ⟨name, List.mem_eraseDups.mpr hkey, rfl⟩, hname name,
        (hrole name hkey).mpr ⟨i, hi, hlexeme⟩⟩
  untyped := by
    intro symbol hmem hclass
    rw [hentries] at hmem
    obtain ⟨name, -, rfl⟩ := List.mem_map.mp hmem
    exact huntyped name hclass
  reported := by
    intro name hreported
    rw [hclassName] at hreported
    obtain ⟨i, hi, hlexeme⟩ := lastLexeme_eq_some hreported
    have hkey := mem_identifiers_of_namingAt (hnaming i hi) hlexeme
    have htable : census.symbols = ⟨_⟩ := congrArg SymbolTable.mk hentries
    rw [htable, SymbolTable.find?_map hname, if_pos (List.mem_eraseDups.mpr hkey)]
    exact ⟨_, rfl, (hrole name hkey).mpr ⟨i, hi, hlexeme⟩⟩

theorem lexemeTells_tokens (text : String) :
    ∀ token ∈ Places.tokens (reading text), token.LexemeTells := by
  intro token hmem
  obtain ⟨place, hplace, htoken⟩ := List.mem_filterMap.mp hmem
  exact Piece.lexemeTells_token? (fit_reading text hplace) htoken

/-- **The class name of a text and its classes.** A refined census goes by all identifiers right
behind the keyword `class`, and its class name is always that of the refinement. Without refinement
it goes by those identifiers that are the first token with their lexeme. -/
theorem namesClasses_ofText (text : String) :
    (ofText text true).NamesClasses namingAt ∧
      (ofText text true).className =
        (({ symbols := (ofText text false).symbols } : Refinement).refine
          (ofText text false).tokens).className ∧
      (ofText text false).NamesClasses firstNamingAt := by
  have htells := lexemeTells_tokens text
  have hclassName : (ofText text true).className =
      lastLexeme (ofText text true).tokens (namingAt (ofText text true).tokens) := by
    rw [className_ofText_true, tokens_ofText, classNameIn_eq_lastLexeme htells]
  refine ⟨?_, ?_, ?_⟩
  · exact namesClasses_of_entries (fun _ => rfl) (entries_ofText_true text) (fun _ hi => hi)
      (fun _ _ => roleIn_eq_classType_iff) (fun _ => roleIn_snd_eq_none) hclassName
  · rw [hclassName, (ofText_false text).2.1, tokens_ofText, tokens_ofText, refine_sighted,
      lastClass_eq_lastLexeme]
  · obtain ⟨htokens, hsymbols, -, hscanned⟩ := ofText_false text
    have htrail := Places.tokens_trail (reading text)
    have hnew := firstNamingAt_eq_newClassAt htells
    have hname : ∀ name, (Sighting.summary name
        (Sighting.own name (Places.trail (reading text)).sightings)).name = name := fun _ => rfl
    refine namesClasses_of_entries hname ?_ (fun _ => namingAt_of_firstNamingAt)
      (fun name hoccurs => ?_) (fun name hclass => ?_) ?_
    · rw [hsymbols, sighted, SymbolTable.entries_sightAll, Trail.map_name_sightings, htrail,
        htokens]
    · rw [htokens, ← htrail] at hoccurs ⊢
      rw [htrail, hnew, ← htrail]
      exact Trail.firstRole_eq_classType_iff hoccurs
    · exact if_pos hclass
    · rw [hscanned, htokens, hnew]
      rfl

/-- A name that was met before is no class to a scan. -/
example :
    (ofText "int A; class B class A" true).className = some "A" ∧
      (ofText "int A; class B class A" false).className = some "B" := by
  decide +kernel

end Census

end SymbolCensus
