import SymbolCensus.Proofs.Roles

/-!
# Positions decide nothing

Two token lists that differ in their positions alone say the same about every name. This is proved
by forgetting the positions of one list: a pattern that looks at kinds and lexemes does not notice
(`Token.bare`), so neither does anything that is said by patterns.

- `Token.face`: what is left of a token without its position.
- `Pattern.roleIn_bare`, `Pattern.classNameIn_bare`: the decisions about names and about the class
  of a text.
- `Census.eq_but_positions`: a refined census but for positions is a function of the faces of its
  tokens.
-/

namespace SymbolCensus

namespace Token

/-- What a token is, wherever it stands. -/
def face (token : Token) : TokenKind × String × Option String :=
  (token.kind, token.lexeme, token.valueType)

/-- A token of some face, without a position. -/
def ofFace (face : TokenKind × String × Option String) : Token where
  kind := face.1
  lexeme := face.2.1
  position := default
  valueType := face.2.2

/-- The token without its position. -/
def bare (token : Token) : Token :=
  ofFace token.face

end Token

/-- The symbol without its position. -/
def Symbol.unplaced (symbol : Symbol) : String × Role × Option String × Int :=
  (symbol.name, symbol.role, symbol.declaredType, symbol.sightings)

namespace Pattern

section Bare

variable (tokens : List Token)

/-- A test that does not look at the position gives the same at every place. -/
theorem any_getElem?_bare {p : Token → Bool} (hp : ∀ token, p token.bare = p token) (i : Nat) :
    (tokens.map Token.bare)[i]?.any p = tokens[i]?.any p := by
  rw [List.getElem?_map]
  cases tokens[i]? with
  | none => rfl
  | some token => exact hp token

theorem classAt_bare (name : String) :
    classAt (tokens.map Token.bare) name = classAt tokens name := by
  funext j
  unfold classAt
  rw [any_getElem?_bare _ fun _ => rfl, any_getElem?_bare _ fun _ => rfl]

theorem someClassAt_bare : someClassAt (tokens.map Token.bare) = someClassAt tokens := by
  funext j
  unfold someClassAt
  rw [any_getElem?_bare _ fun _ => rfl, any_getElem?_bare _ fun _ => rfl]

theorem declarationAt_bare {isType follows : Token → Bool}
    (hisType : ∀ token, isType token.bare = isType token)
    (hfollows : ∀ token, follows token.bare = follows token) (name : String) :
    declarationAt isType follows (tokens.map Token.bare) name =
      declarationAt isType follows tokens name := by
  funext j
  unfold declarationAt
  rw [any_getElem?_bare _ hisType, any_getElem?_bare _ fun _ => rfl, any_getElem?_bare _ hfollows]

theorem lexemeAt_bare (j : Nat) : lexemeAt (tokens.map Token.bare) j = lexemeAt tokens j := by
  unfold lexemeAt
  rw [List.getElem?_map]
  cases tokens[j]? with
  | none => rfl
  | some token => rfl

theorem memberAt_bare (j : Nat) : memberAt (tokens.map Token.bare) j = memberAt tokens j := by
  unfold memberAt
  rw [← List.map_take, ← List.map_drop, List.any_map]
  rfl

theorem occurrences_bare (name : String) :
    occurrences (tokens.map Token.bare) name = occurrences tokens name := by
  unfold occurrences
  rw [List.length_map]
  exact List.filter_congr fun i _ => any_getElem?_bare tokens (fun _ => rfl) i

theorem identifiers_bare : identifiers (tokens.map Token.bare) = identifiers tokens := by
  unfold identifiers
  rw [List.filter_map, List.map_map]
  rfl

theorem typeBefore_bare : typeBefore (tokens.map Token.bare) = typeBefore tokens := by
  funext i
  unfold typeBefore
  rw [← List.map_take, List.getLast?_map]
  cases (tokens.take i).getLast? with
  | none => rfl
  | some token =>
    by_cases hword : token.isTypeWord = true
    · have hbare : token.bare.isTypeWord = true := hword
      have hlexeme : token.bare.lexeme = token.lexeme := rfl
      simp [Option.filter, hword, hbare, hlexeme]
    · have hbare : ¬ token.bare.isTypeWord = true := hword
      simp [Option.filter, hword, hbare]

theorem listOpenBefore_bare : listOpenBefore (tokens.map Token.bare) = listOpenBefore tokens := by
  funext i
  unfold listOpenBefore
  rw [← List.map_take, List.filter_map, List.getLast?_map]
  show Option.any _ (Option.map _ ((tokens.take i).filter Token.isParenthesis).getLast?) = _
  cases ((tokens.take i).filter Token.isParenthesis).getLast? with
  | none => rfl
  | some token => rfl

theorem newClassAt_bare : newClassAt (tokens.map Token.bare) = newClassAt tokens := by
  funext i
  unfold newClassAt
  rw [← List.map_take, List.getLast?_map, identifiers_bare, any_getElem?_bare _ fun _ => rfl]
  cases (tokens.take i).getLast? with
  | none => rfl
  | some token => rfl

/-- **The role and the type of a name do not depend on positions.** -/
theorem roleIn_bare (name : String) : roleIn (tokens.map Token.bare) name = roleIn tokens name := by
  have hmethodAt : methodAt Token.isTypeWord (tokens.map Token.bare) name =
      methodAt Token.isTypeWord tokens name :=
    declarationAt_bare tokens (fun _ => rfl) (fun _ => rfl) name
  have hplainAt : plainAt Token.isTypeWord (tokens.map Token.bare) name =
      plainAt Token.isTypeWord tokens name :=
    declarationAt_bare tokens (fun _ => rfl) (fun _ => rfl) name
  have hfirst : typeOfFirst (tokens.map Token.bare) name = typeOfFirst tokens name := by
    rw [typeOfFirst, typeOfFirst, occurrences_bare, typeBefore_bare]
  have hlist : firstInList (tokens.map Token.bare) name = firstInList tokens name := by
    rw [firstInList, firstInList, occurrences_bare, listOpenBefore_bare]
  unfold roleIn
  rw [List.length_map, classAt_bare, hmethodAt, hplainAt, hfirst, hlist, occurrences_bare,
    typeBefore_bare]
  simp only [lexemeAt_bare, memberAt_bare]

/-- Of an entry only the position depends on positions. -/
theorem unplaced_entryIn_bare (name : String) :
    (entryIn (tokens.map Token.bare) name).unplaced = (entryIn tokens name).unplaced := by
  unfold Symbol.unplaced entryIn
  dsimp only
  rw [roleIn_bare, occurrences_bare]

end Bare

/-- The class that a text seems to be about, as its tokens say: the last name behind the keyword
`class`. A scan takes a name only where it is new, so that name comes second. -/
def classNameIn (tokens : List Token) : Option String :=
  match lastClass tokens tokens.length with
  | none | some "" => (Context.behind tokens).className
  | some name => some name

theorem classNameIn_bare (tokens : List Token) :
    classNameIn (tokens.map Token.bare) = classNameIn tokens := by
  have hlast : lastClass (tokens.map Token.bare) (tokens.map Token.bare).length =
      lastClass tokens tokens.length := by
    unfold lastClass
    rw [List.length_map, someClassAt_bare, funext fun j => lexemeAt_bare tokens (j + 1)]
  have hbehind : (Context.behind (tokens.map Token.bare)).className =
      (Context.behind tokens).className := by
    unfold Context.behind
    dsimp only
    rw [List.length_map, newClassAt_bare, funext (lexemeAt_bare tokens)]
  unfold classNameIn
  rw [hlast, hbehind]

end Pattern

namespace Census

open Pattern

/-- The class name of a refined census. -/
theorem className_ofText_true (text : String) :
    (ofText text true).className = classNameIn (ofText text true).tokens := by
  have hrefined : (ofText text true).className =
      match (({ symbols := (ofText text false).symbols } : Refinement).refine
        (ofText text false).tokens).className with
      | none | some "" => (ofText text false).className
      | some name => some name := rfl
  rw [hrefined, (ofText_false text).2.1, tokens_ofText, refine_sighted, (ofText_false text).2.2.2,
    tokens_ofText]
  rfl

/-- **Two texts whose tokens look alike have the same class and the same symbols**, but for the
positions. -/
theorem eq_but_positions {text other : String}
    (h : (ofText text true).tokens.map Token.face = (ofText other true).tokens.map Token.face) :
    (ofText text true).className = (ofText other true).className ∧
      (ofText text true).symbols.entries.map Symbol.unplaced =
        (ofText other true).symbols.entries.map Symbol.unplaced := by
  have hbare : (ofText text true).tokens.map Token.bare =
      (ofText other true).tokens.map Token.bare := by
    have hmap := congrArg (List.map Token.ofFace) h
    rw [List.map_map, List.map_map] at hmap
    exact hmap
  -- the symbols but for their positions are read off the bare tokens
  have hunplaced : ∀ text : String, (ofText text true).symbols.entries.map Symbol.unplaced =
      (identifiers ((ofText text true).tokens.map Token.bare)).eraseDups.map fun name =>
        (entryIn ((ofText text true).tokens.map Token.bare) name).unplaced := by
    intro text
    rw [entries_ofText_true, identifiers_bare, List.map_map]
    exact List.map_congr_left fun name _ => (unplaced_entryIn_bare _ name).symm
  constructor
  · rw [className_ofText_true, className_ofText_true, ← classNameIn_bare, hbare, classNameIn_bare]
  · rw [hunplaced, hunplaced, hbare]

end Census

end SymbolCensus
