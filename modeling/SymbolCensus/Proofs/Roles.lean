import SymbolCensus.Proofs.Reading
import SymbolCensus.Proofs.Verdict

/-!
# The role of a name in a text

A scan guesses the role of a name when it first meets it, may add a type at a later meeting, and the
refinement overrules both by patterns of the whole token list. Put together, the role and the type
that a name ends up with are one decision list over the tokens (`Pattern.roleIn`): no flag, no order
of updates and no character of the text is left in it.

- `Pattern.occurrences`: the places at which a name stands; the first of them decides most of the
  guess, and `Trail.own_sightings` says that they are all that the table has seen of the name.
- `Trail.OpensFollow`: the one character of lookahead that the guess uses agrees with the next
  token, so that a guessed method is also a method pattern.
- `Census.entries_ofText_true`: the symbols of a refined census, one for each name.
-/

namespace SymbolCensus

namespace Pattern

/-! ## The decision list -/

/-- The places at which a name stands. -/
def occurrences (tokens : List Token) (name : String) : List Nat :=
  (List.range tokens.length).filter fun i => tokens[i]?.any (Token.isNamed name)

/-- The type word right before a place, if one stands there. -/
def typeBefore (tokens : List Token) (i : Nat) : Option String :=
  ((tokens.take i).getLast?.filter Token.isTypeWord).map (·.lexeme)

/-- The last parenthesis before a place is there and is an opening one. -/
def listOpenBefore (tokens : List Token) (i : Nat) : Bool :=
  ((tokens.take i).filter Token.isParenthesis).getLast?.any (·.lexeme == "(")

/-- The type word right before the first occurrence of a name. -/
def typeOfFirst (tokens : List Token) (name : String) : Option String :=
  (occurrences tokens name).head?.bind (typeBefore tokens)

/-- The last parenthesis before the first occurrence of a name is an opening one. -/
def firstInList (tokens : List Token) (name : String) : Bool :=
  (occurrences tokens name).head?.any (listOpenBefore tokens)

/-- The role and the declared type of a name, as the tokens of a text decide them. -/
def roleIn (tokens : List Token) (name : String) : Role × Option String :=
  if (List.range tokens.length).any (classAt tokens name) then (.classType, none)
  else
    match lastBelow tokens.length (methodAt Token.isTypeWord tokens name) with
    | some j => (.method, lexemeAt tokens j)
    | none =>
      if (typeOfFirst tokens name).isSome ∧ firstInList tokens name then
        (.parameter, typeOfFirst tokens name)
      else
        match lastBelow tokens.length (plainAt Token.isTypeWord tokens name) with
        | some j => (if memberAt tokens j then .field else .localVariable, lexemeAt tokens j)
        | none =>
          (if (typeOfFirst tokens name).isSome then .field else .unknown,
            (occurrences tokens name).findSome? (typeBefore tokens))

/-- The entry of a name, as the tokens of a text give it. -/
def entryIn (tokens : List Token) (name : String) : Symbol where
  name
  role := (roleIn tokens name).1
  declaredType := (roleIn tokens name).2
  first := ((occurrences tokens name).head?.bind fun i => tokens[i]?.map (·.position)).getD default
  sightings := (occurrences tokens name).length

/-! ## Occurrences -/

theorem mem_occurrences {tokens : List Token} {name : String} {i : Nat} :
    i ∈ occurrences tokens name ↔ ∃ token, tokens[i]? = some token ∧ token.isNamed name = true := by
  unfold occurrences
  rw [List.mem_filter, List.mem_range, Option.any_eq_true]
  constructor
  · exact fun h => h.2
  · rintro ⟨token, htoken, hnamed⟩
    exact ⟨(List.getElem?_eq_some_iff.mp htoken).1, token, htoken, hnamed⟩

theorem occurrences_ne_nil {tokens : List Token} {name : String}
    (h : name ∈ identifiers tokens) : occurrences tokens name ≠ [] := by
  obtain ⟨token, hmem, hnamed⟩ := mem_identifiers_iff.mp h
  obtain ⟨i, hi⟩ := List.mem_iff_getElem?.mp hmem
  have hat : i ∈ occurrences tokens name :=
    mem_occurrences.mpr ⟨token, hi, Token.isNamed_iff.mpr hnamed⟩
  exact List.ne_nil_of_mem hat

theorem exists_first_occurrence {tokens : List Token} {name : String}
    (h : name ∈ identifiers tokens) : ∃ i, (occurrences tokens name).head? = some i := by
  obtain ⟨i, rest, hrest⟩ := List.exists_cons_of_ne_nil (occurrences_ne_nil h)
  exact ⟨i, by rw [hrest, List.head?_cons]⟩

/-- A name occurs first where it occurs and is none of the identifiers before. -/
theorem head?_occurrences_eq_some_iff {tokens : List Token} {name : String} {i : Nat} :
    (occurrences tokens name).head? = some i ↔
      i ∈ occurrences tokens name ∧ name ∉ identifiers (tokens.take i) := by
  have hbefore : (∀ j < i, (!tokens[j]?.any (Token.isNamed name)) = true) ↔
      name ∉ identifiers (tokens.take i) := by
    rw [mem_identifiers_iff]
    constructor
    · rintro h ⟨token, hmem, hnamed⟩
      obtain ⟨j, hj⟩ := List.mem_iff_getElem?.mp hmem
      rw [List.getElem?_take] at hj
      split at hj
      next hlt =>
        have hfalse := h j hlt
        rw [hj, Option.any_some, Token.isNamed_iff.mpr hnamed] at hfalse
        cases hfalse
      next => cases hj
    · intro h j hlt
      rw [Bool.not_eq_true', Bool.eq_false_iff]
      intro hany
      rw [Option.any_eq_true] at hany
      obtain ⟨token, htoken, hnamed⟩ := hany
      refine h ⟨token, List.mem_iff_getElem?.mpr ⟨j, ?_⟩, Token.isNamed_iff.mp hnamed⟩
      rw [List.getElem?_take, if_pos hlt, htoken]
  rw [occurrences, List.head?_filter, List.find?_range_eq_some, hbefore, List.mem_filter,
    and_assoc, and_left_comm]

/-- The token before a place is the last one of those before it. -/
theorem getLast?_take_succ {tokens : List Token} {j : Nat} (h : j < tokens.length) :
    (tokens.take (j + 1)).getLast? = tokens[j]? := by
  rw [List.getLast?_take, if_neg (Nat.succ_ne_zero j), Nat.add_sub_cancel,
    List.getElem?_eq_getElem h]
  rfl

/-- The last token before a place inside a list stands one place below it. -/
theorem exists_before {tokens : List Token} {i : Nat} {token : Token} (hi : i < tokens.length)
    (h : (tokens.take i).getLast? = some token) : ∃ j, i = j + 1 ∧ tokens[j]? = some token := by
  obtain _ | j := i
  · simp at h
  · rw [getLast?_take_succ (Nat.lt_of_succ_lt hi)] at h
    exact ⟨j, rfl, h⟩

/-- A name that stands right behind the keyword `class` makes a class pattern. -/
theorem classAt_of_occurrence {tokens : List Token} {name : String} {i : Nat}
    (hat : i ∈ occurrences tokens name)
    (hafter : (tokens.take i).getLast?.any Token.isClassWord = true) :
    (List.range tokens.length).any (classAt tokens name) = true := by
  obtain ⟨token, htoken, hnamed⟩ := mem_occurrences.mp hat
  have hi := (List.getElem?_eq_some_iff.mp htoken).1
  rw [Option.any_eq_true] at hafter
  obtain ⟨word, hword, hclass⟩ := hafter
  obtain ⟨j, rfl, hbefore⟩ := exists_before hi hword
  rw [List.any_eq_true]
  refine ⟨j, List.mem_range.mpr (Nat.lt_of_succ_lt hi), ?_⟩
  rw [classAt, hbefore, htoken, Option.any_some, Option.any_some, hclass, hnamed]
  rfl

/-- A name that stands between a type word and an opening parenthesis makes a method pattern. -/
theorem lastBelow_methodAt_ne_none {tokens : List Token} {name : String} {i : Nat}
    (hat : i ∈ occurrences tokens name) (htype : typeBefore tokens i ≠ none)
    (hopens : tokens[i + 1]?.any Token.opensList = true) :
    lastBelow tokens.length (methodAt Token.isTypeWord tokens name) ≠ none := by
  obtain ⟨token, htoken, hnamed⟩ := mem_occurrences.mp hat
  have hi := (List.getElem?_eq_some_iff.mp htoken).1
  obtain ⟨word, hword⟩ : ∃ word, (tokens.take i).getLast?.filter Token.isTypeWord = some word := by
    rw [typeBefore, Ne, Option.map_eq_none_iff] at htype
    exact Option.ne_none_iff_exists'.mp htype
  rw [Option.filter_eq_some_iff] at hword
  obtain ⟨j, rfl, hbefore⟩ := exists_before hi hword.1
  intro hnone
  have hfalse := lastBelow_eq_none_iff.mp hnone j (Nat.lt_of_succ_lt hi)
  rw [methodAt, declarationAt, hbefore, htoken, Option.any_some, Option.any_some, hword.2,
    hnamed, hopens] at hfalse
  cases hfalse

/-- Only the tokens of the list matter to a declaration pattern. -/
theorem declarationAt_congr {isType isType' : Token → Bool} {tokens : List Token}
    (h : ∀ token ∈ tokens, isType token = isType' token) (follows : Token → Bool) (name : String) :
    declarationAt isType follows tokens name = declarationAt isType' follows tokens name := by
  funext j
  unfold declarationAt
  congr 2
  cases htoken : tokens[j]? with
  | none => rfl
  | some token => exact h token (List.mem_of_getElem? htoken)

end Pattern

/-! ## The tokens of a text -/

namespace Token

/-- The reserved words that start with an uppercase character are type words. -/
theorem mayNameType_eq_isTypeWord {token : Token} (h : token.Lexical) :
    token.mayNameType = token.isTypeWord := by
  by_cases hkind : token.kind = .keyword
  · have hwords : ∀ lexeme ∈ Lexicon.keywords,
        (Lexicon.typeWords.contains lexeme ||
          !lexeme.toList.head?.any Unicode.isLowercase) = Lexicon.typeWords.contains lexeme := by
      decide
    rw [mayNameType, hwords _ (h.keyword hkind), hkind, isTypeWord, isA, hkind]
    rfl
  · rw [isTypeWord, isA_of_kind_ne hkind, mayNameType, beq_false_of_ne hkind, Bool.false_and]

/-- No reserved word is empty. -/
theorem Lexical.canBeJudged {token : Token} (h : token.Lexical) : token.canBeJudged = true := by
  rw [canBeJudged_iff]
  intro hkind hempty
  have hmem := h.keyword hkind
  rw [hempty] at hmem
  revert hmem
  decide

end Token

/-! ## What the table has seen of a name -/

namespace Trail

open Pattern Sighting

theorem length_tokens (trail : Trail) : trail.tokens.length = trail.length :=
  List.length_map _

/-- Where a name occurs there is a sighting of it. -/
theorem sightingAt_of_occurrence {trail : Trail} {name : String} {i : Nat}
    (h : i ∈ occurrences trail.tokens name) :
    ∃ token next, trail[i]? = some (token, next) ∧ token.isNamed name = true ∧
      trail.sightingAt i = some { token, context := Context.behind (trail.tokens.take i), next } := by
  obtain ⟨token, htoken, hnamed⟩ := mem_occurrences.mp h
  rw [tokens, List.getElem?_map, Option.map_eq_some_iff] at htoken
  obtain ⟨⟨token, next⟩, hentry, rfl⟩ := htoken
  refine ⟨token, next, hentry, hnamed, ?_⟩
  unfold sightingAt
  rw [hentry]
  show (if token.kind = .identifier then _ else _) = _
  rw [if_pos (Token.isNamed_iff.mp hnamed).1]

/-- The sightings of a name are those at the places where it occurs. -/
theorem own_sightings (trail : Trail) (name : String) :
    own name trail.sightings = (occurrences trail.tokens name).filterMap trail.sightingAt := by
  unfold own sightings occurrences
  rw [List.filter_filterMap, List.filterMap_filter, length_tokens]
  refine List.filterMap_congr fun i _ => ?_
  rw [tokens, List.getElem?_map]
  unfold sightingAt
  cases trail[i]? with
  | none => rfl
  | some entry =>
    obtain ⟨token, next⟩ := entry
    -- the name of a sighting is the lexeme of an identifier, as for an occurrence
    show Option.filter _ (if token.kind = .identifier then _ else _) =
      if token.isNamed name = true then (if token.kind = .identifier then _ else _) else none
    by_cases hkind : token.kind = .identifier
    · by_cases hlexeme : token.lexeme = name
      · simp [hkind, hlexeme, Token.isNamed_iff, Sighting.name]
      · simp [hkind, hlexeme, Token.isNamed_iff, Sighting.name]
    · simp [hkind, Token.isNamed_iff]

theorem length_own (trail : Trail) (name : String) :
    (own name trail.sightings).length = (occurrences trail.tokens name).length := by
  rw [own_sightings, List.length_filterMap_eq_countP, List.countP_eq_length]
  intro i hi
  obtain ⟨token, next, -, -, hat⟩ := sightingAt_of_occurrence hi
  rw [hat]
  rfl

/-- The first type that waited for a name. -/
theorem findSome?_pendingType (trail : Trail) (name : String) :
    (own name trail.sightings).findSome? (·.context.pendingType) =
      (occurrences trail.tokens name).findSome? (typeBefore trail.tokens) := by
  rw [← List.head?_filterMap, ← List.head?_filterMap, own_sightings, List.filterMap_filterMap]
  congr 1
  refine List.filterMap_congr fun i hi => ?_
  obtain ⟨token, next, -, -, hat⟩ := sightingAt_of_occurrence hi
  rw [hat]
  rfl

/-- The first sighting of a name is the one at its first occurrence. -/
theorem head?_own {trail : Trail} {name : String} {i : Nat}
    (h : (occurrences trail.tokens name).head? = some i) :
    (own name trail.sightings).head? = trail.sightingAt i := by
  obtain ⟨rest, hrest⟩ := List.head?_eq_some_iff.mp h
  obtain ⟨token, next, -, -, hat⟩ := sightingAt_of_occurrence (h := List.mem_of_head? h)
  rw [own_sightings, hrest, List.filterMap_cons, hat]
  rfl

/-- Where a token is followed by the character `(`, the next token is that parenthesis. -/
def OpensFollow (trail : Trail) : Prop :=
  ∀ i token, trail[i]? = some (token, some '(') →
    trail.tokens[i + 1]?.any Token.opensList = true

/-- The role of a name is first guessed at its first occurrence. -/
theorem firstRole_eq_guess {trail : Trail} {name : String}
    (hoccurs : name ∈ identifiers trail.tokens) :
    ∃ i token next, (occurrences trail.tokens name).head? = some i ∧
      trail[i]? = some (token, next) ∧
      firstRole (own name trail.sightings) =
        ((Context.behind (trail.tokens.take i)).guess next).1 := by
  obtain ⟨i, hhead⟩ := exists_first_occurrence hoccurs
  obtain ⟨token, next, hentry, -, hat⟩ := sightingAt_of_occurrence (List.mem_of_head? hhead)
  refine ⟨i, token, next, hhead, hentry, ?_⟩
  rw [firstRole, head?_own hhead, hat]
  rfl

/-- A name that is not behind `class` anywhere is not so at its first occurrence. -/
theorem afterClass_behind_eq_false {tokens : List Token} {name : String} {i : Nat}
    (hclass : ¬ (List.range tokens.length).any (classAt tokens name) = true)
    (hhead : (occurrences tokens name).head? = some i) :
    (Context.behind (tokens.take i)).afterClass = false := by
  rw [Bool.eq_false_iff]
  exact fun hafter => hclass (classAt_of_occurrence (List.mem_of_head? hhead) hafter)

/-- What the guess at the first occurrence of a name comes to, where no pattern makes the name a
class or a method. -/
theorem firstRole_own {trail : Trail} {name : String} (hopens : trail.OpensFollow)
    (hoccurs : name ∈ identifiers trail.tokens)
    (hclass : ¬ (List.range trail.tokens.length).any (classAt trail.tokens name) = true)
    (hmethod : lastBelow trail.tokens.length
      (methodAt Token.isTypeWord trail.tokens name) = none) :
    firstRole (own name trail.sightings) =
      if (typeOfFirst trail.tokens name).isSome then
        if firstInList trail.tokens name then .parameter else .field
      else .unknown := by
  obtain ⟨i, token, next, hhead, hentry, hguess⟩ := firstRole_eq_guess hoccurs
  have htype : (Context.behind (trail.tokens.take i)).pendingType = typeBefore trail.tokens i := rfl
  have hlist : (Context.behind (trail.tokens.take i)).inParameters =
      listOpenBefore trail.tokens i := rfl
  have hfirst : typeOfFirst trail.tokens name = typeBefore trail.tokens i := by
    rw [typeOfFirst, hhead, Option.bind_some]
  have hinList : firstInList trail.tokens name = listOpenBefore trail.tokens i := by
    rw [firstInList, hhead, Option.any_some]
  rw [hguess, hfirst, hinList, Context.guess, afterClass_behind_eq_false hclass hhead, htype, hlist]
  cases hbefore : typeBefore trail.tokens i with
  | none => rfl
  | some type =>
    -- a parenthesis right behind the name would make a method pattern
    have hnext : next ≠ some '(' := by
      rintro rfl
      refine lastBelow_methodAt_ne_none (List.mem_of_head? hhead) ?_ (hopens i token hentry) hmethod
      rw [hbefore]
      exact Option.some_ne_none _
    rw [if_neg Bool.false_ne_true, Option.isSome_some, if_pos rfl]
    dsimp only
    rw [if_neg hnext]
    split <;> rfl

/-- **Both passes together.** The verdict on what all sightings of a name have left of it is the
decision list. -/
theorem verdict_summary {trail : Trail} {name : String}
    (hlexical : ∀ token ∈ trail.tokens, token.Lexical) (hopens : trail.OpensFollow)
    (hoccurs : name ∈ identifiers trail.tokens) :
    Refinement.verdict Token.mayNameType trail.tokens trail.tokens.length name
        (summary name (own name trail.sightings)).judgement =
      roleIn trail.tokens name := by
  have hwords : ∀ token ∈ trail.tokens, token.mayNameType = token.isTypeWord :=
    fun token hmem => Token.mayNameType_eq_isTypeWord (hlexical token hmem)
  have hmethodAt : methodAt Token.mayNameType trail.tokens name =
      methodAt Token.isTypeWord trail.tokens name := declarationAt_congr hwords _ _
  have hplainAt : plainAt Token.mayNameType trail.tokens name =
      plainAt Token.isTypeWord trail.tokens name := declarationAt_congr hwords _ _
  have hrole : (summary name (own name trail.sightings)).judgement.1 =
      firstRole (own name trail.sightings) := rfl
  unfold Refinement.verdict roleIn
  rw [hmethodAt, hplainAt, hrole]
  by_cases hclass : (List.range trail.tokens.length).any (classAt trail.tokens name) = true
  · rw [if_pos hclass, if_pos hclass]
  have hne : firstRole (own name trail.sightings) ≠ .classType := by
    obtain ⟨i, token, next, hhead, -, hguess⟩ := firstRole_eq_guess hoccurs
    rw [hguess, Ne, fst_guess_eq_classType_iff, afterClass_behind_eq_false hclass hhead]
    exact Bool.false_ne_true
  have htype : (summary name (own name trail.sightings)).declaredType =
      (occurrences trail.tokens name).findSome? (typeBefore trail.tokens) := by
    show (if firstRole _ = .classType then none else _) = _
    rw [if_neg hne, findSome?_pendingType]
  rw [if_neg hclass, if_neg hclass, if_neg hne]
  cases hmethod : lastBelow trail.tokens.length
      (methodAt Token.isTypeWord trail.tokens name) with
  | some j => rfl
  | none =>
    -- without either pattern the guess at the first occurrence stands, unless a plain one follows
    have hgiven : (summary name (own name trail.sightings)).judgement =
        (firstRole (own name trail.sightings),
          (occurrences trail.tokens name).findSome? (typeBefore trail.tokens)) :=
      Prod.ext rfl htype
    dsimp only
    rw [hgiven, firstRole_own hopens hoccurs hclass hmethod]
    generalize lastBelow trail.tokens.length (plainAt Token.isTypeWord trail.tokens name) = plain
    cases hfirst : typeOfFirst trail.tokens name with
    | none => cases plain <;> simp
    | some type =>
      by_cases hinList : firstInList trail.tokens name = true
      · -- a parameter keeps the type right before its first occurrence
        obtain ⟨i, hhead⟩ := exists_first_occurrence hoccurs
        obtain ⟨rest, hrest⟩ := List.head?_eq_some_iff.mp hhead
        have hbefore : typeBefore trail.tokens i = some type := by
          rw [typeOfFirst, hrest] at hfirst
          exact hfirst
        simp [hinList, hrest, hbefore]
      · cases plain <;> simp [hinList]

end Trail

/-! ## The parenthesis behind a name -/

namespace Piece

/-- The only piece that starts with an opening parenthesis is that mark. -/
theorem leading_paren (rest : List Char) : leading '(' rest = .mark '(' := by
  have hmark : (Piece.mark '(').Shape := ⟨by decide, by decide, by decide, by decide⟩
  rw [leading_mark_sort hmark fun d _ h => absurd h.1 (by decide)]
  cases rest with
  | nil => rfl
  | cons second rest =>
    rw [markAt, if_neg]
    intro hpair
    have hmem := mem_of_isCompound hpair
    simp [Lexicon.compoundOperators] at hmem

/-- A list of pieces whose text starts with an opening parenthesis starts with that mark. -/
theorem eq_paren_cons {pieces : List Piece} (hfit : Fit pieces)
    (hhead : (spelled pieces).head? = some '(') : ∃ more, pieces = .mark '(' :: more := by
  obtain ⟨rest, hrest⟩ := List.head?_eq_some_iff.mp hhead
  rw [← leading_paren rest]
  exact hfit.eq_leading_cons hrest

end Piece

/-- The character right behind a token is `(` only if the next token is that parenthesis. -/
theorem opensFollow_places {before : List Char} {pieces : List Piece} (h : Piece.Fit pieces) :
    (Places.trail (places before pieces)).OpensFollow := by
  induction pieces generalizing before with
  | nil =>
    intro i token hentry
    cases hentry
  | cons piece pieces ih =>
    intro i token hentry
    have hrest := @ih (before ++ piece.text) h.2.2
    rw [places, Places.trail_cons] at hentry ⊢
    cases hyields : Place.token? ⟨before, piece, Piece.spelled pieces⟩ with
    | none =>
      rw [Place.track?, hyields] at hentry ⊢
      exact hrest i token hentry
    | some found =>
      rw [Place.track?, hyields] at hentry ⊢
      cases i with
      | succ i => exact hrest i token hentry
      | zero =>
        -- the parenthesis is the first character of the pieces behind
        have hnext : (Piece.spelled pieces).head? = some '(' :=
          (Prod.ext_iff.mp (Option.some.inj hentry)).2
        obtain ⟨more, rfl⟩ := Piece.eq_paren_cons h.2.2 hnext
        rfl

/-! ## The symbols of a text -/

namespace Census

open Pattern

/-- The tokens of a text are lexical. -/
theorem lexical_tokens (text : String) : ∀ token ∈ Places.tokens (reading text), token.Lexical := by
  intro token hmem
  obtain ⟨place, -, htoken⟩ := List.mem_filterMap.mp hmem
  exact Piece.lexical_token? htoken

/-- The refined entry of a name. -/
theorem settled_summary {trail : Trail} {name : String}
    (hlexical : ∀ token ∈ trail.tokens, token.Lexical) (hopens : trail.OpensFollow)
    (hoccurs : name ∈ identifiers trail.tokens) :
    Refinement.settled trail.tokens trail.tokens.length
        (Sighting.summary name (Sighting.own name trail.sightings)) =
      entryIn trail.tokens name := by
  obtain ⟨i, hhead⟩ := exists_first_occurrence hoccurs
  obtain ⟨token, next, hentry, -, hat⟩ := Trail.sightingAt_of_occurrence (List.mem_of_head? hhead)
  have htoken : trail.tokens[i]? = some token := by
    rw [Trail.tokens, List.getElem?_map, hentry]
    rfl
  have hfirst : (Sighting.summary name (Sighting.own name trail.sightings)).first =
      (entryIn trail.tokens name).first := by
    rw [Sighting.summary, Trail.head?_own hhead, hat, entryIn, hhead]
    dsimp only
    rw [Option.bind_some, htoken]
    rfl
  have hcount : (Sighting.summary name (Sighting.own name trail.sightings)).sightings =
      (entryIn trail.tokens name).sightings := by
    rw [Sighting.summary, Trail.length_own]
    rfl
  unfold Refinement.settled
  rw [show (Sighting.summary name _).name = name from rfl,
    Trail.verdict_summary hlexical hopens hoccurs]
  show (⟨name, (roleIn _ _).1, (roleIn _ _).2, _, _⟩ : Symbol) = ⟨name, _, _, _, _⟩
  rw [hfirst, hcount]
  rfl

/-- What the refinement makes of the table and of the class name of a scan. -/
theorem refine_sighted (text : String) :
    ({ symbols := sighted text } : Refinement).refine (Places.tokens (reading text)) =
      { symbols := ⟨(identifiers (Places.tokens (reading text))).eraseDups.map
          (entryIn (Places.tokens (reading text)))⟩
        className :=
          lastClass (Places.tokens (reading text)) (Places.tokens (reading text)).length } := by
  -- no keyword is empty, so the pass comes to the end
  have hjudged : (Places.tokens (reading text)).takeWhile Token.canBeJudged =
      Places.tokens (reading text) :=
    List.takeWhile_eq_self_iff.mpr fun token hmem => (lexical_tokens text token hmem).canBeJudged
  have htokens := Places.tokens_trail (reading text)
  have hentries : (sighted text).entries.map (Refinement.settled (Places.tokens (reading text))
        (Places.tokens (reading text)).length) =
      (identifiers (Places.tokens (reading text))).eraseDups.map
        (entryIn (Places.tokens (reading text))) := by
    rw [sighted, SymbolTable.entries_sightAll, List.map_map, Trail.map_name_sightings, htokens]
    -- entry by entry, for the names that occur
    refine List.map_congr_left fun name hmem => ?_
    have hoccurs : name ∈ identifiers (Places.trail (reading text)).tokens := by
      rw [htokens]
      exact List.mem_eraseDups.mp hmem
    rw [← htokens]
    refine settled_summary ?_ (opensFollow_places (Piece.fit_split text.toList)) hoccurs
    rw [htokens]
    exact lexical_tokens text
  rw [Refinement.refine, Refinement.pass_eq, hjudged, Refinement.upTo, hentries, Option.or_none]

/-- **The symbols of a refined census.** There is one for each name that occurs, in the order of
their first occurrences, and the tokens alone decide what it holds. -/
theorem entries_ofText_true (text : String) :
    (ofText text true).symbols.entries =
      (identifiers (ofText text true).tokens).eraseDups.map
        (entryIn (ofText text true).tokens) := by
  have hsymbols := (ofText_false text).2.1
  have htokens := tokens_ofText text false
  have hrefined : (ofText text true).symbols =
      (({ symbols := (ofText text false).symbols } : Refinement).refine
        (ofText text false).tokens).symbols := rfl
  rw [tokens_ofText, hrefined, hsymbols, htokens, refine_sighted]

/-- The names in the table are those of the identifiers, refined or not. -/
theorem names_ofText (text : String) (refine : Bool) :
    (ofText text refine).symbols.names = (identifiers (ofText text refine).tokens).eraseDups := by
  cases refine with
  | false =>
    rw [(ofText_false text).2.1, sighted, SymbolTable.names_sightAll, Trail.map_name_sightings,
      Places.tokens_trail, tokens_ofText]
  | true =>
    rw [SymbolTable.names, entries_ofText_true, List.map_map]
    exact List.map_id _

/-- **The role and the declared type of every symbol.** A refined census holds one symbol for each
identifier text, and what it says of the role and the type of a name is the decision list over the
tokens of the same census. -/
theorem judgements_ofText (text : String) :
    (ofText text true).symbols.names = (identifiers (ofText text true).tokens).eraseDups ∧
      ∀ symbol ∈ (ofText text true).symbols.entries,
        symbol.judgement = roleIn (ofText text true).tokens symbol.name := by
  refine ⟨names_ofText text true, ?_⟩
  intro symbol hmem
  rw [entries_ofText_true] at hmem
  obtain ⟨name, -, rfl⟩ := List.mem_map.mp hmem
  rfl

end Census

end SymbolCensus
