import SymbolCensus.Proofs.Pattern

/-!
# What the refinement pass decides

The pass walks over the tokens once and writes to table entries that later tokens read and write
again. Its outcome depends on none of that: each entry is judged by a decision list over the
patterns of the whole token list (`Refinement.verdict`).

- `declare_eq`, `declareClass_eq`: what one token does to every entry, said by patterns.
- `settled_succ`: the patterns that start at one more place change a verdict just as the pass does.
- `passFrom_eq`: from these, by induction on the tokens still ahead, what the whole pass does.
- `pass_pass`: another pass over the same tokens changes nothing.

The decision list keeps its bound `n`, because a pass that stops early has judged the patterns that
start before the token at which it stopped, and those may reach beyond it.
-/

namespace SymbolCensus

namespace Refinement

open Pattern

/-- The role and declared type of a name, given those it had before, as the patterns that start
below `n` decide them. A class stays a class, a method pattern comes before a plain one, and of
several the last one counts. -/
def verdict (isType : Token → Bool) (tokens : List Token) (n : Nat) (name : String)
    (given : Role × Option String) : Role × Option String :=
  if (List.range n).any (classAt tokens name) then (.classType, none)
  else if given.1 = .classType then given
  else
    match lastBelow n (methodAt isType tokens name) with
    | some j => (.method, lexemeAt tokens j)
    | none =>
      if given.1 = .method ∨ given.1 = .parameter then given
      else
        match lastBelow n (plainAt isType tokens name) with
        | some j => (if memberAt tokens j then .field else .localVariable, lexemeAt tokens j)
        | none => given

/-- What the declaration that starts at a place, if one does, makes of a role and declared type. -/
def declaration (isType : Token → Bool) (tokens : List Token) (n : Nat) (name : String)
    (given : Role × Option String) : Role × Option String :=
  if methodAt isType tokens name n then
    if given.1 = .classType then given else (.method, lexemeAt tokens n)
  else if plainAt isType tokens name n then
    if isSettled given.1 then given
    else (if memberAt tokens n then .field else .localVariable, lexemeAt tokens n)
  else given

/-- What the keyword `class` at a place, if it is there, makes of a role and declared type. -/
def naming (tokens : List Token) (n : Nat) (name : String) (given : Role × Option String) :
    Role × Option String :=
  if classAt tokens name n then (.classType, none) else given

/-- One more place changes a verdict by the declaration and the class name that start there. -/
theorem verdict_succ (isType : Token → Bool) (tokens : List Token) (n : Nat) (name : String)
    (given : Role × Option String) :
    verdict isType tokens (n + 1) name given =
      naming tokens n name
        (declaration isType tokens n name (verdict isType tokens n name given)) := by
  have hany : (List.range (n + 1)).any (classAt tokens name) =
      ((List.range n).any (classAt tokens name) || classAt tokens name n) := by
    simp [List.range_succ]
  unfold verdict naming
  rw [hany, lastBelow_succ, lastBelow_succ]
  by_cases hclass : classAt tokens name n = true
  · -- a class name at the place outweighs all else
    simp [hclass]
  simp only [hclass, Bool.or_false]
  by_cases hseen : (List.range n).any (classAt tokens name) = true
  · -- a class named before stays one
    simp [hseen, declaration, isSettled]
  by_cases hgiven : given.1 = .classType
  · -- so does one that was a class from the start
    simp [hseen, hgiven, declaration, isSettled]
  simp only [hseen, hgiven]
  by_cases hmethod : methodAt isType tokens name n = true
  · -- a method pattern counts unless the name is a class, which it cannot have become
    simp only [hmethod, declaration, if_true, if_false, Bool.false_eq_true]
    rw [if_neg]
    intro hrole
    split at hrole
    · cases hrole
    split at hrole
    · exact hgiven hrole
    split at hrole
    · dsimp only at hrole
      split at hrole <;> cases hrole
    · exact hgiven hrole
  simp only [hmethod, declaration]
  cases lastBelow n (methodAt isType tokens name) with
  | some j => simp [isSettled]
  | none =>
    by_cases hsettled : given.1 = .method ∨ given.1 = .parameter
    · have : isSettled given.1 = true := by
        rcases hsettled with h | h <;> simp [isSettled, h]
      simp [hsettled, this]
    · have hfree : isSettled given.1 = false := by
        rw [not_or] at hsettled
        simp [isSettled, hgiven, hsettled]
      simp only [hsettled, if_false, Bool.false_eq_true]
      -- what the plain patterns before gave is not settled either
      have hopen : ∀ found : Option Nat, isSettled
          (match found with
            | some j => (if memberAt tokens j then Role.field else .localVariable, lexemeAt tokens j)
            | none => given).1 = false := by
        intro found
        cases found with
        | none => exact hfree
        | some j =>
          dsimp only
          split <;> rfl
      rw [hopen]
      by_cases hplain : plainAt isType tokens name n = true
      · simp [hplain]
      · simp [hplain]

end Refinement

/-! ## Entries -/

namespace Symbol

/-- The role and declared type of a symbol. -/
def judgement (symbol : Symbol) : Role × Option String :=
  (symbol.role, symbol.declaredType)

/-- The symbol with another role and declared type. -/
def judged (symbol : Symbol) (judgement : Role × Option String) : Symbol :=
  symbol.classified judgement.1 judgement.2

@[simp] theorem name_judged (symbol : Symbol) (judgement : Role × Option String) :
    (symbol.judged judgement).name = symbol.name := rfl

@[simp] theorem judgement_judged (symbol : Symbol) (judgement : Role × Option String) :
    (symbol.judged judgement).judgement = judgement := rfl

@[simp] theorem judged_judged (symbol : Symbol) (judgement judgement' : Role × Option String) :
    (symbol.judged judgement).judged judgement' = symbol.judged judgement' := rfl

@[simp] theorem judged_judgement (symbol : Symbol) : symbol.judged symbol.judgement = symbol := rfl

theorem fst_judgement (symbol : Symbol) : symbol.judgement.1 = symbol.role := rfl

end Symbol

namespace Refinement

open Pattern

/-- An entry with its verdict; all but the role and the declared type stays. -/
def settled (tokens : List Token) (n : Nat) (symbol : Symbol) : Symbol :=
  symbol.judged (verdict Token.mayNameType tokens n symbol.name symbol.judgement)

/-- A refinement with the verdict on every entry and the class that was named last. -/
def upTo (start : Refinement) (tokens : List Token) (n : Nat) : Refinement :=
  { symbols := ⟨start.symbols.entries.map (settled tokens n)⟩
    className := (lastClass tokens n).or start.className }

/-! ## One token -/

/-- An entry behind the declaration that starts at a place. -/
def declaredAt (tokens : List Token) (n : Nat) (symbol : Symbol) : Symbol :=
  symbol.judged (declaration Token.mayNameType tokens n symbol.name symbol.judgement)

/-- An entry behind the keyword `class` at a place. -/
def classedAt (tokens : List Token) (n : Nat) (symbol : Symbol) : Symbol :=
  symbol.judged (naming tokens n symbol.name symbol.judgement)

theorem settled_succ (tokens : List Token) (n : Nat) (symbol : Symbol) :
    settled tokens (n + 1) symbol =
      classedAt tokens n (declaredAt tokens n (settled tokens n symbol)) := by
  unfold settled classedAt declaredAt
  rw [verdict_succ]
  rfl

section Step

variable {tokens before after : List Token} {token : Token}

/-- The tokens at a place and behind it, read off a split of the list at that place. -/
theorem getElem?_split (h : tokens = before.reverse ++ token :: after) :
    tokens[before.length]? = some token ∧ tokens[before.length + 1]? = after[0]? ∧
      tokens[before.length + 2]? = after[1]? := by
  subst h
  refine ⟨?_, ?_, ?_⟩
  · rw [List.getElem?_append_right (by simp)]
    simp
  · rw [List.getElem?_append_right (by simp)]
    simp
  · rw [List.getElem?_append_right (by simp)]
    simp [show before.length + 2 - before.length = 2 by omega]

/-- Where no declaration of any name starts, entries stay as they are. -/
theorem map_declaredAt_of_none {n : Nat} {entries : List Symbol}
    (h : ∀ name follows, declarationAt Token.mayNameType follows tokens name n = false) :
    entries.map (declaredAt tokens n) = entries := by
  have hid : ∀ symbol, declaredAt tokens n symbol = symbol := by
    intro symbol
    rw [declaredAt, declaration, methodAt, plainAt, h, h]
    rfl
  rw [funext hid, List.map_id']

/-- Where a declaration of a name starts, it is the entry of that name that changes. -/
theorem declaredAt_eq {name follow : Token} (h0 : tokens[before.length]? = some token)
    (h1 : tokens[before.length + 1]? = some name) (h2 : tokens[before.length + 2]? = some follow)
    (hwindow : memberAt tokens before.length = hasModifier before)
    (htype : token.mayNameType = true) (hkind : name.kind = .identifier) (symbol : Symbol) :
    declaredAt tokens before.length symbol =
      if symbol.name = name.lexeme then declared symbol before token.lexeme follow
      else symbol := by
  unfold declaredAt declaration methodAt plainAt declarationAt
  rw [h0, h1, h2, hwindow]
  simp only [Option.any_some, htype, Bool.true_and]
  by_cases hsame : symbol.name = name.lexeme
  · have hnamed : Token.isNamed symbol.name name = true := Token.isNamed_iff.mpr ⟨hkind, hsame.symm⟩
    rw [if_pos hsame, hnamed, lexemeAt, h0, Symbol.fst_judgement]
    unfold declared
    simp only [Bool.true_and, Option.map_some, Token.opensList, Token.endsName]
    by_cases hopens : follow.isA .punctuation ["("] = true
    · rw [if_pos hopens, if_pos hopens]
      by_cases hclass : symbol.role = .classType
      · rw [if_pos hclass, if_pos hclass, Symbol.judged_judgement]
      · rw [if_neg hclass, if_neg hclass]
        rfl
    rw [if_neg hopens, if_neg hopens]
    by_cases hends : (follow.isA .operator ["="] || follow.isA .punctuation [";", ","]) = true
    · rw [if_pos hends, if_pos hends]
      by_cases hsettled : isSettled symbol.role = true
      · rw [if_pos hsettled, if_pos hsettled, Symbol.judged_judgement]
      · rw [if_neg hsettled, if_neg hsettled]
        split <;> rfl
    · rw [if_neg hends, if_neg hends, Symbol.judged_judgement]
  · have hnamed : Token.isNamed symbol.name name = false := by
      rw [Bool.eq_false_iff, Ne, Token.isNamed_iff]
      exact fun hh => hsame hh.2.symm
    rw [if_neg hsame, hnamed]
    rfl

/-- A type word changes the entries by the declaration that starts at it. -/
theorem declare_eq (h : tokens = before.reverse ++ token :: after) (refinement : Refinement) :
    (if token.mayNameType then refinement.declare before token after else refinement) =
      { refinement with
        symbols := ⟨refinement.symbols.entries.map (declaredAt tokens before.length)⟩ } := by
  obtain ⟨h0, h1, h2⟩ := getElem?_split h
  by_cases htype : token.mayNameType = true
  · rw [if_pos htype]
    rcases after with _ | ⟨name, _ | ⟨follow, rest⟩⟩
    · rw [map_declaredAt_of_none fun name follows => by simp [declarationAt, h1]]
      rfl
    · rw [map_declaredAt_of_none fun name follows => by simp [declarationAt, h2]]
      rfl
    · rw [declare]
      by_cases hkind : name.kind = .identifier
      · rw [if_pos hkind]
        have heq := declaredAt_eq h0 h1 h2 (memberAt_eq_hasModifier h) htype hkind
        rw [funext heq]
        rfl
      · rw [if_neg hkind, map_declaredAt_of_none]
        intro other follows
        have hother : Token.isNamed other name = false := by
          rw [Bool.eq_false_iff, Ne, Token.isNamed_iff]
          exact fun hh => hkind hh.1
        simp [declarationAt, h1, hother]
  · rw [if_neg htype, map_declaredAt_of_none]
    intro name follows
    simp [declarationAt, h0, htype]

/-- Where no keyword `class` stands before an identifier, entries stay as they are. -/
theorem map_classedAt_of_none {n : Nat} {entries : List Symbol}
    (h : someClassAt tokens n = false) : entries.map (classedAt tokens n) = entries := by
  have hid : ∀ symbol, classedAt tokens n symbol = symbol := by
    intro symbol
    rw [classedAt, naming, if_neg]
    · rfl
    · intro hat
      rw [someClassAt_of_classAt hat] at h
      cases h
  rw [funext hid, List.map_id']

/-- A keyword `class` changes the entries by the identifier behind it, and names that class. -/
theorem declareClass_eq (h : tokens = before.reverse ++ token :: after) (refinement : Refinement) :
    (if token.isA .keyword ["class"] then refinement.declareClass after else refinement) =
      { symbols := ⟨refinement.symbols.entries.map (classedAt tokens before.length)⟩
        className :=
          if someClassAt tokens before.length then lexemeAt tokens (before.length + 1)
          else refinement.className } := by
  obtain ⟨h0, h1, -⟩ := getElem?_split h
  have hclass : token.isA .keyword ["class"] = token.isClassWord := rfl
  by_cases hat : someClassAt tokens before.length = true
  · -- there is an identifier behind the keyword, and it is the name of the entries that change
    rw [if_pos hat]
    obtain ⟨hword, name, hname, hkind⟩ : token.isClassWord = true ∧
        ∃ name, after[0]? = some name ∧ name.kind = .identifier := by
      simpa [someClassAt, h0, h1, Option.any_eq_true] using hat
    obtain ⟨rest, rfl⟩ : ∃ rest, after = name :: rest := by
      cases after with
      | nil => simp at hname
      | cons head rest => exact ⟨rest, by simpa using hname⟩
    have heq : ∀ symbol, classedAt tokens before.length symbol =
        if symbol.name = name.lexeme then symbol.classified .classType none else symbol := by
      intro symbol
      unfold classedAt naming classAt
      rw [h0, h1]
      simp only [List.getElem?_cons_zero, Option.any_some, hword, Bool.true_and,
        Token.isNamed_iff, hkind, true_and]
      by_cases hsame : symbol.name = name.lexeme
      · rw [if_pos hsame, if_pos hsame.symm]
        rfl
      · rw [if_neg hsame, if_neg fun hh => hsame hh.symm]
        rfl
    rw [hclass, if_pos hword, declareClass, if_pos hkind, funext heq, lexemeAt, h1]
    rfl
  · rw [if_neg hat, map_classedAt_of_none (Bool.eq_false_iff.mpr hat)]
    by_cases hword : token.isClassWord = true
    · rw [hclass, if_pos hword]
      cases after with
      | nil => rfl
      | cons name _ =>
        rw [declareClass, if_neg]
        intro hkind
        exact hat (by simp [someClassAt, h0, h1, hword, hkind])
    · rw [hclass, if_neg hword]

/-- One more token carries the verdicts one place further. -/
theorem upTo_succ (h : tokens = before.reverse ++ token :: after) (start : Refinement) :
    (let refinement := start.upTo tokens before.length
     let refinement :=
       if token.mayNameType then refinement.declare before token after else refinement
     if token.isA .keyword ["class"] then refinement.declareClass after else refinement) =
      start.upTo tokens (before.length + 1) := by
  dsimp only
  rw [declare_eq h, declareClass_eq h]
  unfold upTo
  congr 2
  · rw [List.map_map, List.map_map]
    exact List.map_congr_left fun symbol _ => (settled_succ tokens before.length symbol).symm
  · rw [lastClass_succ]
    by_cases hat : someClassAt tokens before.length = true
    · rw [if_pos hat, if_pos hat]
      -- an identifier stands there, so the name is not missing
      obtain ⟨name, hname⟩ := lexemeAt_of_someClassAt hat
      rw [hname]
      rfl
    · rw [if_neg hat, if_neg hat]

end Step

/-! ## One token after another -/

/-- Nothing has been judged below the first place. -/
@[simp] theorem upTo_zero (start : Refinement) (tokens : List Token) :
    start.upTo tokens 0 = start := by
  have hid : ∀ symbol, settled tokens 0 symbol = symbol := by
    intro symbol
    unfold settled verdict
    simp
  unfold upTo
  rw [funext hid, List.map_id']
  rfl

/-- The pass over the tokens ahead, when those behind have been judged: it gets to the first keyword
without a character, and to the end if there is none. -/
theorem passFrom_eq {tokens : List Token} (start : Refinement) :
    ∀ {before after : List Token}, tokens = before.reverse ++ after →
      passFrom before after (start.upTo tokens before.length) =
        (start.upTo tokens (before.length + (after.takeWhile Token.canBeJudged).length),
          if after.all Token.canBeJudged then .ok () else .error .outsideText)
  | _, [], _ => rfl
  | before, token :: after, h => by
    rw [passFrom]
    by_cases hjudged : token.canBeJudged = true
    · rw [Lexicon.isTypeLike_eq (Token.canBeJudged_iff.mp hjudged)]
      dsimp only
      have hstep := upTo_succ h start
      dsimp only at hstep
      rw [hstep]
      have hsplit : tokens = (token :: before).reverse ++ after := by
        rw [h, List.reverse_cons, List.append_assoc]
        rfl
      have ih := passFrom_eq start hsplit
      rw [List.length_cons] at ih
      rw [ih, List.takeWhile_cons_of_pos hjudged, List.length_cons, List.all_cons, hjudged,
        Bool.true_and, Nat.add_assoc, Nat.add_comm 1]
    · rw [Lexicon.isTypeLike_eq_error (Token.not_canBeJudged_iff.mp hjudged),
        List.takeWhile_cons_of_neg hjudged, List.all_cons, Bool.eq_false_iff.mpr hjudged]
      rfl

/-! ## The whole pass -/

/-- The pass over a whole token list. -/
theorem pass_eq (start : Refinement) (tokens : List Token) :
    start.pass tokens =
      (start.upTo tokens (tokens.takeWhile Token.canBeJudged).length,
        if tokens.all Token.canBeJudged then .ok () else .error .outsideText) := by
  have h := passFrom_eq start (show tokens = ([] : List Token).reverse ++ tokens from rfl)
  rw [List.length_nil, upTo_zero, Nat.zero_add] at h
  exact h

/-- **The pass as a decision list.** Where no keyword is empty the pass comes to the end. It keeps
the entries, their order and all they hold but the role and the declared type; those become the
verdict of the whole token list on the name, and the class is the one named last. -/
theorem pass_eq_verdicts (start : Refinement) (tokens : List Token)
    (h : ∀ token ∈ tokens, token.kind = .keyword → token.lexeme ≠ "") :
    start.pass tokens =
      ({ symbols := ⟨start.symbols.entries.map fun symbol =>
           symbol.judged
             (verdict Token.mayNameType tokens tokens.length symbol.name symbol.judgement)⟩
         className := (lastClass tokens tokens.length).or start.className }, .ok ()) := by
  have hall : ∀ token ∈ tokens, token.canBeJudged = true := fun token htoken =>
    Token.canBeJudged_iff.mpr (h token htoken)
  rw [pass_eq, List.takeWhile_eq_self_iff.mpr hall, List.all_eq_true.mpr hall]
  rfl

/-- A token list with a plain declaration behind a modifier, a later one without, a method and a
class, over a table with entries of several roles. -/
theorem pass_eq_verdicts_mixed :
    let word (kind : TokenKind) (lexeme : String) : Token := { kind, lexeme, position := ⟨1, 1⟩ }
    let tokens := [word .keyword "private", word .keyword "int", word .identifier "a",
      word .punctuation ";", word .keyword "int", word .identifier "b", word .operator "=",
      word .keyword "String", word .identifier "p", word .punctuation ",",
      word .keyword "void", word .identifier "a", word .punctuation "(",
      word .keyword "class", word .identifier "c"]
    let entry (name : String) (role : Role) (type : Option String) : Symbol :=
      { name, role, declaredType := type, first := ⟨7, 7⟩, sightings := 5 }
    let start : Refinement :=
      { symbols := ⟨[entry "a" .unknown none, entry "b" .unknown none,
          entry "p" .parameter (some "T"), entry "c" .method (some "T"), entry "d" .field none]⟩ }
    (∀ token ∈ tokens, token.kind = .keyword → token.lexeme ≠ "") ∧
      start.pass tokens =
        ({ symbols := ⟨[entry "a" .method (some "void"), entry "b" .field (some "int"),
             entry "p" .parameter (some "T"), entry "c" .classType none, entry "d" .field none]⟩
           className := some "c" }, .ok ()) := by
  refine ⟨by decide, ?_⟩
  rw [pass_eq_verdicts _ _ (by decide)]
  rfl

/-! ## Another pass -/

/-- A verdict on a verdict is that verdict. The patterns are the same both times, so the line of the
list that decided first decides again, unless a line above it now reads its own outcome. -/
theorem verdict_verdict (isType : Token → Bool) (tokens : List Token) (n : Nat) (name : String)
    (given : Role × Option String) :
    verdict isType tokens n name (verdict isType tokens n name given) =
      verdict isType tokens n name given := by
  unfold verdict
  by_cases hclass : (List.range n).any (classAt tokens name) = true
  · rw [if_pos hclass, if_pos hclass]
  rw [if_neg hclass, if_neg hclass]
  by_cases hgiven : given.1 = .classType
  · rw [if_pos hgiven, if_pos hgiven]
  rw [if_neg hgiven]
  cases lastBelow n (methodAt isType tokens name) with
  | some j => rfl
  | none =>
    dsimp only
    by_cases hsettled : given.1 = .method ∨ given.1 = .parameter
    · rw [if_pos hsettled, if_neg hgiven, if_pos hsettled]
    rw [if_neg hsettled]
    cases lastBelow n (plainAt isType tokens name) with
    | none =>
      dsimp only
      rw [if_neg hgiven, if_neg hsettled]
    | some j =>
      -- a field and a local variable are open to the same pattern, and kept by all other lines
      dsimp only
      rw [ite_self, ite_self]

theorem settled_settled (tokens : List Token) (n : Nat) (symbol : Symbol) :
    settled tokens n (settled tokens n symbol) = settled tokens n symbol := by
  unfold settled
  rw [Symbol.name_judged, Symbol.judgement_judged, verdict_verdict, Symbol.judged_judged]

theorem upTo_upTo (start : Refinement) (tokens : List Token) (n : Nat) :
    (start.upTo tokens n).upTo tokens n = start.upTo tokens n := by
  have hentries : (start.symbols.entries.map (settled tokens n)).map (settled tokens n) =
      start.symbols.entries.map (settled tokens n) := by
    rw [List.map_map]
    exact List.map_congr_left fun symbol _ => settled_settled tokens n symbol
  have hclass : (lastClass tokens n).or ((lastClass tokens n).or start.className) =
      (lastClass tokens n).or start.className := by
    rw [← Option.or_assoc, Option.or_self]
  unfold upTo
  dsimp only
  rw [hentries, hclass]

/-- **A pass is idempotent**, over any tokens and from any table. Where it fails it does so at the
same token again, and what it left behind before that is kept. -/
theorem pass_pass (start : Refinement) (tokens : List Token) :
    (start.pass tokens).1.pass tokens = start.pass tokens := by
  rw [pass_eq (start.pass tokens).1, pass_eq start]
  dsimp only
  rw [upTo_upTo]

/-- A pass that fails in the middle keeps what it has judged by then. -/
example :
    let word (kind : TokenKind) (lexeme : String) : Token := { kind, lexeme, position := ⟨1, 1⟩ }
    let tokens := [word .keyword "int", word .identifier "a", word .punctuation ";",
      word .keyword "", word .keyword "class", word .identifier "a"]
    let entry (role : Role) (type : Option String) : Symbol :=
      { name := "a", role, declaredType := type, first := ⟨7, 7⟩, sightings := 2 }
    ({ symbols := ⟨[entry .unknown none]⟩ } : Refinement).pass tokens =
      ({ symbols := ⟨[entry .localVariable (some "int")]⟩ }, .error .outsideText) := by
  rfl

end Refinement

end SymbolCensus
