import SymbolCensus.Proofs.ClassName
import SymbolCensus.Proofs.Column
import SymbolCensus.Proofs.Munch
import SymbolCensus.Report.Table

/-!
# Reading printed symbols back

The symbol table is printed with one line for each entry, and the fields of a line are its words. That
is so however long names and numbers are, because no name and no type that a text can yield has white
space in it.

- `Symbol.Plain`: a symbol with such a name and such a type.
- `Report.words_symbolRow`: the words of a row are the fields of the symbol.
- `Report.symbolSection_inj`: the lines determine the table and the class name. The line that names a
  class has fewer words than a row, so the two are not confused.
- `Census.plain_symbols`, `Census.isUnspaced_className`: all entries of a census are plain, and its
  class name is one word.
- `Census.symbolSection_ofText`: the section of the census of a text, refined or not.
-/

namespace SymbolCensus

/-- The name of the symbol is one word, and its declared type is a type word. -/
structure Symbol.Plain (symbol : Symbol) : Prop where
  name : Text.IsUnspaced symbol.name.toList
  declaredType : ∀ type ∈ symbol.declaredType, type ∈ Lexicon.typeWords

namespace Report

open Text

/-! ## Rows -/

/-- The place of a symbol in its columns, with one of the spaces behind it. -/
def placeField (symbol : Symbol) : String :=
  rightAligned 4 (toString symbol.first.line) ++ ":" ++
    leftAligned 3 (toString symbol.first.column) ++ " "

theorem symbolRow_eq (symbol : Symbol) :
    symbolRow symbol =
      leftAligned 20 symbol.name ++ " " ++ leftAligned 12 symbol.role.label ++ " " ++
        leftAligned 12 (typeField symbol) ++ " " ++ placeField symbol ++ " " ++
        ("occurrences=" ++ toString symbol.sightings) := by
  have hlast : "  occurrences=" = " " ++ (" " ++ "occurrences=") := rfl
  simp only [symbolRow, placeField, hlast, String.append_assoc]

theorem isUnspaced_label (role : Role) : IsUnspaced role.label.toList := by
  cases role <;> decide

/-- A dash stands for a type that is missing, and is no type word. -/
theorem typeField_eq {symbol : Symbol} (h : symbol.Plain) :
    typeField symbol = symbol.declaredType.getD "-" := by
  unfold typeField
  cases htype : symbol.declaredType with
  | none => rfl
  | some type =>
    have hword := h.declaredType type htype
    split
    next hnone => cases hnone
    next hempty =>
      rw [Option.some.inj hempty] at hword
      exact absurd hword (by decide)
    next other hother => rw [hother]; rfl

theorem isUnspaced_typeField {symbol : Symbol} (h : symbol.Plain) :
    IsUnspaced (typeField symbol).toList := by
  have hwords : ∀ type ∈ "-" :: Lexicon.typeWords, IsUnspaced type.toList := by decide
  rw [typeField_eq h]
  cases htype : symbol.declaredType with
  | none => exact hwords "-" (List.mem_cons_self ..)
  | some type => exact hwords type (List.mem_cons_of_mem _ (h.declaredType type htype))

theorem words_placeField (symbol : Symbol) :
    words (placeField symbol) =
      [toString symbol.first.line ++ ":" ++ toString symbol.first.column] := by
  have hcolon : IsUnspaced ":".toList := by decide
  have hplace := ((isUnspaced_toString symbol.first.line).append hcolon).append
    (isUnspaced_toString symbol.first.column)
  have hline := toList_rightAligned 4 (toString symbol.first.line)
  have hcolumn := toList_leftAligned 3 (toString symbol.first.column)
  generalize 4 - (toString symbol.first.line).toList.length = before at hline
  generalize 3 - (toString symbol.first.column).toList.length = behind at hcolumn
  have hspace : " ".toList = [' '] := rfl
  have hrow : (placeField symbol).toList = List.replicate before ' ' ++
      ((toString symbol.first.line ++ ":" ++ toString symbol.first.column).toList ++
        List.replicate (behind + 1) ' ') := by
    simp only [placeField, String.toList_append, hline, hcolumn, hspace, List.replicate_succ',
      List.append_assoc]
  exact words_of_column hplace hrow

/-- **The words of a row are the fields of the symbol.** -/
theorem words_symbolRow {symbol : Symbol} (h : symbol.Plain) :
    words (symbolRow symbol) =
      [symbol.name, symbol.role.label, symbol.declaredType.getD "-",
        toString symbol.first.line ++ ":" ++ toString symbol.first.column,
        "occurrences=" ++ toString symbol.sightings] := by
  have hcount : IsUnspaced "occurrences=".toList := by decide
  have hsightings := hcount.append (isUnspaced_toString symbol.sightings)
  rw [symbolRow_eq, words_append_space, words_append_space, words_append_space, words_append_space,
    words_leftAligned h.name, words_leftAligned (isUnspaced_label symbol.role),
    words_leftAligned (isUnspaced_typeField h), words_placeField, words_of_unspaced hsightings,
    typeField_eq h]
  rfl

theorem isLine_symbolRow {symbol : Symbol} (h : symbol.Plain) : IsLine (symbolRow symbol) := by
  have hspace : IsLine " " := by decide
  have hcolon : IsLine ":" := by decide
  have hcount : IsLine "  occurrences=" := by decide
  have hname := (h.name.isLine_leftAligned 20).append hspace
  have hrole := (hname.append ((isUnspaced_label symbol.role).isLine_leftAligned 12)).append hspace
  have htype := (hrole.append ((isUnspaced_typeField h).isLine_leftAligned 12)).append hspace
  have hline := htype.append ((isUnspaced_toString symbol.first.line).isLine_rightAligned 4)
  have hplace := (hline.append hcolon).append
    ((isUnspaced_toString symbol.first.column).isLine_leftAligned 3)
  exact (hplace.append hcount).append (isUnspaced_toString symbol.sightings).isLine

/-- A position is told by its text, since a colon is no part of a number. -/
theorem position_inj {position position' : Position}
    (h : toString position.line ++ ":" ++ toString position.column =
      toString position'.line ++ ":" ++ toString position'.column) : position = position' := by
  have hchars := congrArg String.toList h
  have hcolon : ":".toList = [':'] := rfl
  simp only [String.toList_append, hcolon, List.append_assoc, List.singleton_append] at hchars
  obtain ⟨hline, hcolumn⟩ := eq_of_number (stop_cons rfl _) (stop_cons rfl _) hchars
  show (⟨position.line, position.column⟩ : Position) = ⟨_, _⟩
  rw [hline, toString_int_inj (List.cons.inj hcolumn).2]

/-- A role is told by its name. -/
theorem role_inj {role role' : Role} (h : role.label = role'.label) : role = role' := by
  have hfound := Role.ofLabel_label role
  rw [h, Role.ofLabel_label] at hfound
  exact (Except.ok.inj hfound).symm

/-- A declared type is told by its field, since no type word is a dash. -/
theorem declaredType_eq {symbol : Symbol} (h : symbol.Plain) :
    symbol.declaredType =
      if symbol.declaredType.getD "-" = "-" then none else some (symbol.declaredType.getD "-") := by
  have hdash : ∀ type ∈ Lexicon.typeWords, type ≠ "-" := by decide
  have hwords := h.declaredType
  cases htype : symbol.declaredType with
  | none => rfl
  | some type => rw [Option.getD_some, if_neg (hdash type (hwords type htype))]

/-- The words of a row tell the symbol. -/
theorem symbolRow_inj {symbol symbol' : Symbol} (h : symbol.Plain) (h' : symbol'.Plain)
    (heq : symbolRow symbol = symbolRow symbol') : symbol = symbol' := by
  have hwords := congrArg words heq
  rw [words_symbolRow h, words_symbolRow h'] at hwords
  simp only [List.cons.injEq] at hwords
  obtain ⟨hname, hrole, htype, hplace, hcount, -⟩ := hwords
  have hdeclared := declaredType_eq h
  rw [htype, ← declaredType_eq h'] at hdeclared
  have hsightings := congrArg String.toList ((String.append_right_inj _).mp hcount)
  show (⟨symbol.name, symbol.role, symbol.declaredType, symbol.first, symbol.sightings⟩ : Symbol) =
    ⟨_, _, _, _, _⟩
  rw [hname, role_inj hrole, hdeclared, position_inj hplace, toString_int_inj hsightings]

/-! ## The section -/

theorem map_symbolRow_inj {symbols symbols' : List Symbol} (h : ∀ symbol ∈ symbols, symbol.Plain)
    (h' : ∀ symbol ∈ symbols', symbol.Plain)
    (heq : symbols.map symbolRow = symbols'.map symbolRow) : symbols = symbols' := by
  induction symbols generalizing symbols' with
  | nil => exact (List.map_eq_nil_iff.mp heq.symm).symm
  | cons symbol symbols ih =>
    obtain ⟨symbol', symbols', rfl, hrow, hrows⟩ := List.map_eq_cons_iff.mp heq.symm
    obtain ⟨hsymbol, hsymbols⟩ := List.forall_mem_cons.mp h
    obtain ⟨hsymbol', hsymbols'⟩ := List.forall_mem_cons.mp h'
    rw [symbolRow_inj hsymbol' hsymbol hrow, ih hsymbols hsymbols' hrows.symm]

section ClassRow

variable {name : String}

theorem classRows_some (h : IsUnspaced name.toList) :
    classRows (some name) = ["class:" ++ " " ++ name] := by
  unfold classRows
  split
  next hnone => cases hnone
  next hempty =>
    rw [Option.some.inj hempty] at h
    exact absurd rfl h.1
  next other hother => rw [← Option.some.inj hother]; rfl

/-- The line that names a class has too few words for a row. -/
theorem map_symbolRow_ne_class {symbols : List Symbol} {rows : List String}
    (h : IsUnspaced name.toList) (hsymbols : ∀ symbol ∈ symbols, symbol.Plain) :
    symbols.map symbolRow ≠ ("class:" ++ " " ++ name) :: rows := by
  intro heq
  obtain ⟨symbol, more, rfl, hrow, -⟩ := List.map_eq_cons_iff.mp heq
  have hclass : IsUnspaced "class:".toList := by decide
  have hwords := congrArg words hrow
  rw [words_append_space, words_of_unspaced hclass, words_of_unspaced h,
    words_symbolRow (hsymbols symbol (List.mem_cons_self ..))] at hwords
  cases congrArg List.length hwords

end ClassRow

/-- **The lines determine the table and the class name.** -/
theorem symbolSection_inj {symbols symbols' : SymbolTable} {className className' : Option String}
    (h : ∀ symbol ∈ symbols.entries, symbol.Plain) (h' : ∀ symbol ∈ symbols'.entries, symbol.Plain)
    (hname : ∀ name ∈ className, IsUnspaced name.toList)
    (hname' : ∀ name ∈ className', IsUnspaced name.toList)
    (heq : symbolSection symbols className = symbolSection symbols' className') :
    symbols = symbols' ∧ className = className' := by
  have hrows : classRows className ++ symbols.entries.map symbolRow =
      classRows className' ++ symbols'.entries.map symbolRow := (List.cons.inj heq).2
  have htable : symbols.entries.map symbolRow = symbols'.entries.map symbolRow → symbols = symbols' :=
    fun hmap => congrArg SymbolTable.mk (map_symbolRow_inj h h' hmap)
  cases className with
  | none =>
    cases className' with
    | none => exact ⟨htable hrows, rfl⟩
    | some name' =>
      rw [classRows_some (hname' name' rfl)] at hrows
      exact absurd hrows (map_symbolRow_ne_class (hname' name' rfl) h)
  | some name =>
    rw [classRows_some (hname name rfl)] at hrows
    cases className' with
    | none => exact absurd hrows.symm (map_symbolRow_ne_class (hname name rfl) h')
    | some name' =>
      rw [classRows_some (hname' name' rfl)] at hrows
      obtain ⟨hclass, hmap⟩ := List.cons.inj hrows
      rw [(String.append_right_inj _).mp hclass]
      exact ⟨htable hmap, rfl⟩

theorem isLine_symbolSection {symbols : SymbolTable} {className : Option String}
    (h : ∀ symbol ∈ symbols.entries, symbol.Plain)
    (hname : ∀ name ∈ className, IsUnspaced name.toList) :
    ∀ line ∈ symbolSection symbols className, IsLine line := by
  have hrows : ∀ line ∈ symbols.entries.map symbolRow, IsLine line :=
    List.forall_mem_map.mpr fun symbol hmem => isLine_symbolRow (h symbol hmem)
  have hclass : ∀ line ∈ classRows className, IsLine line := by
    cases className with
    | none => exact List.forall_mem_nil _
    | some name =>
      rw [classRows_some (hname name rfl)]
      have hword : IsLine ("class:" ++ " ") := by decide
      exact List.forall_mem_singleton.mpr (hword.append (hname name rfl).isLine)
  exact List.forall_mem_cons.mpr ⟨by decide, List.forall_mem_append.mpr ⟨hclass, hrows⟩⟩

end Report

/-! ## The symbols of a text -/

theorem Token.mem_typeWords {token : Token} (h : token.isTypeWord = true) :
    token.lexeme ∈ Lexicon.typeWords := by
  rw [isTypeWord, isA, Bool.and_eq_true] at h
  exact List.contains_iff_mem.mp h.2

namespace Pattern

variable {tokens : List Token} {name type : String} {i : Nat}

theorem mem_typeWords_of_typeBefore (h : typeBefore tokens i = some type) :
    type ∈ Lexicon.typeWords := by
  obtain ⟨token, htoken, rfl⟩ := Option.map_eq_some_iff.mp h
  exact Token.mem_typeWords (Option.filter_eq_some_iff.mp htoken).2

theorem mem_typeWords_of_findSome? {places : List Nat}
    (h : places.findSome? (typeBefore tokens) = some type) : type ∈ Lexicon.typeWords := by
  obtain ⟨i, -, hi⟩ := List.exists_of_findSome?_eq_some h
  exact mem_typeWords_of_typeBefore hi

/-- A declaration pattern starts with a type word. -/
theorem mem_typeWords_of_declarationAt {follows : Token → Bool}
    (h : lastBelow tokens.length (declarationAt Token.isTypeWord follows tokens name) = some i)
    (hlexeme : lexemeAt tokens i = some type) : type ∈ Lexicon.typeWords := by
  have hat := (lastBelow_eq_some h).2
  rw [declarationAt, Bool.and_eq_true, Bool.and_eq_true, Option.any_eq_true (x := tokens[i]?)] at hat
  obtain ⟨⟨⟨token, htoken, hword⟩, -⟩, -⟩ := hat
  obtain ⟨other, hother, rfl⟩ := lexemeAt_eq_some_iff.mp hlexeme
  obtain rfl := Option.some.inj (htoken.symm.trans hother)
  exact Token.mem_typeWords hword

/-- The declared types that the decision list gives are type words. -/
theorem mem_typeWords_of_roleIn (h : (roleIn tokens name).2 = some type) :
    type ∈ Lexicon.typeWords := by
  unfold roleIn at h
  split at h
  · cases h
  split at h
  next hmethod => exact mem_typeWords_of_declarationAt hmethod h
  split at h
  · obtain ⟨i, -, hi⟩ := Option.bind_eq_some_iff.mp h
    exact mem_typeWords_of_typeBefore hi
  split at h
  next hplain => exact mem_typeWords_of_declarationAt hplain h
  next => exact mem_typeWords_of_findSome? h

end Pattern

namespace Census

open Pattern

/-- Identifiers are words. -/
theorem isUnspaced_of_identifier {text : String} {refine : Bool} {token : Token}
    (h : token ∈ (ofText text refine).tokens) (hkind : token.kind = .identifier) :
    Text.IsUnspaced token.lexeme.toList := by
  rw [tokens_ofText] at h
  obtain ⟨place, hplace, hyields⟩ := List.mem_filterMap.mp h
  have hmaximal :=
    Piece.maximal_token? (fit_reading text hplace) (stopsAt_reading hplace) hyields
  unfold Token.Maximal at hmaximal
  rw [hkind] at hmaximal
  cases htype : token.valueType with
  | some type =>
    rw [htype] at hmaximal
    exact hmaximal.elim
  | none =>
    rw [htype] at hmaximal
    obtain ⟨-, ⟨c, rest, htext, hstart, hrest⟩, -⟩ := hmaximal
    have hlexeme : token.lexeme.toList = c :: rest := by
      obtain ⟨kind, -, rfl⟩ := Option.map_eq_some_iff.mp hyields
      rw [← htext]
      refine Piece.toList_lexeme_of_valueType? ?_
      rw [show place.piece.valueType? = none from htype]
      exact (Option.some_ne_none _).symm
    have hparts : ∀ d ∈ c :: rest, Lexicon.isWordPart d = true := by
      intro d hd
      rcases List.mem_cons.mp hd with rfl | hd
      · exact Lexicon.isWordPart_of_isWordStart hstart
      · exact hrest d hd
    have hspaces : Text.spaces.any Lexicon.isWordPart = false := by decide +kernel
    rw [hlexeme]
    exact ⟨List.cons_ne_nil _ _, fun d hd => Text.isSpace_eq_false hspaces (hparts d hd)⟩

theorem isUnspaced_of_mem_identifiers {text : String} {refine : Bool} {name : String}
    (h : name ∈ identifiers (ofText text refine).tokens) : Text.IsUnspaced name.toList := by
  obtain ⟨token, hmem, hkind, rfl⟩ := mem_identifiers_iff.mp h
  exact isUnspaced_of_identifier hmem hkind

/-- The entries of a census are plain, refined or not. -/
theorem plain_symbols (text : String) (refine : Bool) :
    ∀ symbol ∈ (ofText text refine).symbols.entries, symbol.Plain := by
  intro symbol hmem
  constructor
  case name =>
    have hname : symbol.name ∈ (ofText text refine).symbols.names := List.mem_map_of_mem hmem
    rw [names_ofText, List.mem_eraseDups] at hname
    exact isUnspaced_of_mem_identifiers hname
  case declaredType =>
    intro type htype
    cases refine with
    | true =>
      rw [entries_ofText_true] at hmem
      obtain ⟨name, -, rfl⟩ := List.mem_map.mp hmem
      exact mem_typeWords_of_roleIn htype
    | false =>
      rw [(ofText_false text).2.1, sighted, SymbolTable.entries_sightAll] at hmem
      obtain ⟨name, -, rfl⟩ := List.mem_map.mp hmem
      rw [Sighting.summary, Option.mem_def] at htype
      split at htype
      · cases htype
      · rw [Trail.findSome?_pendingType] at htype
        exact mem_typeWords_of_findSome? htype

/-- The class name of a census is an identifier, refined or not. -/
theorem isUnspaced_className (text : String) (refine : Bool) :
    ∀ name ∈ (ofText text refine).className, Text.IsUnspaced name.toList := by
  intro name hname
  have htells := lexemeTells_tokens text
  -- either pass takes the name from an identifier behind the keyword
  obtain ⟨i, hi, hlexeme⟩ : ∃ i, namingAt (Places.tokens (reading text)) i = true ∧
      lexemeAt (Places.tokens (reading text)) i = some name := by
    cases refine with
    | true =>
      rw [className_ofText_true, tokens_ofText, classNameIn_eq_lastLexeme htells] at hname
      exact lastLexeme_eq_some hname
    | false =>
      rw [(ofText_false text).2.2.2] at hname
      have hlast : lastLexeme (Places.tokens (reading text))
          (newClassAt (Places.tokens (reading text))) = some name := hname
      rw [← firstNamingAt_eq_newClassAt htells] at hlast
      obtain ⟨i, hi, hlexeme⟩ := lastLexeme_eq_some hlast
      exact ⟨i, namingAt_of_firstNamingAt hi, hlexeme⟩
  have hmem := mem_identifiers_of_namingAt hi hlexeme
  rw [← tokens_ofText text refine] at hmem
  exact isUnspaced_of_mem_identifiers hmem

/-- **The printed symbols determine the symbols.** The words of the row of an entry are its fields, no
line of the section is broken, and two texts for which the same lines are printed have the same table
and the same class name. -/
theorem symbolSection_ofText (text : String) (refine : Bool) :
    (∀ symbol ∈ (ofText text refine).symbols.entries,
      Text.words (Report.symbolRow symbol) =
        [symbol.name, symbol.role.label, symbol.declaredType.getD "-",
          toString symbol.first.line ++ ":" ++ toString symbol.first.column,
          "occurrences=" ++ toString symbol.sightings]) ∧
    (∀ line ∈ Report.symbolSection (ofText text refine).symbols (ofText text refine).className,
      ∀ c ∈ line.toList, c ∉ Text.lineBreaks) ∧
    ∀ (other : String) (refine' : Bool),
      Report.symbolSection (ofText text refine).symbols (ofText text refine).className =
          Report.symbolSection (ofText other refine').symbols (ofText other refine').className ↔
        (ofText text refine).symbols = (ofText other refine').symbols ∧
          (ofText text refine).className = (ofText other refine').className := by
  have hplain := plain_symbols text refine
  have hname := isUnspaced_className text refine
  refine ⟨fun symbol hmem => Report.words_symbolRow (hplain symbol hmem),
    Report.isLine_symbolSection hplain hname, fun other refine' => ⟨?_, ?_⟩⟩
  · exact Report.symbolSection_inj hplain (plain_symbols other refine') hname
      (isUnspaced_className other refine')
  · rintro ⟨hsymbols, hclass⟩
    rw [hsymbols, hclass]

end Census

end SymbolCensus
