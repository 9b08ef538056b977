import SymbolCensus.Proofs.ClosedLiteral
import SymbolCensus.Proofs.Column
import SymbolCensus.Report.Table

/-!
# Reading printed tokens back

A row of the token table shows a lexeme between quotation marks without escaping anything, fields may
be wider than their columns, and the rows of string literals can go on over several lines. The printed
section determines the tokens of a text all the same, since lexemes are not arbitrary.

- `Quotable`, `unquoted`: the lexemes of a text, and how one is found again behind the mark that opens
  it, whatever follows (`unquoted_append`). A literal is read as in a source text; only a lexeme that
  ends right behind a lone backslash has its last mark taken for the one of the row.
- `Report.exists_toList_tokenRow`: the fields of a row, with the spaces between them.
- `Report.tokenRow_append_inj`: the token at the front of some rows is determined, and so is what
  follows it.
- `Census.tokenSection_inj_iff`: by induction on the rows, the whole section.
-/

namespace SymbolCensus

/-! ## Lexemes between quotation marks -/

/-- What a lexeme of a text can be: some characters without a quotation mark, or a string literal,
whose last mark may stand behind a lone backslash. -/
inductive Quotable : List Char → Prop
  | plain {lexeme : List Char} : lexeme ≠ [] → '"' ∉ lexeme → Quotable lexeme
  | closed {body : List Char} : OpenBody body → Quotable ('"' :: (body ++ ['"']))
  | escaped {body : List Char} : OpenBody body → Quotable ('"' :: (body ++ ['\\', '"']))

/-- The lexeme at the front of a text, where a mark and a space follow it, and what comes behind
them. -/
def unquoted : List Char → List Char × List Char
  | '"' :: behind =>
    let body := (Piece.literalBody behind).1
    match behind.drop body.length with
    | '"' :: ' ' :: rest => ('"' :: body, rest)
    | rest => ('"' :: body.dropLast, rest.drop 1)
  | text => (text.takeWhile (· != '"'), (text.dropWhile (· != '"')).drop 2)

/-- **A lexeme is found again**, whatever follows the mark and the space behind it. -/
theorem unquoted_append {lexeme : List Char} (h : Quotable lexeme) (rest : List Char) :
    unquoted (lexeme ++ '"' :: ' ' :: rest) = (lexeme, rest) := by
  cases h with
  | plain hne hmark =>
    have hlexeme := Text.bne_mark hmark
    have hstop := Text.stop_cons (p := (· != '"')) (c := '"') rfl (' ' :: rest)
    obtain ⟨c, more, rfl⟩ := List.exists_cons_of_ne_nil hne
    have hfirst : c ≠ '"' := fun hc => hmark (hc ▸ List.mem_cons_self ..)
    rw [List.cons_append, unquoted.eq_2 _ fun behind hbehind => hfirst (List.cons.inj hbehind).1,
      ← List.cons_append, Piece.takeWhile_append_stop hlexeme hstop,
      Piece.dropWhile_append_stop hlexeme hstop]
    rfl
  | @closed body hbody =>
    have hread : (Piece.literalBody (body ++ '"' :: '"' :: ' ' :: rest)).1 = body ++ ['"'] := by
      rw [Piece.literalBody_append hbody]
      rfl
    have hsplit : body ++ '"' :: '"' :: ' ' :: rest = (body ++ ['"']) ++ '"' :: ' ' :: rest := by simp
    have htext : '"' :: (body ++ ['"']) ++ '"' :: ' ' :: rest =
        '"' :: (body ++ '"' :: '"' :: ' ' :: rest) := by simp
    rw [htext, unquoted, hread, hsplit, List.drop_left]
    rfl
  | @escaped body hbody =>
    -- the mark of the row closes the literal, and the space stands right behind it
    have hread : (Piece.literalBody (body ++ '\\' :: '"' :: '"' :: ' ' :: rest)).1 =
        body ++ ['\\', '"', '"'] := by
      rw [Piece.literalBody_append hbody]
      rfl
    have hsplit : body ++ '\\' :: '"' :: '"' :: ' ' :: rest =
        (body ++ ['\\', '"', '"']) ++ ' ' :: rest := by simp
    have htext : '"' :: (body ++ ['\\', '"']) ++ '"' :: ' ' :: rest =
        '"' :: (body ++ '\\' :: '"' :: '"' :: ' ' :: rest) := by simp
    have hlast : (body ++ ['\\', '"', '"']).dropLast = body ++ ['\\', '"'] := by
      rw [List.dropLast_append_of_ne_nil (List.cons_ne_nil _ _)]
      rfl
    rw [htext, unquoted, hread, hsplit, List.drop_left, hlast]
    rfl

/-- The lexeme of a literal that the text ends behind a lone backslash. -/
example :
    unquoted "\"b\\\"\" Constant".toList = ("\"b\\\"".toList, "Constant".toList) := by
  decide +kernel

/-- Two rows that are equal have the same lexeme between their first marks. -/
theorem eq_of_quoted {lexeme lexeme' rest rest' : List Char} (h : Quotable lexeme)
    (h' : Quotable lexeme') (heq : lexeme ++ '"' :: ' ' :: rest = lexeme' ++ '"' :: ' ' :: rest') :
    lexeme = lexeme' ∧ rest = rest' := by
  have hread := congrArg unquoted heq
  rw [unquoted_append h, unquoted_append h'] at hread
  exact Prod.mk.inj hread

/-! ## Rows -/

/-- What a row needs of a token to show it so that it can be read back. -/
structure Token.Readable (token : Token) : Prop where
  lexeme : Quotable token.lexeme.toList
  valueType : ∀ type ∈ token.valueType, type ≠ "" ∧ '>' ∉ type.toList

/-- The end of a row: nothing, or the type of a value behind some spaces. -/
inductive TypeField : Option String → List Char → Prop
  | none : TypeField none []
  | some (type : String) (count : Nat) :
      TypeField (some type) (List.replicate (count + 1) ' ' ++ '<' :: (type.toList ++ ['>']))

section TypeField

variable {rest rest' : List Char}

/-- What follows the kind does not go on with it. -/
theorem TypeField.head?_append {valueType : Option String} {ending : List Char}
    (h : TypeField valueType ending) (hrest : ∀ c ∈ rest.head?, c = '\n') :
    ∀ c ∈ (ending ++ rest).head?, c.isAlpha = false := by
  intro c hc
  cases h with
  | none => rw [hrest c hc]; decide
  | some type count =>
    obtain rfl : ' ' = c := Option.some.inj hc
    decide

/-- Two rows that are equal behind the kind show the same type, if they end there or a newline
follows. -/
theorem TypeField.append_inj {valueType valueType' : Option String} {ending ending' : List Char}
    (h : TypeField valueType ending) (h' : TypeField valueType' ending')
    (htype : ∀ type ∈ valueType, '>' ∉ type.toList)
    (htype' : ∀ type ∈ valueType', '>' ∉ type.toList)
    (hrest : ∀ c ∈ rest.head?, c = '\n') (hrest' : ∀ c ∈ rest'.head?, c = '\n')
    (heq : ending ++ rest = ending' ++ rest') : valueType = valueType' ∧ rest = rest' := by
  cases h with
  | none =>
    cases h' with
    | none => exact ⟨rfl, heq⟩
    | some type' count' =>
      have hhead : rest.head? = .some ' ' := congrArg List.head? heq
      exact absurd (hrest _ hhead) (by decide)
  | some type count =>
    cases h' with
    | none =>
      have hhead : rest'.head? = .some ' ' := (congrArg List.head? heq).symm
      exact absurd (hrest' _ hhead) (by decide)
    | some type' count' =>
      rw [List.append_assoc, List.append_assoc] at heq
      have hbehind : type.toList ++ ['>'] ++ rest = type'.toList ++ ['>'] ++ rest' :=
        (List.cons.inj (Text.eq_behind_spaces (by simp) (by simp) heq)).2
      rw [List.append_assoc, List.append_assoc] at hbehind
      obtain ⟨hsame, hrest⟩ := Text.eq_of_append_mark (htype type rfl) (htype' type' rfl) hbehind
      rw [String.toList_inj.mp hsame]
      exact ⟨rfl, hrest⟩

end TypeField

namespace Report

open Text

/-- A row up to the kind of the token. -/
def rowHead (token : Token) : String :=
  rightAligned 3 (toString token.position.line) ++ ":" ++
    leftAligned 3 (toString token.position.column) ++ "  " ++
    leftAligned 30 ("\"" ++ token.lexeme ++ "\"") ++ " "

/-- The spaces that fill a column up and those between two columns are one run. -/
theorem replicate_append_space (count : Nat) (rest : List Char) :
    List.replicate count ' ' ++ ' ' :: rest = ' ' :: (List.replicate count ' ' ++ rest) := by
  rw [List.append_cons, ← List.replicate_succ', List.replicate_succ, List.cons_append]

/-- The fields of a token up to its kind, with some spaces before them and between them. -/
def spaced (indent gap fill : Nat) (token : Token) (ending : List Char) : List Char :=
  List.replicate indent ' ' ++ ((toString token.position.line).toList ++ ':' ::
    ((toString token.position.column).toList ++ ' ' :: (List.replicate gap ' ' ++ '"' ::
      (token.lexeme.toList ++ '"' :: ' ' :: (List.replicate fill ' ' ++ ending)))))

theorem spaced_append (indent gap fill : Nat) (token : Token) (ending rest : List Char) :
    spaced indent gap fill token ending ++ rest = spaced indent gap fill token (ending ++ rest) := by
  simp only [spaced, List.append_assoc, List.cons_append]

theorem exists_toList_rowHead (token : Token) :
    ∃ indent gap fill, ∀ ending, (rowHead token).toList ++ ending =
      spaced indent gap fill token ending := by
  have hline := toList_rightAligned 3 (toString token.position.line)
  have hcolumn := toList_leftAligned 3 (toString token.position.column)
  have hlexeme := toList_leftAligned 30 ("\"" ++ token.lexeme ++ "\"")
  generalize 3 - (toString token.position.line).toList.length = indent at hline
  generalize 3 - (toString token.position.column).toList.length = gap at hcolumn
  generalize 30 - ("\"" ++ token.lexeme ++ "\"").toList.length = fill at hlexeme
  refine ⟨indent, gap + 1, fill, fun ending => ?_⟩
  have hcolon : ":".toList = [':'] := rfl
  have hspace : " ".toList = [' '] := rfl
  have hspaces : "  ".toList = [' ', ' '] := rfl
  have hmark : "\"".toList = ['"'] := rfl
  simp only [rowHead, spaced, String.toList_append, hline, hcolumn, hlexeme, hcolon, hspace, hspaces,
    hmark, List.append_assoc, List.cons_append, List.nil_append, replicate_append_space,
    List.replicate_succ]

theorem tokenRow_of_none {token : Token} (h : token.valueType = none) :
    tokenRow token = withoutTrailingSpaces (rowHead token ++ leftAligned 12 token.kind.label) := by
  unfold tokenRow
  rw [h]
  exact congrArg withoutTrailingSpaces (String.append_empty ..)

theorem tokenRow_of_some {token : Token} {type : String} (h : token.valueType = some type)
    (hne : type ≠ "") :
    tokenRow token = withoutTrailingSpaces
      (rowHead token ++ leftAligned 12 token.kind.label ++ (" <" ++ type ++ ">")) := by
  unfold tokenRow
  rw [h]
  split
  next hnone => cases hnone
  next hempty => exact absurd (Option.some.inj hempty) hne
  next other hother => rw [← Option.some.inj hother]; rfl

/-- The name of a kind ends in a letter. -/
theorem exists_getLast?_label (kind : TokenKind) :
    ∃ c, kind.label.toList.getLast? = some c ∧ c ≠ ' ' := by
  cases kind <;> exact ⟨_, rfl, by decide⟩

/-- **The fields of a row.** They stand in it one behind the other, with spaces between them, and
nothing stands behind the kind of a token that has no type. -/
theorem exists_toList_tokenRow {token : Token} (h : token.Readable) :
    ∃ indent gap fill ending,
      (tokenRow token).toList =
        spaced indent gap fill token (token.kind.label.toList ++ ending) ∧
      TypeField token.valueType ending := by
  obtain ⟨indent, gap, fill, hhead⟩ := exists_toList_rowHead token
  refine ⟨indent, gap, fill, ?_⟩
  simp only [← hhead]
  have hlabel := toList_leftAligned 12 token.kind.label
  generalize 12 - token.kind.label.toList.length = count at hlabel
  cases htype : token.valueType with
  | none =>
    -- the spaces behind the kind are cut off
    have hrow : (rowHead token ++ leftAligned 12 token.kind.label).toList =
        ((rowHead token).toList ++ token.kind.label.toList) ++ List.replicate count ' ' := by
      rw [String.toList_append, hlabel, List.append_assoc]
    have hstripped := toList_withoutTrailingSpaces hrow ?_
    · rw [← tokenRow_of_none htype] at hstripped
      exact ⟨[], by rw [hstripped, List.append_nil], .none⟩
    · obtain ⟨c, hlast, hc⟩ := exists_getLast?_label token.kind
      rw [List.getLast?_append, hlast]
      exact fun d hd => Option.some.inj hd ▸ hc
  | some type =>
    have hne := (h.valueType type htype).1
    have hrow : (rowHead token ++ leftAligned 12 token.kind.label ++ (" <" ++ type ++ ">")).toList =
        ((rowHead token).toList ++ (token.kind.label.toList ++
          (List.replicate (count + 1) ' ' ++ '<' :: (type.toList ++ ['>'])))) ++
          List.replicate 0 ' ' := by
      have hopen : " <".toList = [' ', '<'] := rfl
      have hclose : ">".toList = ['>'] := rfl
      simp only [String.toList_append, hlabel, hopen, hclose, List.append_assoc, List.cons_append,
        List.nil_append, replicate_append_space, List.replicate_succ, List.replicate_zero,
        List.append_nil]
    have hstripped := toList_withoutTrailingSpaces hrow (by simp [List.getLast?_cons])
    rw [← tokenRow_of_some htype hne] at hstripped
    exact ⟨_, hstripped, .some type count⟩

section Rows

variable {rest rest' : List Char}

/-- The fields up to the kind are found one after the other, each from the character at which the one
before it ends. -/
theorem spaced_inj {indent indent' gap gap' fill fill' : Nat} {token token' : Token}
    (h : Quotable token.lexeme.toList) (h' : Quotable token'.lexeme.toList)
    (hrest : ∀ c ∈ rest.head?, c ≠ ' ') (hrest' : ∀ c ∈ rest'.head?, c ≠ ' ')
    (heq : spaced indent gap fill token rest = spaced indent' gap' fill' token' rest') :
    token.position = token'.position ∧ token.lexeme = token'.lexeme ∧ rest = rest' := by
  have hnumber : ∀ (n : Int) (more : List Char),
      ∀ c ∈ ((toString n).toList ++ more).head?, c ≠ ' ' := by
    rintro n more c hc rfl
    exact absurd (isNumberPart_of_head? ' ' hc) (by decide)
  have hbehind := eq_behind_spaces (hnumber _ _) (hnumber _ _) heq
  obtain ⟨hline, hbehind⟩ := eq_of_number (stop_cons rfl _) (stop_cons rfl _) hbehind
  obtain ⟨hcolumn, hbehind⟩ := eq_of_number (stop_cons rfl _) (stop_cons rfl _)
    (List.cons.inj hbehind).2
  have hbehind := eq_behind_spaces (by simp) (by simp) (List.cons.inj hbehind).2
  obtain ⟨hlexeme, hbehind⟩ := eq_of_quoted h h' (List.cons.inj hbehind).2
  refine ⟨?_, String.toList_inj.mp hlexeme, eq_behind_spaces hrest hrest' hbehind⟩
  show (⟨token.position.line, token.position.column⟩ : Position) = ⟨_, _⟩
  rw [hline, hcolumn]

/-- The kind of a token is told by its name. -/
theorem label_inj {kind kind' : TokenKind} (h : kind.label = kind'.label) : kind = kind' := by
  have hfound := TokenKind.ofLabel_label kind
  rw [h, TokenKind.ofLabel_label] at hfound
  exact (Except.ok.inj hfound).symm

theorem isAlpha_of_mem_label {kind : TokenKind} : ∀ c ∈ kind.label.toList, c.isAlpha = true := by
  refine List.all_eq_true.mp ?_
  cases kind <;> rfl

theorem head?_label_append (kind : TokenKind) (more : List Char) :
    ∀ c ∈ (kind.label.toList ++ more).head?, c ≠ ' ' := by
  intro c hc
  cases kind <;> (obtain rfl := Option.some.inj hc; decide)

/-- **The token of a row is determined, and so is what follows the row.** -/
theorem tokenRow_append_inj {token token' : Token} (h : token.Readable) (h' : token'.Readable)
    (hrest : ∀ c ∈ rest.head?, c = '\n') (hrest' : ∀ c ∈ rest'.head?, c = '\n')
    (heq : (tokenRow token).toList ++ rest = (tokenRow token').toList ++ rest') :
    token = token' ∧ rest = rest' := by
  obtain ⟨indent, gap, fill, ending, hrow, hending⟩ := exists_toList_tokenRow h
  obtain ⟨indent', gap', fill', ending', hrow', hending'⟩ := exists_toList_tokenRow h'
  rw [hrow, hrow', spaced_append, spaced_append, List.append_assoc, List.append_assoc] at heq
  obtain ⟨hposition, hlexeme, hbehind⟩ := spaced_inj h.lexeme h'.lexeme (head?_label_append _ _)
    (head?_label_append _ _) heq
  -- the name of the kind ends before a space, a newline or the end
  obtain ⟨hlabel, hbehind⟩ := eq_of_append_stop isAlpha_of_mem_label (hending.head?_append hrest)
    isAlpha_of_mem_label (hending'.head?_append hrest') hbehind
  obtain ⟨htype, hbehind⟩ := hending.append_inj hending' (fun type ht => (h.valueType type ht).2)
    (fun type ht => (h'.valueType type ht).2) hrest hrest' hbehind
  have hkind := label_inj (String.toList_inj.mp hlabel)
  refine ⟨?_, hbehind⟩
  show (⟨token.kind, token.lexeme, token.position, token.valueType⟩ : Token) = ⟨_, _, _, _⟩
  rw [hkind, hlexeme, hposition, htype]

end Rows

/-! ## The section -/

/-- The rows of some tokens, each with a newline before it. -/
def rowsText (tokens : List Token) : List Char :=
  tokens.flatMap fun token => '\n' :: (tokenRow token).toList

theorem rowsText_cons (token : Token) (tokens : List Token) :
    rowsText (token :: tokens) = '\n' :: ((tokenRow token).toList ++ rowsText tokens) := by
  rw [rowsText, List.flatMap_cons, List.cons_append]
  rfl

theorem head?_rowsText (tokens : List Token) : ∀ c ∈ (rowsText tokens).head?, c = '\n' := by
  intro c hc
  cases tokens with
  | nil => cases hc
  | cons token tokens => exact (Option.some.inj hc).symm

/-- **The rows determine the tokens**, by induction on the rows. -/
theorem rowsText_inj {tokens tokens' : List Token} (h : ∀ token ∈ tokens, token.Readable)
    (h' : ∀ token ∈ tokens', token.Readable) (heq : rowsText tokens = rowsText tokens') :
    tokens = tokens' := by
  induction tokens generalizing tokens' with
  | nil =>
    cases tokens' with
    | nil => rfl
    | cons token' tokens' => cases heq
  | cons token tokens ih =>
    cases tokens' with
    | nil => cases heq
    | cons token' tokens' =>
      obtain ⟨htoken, htokens⟩ := List.forall_mem_cons.mp h
      obtain ⟨htoken', htokens'⟩ := List.forall_mem_cons.mp h'
      rw [rowsText_cons, rowsText_cons] at heq
      obtain ⟨rfl, hbehind⟩ := tokenRow_append_inj htoken htoken' (head?_rowsText tokens)
        (head?_rowsText tokens') (List.cons.inj heq).2
      rw [ih htokens htokens' hbehind]

/-- Lines joined by newlines are the first line and the others, each with a newline before it. -/
theorem intercalate_rows (line : List Char) (tokens : List Token) :
    ['\n'].intercalate (line :: tokens.map fun token => (tokenRow token).toList) =
      line ++ rowsText tokens := by
  induction tokens generalizing line with
  | nil =>
    rw [List.map_nil, List.intercalate_singleton]
    exact (List.append_nil line).symm
  | cons token tokens ih =>
    rw [List.map_cons, List.intercalate_cons_cons, ih, rowsText_cons, List.append_assoc,
      List.singleton_append]

/-- The printed section is its heading with the rows behind it. -/
theorem toList_tokenSection (tokens : List Token) :
    ("\n".intercalate (tokenSection tokens)).toList =
      "=== Tokens ===".toList ++ rowsText tokens := by
  rw [String.toList_intercalate, tokenSection, List.map_cons, List.map_map, ← intercalate_rows]
  rfl

end Report

/-! ## The tokens of a text -/

namespace Piece

/-- Only string literals have a quotation mark in them. -/
theorem mark_not_mem_text {piece : Piece} (hshape : piece.Shape) (htoken : piece.kind? ≠ none)
    (hliteral : piece.valueType? ≠ some "string") : '"' ∉ piece.text := by
  cases piece with
  | blank c => exact absurd rfl htoken
  | lineComment written => exact absurd rfl htoken
  | blockComment written closed => exact absurd rfl htoken
  | word written =>
    obtain ⟨c, rest, rfl, hstart, hrest⟩ := hshape
    intro hmem
    rcases List.mem_cons.mp hmem with rfl | hmem
    · exact absurd hstart (by decide)
    · exact absurd (hrest '"' hmem) (by decide)
  | literal written ending => exact absurd rfl hliteral
  | numeral whole fraction pointFollows =>
    obtain ⟨-, hwhole, hfraction, -⟩ := hshape
    intro hmem
    cases fraction with
    | none => exact absurd (hwhole '"' hmem) (by decide)
    | some digits =>
      rcases List.mem_append.mp hmem with hmem | hmem
      · exact absurd (hwhole '"' hmem) (by decide)
      rcases List.mem_cons.mp hmem with hmem | hmem
      · exact absurd hmem (by decide)
      · exact absurd (hfraction '"' hmem) (by decide)
  | compound first second =>
    -- the operators are few enough to look at each
    have hnone : ∀ operator ∈ Lexicon.compoundOperators.map String.toList, '"' ∉ operator := by decide
    exact hnone _ (mem_of_isCompound hshape)
  | mark c => exact fun hmem => hshape.2.2.1 (List.mem_singleton.mp hmem).symm

theorem readable_valueType? (piece : Piece) :
    ∀ type ∈ piece.valueType?, type ≠ "" ∧ '>' ∉ type.toList := by
  intro type htype
  cases piece with
  | literal written ending => obtain rfl := Option.some.inj htype; decide
  | numeral whole fraction pointFollows =>
    cases fraction with
    | none => obtain rfl := Option.some.inj htype; decide
    | some digits => obtain rfl := Option.some.inj htype; decide
  | _ => cases htype

end Piece

namespace Census

/-- The tokens of a text can be read back from their rows. -/
theorem readable_tokens (text : String) (refine : Bool) :
    ∀ token ∈ (ofText text refine).tokens, token.Readable := by
  intro token hmem
  have hplaces := hmem
  rw [tokens_ofText] at hplaces
  obtain ⟨place, hplace, hyields⟩ := List.mem_filterMap.mp hplaces
  have hshape := fit_reading text hplace
  have htoken : place.piece.kind? ≠ none := by
    intro hnone
    rw [Place.token?, Piece.token?, hnone] at hyields
    cases hyields
  obtain ⟨htype, hlexeme⟩ :
      token.valueType = place.piece.valueType? ∧ token.lexeme = place.piece.lexeme := by
    obtain ⟨kind, -, rfl⟩ := Option.map_eq_some_iff.mp hyields
    exact ⟨rfl, rfl⟩
  constructor
  case lexeme =>
    by_cases hstring : token.valueType = some "string"
    · obtain ⟨-, body, hbody, ⟨hclosed, -⟩ | ⟨hescaped, -⟩⟩ := literal_cases hmem hstring
      · exact hclosed ▸ .closed hbody
      · exact hescaped ▸ .escaped hbody
    · rw [htype] at hstring
      rw [hlexeme, Piece.toList_lexeme_of_valueType? hstring]
      exact .plain hshape.text_ne_nil (Piece.mark_not_mem_text hshape htoken hstring)
  case valueType =>
    rw [htype]
    exact place.piece.readable_valueType?

/-- **The printed tokens determine the tokens.** Two texts whose token sections are the same, joined
line by line, have the same tokens at the same positions. -/
theorem tokenSection_inj_iff (text other : String) (refine refine' : Bool) :
    "\n".intercalate (Report.tokenSection (ofText text refine).tokens) =
        "\n".intercalate (Report.tokenSection (ofText other refine').tokens) ↔
      (ofText text refine).tokens = (ofText other refine').tokens := by
  constructor
  · intro hprinted
    have hrows := congrArg String.toList hprinted
    rw [Report.toList_tokenSection, Report.toList_tokenSection] at hrows
    exact Report.rowsText_inj (readable_tokens text refine) (readable_tokens other refine')
      (List.append_cancel_left hrows)
  · intro htokens
    rw [htokens]

end Census

end SymbolCensus
