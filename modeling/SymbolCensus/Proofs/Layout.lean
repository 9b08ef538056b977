import SymbolCensus.Proofs.Relocation

/-!
# Writing the tokens of a text anew

The lexemes of a text can be written one after another again, with blanks and comments between them
as one likes, and nothing that the census says but the positions changes. One blank between
neighbours is needed, so that no lexeme runs into the next.

- `Separator`, `Layout`: what may stand between neighbours, and the texts that are written so.
- `Piece.settled`: what a piece becomes when its lexeme is written. A broken string literal gets its
  quotation mark and a numeral loses the point behind it, so nothing is wrong with it any more.
- `Piece.Standing`: pieces that can be followed by a blank or by nothing. `Layout.exists_pieces`
  splits a written text, by induction on the pieces written.
- `Census.layout_independent`: the census of a written text.

A literal that is open behind a single backslash is left out (`EndsInEscape`): its lexeme ends with
an escaped quotation mark and is an open literal again.
-/

namespace SymbolCensus

/-! ## Separators -/

/-- Blanks, line comments each with a newline behind it, and closed block comments. -/
inductive Filler : List Char → Prop
  | nil : Filler []
  | blank {c : Char} {rest : List Char} :
      Lexicon.isBlank c = true → Filler rest → Filler (c :: rest)
  | lineComment {body rest : List Char} :
      '\n' ∉ body → Filler rest → Filler ('/' :: '/' :: (body ++ '\n' :: rest))
  | blockComment {body rest : List Char} :
      CommentBody body → Filler rest → Filler ('/' :: '*' :: (body ++ '*' :: '/' :: rest))

/-- A blank, with blanks and comments behind it. -/
def Separator (text : List Char) : Prop :=
  ∃ c rest, text = c :: rest ∧ Lexicon.isBlank c = true ∧ Filler rest

/-- The text is the lexemes in order, with a separator between neighbours. -/
def Layout : List String → List Char → Prop
  | [], text => text = []
  | [lexeme], text => text = lexeme.toList
  | lexeme :: next :: lexemes, text =>
    ∃ separator rest, text = lexeme.toList ++ (separator ++ rest) ∧ Separator separator ∧
      Layout (next :: lexemes) rest

/-- The text ends in an open string literal, right behind a backslash that takes no character with
it. -/
def EndsInEscape (text : List Char) : Prop :=
  ∃ body, OpenBody body ∧
    (Piece.split text).getLast? = some (.literal ('"' :: (body ++ ['\\'])) .textEnd)

/-- Fillers are gaps without faults, and any pieces that fit can follow them. -/
theorem Filler.exists_gaps {text : List Char} (h : Filler text) :
    ∃ gaps, Piece.spelled gaps = text ∧ (∀ piece ∈ gaps, piece.Gap ∧ piece.fault? = none) ∧
      ∀ pieces, Piece.Fit pieces → Piece.Fit (gaps ++ pieces) := by
  induction h with
  | nil => exact ⟨[], rfl, List.forall_mem_nil _, fun _ hfit => hfit⟩
  | @blank c rest hblank _ ih =>
    obtain ⟨gaps, rfl, hgaps, hfits⟩ := ih
    refine ⟨.blank c :: gaps, rfl, ?_, fun pieces hfit => ⟨hblank, trivial, hfits pieces hfit⟩⟩
    exact List.forall_mem_cons.mpr ⟨⟨rfl, rfl⟩, hgaps⟩
  | @lineComment body rest hbody _ ih =>
    obtain ⟨gaps, rfl, hgaps, hfits⟩ := ih
    refine ⟨.lineComment ('/' :: '/' :: body) :: .blank '\n' :: gaps, rfl, ?_, ?_⟩
    · exact List.forall_mem_cons.mpr ⟨⟨rfl, rfl⟩, List.forall_mem_cons.mpr ⟨⟨rfl, rfl⟩, hgaps⟩⟩
    · intro pieces hfit
      refine ⟨⟨body, rfl, hbody⟩, ?_, rfl, trivial, hfits pieces hfit⟩
      intro c hc
      exact (Option.some.inj hc).symm
  | @blockComment body rest hbody _ ih =>
    obtain ⟨gaps, rfl, hgaps, hfits⟩ := ih
    refine ⟨.blockComment ('/' :: '*' :: (body ++ ['*', '/'])) true :: gaps, ?_, ?_, ?_⟩
    · simp [Piece.text]
    · exact List.forall_mem_cons.mpr ⟨⟨rfl, rfl⟩, hgaps⟩
    · exact fun pieces hfit => ⟨⟨body, rfl, hbody⟩, fun h => absurd h (by decide), hfits pieces hfit⟩

namespace Piece

/-! ## Pieces that can be written -/

/-- What the token of a piece is, wherever the piece stands. -/
def face? (piece : Piece) : Option (TokenKind × String × Option String) :=
  piece.kind?.map fun kind => (kind, piece.lexeme, piece.valueType?)

/-- The piece that its lexeme alone would be. -/
def settled : Piece → Piece
  | literal written .lineEnd => literal (written ++ ['"']) .closed
  | literal written .textEnd => literal (written ++ ['"']) .closed
  | numeral whole fraction _ => numeral whole fraction false
  | piece => piece

/-- The piece is a token as written, nothing is wrong with it, and a blank or the end of the text
may follow it. -/
structure Standing (piece : Piece) : Prop where
  shape : piece.Shape
  stopsAt_blank : ∀ c, Lexicon.isBlank c = true → piece.StopsAt (some c)
  stopsAt_none : piece.StopsAt none
  token : piece.kind? ≠ none
  fault : piece.fault? = none
  lexeme : piece.lexeme.toList = piece.text

theorem standing_literal {body : List Char} (h : OpenBody body) :
    (literal ('"' :: (body ++ ['"'])) .closed).Standing where
  shape := ⟨body, rfl, h⟩
  stopsAt_blank _ _ := trivial
  stopsAt_none := trivial
  token := Option.some_ne_none _
  fault := rfl
  lexeme := String.toList_ofList

/-- A piece that yields a token can be written, unless it is a literal that is open behind a lone
backslash. -/
theorem standing_settled {piece : Piece} (hshape : piece.Shape) (htoken : piece.kind? ≠ none)
    (hend : ∀ body, OpenBody body → piece ≠ .literal ('"' :: (body ++ ['\\'])) .textEnd) :
    piece.settled.Standing := by
  cases piece with
  | blank c => exact absurd rfl htoken
  | lineComment written => exact absurd rfl htoken
  | blockComment written closed => exact absurd rfl htoken
  | word written =>
    refine ⟨hshape, ?_, fun _ h => absurd h (Option.not_mem_none _), htoken, rfl,
      String.toList_ofList⟩
    rintro c hblank d hd
    rw [← Option.some.inj hd]
    exact not_isWordPart_of_isBlank hblank
  | literal written ending =>
    cases ending with
    | closed =>
      obtain ⟨body, rfl, hbody⟩ := hshape
      exact standing_literal hbody
    | lineEnd =>
      obtain ⟨body, rfl, hbody⟩ := hshape
      exact standing_literal hbody
    | textEnd =>
      obtain ⟨body, rfl | rfl, hbody⟩ := hshape
      · exact standing_literal hbody
      · exact absurd rfl (hend body hbody)
  | numeral whole fraction pointFollows =>
    obtain ⟨hne, hwhole, hfraction, -⟩ := hshape
    have hblank : ∀ c, Lexicon.isBlank c = true → c.isDigit = false ∧ c ≠ '.' := by
      intro c hblank
      rcases isBlank_iff.mp hblank with rfl | rfl | rfl | rfl <;> decide
    cases fraction with
    | none =>
      refine ⟨⟨hne, hwhole, hfraction, fun _ => rfl⟩, ?_,
        fun _ h => absurd h (Option.not_mem_none _), htoken, rfl, String.toList_ofList⟩
      rintro c hc d hd
      rw [← Option.some.inj hd]
      exact hblank c hc
    | some digits =>
      refine ⟨⟨hne, hwhole, hfraction, fun _ => rfl⟩, ?_,
        ⟨fun _ h => absurd h (Option.not_mem_none _), rfl⟩, htoken, rfl, String.toList_ofList⟩
      intro c hc
      refine ⟨?_, ?_⟩
      · rintro d hd
        rw [← Option.some.inj hd]
        exact (hblank c hc).1
      · simp [(hblank c hc).2]
  | compound first second =>
    exact ⟨hshape, fun _ _ => trivial, trivial, htoken, rfl, String.toList_ofList⟩
  | mark c =>
    refine ⟨hshape, ?_, fun _ h => absurd h (Option.not_mem_none _), htoken, rfl,
      String.toList_ofList⟩
    rintro d hblank e he
    rw [← Option.some.inj he]
    exact not_isCompound_of_isBlank hblank

theorem lexeme_settled (piece : Piece) : piece.settled.lexeme = piece.lexeme := by
  unfold settled
  split
  · rfl
  · rfl
  next whole fraction pointFollows =>
    cases fraction with
    | none => rfl
    | some digits => rfl
  · rfl

/-- The token of a piece is that of its lexeme. -/
theorem face?_settled (piece : Piece) : piece.settled.face? = piece.face? := by
  unfold settled
  split
  · rfl
  · rfl
  next whole fraction pointFollows =>
    cases fraction with
    | none => rfl
    | some digits => rfl
  · rfl

end Piece

/-! ## Splitting a written text -/

/-- A written text splits into the pieces written and gaps, with nothing wrong about any of them. -/
theorem Layout.exists_pieces {pieces : List Piece} {text : List Char}
    (h : Layout (pieces.map Piece.lexeme) text) (hstanding : ∀ piece ∈ pieces, piece.Standing) :
    ∃ laid, Piece.spelled laid = text ∧ Piece.Fit laid ∧ (∀ piece ∈ laid, piece.fault? = none) ∧
      laid.filterMap Piece.face? = pieces.filterMap Piece.face? := by
  induction pieces generalizing text with
  | nil =>
    obtain rfl : text = [] := h
    exact ⟨[], rfl, trivial, List.forall_mem_nil _, rfl⟩
  | cons piece pieces ih =>
    obtain ⟨hpiece, hpieces⟩ := List.forall_mem_cons.mp hstanding
    cases pieces with
    | nil =>
      obtain rfl : text = piece.lexeme.toList := h
      refine ⟨[piece], ?_, ⟨hpiece.shape, hpiece.stopsAt_none, trivial⟩, ?_, rfl⟩
      · rw [Piece.spelled_cons, Piece.spelled_nil, List.append_nil, hpiece.lexeme]
      · exact List.forall_mem_singleton.mpr hpiece.fault
    | cons next pieces =>
      -- the blank ends the piece, and the filler splits the same way before whatever comes next
      obtain ⟨_, rest, rfl, ⟨c, filler, rfl, hblank, hfiller⟩, hrest⟩ := h
      obtain ⟨laid, hspelled, hfit, hfaults, hfaces⟩ := ih hrest hpieces
      obtain ⟨gaps, rfl, hgaps, hfits⟩ := hfiller.exists_gaps
      refine ⟨piece :: .blank c :: (gaps ++ laid), ?_, ?_, ?_, ?_⟩
      · rw [Piece.spelled_cons, Piece.spelled_cons, Piece.spelled_append, hspelled, hpiece.lexeme]
        rfl
      · exact ⟨hpiece.shape, hpiece.stopsAt_blank c hblank, hblank, trivial, hfits laid hfit⟩
      · refine List.forall_mem_cons.mpr ⟨hpiece.fault, List.forall_mem_cons.mpr ⟨rfl, ?_⟩⟩
        intro other hother
        rcases List.mem_append.mp hother with hother | hother
        · exact (hgaps other hother).2
        · exact hfaults other hother
      · -- blanks and gaps have no face
        have hnone : gaps.filterMap Piece.face? = [] := by
          refine List.filterMap_eq_nil_iff.mpr fun gap hgap => ?_
          rw [Piece.face?, (hgaps gap hgap).1]
          rfl
        have hblankFace : (Piece.blank c).face? = none := rfl
        rw [List.filterMap_cons, List.filterMap_cons, List.filterMap_append, hnone, hblankFace,
          hfaces, List.nil_append]
        rfl

/-! ## From pieces to the census -/

/-- The tokens of places, but for their positions, are read off the pieces. -/
theorem map_face_tokens (before : List Char) (pieces : List Piece) :
    (Places.tokens (places before pieces)).map Token.face = pieces.filterMap Piece.face? := by
  induction pieces generalizing before with
  | nil => rfl
  | cons piece pieces ih =>
    have ih := ih (before ++ piece.text)
    unfold Places.tokens at ih ⊢
    rw [places, List.filterMap_cons, List.filterMap_cons, ← ih, Place.token?, Piece.token?,
      Piece.face?]
    dsimp only
    cases piece.kind? with
    | none => rfl
    | some kind => rfl

/-- Where nothing is wrong with a piece there is no diagnostic. -/
theorem diagnostics_places_eq_nil {before : List Char} {pieces : List Piece}
    (h : ∀ piece ∈ pieces, piece.fault? = none) :
    Places.diagnostics (places before pieces) = [] := by
  refine List.filterMap_eq_nil_iff.mpr fun place hmem => ?_
  rw [Place.diagnostic?, h _ (Places.spans_places place hmem).2.2]
  rfl

/-- The lexemes of the tokens are those of the pieces that yield them. -/
theorem map_lexeme_tokens (text : String) (refine : Bool) :
    (Census.ofText text refine).tokens.map (·.lexeme) =
      ((Piece.split text.toList).filter (·.kind?.isSome)).map Piece.lexeme := by
  have hfaces := map_face_tokens [] (Piece.split text.toList)
  have hlexemes := congrArg (List.map (·.2.1)) hfaces
  rw [List.map_map] at hlexemes
  rw [Census.tokens_ofText, reading]
  refine hlexemes.trans ?_
  generalize Piece.split text.toList = pieces
  induction pieces with
  | nil => rfl
  | cons piece pieces ih =>
    rw [List.filterMap_cons, Piece.face?, List.filter_cons]
    cases piece.kind? with
    | none => exact ih
    | some kind => exact congrArg (piece.lexeme :: ·) ih

/-- An open string literal is the last piece of its text. -/
theorem getLast?_of_openLiteral {pieces : List Piece} {written : List Char}
    (hfit : Piece.Fit pieces) (hmem : .literal written .textEnd ∈ pieces) :
    pieces.getLast? = some (.literal written .textEnd) := by
  obtain ⟨before, after, rfl⟩ := List.append_of_mem hmem
  obtain ⟨-, hstops, hafter⟩ := Piece.fit_append_right hfit
  -- a piece behind it would give it a next character
  have hnil : after = [] := hafter.eq_nil_of_spelled (List.head?_eq_none_iff.mp hstops)
  rw [hnil, List.getLast?_concat]

/-- All pieces of a text that yield tokens can be written. -/
theorem standing_settled_of_split {text : List Char} (hend : ¬ EndsInEscape text) {piece : Piece}
    (hmem : piece ∈ Piece.split text) (htoken : piece.kind? ≠ none) : piece.settled.Standing := by
  refine Piece.standing_settled ((Piece.fit_split _).shape piece hmem) htoken ?_
  rintro body hbody rfl
  exact hend ⟨body, hbody, getLast?_of_openLiteral (Piece.fit_split _) hmem⟩

/-- Writing the pieces that yield tokens keeps all faces, since the others have none. -/
theorem filterMap_face?_settled (pieces : List Piece) :
    ((pieces.filter (·.kind?.isSome)).map Piece.settled).filterMap Piece.face? =
      pieces.filterMap Piece.face? := by
  have hface : Piece.face? ∘ Piece.settled = Piece.face? := funext Piece.face?_settled
  rw [List.filterMap_map, hface, List.filterMap_filter]
  refine List.filterMap_congr fun piece _ => ?_
  rw [Piece.face?]
  cases piece.kind? with
  | none => rfl
  | some kind => rfl

namespace Census

/-- **Layout independence.** A text that is written from the lexemes of another one has the same
tokens, nothing wrong with it, the same class and the same symbols; only positions differ. -/
theorem layout_independent {text : String} {written : List Char}
    (hend : ¬ EndsInEscape text.toList)
    (hlayout : Layout ((ofText text true).tokens.map (·.lexeme)) written) :
    (∀ refine, (ofText (String.ofList written) refine).tokens.map Token.face =
        (ofText text refine).tokens.map Token.face ∧
      (ofText (String.ofList written) refine).diagnostics = []) ∧
    (ofText (String.ofList written) true).className = (ofText text true).className ∧
    (ofText (String.ofList written) true).symbols.entries.map Symbol.unplaced =
      (ofText text true).symbols.entries.map Symbol.unplaced := by
  generalize hpieces : (Piece.split text.toList).filter (·.kind?.isSome) = pieces
  have hstanding : ∀ piece ∈ pieces.map Piece.settled, piece.Standing := by
    rw [List.forall_mem_map, ← hpieces]
    intro piece hmem
    obtain ⟨hmem, htoken⟩ := List.mem_filter.mp hmem
    exact standing_settled_of_split hend hmem (Option.isSome_iff_ne_none.mp htoken)
  have hwritten : Layout ((pieces.map Piece.settled).map Piece.lexeme) written := by
    rw [map_lexeme_tokens, hpieces] at hlayout
    have hlexeme : Piece.lexeme ∘ Piece.settled = Piece.lexeme := funext Piece.lexeme_settled
    rw [List.map_map, hlexeme]
    exact hlayout
  obtain ⟨laid, rfl, hfit, hfaults, hfaces⟩ := hwritten.exists_pieces hstanding
  have hsplit : Piece.split (String.ofList (Piece.spelled laid)).toList = laid := by
    rw [String.toList_ofList, Piece.split_spelled hfit]
  have htokens : ∀ refine, (ofText (String.ofList (Piece.spelled laid)) refine).tokens.map
      Token.face = (ofText text refine).tokens.map Token.face := by
    intro refine
    rw [tokens_ofText, tokens_ofText, reading, reading, map_face_tokens, map_face_tokens, hsplit,
      hfaces, ← hpieces, filterMap_face?_settled]
  have hdiagnostics : ∀ refine,
      (ofText (String.ofList (Piece.spelled laid)) refine).diagnostics = [] := by
    intro refine
    rw [diagnostics_ofText, reading, hsplit, diagnostics_places_eq_nil hfaults]
  exact ⟨fun refine => ⟨htokens refine, hdiagnostics refine⟩, eq_but_positions (htokens true)⟩

/-- A call with a broken literal, written with a block comment, a line comment and the quotation
mark that is missing. -/
theorem layout_independent_call :
    let text := "f(\"a"
    let written := "f /*c*/( //d\n\"a\"".toList
    ¬ EndsInEscape text.toList ∧ Layout ((ofText text true).tokens.map (·.lexeme)) written ∧
      (∀ refine, (ofText (String.ofList written) refine).tokens.map Token.face =
          (ofText text refine).tokens.map Token.face ∧
        (ofText (String.ofList written) refine).diagnostics = []) ∧
      (ofText (String.ofList written) true).className = (ofText text true).className ∧
      (ofText (String.ofList written) true).symbols.entries.map Symbol.unplaced =
        (ofText text true).symbols.entries.map Symbol.unplaced := by
  intro text written
  have hsplit : Piece.split text.toList =
      [.word ['f'], .mark '(', .literal ['"', 'a'] .textEnd] := by
    have hbody : OpenBody ['a'] := .plain (by decide) (by decide) (by decide) .nil
    refine Piece.split_eq_iff.mpr ⟨by decide, ⟨'f', [], rfl, by decide, List.forall_mem_nil _⟩, ?_,
      ⟨by decide, by decide, by decide, by decide⟩, ?_, ⟨['a'], .inl rfl, hbody⟩, rfl, trivial⟩
    · intro c hc
      rw [← Option.some.inj hc]
      decide
    · intro c hc
      rw [← Option.some.inj hc]
      decide
  have hend : ¬ EndsInEscape text.toList := by
    rintro ⟨body, -, hlast⟩
    rw [hsplit, List.getLast?_cons_cons, List.getLast?_cons_cons, List.getLast?_singleton] at hlast
    cases body with
    | nil => cases hlast
    | cons c body => simp at hlast
  have hlayout : Layout ((ofText text true).tokens.map (·.lexeme)) written := by
    rw [map_lexeme_tokens, hsplit]
    have hblock : Filler ('/' :: '*' :: (['c'] ++ ['*', '/'])) := by
      refine .blockComment ?_ .nil
      rw [CommentBody]
      decide
    have hline : Filler ('/' :: '/' :: (['d'] ++ ['\n'])) := .lineComment (by decide) .nil
    have hlast : "\"a\"".toList = (Piece.literal ['"', 'a'] .textEnd).lexeme.toList := by decide
    exact ⟨" /*c*/".toList, "( //d\n\"a\"".toList, by decide, ⟨' ', _, by decide, by decide, hblock⟩,
      " //d\n".toList, "\"a\"".toList, by decide, ⟨' ', _, by decide, by decide, hline⟩, hlast⟩
  exact ⟨hend, hlayout, layout_independent hend hlayout⟩

end Census

end SymbolCensus
