import SymbolCensus.Proofs.Coverage

/-!
# Texts one behind the other

A text whose last line is ended, and in which no comment and no string literal is left open, can be
read apart from whatever stands behind it. No look at the next character and no memory reaches
across such an end of a line: both parts yield the tokens and diagnostics that they yield alone, those
of the second part further down.

- `EndsLine`: a text behind which a new line starts.
- `Piece.eq_newline_of_getLast`: the last piece of such a text is the newline by itself, and a blank
  may be followed by anything.
- `Census.ofText_append`: the census of two texts one behind the other.
-/

namespace SymbolCensus

/-! ## Lines further down -/

/-- The position so many lines further down. -/
def Position.below (position : Position) (lines : Nat) : Position :=
  ⟨position.line + lines, position.column⟩

/-- The token so many lines further down. -/
def Token.below (token : Token) (lines : Nat) : Token :=
  { token with position := token.position.below lines }

/-- The diagnostic so many lines further down. -/
def Diagnostic.below (diagnostic : Diagnostic) (lines : Nat) : Diagnostic :=
  { diagnostic with position := diagnostic.position.below lines }

/-- The text is empty or ends with a newline, so that what stands behind it starts a line. -/
def EndsLine (text : List Char) : Prop :=
  text = [] ∨ text.getLast? = some '\n'

theorem EndsLine.behind_eq {text : List Char} (h : EndsLine text) :
    Position.behind text = ⟨↑(text.count '\n' + 1), 1⟩ := by
  rcases h with rfl | h
  · rfl
  · obtain ⟨taken, rfl⟩ := List.getLast?_eq_some_iff.mp h
    simp [Position.behind]

/-- Behind a text that ends its line only the lines are counted on. -/
theorem EndsLine.behind_append {text : List Char} (h : EndsLine text) (taken : List Char) :
    Position.behind (text ++ taken) = (Position.behind taken).below (text.count '\n') := by
  induction taken using List.reverseRecOn with
  | nil =>
    rw [List.append_nil, h.behind_eq]
    show (⟨_, _⟩ : Position) = ⟨_, _⟩
    simp [Position.behind, Int.add_comm]
  | append_singleton taken c ih =>
    rw [← List.append_assoc, Position.behind_concat, Position.behind_concat, ih]
    by_cases hc : c = '\n'
    · rw [if_pos hc, if_pos hc]
      show (⟨(Position.behind taken).line + text.count '\n' + 1, 1⟩ : Position) =
        ⟨(Position.behind taken).line + 1 + text.count '\n', 1⟩
      rw [Int.add_right_comm]
    · rw [if_neg hc, if_neg hc]
      rfl

namespace Place

/-- The place in a text behind another one. -/
def past (place : Place) (text : List Char) : Place :=
  { place with before := text ++ place.before }

variable {text : List Char}

theorem token?_past (h : EndsLine text) (place : Place) :
    (place.past text).token? = place.token?.map (·.below (text.count '\n')) := by
  unfold token? position past Piece.token?
  rw [h.behind_append]
  cases place.piece.kind? with
  | none => rfl
  | some kind => rfl

theorem diagnostic?_past (h : EndsLine text) (place : Place) :
    (place.past text).diagnostic? = place.diagnostic?.map (·.below (text.count '\n')) := by
  unfold diagnostic? position past
  rw [h.behind_append]
  cases place.piece.fault? with
  | none => rfl
  | some fault => rfl

end Place

namespace Places

theorem places_past (text before : List Char) (pieces : List Piece) :
    places (text ++ before) pieces = (places before pieces).map (·.past text) := by
  induction pieces generalizing before with
  | nil => rfl
  | cons piece pieces ih =>
    rw [places, places, List.map_cons, List.append_assoc, ih]
    rfl

variable {text : List Char}

theorem tokens_past (h : EndsLine text) (taken : List Place) :
    tokens (taken.map (·.past text)) = (tokens taken).map (·.below (text.count '\n')) := by
  unfold tokens
  rw [List.filterMap_map, List.map_filterMap]
  exact List.filterMap_congr fun place _ => place.token?_past h

theorem diagnostics_past (h : EndsLine text) (taken : List Place) :
    diagnostics (taken.map (·.past text)) =
      (diagnostics taken).map (·.below (text.count '\n')) := by
  unfold diagnostics
  rw [List.filterMap_map, List.map_filterMap]
  exact List.filterMap_congr fun place _ => place.diagnostic?_past h

end Places

/-! ## The end of a line -/

namespace Piece

/-- A piece that can end where the text ends, and is not left open there, ends with a newline only
if it is that newline. -/
theorem eq_newline_of_getLast {piece : Piece} (hshape : piece.Shape) (hstops : piece.StopsAt none)
    (hcomment : piece.fault? ≠ some .openComment) (hliteral : piece.fault? ≠ some .openLiteral)
    (hlast : piece.text.getLast? = some '\n') : piece = .blank '\n' := by
  have hmem : '\n' ∈ piece.text := List.mem_of_getLast? hlast
  cases piece with
  | blank c =>
    obtain rfl : c = '\n' := by simpa [text] using hlast
    rfl
  | lineComment written =>
    obtain ⟨body, rfl, hbody⟩ := hshape
    simp [text, hbody] at hmem
  | blockComment written closed =>
    cases closed with
    | true =>
      -- the last character is the slash of the closing mark
      obtain ⟨body, rfl, -⟩ := hshape
      simp [text, List.getLast?_cons, List.getLast?_append] at hlast
    | false => exact absurd rfl hcomment
  | word written =>
    obtain ⟨c, rest, rfl, hstart, hrest⟩ := hshape
    have hparts : ∀ d ∈ c :: rest, Lexicon.isWordPart d = true :=
      List.forall_mem_cons.mpr ⟨Lexicon.isWordPart_of_isWordStart hstart, hrest⟩
    have hpart := hparts _ hmem
    rw [not_isWordPart_of_isBlank (by decide)] at hpart
    cases hpart
  | literal written ending =>
    cases ending with
    | closed =>
      obtain ⟨body, rfl, -⟩ := hshape
      simp [text, List.getLast?_cons, List.getLast?_append] at hlast
    | lineEnd => cases hstops
    | textEnd => exact absurd rfl hliteral
  | numeral whole fraction pointFollows =>
    obtain ⟨-, hwhole, hfraction, -⟩ := hshape
    have hdigit : ¬ ('\n' : Char).isDigit = true := by decide
    cases fraction with
    | none => exact absurd (hwhole _ hmem) hdigit
    | some digits =>
      rcases List.mem_append.mp hmem with hmem | hmem
      · exact absurd (hwhole _ hmem) hdigit
      · rcases List.mem_cons.mp hmem with hpoint | hmem
        · cases hpoint
        · exact absurd (hfraction _ hmem) hdigit
  | compound first second =>
    obtain rfl : second = '\n' := by simpa [text] using hlast
    have hpair : isCompound first '\n' = true := hshape
    rw [(not_isCompound_of_isBlank (by decide)).1] at hpair
    cases hpair
  | mark c =>
    obtain rfl : c = '\n' := by simpa [text] using hlast
    exact absurd hshape.1 (by decide)

/-- The pieces of a text that ends its line and leaves nothing open can stand before all others. -/
theorem fit_append_of_endsLine {pieces more : List Piece} (h : Fit pieces) (hmore : Fit more)
    (hline : EndsLine (spelled pieces))
    (hcomment : ∀ piece ∈ pieces, piece.fault? ≠ some .openComment)
    (hliteral : ∀ piece ∈ pieces, piece.fault? ≠ some .openLiteral) : Fit (pieces ++ more) := by
  refine h.append hmore fun last hlast => ?_
  obtain ⟨done, rfl⟩ := List.getLast?_eq_some_iff.mp hlast
  have hmem : last ∈ done ++ [last] := List.mem_append_right _ (List.mem_singleton_self _)
  obtain ⟨hshape, hstops, -⟩ := fit_append_right h
  have hnewline : last.text.getLast? = some '\n' := by
    rw [spelled_concat] at hline
    rcases hline with hempty | hnewline
    · exact absurd (List.append_eq_nil_iff.mp hempty).2 hshape.text_ne_nil
    · rwa [List.getLast?_append_of_ne_nil _ hshape.text_ne_nil] at hnewline
  rw [eq_newline_of_getLast hshape hstops (hcomment _ hmem) (hliteral _ hmem) hnewline]
  trivial

end Piece

/-! ## The census of both texts -/

namespace Census

/-- **Reading is compositional at the ends of lines.** If a text is empty or ends with a newline, and
neither a comment nor a string literal is open at its end, then the tokens and the diagnostics of the
text with more behind it are its own and, that many lines further down, those of what is behind. -/
theorem ofText_append {text : String} (more : String) {refine : Bool}
    (hline : EndsLine text.toList)
    (hcomment : ∀ diagnostic ∈ (ofText text refine).diagnostics,
      diagnostic.message ≠ "Unterminated block comment")
    (hliteral : ∀ diagnostic ∈ (ofText text refine).diagnostics,
      diagnostic.message ≠ "Unterminated string literal") :
    (ofText (text ++ more) refine).tokens =
        (ofText text refine).tokens ++
          (ofText more refine).tokens.map (·.below (text.toList.count '\n')) ∧
      (ofText (text ++ more) refine).diagnostics =
        (ofText text refine).diagnostics ++
          (ofText more refine).diagnostics.map (·.below (text.toList.count '\n')) := by
  have hfit : Piece.Fit (Piece.split text.toList ++ Piece.split more.toList) := by
    refine Piece.fit_append_of_endsLine (Piece.fit_split _) (Piece.fit_split _) ?_
      (fault?_ne_of_message_ne .openComment hcomment)
      (fault?_ne_of_message_ne .openLiteral hliteral)
    rw [Piece.spelled_split]
    exact hline
  have hsplit : Piece.split (text ++ more).toList =
      Piece.split text.toList ++ Piece.split more.toList := by
    refine Piece.split_eq_iff.mpr ⟨?_, hfit⟩
    rw [Piece.spelled_append, Piece.spelled_split, Piece.spelled_split, String.toList_append]
  have hbehind : places ([] ++ Piece.spelled (Piece.split text.toList))
      (Piece.split more.toList) = (reading more).map (·.past text.toList) := by
    rw [List.nil_append, Piece.spelled_split, reading, ← Places.places_past, List.append_nil]
  have hreading : reading (text ++ more) =
      places [] (Piece.split text.toList ++ Piece.split more.toList) := congrArg (places []) hsplit
  constructor
  · rw [tokens_ofText, tokens_ofText, tokens_ofText, hreading, Places.tokens_places_append, hbehind,
      Places.tokens_past hline]
    rfl
  · rw [diagnostics_ofText, diagnostics_ofText, diagnostics_ofText, hreading,
      Places.diagnostics_places_append, hbehind, Places.diagnostics_past hline]
    rfl

/-- A line that ends in an escape inside a literal, one with a broken literal and one with a second
point, before a line with an open literal. -/
theorem ofText_append_brokenLines :
    let text := "s=\"a\\\nb\";\n\"c\n1.2.\n"
    let more := " x \"d"
    EndsLine text.toList ∧
      (∀ diagnostic ∈ (ofText text true).diagnostics,
        diagnostic.message ≠ "Unterminated block comment") ∧
      (∀ diagnostic ∈ (ofText text true).diagnostics,
        diagnostic.message ≠ "Unterminated string literal") ∧
      (ofText (text ++ more) true).tokens =
        (ofText text true).tokens ++
          [{ kind := .identifier, lexeme := "x", position := ⟨5, 2⟩ },
           { kind := .constant, lexeme := "\"d\"", position := ⟨5, 4⟩,
             valueType := some "string" }] ∧
      (ofText (text ++ more) true).diagnostics =
        (ofText text true).diagnostics ++ [⟨.openLiteral, ⟨5, 4⟩⟩] := by
  intro text more
  have hline : EndsLine text.toList := .inr (by decide)
  have hcomment : ∀ diagnostic ∈ (ofText text true).diagnostics,
      diagnostic.message ≠ "Unterminated block comment" := by decide +kernel
  have hliteral : ∀ diagnostic ∈ (ofText text true).diagnostics,
      diagnostic.message ≠ "Unterminated string literal" := by decide +kernel
  obtain ⟨htokens, hdiagnostics⟩ := ofText_append more hline hcomment hliteral
  have hmore : (ofText more true).tokens.map (·.below (text.toList.count '\n')) =
      [{ kind := .identifier, lexeme := "x", position := ⟨5, 2⟩ },
       { kind := .constant, lexeme := "\"d\"", position := ⟨5, 4⟩,
         valueType := some "string" }] := by decide +kernel
  have hopen : (ofText more true).diagnostics.map (·.below (text.toList.count '\n')) =
      [⟨.openLiteral, ⟨5, 4⟩⟩] := by decide +kernel
  rw [hmore] at htokens
  rw [hopen] at hdiagnostics
  exact ⟨hline, hcomment, hliteral, htokens, hdiagnostics⟩

end Census

end SymbolCensus
