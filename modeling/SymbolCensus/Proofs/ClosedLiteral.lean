import SymbolCensus.Proofs.Ending
import SymbolCensus.Proofs.Layout

/-!
# Closed string literals

The lexeme of a string literal starts and ends with a quotation mark, whether the mark at its end was
read or lent to it. Such a lexeme is closed, and reading it alone gives the token again, but for one
case: a text that ends in a literal right behind a backslash that takes no character along. The mark
that is lent to this literal is then taken along by the backslash, and the lexeme is open itself.

- `IsClosedLiteral`: a literal with a mark at its end that ends it, and none that ends it before.
- `Token.ReadsBack`: the lexeme of a token alone has this token and no other, and no diagnostics.
- `Census.StopsInEscape`: the case in which a literal has neither property.
- `Census.literal_cases`: how the lexeme of a string constant is written, in that case and otherwise.
- `Census.closedLiteral_iff`: the two properties hold in all other cases.
-/

namespace SymbolCensus

/-- A mark, an inside and a mark. The backslashes right before the last mark pair up, counted back to
the first one, and before every mark inside they do not. -/
def IsClosedLiteral (lexeme : List Char) : Prop :=
  ∃ body, lexeme = '"' :: (body ++ ['"']) ∧ Even (trailingBackslashes body) ∧
    ∀ before after, body = before ++ '"' :: after → ¬ Even (trailingBackslashes before)

/-- The lexeme of the token, read alone, has the token in it and nothing else, and nothing is wrong
with it. Only the position may be another one. -/
def Token.ReadsBack (token : Token) : Prop :=
  ∀ refine, (Census.ofText token.lexeme refine).tokens.map Token.face = [token.face] ∧
    (Census.ofText token.lexeme refine).diagnostics = []

namespace OpenBody

variable {body more : List Char}

theorem append (h : OpenBody body) (hmore : OpenBody more) : OpenBody (body ++ more) := by
  induction h with
  | nil => exact hmore
  | plain hline hquote hslash _ ih => exact .plain hline hquote hslash ih
  | escape _ ih => exact .escape ih

theorem isClosedLiteral (h : OpenBody body) : IsClosedLiteral ('"' :: (body ++ ['"'])) := by
  refine ⟨body, rfl, h.even_trailing, fun before after hbody => ?_⟩
  obtain ⟨front, rfl, hfront⟩ := h.exists_escape hbody (.inl rfl)
  rw [trailingBackslashes_concat, Nat.even_add_one, not_not]
  exact hfront.even_trailing

theorem not_isClosedLiteral (h : OpenBody body) :
    ¬ IsClosedLiteral ('"' :: (body ++ ['\\', '"'])) := by
  rintro ⟨inside, hlexeme, heven, -⟩
  have hinside : body ++ ['\\'] = inside := by
    have htail : body ++ ['\\', '"'] = inside ++ ['"'] := (List.cons.inj hlexeme).2
    rw [List.append_cons] at htail
    exact List.append_cancel_right htail
  rw [← hinside, trailingBackslashes_concat, Nat.even_add_one] at heven
  exact heven h.even_trailing

theorem split_closed (h : OpenBody body) :
    Piece.split ('"' :: (body ++ ['"'])) = [.literal ('"' :: (body ++ ['"'])) .closed] :=
  have hstanding := Piece.standing_literal h
  Piece.split_eq_iff.mpr ⟨List.append_nil _, hstanding.shape, hstanding.stopsAt_none, trivial⟩

/-- A mark behind a lone backslash is taken along, and the literal is open again. -/
theorem split_escaped (h : OpenBody body) :
    Piece.split ('"' :: (body ++ ['\\', '"'])) =
      [.literal ('"' :: (body ++ ['\\', '"'])) .textEnd] :=
  have hopen : OpenBody (body ++ ['\\', '"']) := h.append (.escape .nil)
  Piece.split_eq_iff.mpr ⟨List.append_nil _, ⟨_, .inl rfl, hopen⟩, rfl, trivial⟩

end OpenBody

namespace Token

variable {token : Token} {body : List Char}

theorem readsBack_of_closed (hkind : token.kind = .constant)
    (htype : token.valueType = some "string") (hbody : OpenBody body)
    (hlexeme : token.lexeme.toList = '"' :: (body ++ ['"'])) : token.ReadsBack := by
  have hsplit := hbody.split_closed
  rw [← hlexeme] at hsplit
  intro refine
  constructor
  · rw [Census.tokens_ofText, reading, map_face_tokens, hsplit, hlexeme]
    show [(_, String.ofList ('"' :: (body ++ ['"'])), _)] = [token.face]
    rw [← hlexeme, String.ofList_toList, Token.face, hkind, htype]
    rfl
  · rw [Census.diagnostics_ofText, reading, hsplit]
    rfl

/-- A lexeme that is open again has a diagnostic of its own. -/
theorem not_readsBack_of_escaped (hbody : OpenBody body)
    (hlexeme : token.lexeme.toList = '"' :: (body ++ ['\\', '"'])) : ¬ token.ReadsBack := by
  intro hreads
  have hdiagnostics := (hreads false).2
  rw [Census.diagnostics_ofText, reading, hlexeme, hbody.split_escaped] at hdiagnostics
  cases hdiagnostics

end Token

/-- String literals are the pieces that yield string constants. -/
theorem Piece.eq_literal_of_valueType? {piece : Piece} (h : piece.valueType? = some "string") :
    ∃ written ending, piece = .literal written ending := by
  cases piece with
  | literal written ending => exact ⟨written, ending, rfl⟩
  | numeral whole fraction pointFollows =>
    cases fraction with
    | none => simp [valueType?] at h
    | some digits => simp [valueType?] at h
  | _ => cases h

namespace Census

/-- The text ends with the slice of a token, and the backslashes at its end do not pair up: the last
one takes no character along. -/
def StopsInEscape (census : Census) (text : List Char) (token : Token) : Prop :=
  text.drop (token.position.offset text) = census.slice token ∧
    ¬ Even (trailingBackslashes (census.slice token))

instance (census : Census) (text : List Char) (token : Token) :
    Decidable (census.StopsInEscape text token) :=
  inferInstanceAs (Decidable (_ ∧ _))

theorem stopsInEscape_iff {text : String} {refine : Bool} {place : Place} {token : Token}
    (h : place ∈ reading text) (htoken : place.token? = some token) :
    (ofText text refine).StopsInEscape text.toList token ↔
      place.after = [] ∧ ¬ Even (trailingBackslashes place.piece.text) := by
  rw [StopsInEscape, slice_eq_text h htoken, offset_eq_length h htoken, drop_before_of_reading h,
    List.append_right_eq_self]

/-- The mark at the end of a lexeme stands behind an inside that is read through, or right behind a
backslash that was the last character of the text. -/
theorem literal_cases {text : String} {refine : Bool} {token : Token}
    (h : token ∈ (ofText text refine).tokens) (htype : token.valueType = some "string") :
    token.kind = .constant ∧ ∃ body, OpenBody body ∧
      (token.lexeme.toList = '"' :: (body ++ ['"']) ∧
          ¬ (ofText text refine).StopsInEscape text.toList token ∨
        token.lexeme.toList = '"' :: (body ++ ['\\', '"']) ∧
          (ofText text refine).StopsInEscape text.toList token) := by
  rw [tokens_ofText] at h
  obtain ⟨⟨before, piece, after⟩, hplace, hyields⟩ := List.mem_filterMap.mp h
  have hshape := fit_reading text hplace
  have hstops := stopsAt_reading hplace
  rw [stopsInEscape_iff hplace hyields]
  obtain ⟨kind, hkind, rfl⟩ := Option.map_eq_some_iff.mp hyields
  obtain ⟨written, ending, rfl⟩ := Piece.eq_literal_of_valueType? htype
  refine ⟨(Option.some.inj hkind).symm, ?_⟩
  dsimp only [Piece.text]
  cases ending with
  | closed =>
    obtain ⟨body, rfl, hbody⟩ := hshape
    have hmark : trailingBackslashes ('"' :: body ++ ['"']) = 0 :=
      trailingBackslashes_concat_other (by decide) _
    refine ⟨body, hbody, .inl ⟨String.toList_ofList, fun hstuck => hstuck.2 ?_⟩⟩
    exact hmark ▸ Even.zero
  | lineEnd =>
    obtain ⟨body, rfl, hbody⟩ := hshape
    refine ⟨body, hbody, .inl ⟨String.toList_ofList, fun hstuck => ?_⟩⟩
    rw [hstuck.1] at hstops
    cases hstops
  | textEnd =>
    have hend : after = [] := List.head?_eq_none_iff.mp hstops
    have hfirst : ∀ inside, trailingBackslashes ('"' :: inside) = trailingBackslashes inside :=
      fun _ => trailingBackslashes_cons fun hall => absurd (hall '"' (List.mem_cons_self ..)) (by decide)
    obtain ⟨body, rfl | rfl, hbody⟩ := hshape
    · refine ⟨body, hbody, .inl ⟨String.toList_ofList, fun hstuck => hstuck.2 ?_⟩⟩
      rw [hfirst]
      exact hbody.even_trailing
    · refine ⟨body, hbody, .inr ⟨?_, hend, ?_⟩⟩
      · simp [Piece.lexeme]
      · rw [hfirst, trailingBackslashes_concat, Nat.even_add_one, not_not]
        exact hbody.even_trailing

/-- **The lexeme of a string constant is a closed literal, and reading it alone gives the constant
back**, just where the text does not end in the literal with a backslash that takes nothing along. -/
theorem closedLiteral_iff {text : String} {refine : Bool} {token : Token}
    (h : token ∈ (ofText text refine).tokens) (htype : token.valueType = some "string") :
    (IsClosedLiteral token.lexeme.toList ↔
        ¬ (ofText text refine).StopsInEscape text.toList token) ∧
      (token.ReadsBack ↔ ¬ (ofText text refine).StopsInEscape text.toList token) := by
  obtain ⟨hkind, body, hbody, ⟨hlexeme, hstops⟩ | ⟨hlexeme, hstops⟩⟩ := literal_cases h htype
  · have hclosed := hbody.isClosedLiteral
    rw [← hlexeme] at hclosed
    exact ⟨iff_of_true hclosed hstops,
      iff_of_true (Token.readsBack_of_closed hkind htype hbody hlexeme) hstops⟩
  · have hopen := hbody.not_isClosedLiteral
    rw [← hlexeme] at hopen
    exact ⟨iff_of_false hopen (not_not.mpr hstops),
      iff_of_false (Token.not_readsBack_of_escaped hbody hlexeme) (not_not.mpr hstops)⟩

/-- A literal that a newline breaks, and one in which the text ends behind a lone backslash. -/
theorem closedLiteral_iff_escape :
    let text := "\"a\\\"\n\"b\\"
    let census := ofText text true
    let broken : Token :=
      { kind := .constant, lexeme := "\"a\\\"\"", position := ⟨1, 1⟩, valueType := "string" }
    let stuck : Token :=
      { kind := .constant, lexeme := "\"b\\\"", position := ⟨2, 1⟩, valueType := "string" }
    census.tokens = [broken, stuck] ∧
      (IsClosedLiteral broken.lexeme.toList ∧ broken.ReadsBack) ∧
      ¬ IsClosedLiteral stuck.lexeme.toList ∧ ¬ stuck.ReadsBack := by
  intro text census broken stuck
  have htokens : census.tokens = [broken, stuck] := by decide +kernel
  have hmem : ∀ token ∈ [broken, stuck], token ∈ (ofText text true).tokens := by
    rw [← htokens]
    exact fun _ hmem => hmem
  have hstops : ¬ census.StopsInEscape text.toList broken := by decide +kernel
  have hstops' : census.StopsInEscape text.toList stuck := by decide +kernel
  have hbroken := closedLiteral_iff (hmem broken (by simp)) rfl
  have hstuck := closedLiteral_iff (hmem stuck (by simp)) rfl
  exact ⟨htokens, ⟨hbroken.1.mpr hstops, hbroken.2.mpr hstops⟩,
    fun hclosed => hstuck.1.mp hclosed hstops', fun hreads => hstuck.2.mp hreads hstops'⟩

end Census

end SymbolCensus
