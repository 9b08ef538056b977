import SymbolCensus.Proofs.Coverage
import SymbolCensus.Proofs.Layout

/-!
# What is reported

Reading goes on behind whatever is wrong with a text, and says what it was. This file says when
something is to be reported without a word about reading: by the tokens, by the characters of the
text at them and right behind them, and by what is left of the text behind the last token.

- `BreaksOff`, `RunsOut`: string literals that are not closed, as parts of a text.
- `Census.EndsInComment`: behind the last token, blanks and closed comments come to a comment that
  is not closed.
- `Census.CallsFor`: the messages that tokens and the end of a text call for, and the places at
  which they do.
- `Census.diagnosed_ofText`: these are reported and no others, once each and in the order of the
  text, and those who watch a reading hear of the same ones.

Places of pieces link the two sides: a diagnostic belongs to the piece that it is about, and at
every place only one piece fits (`Piece.Starts.eq_leading`).
-/

namespace SymbolCensus

/-! ## What calls for a report -/

/-- A text starts with a string literal that a newline breaks off. -/
def BreaksOff (text : List Char) : Prop :=
  ∃ body rest, text = '"' :: (body ++ '\n' :: rest) ∧ OpenBody body

/-- A text is a string literal that runs to the end without being closed. The last character may be
a backslash that has nothing to take along. -/
def RunsOut (text : List Char) : Prop :=
  ∃ body, OpenBody body ∧ (text = '"' :: body ∨ text = '"' :: (body ++ ['\\']))

namespace Token

/-- The text from the start of a token on. -/
def textFrom (token : Token) (text : List Char) : List Char :=
  text.drop (token.position.offset text)

/-- A string literal. -/
def isLiteral (token : Token) : Prop :=
  token.kind = .constant ∧ token.valueType = some "string"

/-- A number. -/
def isNumeral (token : Token) : Prop :=
  token.kind = .constant ∧ (token.valueType = some "int" ∨ token.valueType = some "double")

end Token

/-- A fault that only the end of the text brings to light. -/
def Fault.atTextEnd : Fault → Bool
  | .openComment => true
  | .openLiteral => true
  | .brokenLiteral => false
  | .secondPoint _ => false

/-- What a note says to those who wait for diagnostics. -/
def Note.diagnostic? : Note → Option Diagnostic
  | .reported diagnostic => some diagnostic
  | .strange _ _ => none
  | .finished _ _ _ => none

namespace Census

/-- The text behind the last token. -/
def remainder (census : Census) (text : List Char) : List Char :=
  match census.tokens.getLast? with
  | none => text
  | some token => text.drop (token.position.offset text + (census.slice token).length)

/-- The text ends inside a block comment, and `before` is the text before that comment: from the
last token to its opening mark there are only blanks and closed comments. -/
def EndsInComment (census : Census) (text before : List Char) : Prop :=
  ∃ filler body, text = before ++ '/' :: '*' :: body ∧ CommentBody body ∧
    census.remainder text = filler ++ '/' :: '*' :: body ∧ Filler filler

/-- The messages that a text calls for, with their positions. -/
inductive CallsFor (census : Census) (text : List Char) : String → Position → Prop
  /-- A string literal that a newline breaks off. -/
  | brokenLiteral {token : Token} : token ∈ census.tokens → token.isLiteral →
      BreaksOff (token.textFrom text) →
      CallsFor census text "Unterminated string literal, closed at end of line" token.position
  /-- A string literal that runs to the end of the text. -/
  | openLiteral {token : Token} : token ∈ census.tokens → token.isLiteral →
      RunsOut (token.textFrom text) →
      CallsFor census text "Unterminated string literal" token.position
  /-- A number with a point, and another point right behind it. -/
  | secondPoint {token : Token} : token ∈ census.tokens → token.isNumeral →
      '.' ∈ token.lexeme.toList →
      text[token.position.offset text + token.lexeme.length]? = some '.' →
      CallsFor census text
        ("Malformed numeric literal " ++ Text.quote token.lexeme ++ " (multiple decimal points)")
        token.position
  /-- A block comment that runs to the end of the text. -/
  | openComment {before : List Char} : census.EndsInComment text before →
      CallsFor census text "Unterminated block comment" (Position.behind before)

/-- The diagnostics of a census are those that its text calls for. -/
structure Diagnosed (census : Census) (text : List Char) : Prop where
  /-- What is called for is reported, and nothing else is. -/
  exact_iff : ∀ message position,
    (∃ diagnostic ∈ census.diagnostics,
      diagnostic.message = message ∧ diagnostic.position = position) ↔
      census.CallsFor text message position
  /-- No two diagnostics are about one position, and they stand in the order of the text. -/
  increasing : census.diagnostics.Pairwise fun diagnostic other =>
    diagnostic.position.Before other.position
  /-- At most one diagnostic is about the end of the text, and it comes last. -/
  last : ∀ diagnostic ∈ census.diagnostics.dropLast, diagnostic.fault.atTextEnd = false
  /-- No token starts behind what such a diagnostic is about. -/
  behind : ∀ diagnostic ∈ census.diagnostics, diagnostic.fault.atTextEnd = true →
    ∀ token ∈ census.tokens,
      token.position = diagnostic.position ∨ token.position.Before diagnostic.position
  /-- Those who watch the reading hear of the diagnostics in this order. -/
  heard : census.notes.filterMap Note.diagnostic? = census.diagnostics

end Census

/-! ## Pieces where they stand -/

namespace Piece

/-- Only one piece starts a text. -/
theorem Starts.unique {piece other : Piece} {text : List Char} (h : piece.Starts text)
    (hother : other.Starts text) : piece = other := by
  cases text with
  | nil =>
    obtain ⟨tail, htext, hshape, -⟩ := h
    exact absurd (List.append_eq_nil_iff.mp htext.symm).1 hshape.text_ne_nil
  | cons c rest => rw [← h.eq_leading, ← hother.eq_leading]

/-- The pieces that something can be wrong with. -/
theorem fault?_cases {piece : Piece} {fault : Fault} (h : piece.fault? = some fault) :
    (∃ written, piece = .blockComment written false ∧ fault = .openComment) ∨
    (∃ written, piece = .literal written .lineEnd ∧ fault = .brokenLiteral) ∨
    (∃ written, piece = .literal written .textEnd ∧ fault = .openLiteral) ∨
    (∃ whole digits, piece = .numeral whole (some digits) true ∧
      fault = .secondPoint piece.lexeme) := by
  unfold fault? at h
  split at h
  next written => exact .inl ⟨written, rfl, (Option.some.inj h).symm⟩
  next written => exact .inr (.inl ⟨written, rfl, (Option.some.inj h).symm⟩)
  next written => exact .inr (.inr (.inl ⟨written, rfl, (Option.some.inj h).symm⟩))
  next whole digits => exact .inr (.inr (.inr ⟨whole, digits, rfl, (Option.some.inj h).symm⟩))
  next => cases h

end Piece

namespace Census

section Reading

variable {text : String} {refine : Bool} {place : Place}

/-- A piece starts the text behind what stands before it. -/
theorem starts_reading (h : place ∈ reading text) :
    place.piece.Starts (place.piece.text ++ place.after) :=
  ⟨place.after, rfl, fit_reading text h, stopsAt_reading h⟩

/-- The text from a token on is the text from its piece on. -/
theorem textFrom_eq {token : Token} (h : place ∈ reading text)
    (htoken : place.token? = some token) :
    token.textFrom text.toList = place.piece.text ++ place.after := by
  unfold Token.textFrom
  rw [offset_eq_length h htoken, drop_before_of_reading h]

theorem mem_tokens_iff {token : Token} :
    token ∈ (ofText text refine).tokens ↔ ∃ place ∈ reading text, place.token? = some token := by
  rw [tokens_ofText]
  exact List.mem_filterMap

theorem mem_diagnostics_iff {diagnostic : Diagnostic} :
    diagnostic ∈ (ofText text refine).diagnostics ↔
      ∃ place ∈ reading text, place.piece.fault? = some diagnostic.fault ∧
        place.position = diagnostic.position := by
  rw [diagnostics_ofText]
  refine List.mem_filterMap.trans (exists_congr fun place => and_congr_right fun _ => ?_)
  unfold Place.diagnostic?
  rw [Option.map_eq_some_iff]
  constructor
  · rintro ⟨fault, hfault, rfl⟩
    exact ⟨hfault, rfl⟩
  · rintro ⟨hfault, hposition⟩
    exact ⟨diagnostic.fault, hfault, by rw [hposition]⟩

end Reading

end Census

/-! ## Literals and numbers

The shape of a piece and the character behind it decide what is wrong with it, so each fault of a
token can be read off the text from the token on. -/

namespace Piece

variable {piece : Piece} {text : List Char}

theorem Starts.breaksOff_iff (h : piece.Starts text) :
    (∃ written, piece = .literal written .lineEnd) ↔ BreaksOff text := by
  constructor
  · rintro ⟨written, rfl⟩
    obtain ⟨tail, rfl, ⟨body, rfl, hbody⟩, hstops⟩ := h
    obtain ⟨rest, rfl⟩ := List.head?_eq_some_iff.mp hstops
    exact ⟨body, rest, rfl, hbody⟩
  · rintro ⟨body, rest, rfl, hbody⟩
    have hliteral : (Piece.literal ('"' :: body) .lineEnd).Starts ('"' :: (body ++ '\n' :: rest)) :=
      ⟨'\n' :: rest, rfl, ⟨body, rfl, hbody⟩, rfl⟩
    exact ⟨_, h.unique hliteral⟩

theorem Starts.runsOut_iff (h : piece.Starts text) :
    (∃ written, piece = .literal written .textEnd) ↔ RunsOut text := by
  constructor
  · rintro ⟨written, rfl⟩
    obtain ⟨tail, rfl, ⟨body, hwritten, hbody⟩, hstops⟩ := h
    rw [List.head?_eq_none_iff.mp hstops, List.append_nil]
    exact ⟨body, hbody, hwritten⟩
  · rintro ⟨body, hbody, htext⟩
    have hliteral : (Piece.literal text .textEnd).Starts text :=
      ⟨[], (List.append_nil _).symm, ⟨body, htext, hbody⟩, rfl⟩
    exact ⟨_, h.unique hliteral⟩

/-- A number whose lexeme has a point has a fraction, and the character behind it tells whether
another point follows. -/
theorem secondPoint_iff {whole : List Char} {fraction : Option (List Char)}
    {pointFollows : Bool} {tail : List Char} (hshape : (numeral whole fraction pointFollows).Shape)
    (hstops : (numeral whole fraction pointFollows).StopsAt tail.head?) :
    (numeral whole fraction pointFollows).fault? =
        some (.secondPoint (numeral whole fraction pointFollows).lexeme) ↔
      '.' ∈ (numeral whole fraction pointFollows).lexeme.toList ∧ tail.head? = some '.' := by
  cases fraction with
  | none =>
    have hdigits : '.' ∉ whole := fun hmem => absurd (hshape.2.1 _ hmem) (by decide)
    have hlexeme : (numeral whole none pointFollows).lexeme.toList = whole := String.toList_ofList
    rw [hlexeme]
    exact iff_of_false (fun h => by cases h) fun h => hdigits h.1
  | some digits =>
    have hpoint : '.' ∈ (numeral whole (some digits) pointFollows).lexeme.toList := by
      simp [lexeme, Piece.text]
    rw [hstops.2]
    cases hnext : tail.head? == some '.' with
    | true => exact iff_of_true rfl ⟨hpoint, beq_iff_eq.mp hnext⟩
    | false => exact iff_of_false (fun h => by cases h) fun h => by simp [h.2] at hnext

end Piece

namespace Place

variable {place : Place} {token : Token}

theorem position_of_token? (h : place.token? = some token) : token.position = place.position := by
  obtain ⟨kind, -, rfl⟩ := Option.map_eq_some_iff.mp h
  rfl

theorem lexeme_of_token? (h : place.token? = some token) : token.lexeme = place.piece.lexeme := by
  obtain ⟨kind, -, rfl⟩ := Option.map_eq_some_iff.mp h
  rfl

/-- String literals yield the tokens that are literals. -/
theorem exists_literal {written : List Char} {ending : LiteralEnd}
    (h : place.piece = .literal written ending) :
    ∃ token, place.token? = some token ∧ token.isLiteral := by
  refine ⟨{ kind := .constant, lexeme := place.piece.lexeme, position := place.position,
            valueType := some "string" }, ?_, rfl, rfl⟩
  rw [Place.token?, Piece.token?, h]
  rfl

/-- Numbers yield the tokens that are numerals. -/
theorem isNumeral_iff (h : place.token? = some token) :
    token.isNumeral ↔ ∃ whole fraction pointFollows,
      place.piece = .numeral whole fraction pointFollows := by
  obtain ⟨kind, hkind, rfl⟩ := Option.map_eq_some_iff.mp h
  unfold Token.isNumeral
  dsimp only
  cases hpiece : place.piece with
  | numeral whole fraction pointFollows =>
    rw [hpiece] at hkind
    obtain rfl := Option.some.inj hkind
    cases fraction with
    | none => simp [Piece.valueType?]
    | some digits => simp [Piece.valueType?]
  | _ => simp [Piece.valueType?]

end Place

/-! ## The end of the text -/

/-- Every list of pieces ends in gaps, which start at the front or behind a piece that is none. -/
theorem Piece.exists_trailing_gaps (pieces : List Piece) :
    ∃ front gaps, pieces = front ++ gaps ∧ (∀ piece ∈ gaps, piece.Gap) ∧
      (front = [] ∨ ∃ done piece, front = done ++ [piece] ∧ ¬ piece.Gap) := by
  induction pieces using List.reverseRecOn with
  | nil => exact ⟨[], [], rfl, List.forall_mem_nil _, .inl rfl⟩
  | append_singleton pieces last ih =>
    by_cases hlast : last.Gap
    · obtain ⟨front, gaps, rfl, hgaps, hfront⟩ := ih
      refine ⟨front, gaps ++ [last], List.append_assoc .., ?_, hfront⟩
      intro piece hmem
      rcases List.mem_append.mp hmem with hmem | hmem
      · exact hgaps piece hmem
      · rw [List.mem_singleton.mp hmem]
        exact hlast
    · exact ⟨pieces ++ [last], [], (List.append_nil _).symm, List.forall_mem_nil _,
        .inr ⟨pieces, last, rfl, hlast⟩⟩

/-- Gaps before a comment are filler: a line comment among them has its newline behind it, and a
block comment is closed. -/
theorem Piece.filler_spelled {gaps : List Piece} {written : List Char}
    (hfit : Fit (gaps ++ [.blockComment written false])) (hgaps : ∀ piece ∈ gaps, piece.Gap) :
    Filler (spelled gaps) := by
  induction gaps with
  | nil => exact .nil
  | cons piece gaps ih =>
    obtain ⟨hgap, hgaps⟩ := List.forall_mem_cons.mp hgaps
    rw [List.cons_append] at hfit
    obtain ⟨hshape, hstops, hrest⟩ := hfit
    have hfiller := ih hrest hgaps
    obtain ⟨comment, hcomment, -⟩ : (Piece.blockComment written false).Shape :=
      hrest.shape _ (List.mem_append_right _ (List.mem_singleton_self _))
    have hnext : (spelled (gaps ++ [.blockComment written false])).head? =
        (spelled gaps ++ '/' :: '*' :: comment).head? := by
      rw [spelled_concat, Piece.text, hcomment]
    rw [spelled_cons]
    cases piece with
    | blank c => exact .blank hshape hfiller
    | lineComment line =>
      obtain ⟨body, rfl, hbody⟩ := hshape
      -- what comes next is a newline, so it is not yet the comment
      cases hspelled : spelled gaps with
      | nil =>
        rw [hspelled] at hnext
        exact absurd (hstops '/' (by rw [hnext]; rfl)) (by decide)
      | cons c rest =>
        rw [hspelled] at hnext hfiller
        obtain rfl : c = '\n' := hstops c (by rw [hnext]; rfl)
        cases hfiller with
        | blank _ hfiller => exact .lineComment hbody hfiller
    | blockComment block closed =>
      cases closed with
      | true =>
        obtain ⟨body, rfl, hbody⟩ := hshape
        have htext : (Piece.blockComment ('/' :: '*' :: (body ++ ['*', '/'])) true).text ++
            spelled gaps = '/' :: '*' :: (body ++ '*' :: '/' :: spelled gaps) := by
          simp [Piece.text]
        rw [htext]
        exact .blockComment hbody hfiller
      | false =>
        have hnone := hstops rfl
        rw [hnext] at hnone
        simp at hnone
    | word written => cases hgap
    | literal written ending => cases hgap
    | numeral whole fraction pointFollows => cases hgap
    | compound first second => cases hgap
    | mark c => cases hgap

namespace Census

variable {text : String} {refine : Bool}

/-- Behind the last token there are the gaps in which the pieces of the text end. -/
theorem remainder_eq_spelled {front gaps : List Piece}
    (hsplit : Piece.split text.toList = front ++ gaps) (hgaps : ∀ piece ∈ gaps, piece.Gap)
    (hfront : front = [] ∨ ∃ done piece, front = done ++ [piece] ∧ ¬ piece.Gap) :
    (ofText text refine).remainder text.toList = Piece.spelled gaps := by
  have htokens : (ofText text refine).tokens = Places.tokens (places [] front) := by
    rw [tokens_ofText, reading, hsplit, Places.tokens_places_append,
      Places.tokens_places_gaps _ hgaps, List.append_nil]
  unfold remainder
  rcases hfront with rfl | ⟨done, piece, rfl, hpiece⟩
  · rw [htokens, ← Piece.spelled_split text.toList, hsplit]
    rfl
  · generalize hplace : (⟨Piece.spelled done, piece, Piece.spelled gaps⟩ : Place) = place
    have hmem : place ∈ reading text := by
      refine Places.mem_places_iff.mpr ⟨done, gaps, ?_, ?_, ?_⟩
      · rw [hsplit, ← hplace, List.append_assoc]
        rfl
      · rw [← hplace]
        rfl
      · rw [← hplace]
    obtain ⟨token, htoken⟩ : ∃ token, place.token? = some token := by
      rw [← hplace]
      obtain ⟨kind, hkind⟩ := Option.ne_none_iff_exists'.mp hpiece
      exact ⟨_, by rw [Place.token?, Piece.token?, hkind]; rfl⟩
    have hlast : (ofText text refine).tokens.getLast? = some token := by
      have hsingle : Places.tokens (places ([] ++ Piece.spelled done) [piece]) = [token] := by
        rw [← hplace] at htoken
        exact List.filterMap_cons_some htoken
      rw [htokens, Places.tokens_places_append, hsingle, List.getLast?_concat]
    rw [hlast]
    dsimp only
    rw [offset_eq_length hmem htoken, slice_eq_text hmem htoken, ← List.length_append,
      drop_past_of_reading hmem, ← hplace]

/-- A text ends inside a block comment just where its last piece is one that is not closed. -/
theorem endsInComment_iff {before : List Char} :
    (ofText text refine).EndsInComment text.toList before ↔
      ∃ written, ⟨before, .blockComment written false, []⟩ ∈ reading text := by
  constructor
  · rintro ⟨filler, body, htext, hbody, hremainder, hfiller⟩
    obtain ⟨front, gaps, hsplit, hgaps, hfront⟩ :=
      Piece.exists_trailing_gaps (Piece.split text.toList)
    obtain ⟨fillers, rfl, -, hfits⟩ := hfiller.exists_gaps
    generalize hwritten : '/' :: '*' :: body = written at htext hremainder
    have hcomment : Piece.Fit [.blockComment written false] :=
      ⟨⟨body, hwritten.symm, hbody⟩, fun _ => rfl, trivial⟩
    -- what is behind the last token splits in one way only
    have heq : gaps = fillers ++ [.blockComment written false] := by
      have hfit := Piece.fit_split text.toList
      rw [hsplit] at hfit
      rw [remainder_eq_spelled hsplit hgaps hfront] at hremainder
      rw [← Piece.split_spelled (Piece.fit_append_right hfit), hremainder,
        ← Piece.split_spelled (hfits _ hcomment), Piece.spelled_concat]
      rfl
    have hpieces : Piece.split text.toList =
        (front ++ fillers) ++ [.blockComment written false] := by
      rw [hsplit, heq, List.append_assoc]
    refine ⟨written, Places.mem_places_iff.mpr ⟨front ++ fillers, [], hpieces, ?_, rfl⟩⟩
    have hspelled := Piece.spelled_split text.toList
    rw [hpieces, Piece.spelled_concat, htext] at hspelled
    exact (List.append_cancel_right hspelled).symm
  · rintro ⟨written, hmem⟩
    obtain ⟨done, ahead, hsplit, hbefore, hafter⟩ := Places.mem_places_iff.mp hmem
    have hfit := Piece.fit_split text.toList
    rw [hsplit] at hfit
    obtain ⟨⟨body, hwritten, hbody⟩, -, hahead⟩ := Piece.fit_append_right hfit
    obtain rfl := hahead.eq_nil_of_spelled hafter.symm
    obtain ⟨front, gaps, rfl, hgaps, hfront⟩ := Piece.exists_trailing_gaps done
    rw [List.append_assoc] at hsplit hfit
    have hgaps' : ∀ piece ∈ gaps ++ [.blockComment written false], piece.Gap := by
      intro piece hpiece
      rcases List.mem_append.mp hpiece with hpiece | hpiece
      · exact hgaps piece hpiece
      · rw [List.mem_singleton.mp hpiece]
        rfl
    refine ⟨Piece.spelled gaps, body, ?_, hbody, ?_,
      Piece.filler_spelled (Piece.fit_append_right hfit) hgaps⟩
    · have htext := toList_eq_of_reading hmem
      rw [List.append_nil] at htext
      rw [← hwritten]
      exact htext
    · rw [remainder_eq_spelled hsplit hgaps' hfront, Piece.spelled_concat, ← hwritten]
      rfl

/-- What only the end of the text brings to light has nothing behind it. -/
theorem after_eq_nil {place : Place} {fault : Fault} (h : place ∈ reading text)
    (hfault : place.piece.fault? = some fault) (hend : fault.atTextEnd = true) :
    place.after = [] := by
  have hstops := stopsAt_reading h
  rw [← List.head?_eq_none_iff]
  rcases Piece.fault?_cases hfault with ⟨written, hpiece, rfl⟩ | ⟨written, hpiece, rfl⟩ |
    ⟨written, hpiece, rfl⟩ | ⟨whole, digits, hpiece, rfl⟩
  · rw [hpiece] at hstops
    exact hstops rfl
  · cases hend
  · rw [hpiece] at hstops
    exact hstops
  · cases hend

/-- All other places come before one that has nothing behind it. -/
theorem position_before_of_after_eq_nil {place other : Place} (h : place ∈ reading text)
    (hafter : place.after = []) (hother : other ∈ reading text) :
    other = place ∨ other.position.Before place.position := by
  by_cases hsame : other = place
  · exact .inl hsame
  right
  have : Std.Symm fun first second : Place => first.EndsBefore second ∨ second.EndsBefore first :=
    ⟨fun _ _ => Or.symm⟩
  have hordered : (reading text).Pairwise fun first second =>
      first.EndsBefore second ∨ second.EndsBefore first :=
    (Places.pairwise_endsBefore [] _).imp Or.inl
  rcases hordered.forall hother h hsame with hends | hends
  · exact hends.position_before (fit_reading text hother)
  · -- the text ends with the place, so no other one starts behind it
    have hlength := congrArg List.length
      ((toList_eq_of_reading h).symm.trans (toList_eq_of_reading hother))
    have hle := hends.length_le
    have hpos := List.length_pos_iff.mpr (fit_reading text hother).text_ne_nil
    rw [hafter] at hlength
    simp only [List.length_append, List.length_nil] at hlength hle
    omega

end Census

/-! ## Those who watch -/

namespace Scan

/-- The diagnostics that those who watch a scan have heard of. -/
def heard (scan : Scan) : List Diagnostic :=
  scan.notes.toList.filterMap Note.diagnostic?

theorem heard_emit (scan : Scan) (token : Token) : (scan.emit token).heard = scan.heard := by
  unfold emit
  dsimp only
  split <;> rfl

theorem heard_judge (scan : Scan) (piece : Piece) (position : Position) :
    (scan.judge piece position).heard =
      scan.heard ++ (piece.fault?.map (⟨·, position⟩ : Fault → Diagnostic)).toList := by
  unfold judge
  dsimp only
  cases piece.fault? with
  | none => split <;> simp [heard, remark, Note.diagnostic?]
  | some fault => split <;> simp [heard, remark, report, Note.diagnostic?]

/-- A piece is heard of if there is a diagnostic about it. -/
theorem heard_accept (scan : Scan) (piece : Piece) (position : Position) :
    (scan.accept piece position).heard =
      scan.heard ++ (piece.fault?.map (⟨·, position⟩ : Fault → Diagnostic)).toList := by
  cases h : piece.token? position with
  | none =>
    rw [accept_of_gap h, heard_judge]
    rfl
  | some token =>
    rw [accept_of_token h, heard_emit, heard_judge]
    rfl

theorem heard_absorb (scan : Scan) (piece : Piece) :
    (scan.absorb piece).heard =
      scan.heard ++ (piece.fault?.map (⟨·, scan.cursor.position⟩ : Fault → Diagnostic)).toList := by
  rw [absorb_eq]
  exact heard_accept scan piece _

/-- Reading to the end, by induction on the pieces left: what is heard of and what is kept grow by
the same diagnostics. -/
theorem heard_toEnd (scan : Scan) :
    ∃ found, scan.toEnd.heard = scan.heard ++ found ∧
      scan.toEnd.diagnostics.toList = scan.diagnostics.toList ++ found := by
  rw [toEnd_eq_foldl]
  generalize Piece.split scan.cursor.rest = pieces
  induction pieces generalizing scan with
  | nil => exact ⟨[], (List.append_nil _).symm, (List.append_nil _).symm⟩
  | cons piece pieces ih =>
    obtain ⟨found, hheard, hkept⟩ := ih (scan.absorb piece)
    rw [heard_absorb, List.append_assoc] at hheard
    rw [diagnostics_absorb, List.append_assoc] at hkept
    exact ⟨_, hheard, hkept⟩

/-- **A reading is heard of as it is kept**, behind whatever was heard of before. -/
theorem heard_run (scan : Scan) : scan.run.heard = scan.heard ++ scan.run.diagnostics.toList := by
  obtain ⟨found, hheard, hkept⟩ := scan.restart.heard_toEnd
  have hnothing : scan.restart.diagnostics.toList = [] := rfl
  have hbefore : scan.restart.heard = scan.heard := rfl
  have hclosing : scan.run.heard = scan.restart.toEnd.heard := by
    simp [run, heard, remark, Note.diagnostic?]
  have hdiagnostics : scan.run.diagnostics = scan.restart.toEnd.diagnostics := rfl
  rw [hclosing, hheard, hdiagnostics, hkept, hnothing, hbefore, List.nil_append]

end Scan

/-! ## The diagnostics of a text -/

namespace Census

variable {text : String} {refine : Bool}

/-- The character behind a number is the one right behind its lexeme. -/
theorem getElem?_behind_numeral {place : Place} {token : Token} {whole : List Char}
    {fraction : Option (List Char)} {pointFollows : Bool} (h : place ∈ reading text)
    (htoken : place.token? = some token)
    (hpiece : place.piece = .numeral whole fraction pointFollows) :
    text.toList[token.position.offset text.toList + token.lexeme.length]? = place.after.head? := by
  have hlength : token.lexeme.length = place.piece.text.length := by
    rw [Place.lexeme_of_token? htoken, hpiece]
    exact String.length_ofList
  rw [offset_eq_length h htoken, hlength, ← List.length_append, ← List.head?_drop,
    drop_past_of_reading h]

theorem secondPoint_iff {place : Place} {token : Token} (h : place ∈ reading text)
    (htoken : place.token? = some token) (hnumeral : token.isNumeral) :
    place.piece.fault? = some (.secondPoint token.lexeme) ↔
      '.' ∈ token.lexeme.toList ∧
        text.toList[token.position.offset text.toList + token.lexeme.length]? = some '.' := by
  obtain ⟨whole, fraction, pointFollows, hpiece⟩ := (Place.isNumeral_iff htoken).mp hnumeral
  have hshape := fit_reading text h
  have hstops := stopsAt_reading h
  rw [getElem?_behind_numeral h htoken hpiece, Place.lexeme_of_token? htoken, hpiece]
  rw [hpiece] at hshape hstops
  exact Piece.secondPoint_iff hshape hstops

/-- What is reported is called for. -/
theorem callsFor_of_fault {place : Place} {fault : Fault} (h : place ∈ reading text)
    (hfault : place.piece.fault? = some fault) :
    (ofText text refine).CallsFor text.toList fault.message place.position := by
  have hstarts := starts_reading h
  rcases Piece.fault?_cases hfault with ⟨written, hpiece, rfl⟩ | ⟨written, hpiece, rfl⟩ |
    ⟨written, hpiece, rfl⟩ | ⟨whole, digits, hpiece, rfl⟩
  · refine .openComment (endsInComment_iff.mpr ⟨written, ?_⟩)
    rw [← hpiece, ← after_eq_nil h hfault rfl]
    exact h
  · obtain ⟨token, htoken, hliteral⟩ := Place.exists_literal hpiece
    rw [← Place.position_of_token? htoken]
    refine .brokenLiteral (mem_tokens_iff.mpr ⟨place, h, htoken⟩) hliteral ?_
    rw [textFrom_eq h htoken]
    exact hstarts.breaksOff_iff.mp ⟨written, hpiece⟩
  · obtain ⟨token, htoken, hliteral⟩ := Place.exists_literal hpiece
    rw [← Place.position_of_token? htoken]
    refine .openLiteral (mem_tokens_iff.mpr ⟨place, h, htoken⟩) hliteral ?_
    rw [textFrom_eq h htoken]
    exact hstarts.runsOut_iff.mp ⟨written, hpiece⟩
  · obtain ⟨token, htoken⟩ : ∃ token, place.token? = some token :=
      ⟨_, by rw [Place.token?, Piece.token?, hpiece]; rfl⟩
    have hnumeral : token.isNumeral :=
      (Place.isNumeral_iff htoken).mpr ⟨whole, some digits, true, hpiece⟩
    rw [← Place.lexeme_of_token? htoken] at hfault ⊢
    rw [← Place.position_of_token? htoken]
    obtain ⟨hpoint, hnext⟩ := (secondPoint_iff h htoken hnumeral).mp hfault
    exact .secondPoint (mem_tokens_iff.mpr ⟨place, h, htoken⟩) hnumeral hpoint hnext

/-- What is called for is reported. -/
theorem exists_fault_of_callsFor {message : String} {position : Position}
    (h : (ofText text refine).CallsFor text.toList message position) :
    ∃ place ∈ reading text, ∃ fault, place.piece.fault? = some fault ∧
      fault.message = message ∧ place.position = position := by
  cases h with
  | @brokenLiteral token htoken _ hbreaks =>
    obtain ⟨place, hplace, hyields⟩ := mem_tokens_iff.mp htoken
    rw [textFrom_eq hplace hyields] at hbreaks
    obtain ⟨written, hpiece⟩ := (starts_reading hplace).breaksOff_iff.mpr hbreaks
    exact ⟨place, hplace, .brokenLiteral, by rw [hpiece]; rfl, rfl,
      (Place.position_of_token? hyields).symm⟩
  | @openLiteral token htoken _ hruns =>
    obtain ⟨place, hplace, hyields⟩ := mem_tokens_iff.mp htoken
    rw [textFrom_eq hplace hyields] at hruns
    obtain ⟨written, hpiece⟩ := (starts_reading hplace).runsOut_iff.mpr hruns
    exact ⟨place, hplace, .openLiteral, by rw [hpiece]; rfl, rfl,
      (Place.position_of_token? hyields).symm⟩
  | @secondPoint token htoken hnumeral hpoint hnext =>
    obtain ⟨place, hplace, hyields⟩ := mem_tokens_iff.mp htoken
    exact ⟨place, hplace, .secondPoint token.lexeme,
      (secondPoint_iff hplace hyields hnumeral).mpr ⟨hpoint, hnext⟩, rfl,
      (Place.position_of_token? hyields).symm⟩
  | openComment hends =>
    obtain ⟨written, hplace⟩ := endsInComment_iff.mp hends
    exact ⟨_, hplace, .openComment, rfl, rfl, rfl⟩

theorem increasing_diagnostics (text : String) (refine : Bool) :
    (ofText text refine).diagnostics.Pairwise fun diagnostic other =>
      diagnostic.position.Before other.position := by
  rw [diagnostics_ofText, Places.diagnostics, List.pairwise_filterMap]
  refine (Places.pairwise_endsBefore [] _).imp_of_mem ?_
  intro place other hplace _ hends diagnostic hdiagnostic diagnostic' hdiagnostic'
  obtain ⟨fault, -, rfl⟩ := Option.map_eq_some_iff.mp hdiagnostic
  obtain ⟨fault', -, rfl⟩ := Option.map_eq_some_iff.mp hdiagnostic'
  exact hends.position_before (fit_reading text hplace)

/-- A diagnostic about the end of the text has none behind it. -/
theorem atTextEnd_of_mem_dropLast {diagnostic : Diagnostic}
    (h : diagnostic ∈ (ofText text refine).diagnostics.dropLast) :
    diagnostic.fault.atTextEnd = false := by
  have hmem := List.mem_of_mem_dropLast h
  have hne : (ofText text refine).diagnostics ≠ [] := List.ne_nil_of_mem hmem
  have hsplit := List.dropLast_append_getLast hne
  have hincreasing := increasing_diagnostics text refine
  rw [← hsplit] at hincreasing
  have hbefore := (List.pairwise_append.mp hincreasing).2.2 _ h _ (List.mem_singleton_self _)
  rw [Bool.eq_false_iff]
  intro hend
  -- the last diagnostic would also stand before this one
  obtain ⟨place, hplace, hfault, hposition⟩ := mem_diagnostics_iff.mp hmem
  obtain ⟨last, hlast, -, hlastPosition⟩ := mem_diagnostics_iff.mp (List.getLast_mem hne)
  rw [← hposition, ← hlastPosition] at hbefore
  rcases position_before_of_after_eq_nil hplace (after_eq_nil hplace hfault hend) hlast with
    rfl | hback
  · exact hbefore.ne rfl
  · exact (hbefore.trans hback).ne rfl

/-- **The diagnostics of a text are exact**: all that is called for, nothing else, in order; one
about the end of the text at most, behind which there is nothing; and all of it is heard of. -/
theorem diagnosed_ofText (text : String) (refine : Bool) :
    (ofText text refine).Diagnosed text.toList where
  exact_iff message position := by
    constructor
    · rintro ⟨diagnostic, hmem, rfl, rfl⟩
      obtain ⟨place, hplace, hfault, hposition⟩ := mem_diagnostics_iff.mp hmem
      rw [← hposition]
      exact callsFor_of_fault hplace hfault
    · intro hcalls
      obtain ⟨place, hplace, fault, hfault, hmessage, hposition⟩ := exists_fault_of_callsFor hcalls
      exact ⟨⟨fault, position⟩, mem_diagnostics_iff.mpr ⟨place, hplace, hfault, hposition⟩,
        hmessage, rfl⟩
  increasing := increasing_diagnostics text refine
  last _ := atTextEnd_of_mem_dropLast
  behind := by
    intro diagnostic hmem hend token htoken
    obtain ⟨place, hplace, hfault, hposition⟩ := mem_diagnostics_iff.mp hmem
    obtain ⟨other, hother, hyields⟩ := mem_tokens_iff.mp htoken
    rw [← hposition, Place.position_of_token? hyields]
    rcases position_before_of_after_eq_nil hplace (after_eq_nil hplace hfault hend) hother with
      rfl | hbefore
    · exact .inl rfl
    · exact .inr hbefore
  heard := by
    have hheard := (Scan.ofText text).heard_run
    have hnotes : (ofText text refine).notes = (Scan.ofText text).run.notes.toList := by
      cases refine with
      | false => rfl
      | true => rfl
    have hkept : (ofText text refine).diagnostics = (Scan.ofText text).run.diagnostics.toList := by
      cases refine with
      | false => rfl
      | true => rfl
    rw [hnotes, hkept]
    exact hheard

end Census

end SymbolCensus
