import SymbolCensus.Proofs.Reading

/-!
# The tokens cover the text

No character of a text is lost or read twice, however malformed the text is. The positions of the
tokens are enough to find their parts of the text again, and what lies between them yields nothing
on its own.

- `Position.offset`: the offset of a position, by the lines of the text; `offset_behind` says that a
  scan counts lines and columns so that this is the number of characters before the position.
- `Census.slice`: the part of the text that a token stands for. It is the lexeme, but without the
  quotation mark that a broken string literal has been lent.
- `Census.gaps`: what lies between the slices, cut out of the text by the offsets.
- `Census.covers_ofText`: the text is the gaps and the slices in turn.
-/

namespace SymbolCensus

/-! ## Lines and offsets -/

namespace Position

/-- The offset at which a line of a text starts, where newlines alone end lines and the first line
has number 1. -/
def lineStart (text : List Char) (line : Nat) : Nat :=
  (((text.splitOn '\n').take (line - 1)).map (·.length + 1)).sum

/-- The offset of a position in a text. -/
def offset (text : List Char) (position : Position) : Nat :=
  lineStart text position.line.toNat + position.column.toNat - 1

/-- A position comes before another: on a line before, or on the same line and to the left. -/
def Before (position other : Position) : Prop :=
  position.line < other.line ∨ position.line = other.line ∧ position.column < other.column

theorem Before.trans {a b c : Position} (h : a.Before b) (h' : b.Before c) : a.Before c := by
  unfold Before at *
  omega

theorem Before.ne {a b : Position} (h : a.Before b) : a ≠ b := by
  rintro rfl
  unfold Before at h
  omega

/-- There is one line more than there are newlines. -/
theorem length_splitOn (text : List Char) :
    (text.splitOn '\n').length = text.count '\n' + 1 := by
  induction text with
  | nil => rfl
  | cons c text ih =>
    rw [List.splitOn_cons_eq_if_modifyHead]
    by_cases hc : c = '\n'
    · simp [hc, ih]
    · simp [hc, ih]

/-- The lines with a newline behind each are one character longer than the text. -/
theorem sum_splitOn (text : List Char) :
    ((text.splitOn '\n').map (·.length + 1)).sum = text.length + 1 := by
  induction text with
  | nil => rfl
  | cons c text ih =>
    rw [List.splitOn_cons_eq_if_modifyHead]
    by_cases hc : c = '\n'
    · rw [if_pos (beq_iff_eq.mpr hc), List.map_cons, List.sum_cons, ih, List.length_cons]
      exact Nat.add_comm _ _
    · -- the character joins the first line
      obtain ⟨line, lines, hlines⟩ := List.exists_cons_of_ne_nil (List.splitOn_ne_nil '\n' text)
      rw [hlines, List.map_cons, List.sum_cons] at ih
      rw [if_neg (by simpa using hc), hlines, List.modifyHead_cons, List.map_cons, List.sum_cons,
        List.length_cons, List.length_cons]
      omega

/-- The line behind a newline starts right behind it. -/
theorem lineStart_newline (taken rest : List Char) :
    lineStart (taken ++ '\n' :: rest) (taken.count '\n' + 2) = taken.length + 1 := by
  have hlines : (taken.splitOn '\n').length = taken.count '\n' + 2 - 1 := length_splitOn taken
  unfold lineStart
  rw [List.splitOn_append_cons_self, ← hlines, List.take_left, sum_splitOn]

theorem behind_concat (taken : List Char) (c : Char) :
    behind (taken ++ [c]) =
      if c = '\n' then ⟨(behind taken).line + 1, 1⟩
      else ⟨(behind taken).line, (behind taken).column + 1⟩ := by
  by_cases hc : c = '\n'
  · simp [behind, hc]
  · simp [behind, hc]

theorem one_le_behind (taken : List Char) : 1 ≤ (behind taken).line ∧ 1 ≤ (behind taken).column := by
  unfold behind
  dsimp only
  omega

/-- **The position that is counted has the offset at which it is counted.** -/
theorem offset_behind (taken rest : List Char) :
    offset (taken ++ rest) (behind taken) = taken.length := by
  -- by induction from the back, so that the text around the position stays the same
  induction taken using List.reverseRecOn generalizing rest with
  | nil => rfl
  | append_singleton taken c ih =>
    have ih := ih (c :: rest)
    rw [List.append_assoc, behind_concat]
    by_cases hc : c = '\n'
    · -- a new line starts here, behind all that is taken
      rw [if_pos hc, hc]
      show lineStart (taken ++ '\n' :: rest) (taken.count '\n' + 2) + 1 - 1 = _
      rw [lineStart_newline, List.length_append]
      rfl
    · rw [if_neg hc]
      -- the column is one further, on the same line
      have hcolumn := (one_le_behind taken).2
      unfold offset at ih ⊢
      dsimp only
      rw [List.length_append, List.length_singleton, ← ih]
      show lineStart (taken ++ c :: rest) _ + _ - 1 = _
      omega

theorem before_behind_concat (taken : List Char) (c : Char) :
    (behind taken).Before (behind (taken ++ [c])) := by
  rw [behind_concat]
  split
  · left
    dsimp only
    omega
  · right
    dsimp only
    omega

/-- Positions increase as the text is read. -/
theorem before_behind_append (taken : List Char) {more : List Char} (h : more ≠ []) :
    (behind taken).Before (behind (taken ++ more)) := by
  induction more using List.reverseRecOn with
  | nil => exact absurd rfl h
  | append_singleton more c ih =>
    rw [← List.append_assoc]
    by_cases hmore : more = []
    · rw [hmore, List.append_nil]
      exact before_behind_concat taken c
    · exact (ih hmore).trans (before_behind_concat _ c)

end Position

/-! ## The order of places -/

/-- A place ends where another starts, or before that. -/
def Place.EndsBefore (place other : Place) : Prop :=
  place.before ++ place.piece.text <+: other.before

namespace Places

/-- Places follow one another without overlap. -/
theorem pairwise_endsBefore (before : List Char) (pieces : List Piece) :
    (places before pieces).Pairwise Place.EndsBefore := by
  induction pieces generalizing before with
  | nil => exact .nil
  | cons piece pieces ih =>
    refine List.pairwise_cons.mpr ⟨?_, ih _⟩
    intro place hmem
    exact (spans_places place hmem).2.1

end Places

theorem Place.EndsBefore.position_before {place other : Place} (h : place.EndsBefore other)
    (hshape : place.piece.Shape) : place.position.Before other.position := by
  obtain ⟨more, hmore⟩ := h
  unfold Place.position
  rw [← hmore, List.append_assoc]
  refine Position.before_behind_append _ ?_
  simp [hshape.text_ne_nil]

/-! ## Slices -/

namespace Census

/-- A diagnostic with one of the messages on broken string literals stands at a position. -/
def hasBrokenLiteralAt (census : Census) (position : Position) : Prop :=
  ∃ diagnostic ∈ census.diagnostics, diagnostic.position = position ∧
    "Unterminated string literal".toList <+: diagnostic.message.toList

instance (census : Census) (position : Position) :
    Decidable (census.hasBrokenLiteralAt position) :=
  inferInstanceAs (Decidable (∃ _ ∈ _, _))

/-- The part of the text that a token stands for: its lexeme, but for the quotation mark lent to a
string literal that is reported as broken. -/
def slice (census : Census) (token : Token) : List Char :=
  if census.hasBrokenLiteralAt token.position then token.lexeme.toList.dropLast
  else token.lexeme.toList

/-- What lies between the slices from an offset on, up to the end of the text. -/
def gapsFrom (census : Census) (text : List Char) : Nat → List Token → List (List Char)
  | start, [] => [text.drop start]
  | start, token :: tokens =>
    (text.drop start).take (token.position.offset text - start) ::
      census.gapsFrom text (token.position.offset text + (census.slice token).length) tokens

/-- What lies between the slices of a text. -/
def gaps (census : Census) (text : List Char) : List (List Char) :=
  census.gapsFrom text 0 census.tokens

/-- Gaps and slices in turn, from a gap to a gap. -/
def woven : (gaps slices : List (List Char)) → List Char
  | gap :: gaps, slice :: slices => gap ++ (slice ++ woven gaps slices)
  | gaps, slices => gaps.flatten ++ slices.flatten

end Census

/-- The messages on broken string literals are those of two faults. -/
theorem Fault.isPrefix_message_iff {fault : Fault} :
    "Unterminated string literal".toList <+: fault.message.toList ↔
      fault = .brokenLiteral ∨ fault = .openLiteral := by
  cases fault with
  | openComment => decide
  | openLiteral => decide
  | brokenLiteral => decide
  | secondPoint numeral =>
    -- the message on a number starts with another letter
    have hnumber : "Malformed numeric literal ".toList.head? = some 'M' := by decide
    have hliteral : "Unterminated string literal".toList.head? = some 'U' := by decide
    have hmessage : (Fault.secondPoint numeral).message.toList.head? = some 'M' := by
      unfold Fault.message
      dsimp only
      rw [String.append_assoc, String.toList_append, List.head?_append, hnumber, Option.some_or]
    constructor
    · rintro ⟨rest, hrest⟩
      rw [← hrest, List.head?_append, hliteral] at hmessage
      simp at hmessage
    · rintro (h | h)
      · cases h
      · cases h

namespace Piece

/-- A piece is reported as a broken string literal. -/
def isBrokenLiteral (piece : Piece) : Prop :=
  piece.fault? = some .brokenLiteral ∨ piece.fault? = some .openLiteral

instance (piece : Piece) : Decidable piece.isBrokenLiteral :=
  inferInstanceAs (Decidable (_ ∨ _))

/-- Broken string literals are the pieces whose lexeme is longer than their text. -/
theorem toList_lexeme (piece : Piece) :
    piece.lexeme.toList = piece.text ++ if piece.isBrokenLiteral then ['"'] else [] := by
  cases piece with
  | literal written ending =>
    cases ending with
    | closed => simp [lexeme, isBrokenLiteral, fault?, text]
    | lineEnd => simp [lexeme, isBrokenLiteral, fault?, text]
    | textEnd => simp [lexeme, isBrokenLiteral, fault?, text]
  | blockComment written closed =>
    cases closed with
    | true => simp [lexeme, isBrokenLiteral, fault?]
    | false => simp [lexeme, isBrokenLiteral, fault?]
  | numeral whole fraction pointFollows =>
    cases fraction with
    | none => simp [lexeme, isBrokenLiteral, fault?]
    | some digits =>
      cases pointFollows with
      | true => simp [lexeme, isBrokenLiteral, fault?]
      | false => simp [lexeme, isBrokenLiteral, fault?]
  | blank c => simp [lexeme, isBrokenLiteral, fault?]
  | lineComment written => simp [lexeme, isBrokenLiteral, fault?]
  | word written => simp [lexeme, isBrokenLiteral, fault?]
  | compound first second => simp [lexeme, isBrokenLiteral, fault?]
  | mark c => simp [lexeme, isBrokenLiteral, fault?]

/-- Only string literals are lent a mark. -/
theorem toList_lexeme_of_valueType? {piece : Piece} (h : piece.valueType? ≠ some "string") :
    piece.lexeme.toList = piece.text := by
  cases piece with
  | literal written ending => exact absurd rfl h
  | _ => exact String.toList_ofList

end Piece

/-- No two places of a text have the same position. -/
theorem eq_of_position_eq {before : List Char} {pieces : List Piece} (h : Piece.Fit pieces)
    {place other : Place} (hplace : place ∈ places before pieces)
    (hother : other ∈ places before pieces) (hsame : place.position = other.position) :
    place = other := by
  have hnodup : ((places before pieces).map Place.position).Nodup := by
    rw [List.Nodup, List.pairwise_map]
    refine (Places.pairwise_endsBefore before pieces).imp_of_mem ?_
    intro first second hfirst _ hends
    have hshape := h.shape _ (Places.spans_places first hfirst).2.2
    exact (hends.position_before hshape).ne
  exact List.inj_on_of_nodup_map hnodup hplace hother hsame

namespace Census

theorem fit_reading (text : String) {place : Place} (h : place ∈ reading text) :
    place.piece.Shape :=
  (Piece.fit_split text.toList).shape _ (Places.spans_places place h).2.2

theorem stopsAt_reading {text : String} {place : Place} (h : place ∈ reading text) :
    place.piece.StopsAt place.after.head? := by
  obtain ⟨done, ahead, hpieces, -, hafter⟩ := Places.mem_places_iff.mp h
  have hfit := Piece.fit_split text.toList
  rw [hpieces] at hfit
  rw [hafter]
  exact (Piece.fit_append_right hfit).2.1

theorem toList_eq_of_reading {text : String} {place : Place} (h : place ∈ reading text) :
    text.toList = place.before ++ (place.piece.text ++ place.after) := by
  have hspans := (Places.spans_places place h).1
  rw [List.nil_append, Piece.spelled_split, List.append_assoc] at hspans
  exact hspans.symm

theorem drop_before_of_reading {text : String} {place : Place} (h : place ∈ reading text) :
    text.toList.drop place.before.length = place.piece.text ++ place.after := by
  rw [toList_eq_of_reading h, List.drop_left]

theorem drop_past_of_reading {text : String} {place : Place} (h : place ∈ reading text) :
    text.toList.drop (place.before ++ place.piece.text).length = place.after := by
  rw [toList_eq_of_reading h, ← List.append_assoc, List.drop_left]

/-- A message on broken string literals stands at a place just where there is one. -/
theorem hasBrokenLiteralAt_iff {text : String} {refine : Bool} {place : Place}
    (h : place ∈ reading text) :
    (ofText text refine).hasBrokenLiteralAt place.position ↔ place.piece.isBrokenLiteral := by
  unfold hasBrokenLiteralAt
  rw [diagnostics_ofText]
  constructor
  · rintro ⟨diagnostic, hmem, hposition, hmessage⟩
    obtain ⟨other, hother, hdiagnostic⟩ := List.mem_filterMap.mp hmem
    obtain ⟨fault, hfault, rfl⟩ := Option.map_eq_some_iff.mp hdiagnostic
    -- the diagnostic is the one of the place, because it has its position
    obtain rfl := eq_of_position_eq (Piece.fit_split _) hother h hposition
    rcases Fault.isPrefix_message_iff.mp hmessage with rfl | rfl
    · exact .inl hfault
    · exact .inr hfault
  · intro hbroken
    obtain ⟨fault, hfault, hmessage⟩ : ∃ fault, place.piece.fault? = some fault ∧
        "Unterminated string literal".toList <+: fault.message.toList := by
      rcases hbroken with hfault | hfault
      · exact ⟨_, hfault, Fault.isPrefix_message_iff.mpr (.inl rfl)⟩
      · exact ⟨_, hfault, Fault.isPrefix_message_iff.mpr (.inr rfl)⟩
    refine ⟨⟨fault, place.position⟩, List.mem_filterMap.mpr ⟨place, h, ?_⟩, rfl, hmessage⟩
    rw [Place.diagnostic?, hfault]
    rfl

/-- The slice of a token is the text of its piece. -/
theorem slice_eq_text {text : String} {refine : Bool} {place : Place} {token : Token}
    (h : place ∈ reading text) (htoken : place.token? = some token) :
    (ofText text refine).slice token = place.piece.text := by
  obtain ⟨kind, -, rfl⟩ := Option.map_eq_some_iff.mp htoken
  unfold slice
  show (if (ofText text refine).hasBrokenLiteralAt place.position then
    place.piece.lexeme.toList.dropLast else place.piece.lexeme.toList) = _
  rw [Piece.toList_lexeme]
  by_cases hbroken : place.piece.isBrokenLiteral
  · rw [if_pos ((hasBrokenLiteralAt_iff h).mpr hbroken), if_pos hbroken, List.dropLast_concat]
  · rw [if_neg (mt (hasBrokenLiteralAt_iff h).mp hbroken), if_neg hbroken, List.append_nil]

/-- The offset of a token is the number of characters before its piece. -/
theorem offset_eq_length {text : String} {place : Place} {token : Token} (h : place ∈ reading text)
    (htoken : place.token? = some token) :
    token.position.offset text.toList = place.before.length := by
  obtain ⟨kind, -, rfl⟩ := Option.map_eq_some_iff.mp htoken
  show (Position.behind place.before).offset text.toList = _
  rw [toList_eq_of_reading h, Position.offset_behind]

/-! ## Gaps -/

/-- The tokens cover a text: their slices stand in it one behind the other, and only gaps that yield
no token are between them. -/
structure Covers (census : Census) (text : List Char) : Prop where
  /-- Every slice has characters and stands in the text at the offset of its token. -/
  placed : ∀ token ∈ census.tokens,
    (1 ≤ token.position.line ∧ 1 ≤ token.position.column) ∧ census.slice token ≠ [] ∧
      census.slice token <+: text.drop (token.position.offset text)
  /-- Slices end before the next one starts, and the positions increase. -/
  ordered : census.tokens.Pairwise fun token other =>
    token.position.offset text + (census.slice token).length ≤ other.position.offset text ∧
      token.position.Before other.position
  /-- Gaps and slices in turn are the text. -/
  woven : woven (census.gaps text) (census.tokens.map census.slice) = text
  /-- A gap on its own yields no token. -/
  silent : ∀ gap ∈ census.gaps text, ∀ refine, (ofText (String.ofList gap) refine).tokens = []

/-- Pieces that yield no token are silent on their own. -/
theorem tokens_ofText_gaps {pieces : List Piece} (hgaps : ∀ piece ∈ pieces, piece.Gap)
    (hfit : Piece.Fit pieces) (refine : Bool) :
    (ofText (String.ofList (Piece.spelled pieces)) refine).tokens = [] := by
  rw [tokens_ofText, reading, String.toList_ofList, Piece.split_spelled hfit]
  exact Places.tokens_places_gaps [] hgaps

/-- A token ends the gap before it, and the next gap starts behind its slice. -/
theorem gapsFrom_token {text : String} {refine : Bool} {place : Place} {token : Token}
    {done gap rest : List Char} (tokens : List Token) (htext : text.toList = done ++ gap ++ rest)
    (hplace : place ∈ reading text) (hbefore : place.before = done ++ gap)
    (hyields : place.token? = some token) :
    (ofText text refine).gapsFrom text.toList done.length (token :: tokens) =
      gap :: (ofText text refine).gapsFrom text.toList (place.before ++ place.piece.text).length
        tokens := by
  have hcut : (text.toList.drop done.length).take (place.before.length - done.length) = gap := by
    rw [htext, hbefore, List.length_append, Nat.add_sub_cancel_left, List.append_assoc,
      List.drop_left, List.take_left]
  rw [gapsFrom, offset_eq_length hplace hyields, slice_eq_text hplace hyields, hcut,
    List.length_append]

/-- The gaps that are cut out of the text from the end of a slice on, by induction on the pieces
ahead: pieces without a token are collected until a token or the end of the text comes. -/
theorem gapsFrom_spec {text : String} {refine : Bool} {pieces : List Piece}
    {done before : List Char} {gaps : List Piece} (hbefore : before = done ++ Piece.spelled gaps)
    (htext : text.toList = before ++ Piece.spelled pieces) (hfit : Piece.Fit (gaps ++ pieces))
    (hgaps : ∀ piece ∈ gaps, piece.Gap)
    (hmem : ∀ place ∈ places before pieces, place ∈ reading text) :
    let census := ofText text refine
    let tokens := Places.tokens (places before pieces)
    Census.woven (census.gapsFrom text.toList done.length tokens) (tokens.map census.slice) =
        Piece.spelled gaps ++ Piece.spelled pieces ∧
      ∀ gap ∈ census.gapsFrom text.toList done.length tokens,
        ∀ refine, (ofText (String.ofList gap) refine).tokens = [] := by
  induction pieces generalizing done before gaps with
  | nil =>
    have hsilent := tokens_ofText_gaps hgaps (Piece.fit_gaps hfit hgaps)
    have hdrop : text.toList.drop done.length = Piece.spelled gaps := by
      rw [htext, hbefore, Piece.spelled_nil, List.append_nil, List.drop_left]
    show Census.woven [text.toList.drop done.length] [] = _ ∧
      ∀ gap ∈ [text.toList.drop done.length], _
    rw [hdrop]
    constructor
    · simp [Census.woven]
    · exact List.forall_mem_singleton.mpr hsilent
  | cons piece pieces ih =>
    obtain ⟨hplace, hrest⟩ := List.forall_mem_cons.mp hmem
    have htext' : text.toList = before ++ piece.text ++ Piece.spelled pieces := by
      rw [htext, Piece.spelled_cons, List.append_assoc]
    cases hyields : Place.token? ⟨before, piece, Piece.spelled pieces⟩ with
    | none =>
      -- the piece joins the gap
      have htokens : Places.tokens (places before (piece :: pieces)) =
          Places.tokens (places (before ++ piece.text) pieces) :=
        List.filterMap_cons_none hyields
      have hbefore' : before ++ piece.text = done ++ Piece.spelled (gaps ++ [piece]) := by
        rw [Piece.spelled_concat, hbefore, List.append_assoc]
      have hfit' : Piece.Fit (gaps ++ [piece] ++ pieces) := by
        rw [List.append_assoc]
        exact hfit
      have hgaps' : ∀ other ∈ gaps ++ [piece], other.Gap := by
        intro other hother
        rcases List.mem_append.mp hother with hother | hother
        · exact hgaps other hother
        · rw [List.mem_singleton.mp hother]
          exact Option.map_eq_none_iff.mp hyields
      have hnext := ih hbefore' htext' hfit' hgaps' hrest
      rw [Piece.spelled_concat, List.append_assoc] at hnext
      rw [htokens]
      exact hnext
    | some token =>
      -- the gap ends at the token, and another starts behind it
      have htokens : Places.tokens (places before (piece :: pieces)) =
          token :: Places.tokens (places (before ++ piece.text) pieces) :=
        List.filterMap_cons_some hyields
      have hslice : (ofText text refine).slice token = piece.text := slice_eq_text hplace hyields
      have hbefore' : before ++ piece.text = before ++ piece.text ++ Piece.spelled [] :=
        (List.append_nil _).symm
      have hfit' : Piece.Fit ([] ++ pieces) := (Piece.fit_append_right hfit).2.2
      obtain ⟨hwoven, hsilent⟩ := ih hbefore' htext' hfit' (List.forall_mem_nil _) hrest
      rw [hbefore] at htext
      dsimp only at hwoven hsilent ⊢
      rw [htokens, gapsFrom_token _ htext hplace hbefore hyields]
      constructor
      · rw [List.map_cons, Census.woven, hwoven, hslice]
        rfl
      · have hgap := tokens_ofText_gaps hgaps (Piece.fit_gaps hfit hgaps)
        exact List.forall_mem_cons.mpr ⟨hgap, hsilent⟩

/-! ## The whole text -/

/-- **The tokens of a text cover it**, whatever the text is. -/
theorem covers_ofText (text : String) (refine : Bool) :
    (ofText text refine).Covers text.toList := by
  have htokens := tokens_ofText text refine
  have hspelled : text.toList = [] ++ Piece.spelled (Piece.split text.toList) := by
    rw [List.nil_append, Piece.spelled_split]
  have hgaps := @gapsFrom_spec _ refine _ [] _ [] rfl hspelled
    (Piece.fit_split _) (List.forall_mem_nil _) (fun _ hmem => hmem)
  dsimp only at hgaps
  have hplaces : places ([] ++ Piece.spelled []) (Piece.split text.toList) = reading text := rfl
  rw [hplaces, ← htokens] at hgaps
  constructor
  case placed =>
    intro token hmem
    rw [htokens] at hmem
    obtain ⟨place, hplace, hyields⟩ := List.mem_filterMap.mp hmem
    have hposition : token.position = Position.behind place.before := by
      obtain ⟨kind, -, rfl⟩ := Option.map_eq_some_iff.mp hyields
      rfl
    rw [slice_eq_text hplace hyields, offset_eq_length hplace hyields, hposition]
    refine ⟨Position.one_le_behind _, (fit_reading text hplace).text_ne_nil, ?_⟩
    rw [drop_before_of_reading hplace]
    exact List.prefix_append ..
  case ordered =>
    rw [htokens, Places.tokens, List.pairwise_filterMap]
    refine (Places.pairwise_endsBefore [] _).imp_of_mem ?_
    intro place other hplace hother hends token hyields token' hyields'
    rw [slice_eq_text hplace hyields, offset_eq_length hplace hyields,
      offset_eq_length hother hyields', ← List.length_append]
    refine ⟨hends.length_le, ?_⟩
    have hbefore := hends.position_before (fit_reading text hplace)
    obtain ⟨kind, -, rfl⟩ := Option.map_eq_some_iff.mp hyields
    obtain ⟨kind', -, rfl⟩ := Option.map_eq_some_iff.mp hyields'
    exact hbefore
  case woven =>
    rw [gaps]
    exact hgaps.1.trans (Piece.spelled_split _)
  case silent => exact hgaps.2

end Census

end SymbolCensus
