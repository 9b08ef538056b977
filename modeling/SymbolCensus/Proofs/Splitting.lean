import SymbolCensus.Proofs.Grammar

/-!
# A text as a list of pieces

Reading a text piece by piece splits it. The split is determined by the grammar alone: it is the one
list of pieces that spells the text and in which every piece has its shape and ends at the character
that follows it (`Piece.split_eq_iff`).

- `Piece.split`: the pieces of a text.
- `Piece.spelled`: the text of a list of pieces.
- `Piece.Fit`: pieces that can stand one behind the other.
- `Piece.Gap`: pieces that yield no token. A stretch of gaps splits the same way alone as it does
  inside a text (`fit_gaps`), because a gap may always end where the text ends.
-/

namespace SymbolCensus

namespace Piece

/-- The pieces that a text falls into, one behind the other. -/
def split : List Char → List Piece
  | [] => []
  | c :: rest => leading c rest :: split ((c :: rest).drop (leading c rest).text.length)
termination_by text => text.length
decreasing_by
  have hpos := List.length_pos_iff.2 (text_leading_ne_nil c rest)
  rw [List.length_drop]
  simp only [List.length_cons]
  omega

/-- The text that pieces cover together. -/
def spelled (pieces : List Piece) : List Char :=
  pieces.flatMap text

@[simp] theorem spelled_nil : spelled [] = [] := rfl

@[simp] theorem spelled_cons (piece : Piece) (pieces : List Piece) :
    spelled (piece :: pieces) = piece.text ++ spelled pieces := rfl

theorem spelled_append (pieces more : List Piece) :
    spelled (pieces ++ more) = spelled pieces ++ spelled more :=
  List.flatMap_append

theorem spelled_concat (pieces : List Piece) (piece : Piece) :
    spelled (pieces ++ [piece]) = spelled pieces ++ piece.text := by
  rw [spelled_append, spelled_cons, spelled_nil, List.append_nil]

/-- Pieces that can stand one behind the other, up to the end of a text. -/
def Fit : List Piece → Prop
  | [] => True
  | piece :: pieces => piece.Shape ∧ piece.StopsAt (spelled pieces).head? ∧ Fit pieces

/-- A piece covers at least one character. -/
theorem Shape.text_ne_nil {piece : Piece} (h : piece.Shape) : piece.text ≠ [] := by
  cases piece with
  | blank c => exact List.cons_ne_nil _ _
  | lineComment written =>
    obtain ⟨body, rfl, -⟩ := h
    exact List.cons_ne_nil _ _
  | blockComment written closed =>
    cases closed with
    | true =>
      obtain ⟨body, rfl, -⟩ := h
      exact List.cons_ne_nil _ _
    | false =>
      obtain ⟨body, rfl, -⟩ := h
      exact List.cons_ne_nil _ _
  | word written =>
    obtain ⟨c, rest, rfl, -⟩ := h
    exact List.cons_ne_nil _ _
  | literal written ending =>
    cases ending with
    | closed =>
      obtain ⟨body, rfl, -⟩ := h
      exact List.cons_ne_nil _ _
    | lineEnd =>
      obtain ⟨body, rfl, -⟩ := h
      exact List.cons_ne_nil _ _
    | textEnd =>
      obtain ⟨body, rfl | rfl, -⟩ := h
      · exact List.cons_ne_nil _ _
      · exact List.cons_ne_nil _ _
  | numeral whole fraction pointFollows =>
    cases fraction with
    | none => exact h.1
    | some digits => simp [text]
  | compound first second => exact List.cons_ne_nil _ _
  | mark c => exact List.cons_ne_nil _ _

/-- A piece that starts a text is the first of its split. -/
theorem split_append {piece : Piece} {tail : List Char} (hshape : piece.Shape)
    (hstops : piece.StopsAt tail.head?) :
    split (piece.text ++ tail) = piece :: split tail := by
  obtain ⟨c, rest, htext⟩ := List.exists_cons_of_ne_nil hshape.text_ne_nil
  have hstarts : piece.Starts (c :: (rest ++ tail)) := ⟨tail, by rw [htext]; rfl, hshape, hstops⟩
  have hread := hstarts.eq_leading
  rw [htext, List.cons_append, split, hread, ← List.cons_append, ← htext,
    List.drop_left]

/-- Pieces that fit are the split of the text they spell. -/
theorem split_spelled {pieces : List Piece} (h : Fit pieces) : split (spelled pieces) = pieces := by
  induction pieces with
  | nil => rw [spelled_nil, split]
  | cons piece pieces ih =>
    obtain ⟨hshape, hstops, hfit⟩ := h
    rw [spelled_cons, split_append hshape hstops, ih hfit]

/-- The first of the pieces that fit is the one that their text starts with. -/
theorem Fit.eq_leading_cons {pieces : List Piece} (h : Fit pieces) {c : Char} {rest : List Char}
    (hspelled : spelled pieces = c :: rest) : ∃ more, pieces = leading c rest :: more := by
  have hsplit := split_spelled h
  rw [hspelled, split] at hsplit
  exact ⟨_, hsplit.symm⟩

/-- The split of a text spells it, and its pieces fit. -/
theorem spelled_split_and_fit (text : List Char) :
    spelled (split text) = text ∧ Fit (split text) := by
  fun_induction split text with
  | case1 => exact ⟨rfl, trivial⟩
  | case2 c rest ih =>
    obtain ⟨hspelled, hfit⟩ := ih
    obtain ⟨tail, htext, hshape, hstops⟩ := starts_leading c rest
    -- what is left to split is what stands behind the piece
    have hdrop : (c :: rest).drop (leading c rest).text.length = tail := by
      conv => lhs; rw [htext]
      rw [List.drop_left]
    rw [hdrop] at hspelled hfit
    rw [hdrop]
    refine ⟨?_, hshape, ?_, hfit⟩
    · rw [spelled_cons, hspelled, ← htext]
    · rw [hspelled]
      exact hstops

@[simp] theorem spelled_split (text : List Char) : spelled (split text) = text :=
  (spelled_split_and_fit text).1

theorem fit_split (text : List Char) : Fit (split text) :=
  (spelled_split_and_fit text).2

/-- **The grammar determines the split.** -/
theorem split_eq_iff {text : List Char} {pieces : List Piece} :
    split text = pieces ↔ spelled pieces = text ∧ Fit pieces := by
  constructor
  · rintro rfl
    exact spelled_split_and_fit text
  · rintro ⟨rfl, hfit⟩
    exact split_spelled hfit

/-! ## Parts of a split -/

theorem fit_append_right {pieces more : List Piece} (h : Fit (pieces ++ more)) : Fit more := by
  induction pieces with
  | nil => exact h
  | cons piece pieces ih => exact ih h.2.2

/-- Every piece of a fitting list has its shape. -/
theorem Fit.shape {pieces : List Piece} (h : Fit pieces) : ∀ piece ∈ pieces, piece.Shape := by
  induction pieces with
  | nil => exact List.forall_mem_nil _
  | cons first pieces ih =>
    intro piece hmem
    rcases List.mem_cons.mp hmem with rfl | hmem
    · exact h.1
    · exact ih h.2.2 piece hmem

/-- The text behind a nonempty list of pieces does not show at its front. -/
theorem head?_spelled_append {pieces more : List Piece} (h : Fit (pieces ++ more))
    (hne : pieces ≠ []) : (spelled (pieces ++ more)).head? = (spelled pieces).head? := by
  obtain ⟨piece, rest, rfl⟩ := List.exists_cons_of_ne_nil hne
  obtain ⟨c, written, htext⟩ := List.exists_cons_of_ne_nil h.1.text_ne_nil
  rw [spelled_append, spelled_cons, htext]
  rfl

/-- Pieces that may also end where the text ends fit without what stands behind them. -/
theorem fit_append_left {pieces more : List Piece} (h : Fit (pieces ++ more))
    (hend : ∀ piece ∈ pieces, piece.StopsAt none) : Fit pieces := by
  induction pieces with
  | nil => trivial
  | cons piece pieces ih =>
    obtain ⟨hshape, hstops, hfit⟩ := h
    refine ⟨hshape, ?_, ih hfit fun other hmem => hend other (List.mem_cons_of_mem _ hmem)⟩
    -- only the last piece sees another next character than before, namely none
    by_cases hne : pieces = []
    · rw [hne, spelled_nil]
      exact hend piece (List.mem_cons_self ..)
    · rw [← head?_spelled_append hfit hne]
      exact hstops

/-- Lists of pieces that fit can stand one behind the other if the last piece of the first one may
end before the text of the second one. -/
theorem Fit.append {pieces more : List Piece} (h : Fit pieces) (hmore : Fit more)
    (hlast : ∀ piece ∈ pieces.getLast?, piece.StopsAt (spelled more).head?) :
    Fit (pieces ++ more) := by
  induction pieces with
  | nil => exact hmore
  | cons piece pieces ih =>
    obtain ⟨hshape, hstops, hfit⟩ := h
    cases pieces with
    | nil => exact ⟨hshape, hlast piece rfl, hmore⟩
    | cons next pieces =>
      have hrest : Fit (next :: pieces ++ more) := by
        refine ih hfit fun other hother => hlast other ?_
        rw [List.getLast?_cons_cons]
        exact hother
      refine ⟨hshape, ?_, hrest⟩
      show piece.StopsAt (spelled (next :: pieces ++ more)).head?
      rw [head?_spelled_append hrest (List.cons_ne_nil _ _)]
      exact hstops

/-- Pieces that fit and spell nothing are none. -/
theorem Fit.eq_nil_of_spelled {pieces : List Piece} (h : Fit pieces)
    (hspelled : spelled pieces = []) : pieces = [] := by
  cases pieces with
  | nil => rfl
  | cons piece pieces =>
    rw [spelled_cons, List.append_eq_nil_iff] at hspelled
    exact absurd hspelled.1 h.1.text_ne_nil

/-! ## Gaps -/

/-- The piece yields no token. -/
def Gap (piece : Piece) : Prop :=
  piece.kind? = none

/-- A gap may end where the text ends. -/
theorem Gap.stopsAt_none {piece : Piece} (h : piece.Gap) : piece.StopsAt none := by
  cases piece with
  | blank c => trivial
  | lineComment written => exact fun _ h => absurd h (Option.not_mem_none _)
  | blockComment written closed => exact fun _ => rfl
  | word written => cases h
  | literal written ending => cases h
  | numeral whole fraction pointFollows => cases h
  | compound first second => cases h
  | mark c => cases h

/-- Gaps fit alone if they fit before something else. -/
theorem fit_gaps {gaps more : List Piece} (h : Fit (gaps ++ more))
    (hgaps : ∀ piece ∈ gaps, piece.Gap) : Fit gaps :=
  fit_append_left h fun piece hmem => (hgaps piece hmem).stopsAt_none

end Piece

end SymbolCensus
