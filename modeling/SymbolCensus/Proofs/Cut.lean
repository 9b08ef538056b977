import SymbolCensus.Proofs.Coverage

/-!
# Texts cut behind a token

A token is as it is because of the text up to its end. Whatever stopped it there, the end of the text
would have stopped it at the same place, so a text that is cut right behind a token has the tokens up
to that one and no others.

- `Census.upTo`: the text up to the end of a token.
- `Piece.severed`: what becomes of the last piece of a text when nothing stands behind it any more.
- `Places.exists_of_getElem?_tokens`: the pieces of a text around its token of a given number.
- `Census.tokens_upTo`: the tokens of the cut text, and of any other text that begins like it.
-/

namespace SymbolCensus

namespace Piece

/-! ## Pieces at the end of a text -/

/-- The piece that is left when the text behind a token is taken away: the newline that ended a string
literal is gone, and so is a second point behind a number. -/
def severed : Piece → Piece
  | literal written .lineEnd => literal written .textEnd
  | numeral whole fraction _ => numeral whole fraction false
  | piece => piece

theorem text_severed (piece : Piece) : piece.severed.text = piece.text := by
  unfold severed
  split
  · rfl
  next whole fraction pointFollows =>
    cases fraction with
    | none => rfl
    | some digits => rfl
  · rfl

/-- The token does not show what stood behind it. -/
theorem token?_severed (piece : Piece) (position : Position) :
    piece.severed.token? position = piece.token? position := by
  unfold severed
  split
  · rfl
  next whole fraction pointFollows =>
    cases fraction with
    | none => rfl
    | some digits => rfl
  · rfl

theorem Shape.severed {piece : Piece} (h : piece.Shape) : piece.severed.Shape := by
  unfold Piece.severed
  split
  next written =>
    obtain ⟨body, htext, hbody⟩ := h
    exact ⟨body, .inl htext, hbody⟩
  next whole fraction pointFollows =>
    obtain ⟨hne, hwhole, hfraction, -⟩ := h
    exact ⟨hne, hwhole, hfraction, fun _ => rfl⟩
  · exact h

/-- Every piece may end where the text ends once it is severed. -/
theorem stopsAt_severed {piece : Piece} {next : Option Char} (h : piece.StopsAt next) :
    piece.severed.StopsAt none := by
  cases piece with
  | blank c => trivial
  | lineComment written => exact fun _ hc => absurd hc (Option.not_mem_none _)
  | blockComment written closed => exact fun _ => rfl
  | word written => exact fun _ hc => absurd hc (Option.not_mem_none _)
  | literal written ending =>
    cases ending with
    | closed => trivial
    | lineEnd => rfl
    | textEnd => rfl
  | numeral whole fraction pointFollows =>
    cases fraction with
    | none => exact fun _ hc => absurd hc (Option.not_mem_none _)
    | some digits => exact ⟨fun _ hc => absurd hc (Option.not_mem_none _), rfl⟩
  | compound first second => trivial
  | mark c => exact fun _ hd => absurd hd (Option.not_mem_none _)

/-- Pieces up to one of those that fit still fit when that one is severed. The pieces before it see
the same next character as before, because its text is the same. -/
theorem Fit.severed {done ahead : List Piece} {piece : Piece} (h : Fit (done ++ piece :: ahead)) :
    Fit (done ++ [piece.severed]) := by
  induction done with
  | nil =>
    obtain ⟨hshape, hstops, -⟩ := h
    exact ⟨hshape.severed, stopsAt_severed hstops, trivial⟩
  | cons first done ih =>
    rw [List.cons_append] at h ⊢
    obtain ⟨hshape, hstops, hfit⟩ := h
    refine ⟨hshape, ?_, ih hfit⟩
    have hpiece : piece.text ≠ [] := (hfit.shape piece (by simp)).text_ne_nil
    have hcut : spelled (done ++ piece :: ahead) =
        spelled (done ++ [piece.severed]) ++ spelled ahead := by
      rw [spelled_append, spelled_concat, spelled_cons, text_severed, List.append_assoc]
    rw [hcut, List.head?_append_of_ne_nil] at hstops
    · exact hstops
    · rw [spelled_concat, text_severed]
      exact List.append_ne_nil_of_right_ne_nil _ hpiece

end Piece

/-- A token of some pieces comes from one of them, and the tokens before it from those before that. -/
theorem Places.exists_of_getElem?_tokens {before : List Char} {pieces : List Piece} {k : Nat}
    {token : Token} (h : (tokens (places before pieces))[k]? = some token) :
    ∃ done piece ahead, pieces = done ++ piece :: ahead ∧
      piece.token? (Position.behind (before ++ Piece.spelled done)) = some token ∧
      tokens (places before done) = (tokens (places before pieces)).take k := by
  induction pieces generalizing before k with
  | nil => cases h
  | cons first pieces ih =>
    cases hyields : Place.token? ⟨before, first, Piece.spelled pieces⟩ with
    | none =>
      -- the number of the token stays the same without the first piece
      have hskip : ∀ more, tokens (places before (first :: more)) =
          tokens (places (before ++ first.text) more) := fun _ => List.filterMap_cons_none hyields
      rw [hskip] at h ⊢
      obtain ⟨done, piece, ahead, rfl, htoken, htokens⟩ := ih h
      rw [List.append_assoc] at htoken
      exact ⟨first :: done, piece, ahead, rfl, htoken, (hskip done).trans htokens⟩
    | some found =>
      have hcount : ∀ more, tokens (places before (first :: more)) =
          found :: tokens (places (before ++ first.text) more) :=
        fun _ => List.filterMap_cons_some hyields
      rw [hcount] at h ⊢
      cases k with
      | zero =>
        obtain rfl : found = token := Option.some.inj h
        refine ⟨[], first, pieces, rfl, ?_, rfl⟩
        rw [Piece.spelled_nil, List.append_nil]
        exact hyields
      | succ k =>
        obtain ⟨done, piece, ahead, rfl, htoken, htokens⟩ := ih h
        rw [List.append_assoc] at htoken
        exact ⟨first :: done, piece, ahead, rfl, htoken, (hcount done).trans (by rw [htokens]; rfl)⟩

namespace Census

/-- The text up to the end of a token: it ends behind the slice that starts at the offset of the
token. -/
def upTo (census : Census) (text : List Char) (token : Token) : List Char :=
  text.take (token.position.offset text + (census.slice token).length)

/-- What is left of a text that is cut behind a token is the text before the token and the token. -/
theorem upTo_of_reading {text : String} {refine : Bool} {place : Place} {token : Token}
    (h : place ∈ reading text) (htoken : place.token? = some token) :
    (ofText text refine).upTo text.toList token = place.before ++ place.piece.text := by
  rw [upTo, offset_eq_length h htoken, slice_eq_text h htoken, toList_eq_of_reading h,
    ← List.length_append, ← List.append_assoc, List.take_left]

/-- The tokens of a text that is cut behind one of its tokens are the tokens up to that one. -/
theorem tokens_ofText_upTo {text : String} {refine : Bool} {k : Nat} {token : Token}
    (h : (ofText text refine).tokens[k]? = some token) :
    (ofText (String.ofList ((ofText text refine).upTo text.toList token)) refine).tokens =
      (ofText text refine).tokens.take (k + 1) := by
  have htaken : (ofText text refine).tokens.take (k + 1) =
      (ofText text refine).tokens.take k ++ [token] := by
    rw [List.take_add_one, h]
    rfl
  rw [tokens_ofText] at h
  obtain ⟨done, piece, ahead, hpieces, htoken, htokens⟩ := Places.exists_of_getElem?_tokens h
  rw [List.nil_append] at htoken
  have hplace : ⟨Piece.spelled done, piece, Piece.spelled ahead⟩ ∈ reading text :=
    Places.mem_places_iff.mpr ⟨done, ahead, hpieces, rfl, rfl⟩
  have hfit := Piece.fit_split text.toList
  rw [hpieces] at hfit
  -- the cut text falls into the pieces up to the token, the last of them severed
  have hsplit : Piece.split ((ofText text refine).upTo text.toList token) =
      done ++ [piece.severed] := by
    refine Piece.split_eq_iff.mpr ⟨?_, hfit.severed⟩
    rw [upTo_of_reading hplace htoken, Piece.spelled_concat, Piece.text_severed]
  have hlast : Places.tokens (places (Piece.spelled done) [piece.severed]) = [token] := by
    have hyields : Place.token? ⟨Piece.spelled done, piece.severed, []⟩ = some token :=
      (Piece.token?_severed ..).trans htoken
    exact List.filterMap_cons_some hyields
  rw [htaken, tokens_ofText, reading, String.toList_ofList, hsplit, Places.tokens_places_append,
    List.nil_append, hlast, htokens, tokens_ofText, reading]

/-- **What follows a token changes neither it nor any token before it.** A text that is cut right
behind a token has the tokens up to that one, and so has the beginning of any text that has a token
ending there. -/
theorem tokens_upTo {text : String} {refine : Bool} {k : Nat} {token : Token}
    (h : (ofText text refine).tokens[k]? = some token) :
    (ofText (String.ofList ((ofText text refine).upTo text.toList token)) refine).tokens =
        (ofText text refine).tokens.take (k + 1) ∧
      ∀ (other : String) (j : Nat) (token' : Token),
        (ofText other refine).tokens[j]? = some token' →
        (ofText other refine).upTo other.toList token' =
          (ofText text refine).upTo text.toList token →
        (ofText other refine).tokens.take (j + 1) = (ofText text refine).tokens.take (k + 1) := by
  refine ⟨tokens_ofText_upTo h, fun other j token' hother hcut => ?_⟩
  rw [← tokens_ofText_upTo h, ← tokens_ofText_upTo hother, hcut]

/-- A literal that a newline breaks, and another text in which a backslash and a mark come there. -/
theorem tokens_upTo_brokenLine :
    let text := "f(\"ab\nc++"
    let other := "f(\"ab\n\\=1.5.."
    let census := ofText text true
    let literal : Token :=
      { kind := .constant, lexeme := "\"ab\"", position := ⟨1, 3⟩, valueType := "string" }
    census.tokens[2]? = some literal ∧ census.upTo text.toList literal = "f(\"ab".toList ∧
      (ofText "f(\"ab" true).tokens = census.tokens.take 3 ∧
      (ofText other true).tokens.take 3 = census.tokens.take 3 := by
  intro text other census literal
  have hmem : census.tokens[2]? = some literal := by decide +kernel
  have hupTo : census.upTo text.toList literal = "f(\"ab".toList := by decide +kernel
  have hother : (ofText other true).tokens[2]? = some literal := by decide +kernel
  have hupTo' : (ofText other true).upTo other.toList literal = "f(\"ab".toList := by decide +kernel
  obtain ⟨hcut, hsame⟩ := tokens_upTo hmem
  rw [hupTo, String.ofList_toList] at hcut
  exact ⟨hmem, hupTo, hcut, hsame other 2 literal hother (hupTo'.trans hupTo.symm)⟩

end Census

end SymbolCensus
