import SymbolCensus.Analysis.File
import SymbolCensus.Proofs.Diagnosis

/-!
# Carriage returns before newlines

A text may end its lines with a carriage return and a newline instead of a newline alone. The
analysis is the same, positions included, unless a newline is part of a token or breaks one off: what
a carriage return adds stands at the end of a line, in a comment, or as a blank of its own.

- `withReturns`: a text with a carriage return before each newline. `behind_withReturns` says that
  positions do not notice.
- `Piece.Returned`: how the pieces of a text change with it. The two runs take different numbers of
  pieces, but only gaps are added (`Returned.filterMap_places`).
- `SymbolTable.sightAll_blurred`: of the character behind an identifier the table notices no more
  than whether it is an opening parenthesis.
- `Analysis.ofText_withReturns`: the analyses are equal.
-/

namespace SymbolCensus

/-- The text with a carriage return before each newline. -/
def withReturns (text : List Char) : List Char :=
  text.flatMap fun c => if c = '\n' then ['\r', '\n'] else [c]

@[simp] theorem withReturns_nil : withReturns [] = [] := rfl

theorem withReturns_newline (text : List Char) :
    withReturns ('\n' :: text) = '\r' :: '\n' :: withReturns text := rfl

theorem withReturns_cons {c : Char} (h : c ≠ '\n') (text : List Char) :
    withReturns (c :: text) = c :: withReturns text := by
  unfold withReturns
  rw [List.flatMap_cons, if_neg h]
  rfl

theorem withReturns_append (text more : List Char) :
    withReturns (text ++ more) = withReturns text ++ withReturns more :=
  List.flatMap_append

theorem withReturns_of_not_mem {text : List Char} (h : '\n' ∉ text) : withReturns text = text := by
  induction text with
  | nil => rfl
  | cons c text ih =>
    rw [List.mem_cons, not_or] at h
    rw [withReturns_cons (Ne.symm h.1), ih h.2]

theorem head?_withReturns (text : List Char) :
    (withReturns text).head? = text.head?.map fun c => if c = '\n' then '\r' else c := by
  cases text with
  | nil => rfl
  | cons c text =>
    by_cases hc : c = '\n'
    · rw [hc]
      rfl
    · rw [withReturns_cons hc, List.head?_cons, List.head?_cons, Option.map_some, if_neg hc]

/-- A character that is neither a newline nor a carriage return stands at the front of both texts or
of none. -/
theorem head?_withReturns_eq_some_iff {text : List Char} {c : Char} (hline : c ≠ '\n')
    (hreturn : c ≠ '\r') : (withReturns text).head? = some c ↔ text.head? = some c := by
  rw [head?_withReturns]
  cases text.head? with
  | none => simp
  | some d =>
    by_cases hd : d = '\n'
    · simp [hd, Ne.symm hline, Ne.symm hreturn]
    · simp [hd]

/-- Behind a newline the column starts anew, so what stands before it on its line is not counted. -/
theorem behind_withReturns (text : List Char) :
    Position.behind (withReturns text) = Position.behind text := by
  induction text using List.reverseRecOn with
  | nil => rfl
  | append_singleton text c ih =>
    rw [withReturns_append, Position.behind_concat]
    by_cases hc : c = '\n'
    · have hend : withReturns text ++ withReturns [c] = withReturns text ++ ['\r'] ++ ['\n'] := by
        rw [hc, List.append_assoc]
        rfl
      rw [hend, Position.behind_concat, Position.behind_concat, ih, if_pos hc, if_pos rfl,
        if_neg (by decide)]
    · rw [withReturns_cons hc, withReturns_nil, Position.behind_concat, ih]

/-- A closing mark does not arise from carriage returns. -/
theorem CommentBody.withReturns {body : List Char} (h : CommentBody body) :
    CommentBody (withReturns body) := by
  induction body with
  | nil => exact h
  | cons c body ih =>
    obtain ⟨hfirst, hbody⟩ := CommentBody.cons_iff.mp h
    by_cases hc : c = '\n'
    · rw [hc, withReturns_newline]
      refine CommentBody.cons_iff.mpr ⟨fun h => absurd h.1 (by decide), ?_⟩
      exact CommentBody.cons_iff.mpr ⟨fun h => absurd h.1 (by decide), ih hbody⟩
    · rw [withReturns_cons hc]
      refine CommentBody.cons_iff.mpr ⟨?_, ih hbody⟩
      rwa [head?_withReturns_eq_some_iff (by decide) (by decide)]

/-! ## Pieces -/

namespace Piece

/-- The pieces of a text and those of the text with carriage returns. -/
inductive Returned : List Piece → List Piece → Prop
  | nil : Returned [] []
  | newline {pieces others : List Piece} : Returned pieces others →
      Returned (.blank '\n' :: pieces) (.blank '\r' :: .blank '\n' :: others)
  /-- A comment takes the carriage return at the end of its line. -/
  | lineComment {written : List Char} {pieces others : List Piece} : '\n' ∉ written →
      Returned pieces (.blank '\r' :: others) →
      Returned (.lineComment written :: pieces) (.lineComment (written ++ ['\r']) :: others)
  | blockComment {written : List Char} {closed : Bool} {pieces others : List Piece} :
      Returned pieces others →
      Returned (.blockComment written closed :: pieces)
        (.blockComment (withReturns written) closed :: others)
  /-- All else has no newline in it, and ends before a carriage return as well. -/
  | same {piece : Piece} {pieces others : List Piece} : '\n' ∉ piece.text →
      piece.StopsAt (spelled others).head? → Returned pieces others →
      Returned (piece :: pieces) (piece :: others)

variable {pieces others : List Piece}

theorem Returned.spelled_eq (h : Returned pieces others) :
    spelled others = withReturns (spelled pieces) := by
  induction h with
  | nil => rfl
  | newline _ ih =>
    rw [spelled_cons, spelled_cons, spelled_cons, ih]
    rfl
  | lineComment hwritten _ ih =>
    rw [spelled_cons, spelled_cons, withReturns_append, ← ih]
    show _ ++ ['\r'] ++ _ = _
    rw [List.append_assoc]
    show _ = withReturns _ ++ _
    rw [text, withReturns_of_not_mem hwritten]
    rfl
  | blockComment _ ih =>
    rw [spelled_cons, spelled_cons, withReturns_append, ih]
    rfl
  | same hpiece _ _ ih =>
    rw [spelled_cons, spelled_cons, withReturns_append, ih, withReturns_of_not_mem hpiece]

theorem shape_blockComment_withReturns {written : List Char} {closed : Bool}
    (h : (blockComment written closed).Shape) :
    (blockComment (withReturns written) closed).Shape := by
  cases closed with
  | true =>
    obtain ⟨body, rfl, hbody⟩ := h
    refine ⟨withReturns body, ?_, hbody.withReturns⟩
    rw [withReturns_cons (by decide), withReturns_cons (by decide), withReturns_append]
    rfl
  | false =>
    obtain ⟨body, rfl, hbody⟩ := h
    refine ⟨withReturns body, ?_, hbody.withReturns⟩
    rw [withReturns_cons (by decide), withReturns_cons (by decide)]

/-- Pieces that fit still do. -/
theorem Returned.fit (h : Returned pieces others) (hfit : Fit pieces) : Fit others := by
  induction h with
  | nil => trivial
  | newline _ ih =>
    obtain ⟨hshape, -, hrest⟩ := hfit
    have hreturn : (blank '\r').Shape := show Lexicon.isBlank '\r' = true by decide
    exact ⟨hreturn, trivial, hshape, trivial, ih hrest⟩
  | @lineComment written pieces others hwritten hreturned ih =>
    obtain ⟨⟨body, rfl, hbody⟩, hstops, hrest⟩ := hfit
    obtain ⟨-, -, hothers⟩ := ih hrest
    refine ⟨⟨body ++ ['\r'], rfl, by simp [hbody]⟩, ?_, hothers⟩
    -- the comment was followed by a newline, since a carriage return has been put there
    have hspelled := hreturned.spelled_eq
    cases hnext : spelled pieces with
    | nil =>
      rw [hnext] at hspelled
      cases hspelled
    | cons c rest =>
      obtain rfl : c = '\n' := hstops c (by rw [hnext]; rfl)
      rw [hnext] at hspelled
      have hnewline : spelled others = '\n' :: withReturns rest := (List.cons.inj hspelled).2
      rw [hnewline]
      intro d hd
      exact (Option.some.inj hd).symm
  | @blockComment written closed pieces others hreturned ih =>
    obtain ⟨hshape, hstops, hrest⟩ := hfit
    refine ⟨shape_blockComment_withReturns hshape, ?_, ih hrest⟩
    intro hopen
    rw [hreturned.spelled_eq, head?_withReturns, hstops hopen]
    rfl
  | same _ hstops _ ih =>
    obtain ⟨hshape, -, hrest⟩ := hfit
    exact ⟨hshape, hstops, ih hrest⟩

/-- What ends before a newline ends before a carriage return, but for a line comment and for a string
literal that is broken off there. -/
theorem stopsAt_return {piece : Piece} (hline : ∀ written, piece ≠ .lineComment written)
    (hbroken : piece.fault? ≠ some .brokenLiteral) (h : piece.StopsAt (some '\n')) :
    piece.StopsAt (some '\r') := by
  cases piece with
  | blank c => trivial
  | lineComment written => exact absurd rfl (hline written)
  | blockComment written closed =>
    intro hopen
    cases h hopen
  | word written =>
    intro c hc
    rw [← Option.some.inj hc]
    decide
  | literal written ending =>
    cases ending with
    | closed => trivial
    | lineEnd => exact absurd rfl hbroken
    | textEnd => cases h
  | numeral whole fraction pointFollows =>
    cases fraction with
    | none =>
      intro c hc
      rw [← Option.some.inj hc]
      decide
    | some digits =>
      refine ⟨?_, h.2⟩
      intro c hc
      rw [← Option.some.inj hc]
      decide
  | compound first second => trivial
  | mark c =>
    intro d hd
    rw [← Option.some.inj hd]
    exact not_isCompound_of_isBlank (by decide)

theorem StopsAt.withReturns {piece : Piece} {text : List Char}
    (hline : ∀ written, piece ≠ .lineComment written)
    (hbroken : piece.fault? ≠ some .brokenLiteral) (h : piece.StopsAt text.head?) :
    piece.StopsAt (withReturns text).head? := by
  rw [head?_withReturns]
  cases hnext : text.head? with
  | none =>
    rw [hnext] at h
    exact h
  | some c =>
    rw [hnext] at h
    rw [Option.map_some]
    by_cases hc : c = '\n'
    · rw [hc] at h
      rw [if_pos hc]
      exact stopsAt_return hline hbroken h
    · rw [if_neg hc]
      exact h

/-- If no newline is part of a token or breaks one off, the pieces change as described. -/
theorem exists_returned (hfit : Fit pieces)
    (hbroken : ∀ piece ∈ pieces, piece.fault? ≠ some .brokenLiteral)
    (htoken : ∀ piece ∈ pieces, piece.kind? ≠ none → '\n' ∉ piece.text) :
    ∃ others, Returned pieces others := by
  induction pieces with
  | nil => exact ⟨[], .nil⟩
  | cons piece pieces ih =>
    obtain ⟨hshape, hstops, hrest⟩ := hfit
    obtain ⟨hbroken, hbrokens⟩ := List.forall_mem_cons.mp hbroken
    obtain ⟨htoken, htokens⟩ := List.forall_mem_cons.mp htoken
    obtain ⟨others, hreturned⟩ := ih hrest hbrokens htokens
    have hsame : '\n' ∉ piece.text → (∀ written, piece ≠ .lineComment written) →
        Returned (piece :: pieces) (piece :: others) := by
      intro hpiece hline
      refine .same hpiece ?_ hreturned
      rw [hreturned.spelled_eq]
      exact hstops.withReturns hline hbroken
    cases piece with
    | blank c =>
      by_cases hc : c = '\n'
      · rw [hc]
        exact ⟨_, .newline hreturned⟩
      · have hpiece : '\n' ∉ (blank c).text := by simp [text, Ne.symm hc]
        exact ⟨_, hsame hpiece (by simp)⟩
    | lineComment written =>
      have hwritten : '\n' ∉ written := by
        obtain ⟨body, rfl, hbody⟩ := hshape
        simp [hbody]
      cases hnext : spelled pieces with
      | nil =>
        obtain rfl := hrest.eq_nil_of_spelled hnext
        exact ⟨_, .same hwritten hstops .nil⟩
      | cons c rest =>
        -- the newline behind the comment has got its carriage return already
        obtain rfl : c = '\n' := hstops c (by rw [hnext]; rfl)
        obtain ⟨more, rfl⟩ := hrest.eq_leading_cons hnext
        cases hreturned with
        | newline hreturned => exact ⟨_, .lineComment hwritten (.newline hreturned)⟩
        | same hpiece => exact absurd (List.mem_singleton_self _) hpiece
    | blockComment written closed => exact ⟨_, .blockComment hreturned⟩
    | word written => exact ⟨_, hsame (htoken (Option.some_ne_none _)) (by simp)⟩
    | literal written ending => exact ⟨_, hsame (htoken (Option.some_ne_none _)) (by simp)⟩
    | numeral whole fraction pointFollows =>
      exact ⟨_, hsame (htoken (Option.some_ne_none _)) (by simp)⟩
    | compound first second => exact ⟨_, hsame (htoken (Option.some_ne_none _)) (by simp)⟩
    | mark c => exact ⟨_, hsame (htoken (Option.some_ne_none _)) (by simp)⟩

/-- Only gaps without faults have been added, so whatever ignores those and does not notice the
carriage returns before and behind a piece finds the same. -/
theorem Returned.filterMap_places {α : Type} {find : Place → Option α}
    (hgap : ∀ place, place.piece.Gap → place.piece.fault? = none → find place = none)
    (hsame : ∀ before piece after,
      find ⟨withReturns before, piece, withReturns after⟩ = find ⟨before, piece, after⟩)
    (hblock : ∀ before written closed after,
      find ⟨before, .blockComment (withReturns written) closed, after⟩ =
        find ⟨before, .blockComment written closed, after⟩)
    (h : Returned pieces others) (before : List Char) :
    (places (withReturns before) others).filterMap find =
      (places before pieces).filterMap find := by
  have hblank : ∀ before c after, find ⟨before, .blank c, after⟩ = none :=
    fun before c after => hgap ⟨before, .blank c, after⟩ rfl rfl
  have hcomment : ∀ before written after, find ⟨before, .lineComment written, after⟩ = none :=
    fun before written after => hgap ⟨before, .lineComment written, after⟩ rfl rfl
  induction h generalizing before with
  | nil => rfl
  | @newline pieces others hreturned ih =>
    have ih := ih (before ++ ['\n'])
    rw [withReturns_append] at ih
    have hbehind : withReturns before ++ ['\r'] ++ ['\n'] =
        withReturns before ++ withReturns ['\n'] := List.append_assoc ..
    rw [places, places, places, List.filterMap_cons_none (hblank ..),
      List.filterMap_cons_none (hblank ..), List.filterMap_cons_none (hblank ..)]
    show (places (withReturns before ++ ['\r'] ++ ['\n']) others).filterMap find = _
    rw [hbehind]
    exact ih
  | @lineComment written pieces others hwritten hreturned ih =>
    -- the carriage return is read with the comment and not as the blank behind it
    have ih := ih (before ++ written)
    rw [places, List.filterMap_cons_none (hblank ..), withReturns_append,
      withReturns_of_not_mem hwritten] at ih
    rw [places, places, List.filterMap_cons_none (hcomment ..),
      List.filterMap_cons_none (hcomment ..)]
    show (places (withReturns before ++ (written ++ ['\r'])) others).filterMap find = _
    rw [← List.append_assoc]
    exact ih
  | @blockComment written closed pieces others hreturned ih =>
    have hrest :
        (places (withReturns before ++ text (.blockComment (withReturns written) closed))
            others).filterMap find =
          (places (before ++ text (.blockComment written closed)) pieces).filterMap find := by
      show (places (withReturns before ++ withReturns written) others).filterMap find = _
      rw [← withReturns_append]
      exact ih (before ++ written)
    rw [places, places, hreturned.spelled_eq, List.filterMap_cons, List.filterMap_cons, hblock,
      hsame, hrest]
  | @same piece pieces others hpiece _ hreturned ih =>
    have ih := ih (before ++ piece.text)
    rw [withReturns_append, withReturns_of_not_mem hpiece] at ih
    rw [places, places, hreturned.spelled_eq, List.filterMap_cons, List.filterMap_cons, hsame, ih]

end Piece

/-! ## The symbols

A guess looks at the character behind an identifier for one purpose only, and that is neither a
newline nor a carriage return. -/

theorem Context.guess_filter (context : Context) (next : Option Char) :
    context.guess (next.filter (· == '(')) = context.guess next := by
  have hparen : next.filter (· == '(') = some '(' ↔ next = some '(' := by
    rw [Option.filter_eq_some_iff]
    exact and_iff_left rfl
  unfold guess
  simp only [hparen]

/-- The trail, with the characters behind the tokens forgotten but for opening parentheses. -/
def Trail.blurred (trail : Trail) : Trail :=
  trail.map fun entry => (entry.1, entry.2.filter (· == '('))

theorem Trail.tokens_blurred (trail : Trail) : trail.blurred.tokens = trail.tokens := by
  unfold tokens blurred
  rw [List.map_map]
  rfl

/-- The table does not notice what has been forgotten. -/
theorem SymbolTable.sightAll_blurred (trail : Trail) :
    sightAll {} trail.blurred.sightings = sightAll {} trail.sightings := by
  induction trail using List.reverseRecOn with
  | nil => rfl
  | append_singleton trail last ih =>
    obtain ⟨token, next⟩ := last
    have hblurred : Trail.blurred (trail ++ [(token, next)]) =
        Trail.blurred trail ++ [(token, next.filter (· == '('))] := List.map_append
    rw [hblurred, Trail.sightings_concat, Trail.sightings_concat, Trail.tokens_blurred]
    by_cases hkind : token.kind = .identifier
    · rw [if_pos hkind, if_pos hkind, sightAll_concat, sightAll_concat, ih]
      unfold sight
      dsimp only
      rw [Context.guess_filter]
    · rw [if_neg hkind, if_neg hkind, ih]

/-! ## What is found -/

namespace Place

/-- The note that is taken of a piece. -/
def note? (place : Place) : Option Note :=
  (place.diagnostic?.map .reported).or (place.piece.strange?.map (.strange · place.position))

/-- The token of a piece, with the character behind it if that is an opening parenthesis. -/
def blurred? (place : Place) : Option (Token × Option Char) :=
  place.track?.map fun entry => (entry.1, entry.2.filter (· == '('))

variable (before : List Char) (piece : Piece) (after : List Char)

theorem position_withReturns :
    position ⟨withReturns before, piece, withReturns after⟩ = position ⟨before, piece, after⟩ :=
  behind_withReturns before

theorem token?_withReturns :
    token? ⟨withReturns before, piece, withReturns after⟩ = token? ⟨before, piece, after⟩ := by
  unfold token?
  rw [position_withReturns]

theorem diagnostic?_withReturns :
    diagnostic? ⟨withReturns before, piece, withReturns after⟩ =
      diagnostic? ⟨before, piece, after⟩ := by
  unfold diagnostic?
  rw [position_withReturns]

theorem note?_withReturns :
    note? ⟨withReturns before, piece, withReturns after⟩ = note? ⟨before, piece, after⟩ := by
  unfold note?
  rw [position_withReturns, diagnostic?_withReturns]

theorem filter_head?_withReturns (text : List Char) :
    (withReturns text).head?.filter (· == '(') = text.head?.filter (· == '(') := by
  rw [head?_withReturns]
  cases text.head? with
  | none => rfl
  | some c =>
    by_cases hc : c = '\n'
    · rw [hc]
      rfl
    · rw [Option.map_some, if_neg hc]

theorem blurred?_withReturns :
    blurred? ⟨withReturns before, piece, withReturns after⟩ = blurred? ⟨before, piece, after⟩ := by
  unfold blurred? track?
  rw [token?_withReturns]
  dsimp only
  rw [Option.map_map, Option.map_map]
  congr 1
  funext token
  dsimp only [Function.comp]
  rw [filter_head?_withReturns]

end Place

theorem Places.blurred_trail (taken : List Place) :
    Trail.blurred (trail taken) = taken.filterMap Place.blurred? := by
  unfold trail Trail.blurred
  rw [List.map_filterMap]
  rfl

/-! ## The notes of a reading -/

/-- A piece is strange or faulty, if it is either. -/
theorem Piece.strange?_eq_none {piece : Piece} {fault : Fault} (h : piece.fault? = some fault) :
    piece.strange? = none := by
  rcases fault?_cases h with ⟨_, rfl, -⟩ | ⟨_, rfl, -⟩ | ⟨_, rfl, -⟩ | ⟨_, _, rfl, -⟩ <;> rfl

/-- Only a mark is strange, and a mark is a token. -/
theorem Piece.Gap.strange?_eq_none {piece : Piece} (h : piece.Gap) : piece.strange? = none := by
  cases piece with
  | mark c => cases h
  | _ => rfl

theorem Place.note?_of_gap {place : Place} (hgap : place.piece.Gap)
    (hfault : place.piece.fault? = none) : place.note? = none := by
  rw [note?, diagnostic?, hfault, hgap.strange?_eq_none]
  rfl

theorem Place.token?_of_gap {place : Place} (hgap : place.piece.Gap) : place.token? = none := by
  rw [token?, Piece.token?, hgap]
  rfl

namespace Scan

theorem notes_emit (scan : Scan) (token : Token) : (scan.emit token).notes = scan.notes := by
  unfold emit
  dsimp only
  split <;> rfl

/-- A piece at the cursor is noted where it stands. -/
theorem notes_absorb {scan : Scan} {before after : List Char} (piece : Piece)
    (h : scan.cursor = .between before after) (behind : List Char) :
    (scan.absorb piece).notes.toList =
      scan.notes.toList ++ (Place.note? ⟨before, piece, behind⟩).toList := by
  have hposition : scan.cursor.position = Place.position ⟨before, piece, behind⟩ := by
    rw [h]
    rfl
  have hjudged : ((scan.moveOver piece).judge piece scan.cursor.position).notes.toList =
      scan.notes.toList ++ (Place.note? ⟨before, piece, behind⟩).toList := by
    unfold judge Place.note? Place.diagnostic?
    rw [hposition]
    dsimp only
    cases hfault : piece.fault? with
    | none => cases piece.strange? <;> simp [remark, moveOver]
    | some fault =>
      rw [Piece.strange?_eq_none hfault]
      simp [report, moveOver]
  have haccept : (scan.absorb piece).notes = (scan.accept piece scan.cursor.position).notes := by
    rw [absorb_eq]
  rw [haccept]
  cases htoken : piece.token? scan.cursor.position with
  | none => rw [accept_of_gap htoken, hjudged]
  | some token => rw [accept_of_token htoken, notes_emit, hjudged]

/-- The notes of a run of pieces, by induction on those that are left. -/
theorem notes_absorbAll {scan : Scan} {before : List Char} {pieces : List Piece}
    (h : scan.cursor = .between before (Piece.spelled pieces)) :
    (pieces.foldl absorb scan).notes.toList =
      scan.notes.toList ++ (places before pieces).filterMap Place.note? := by
  induction pieces generalizing scan before with
  | nil => exact (List.append_nil _).symm
  | cons piece pieces ih =>
    have hcursor : (scan.absorb piece).cursor =
        .between (before ++ piece.text) (Piece.spelled pieces) := by
      rw [cursor_absorb, h, Piece.spelled_cons, Cursor.skip_between]
    rw [List.foldl_cons, ih hcursor, notes_absorb piece h (Piece.spelled pieces), places,
      List.filterMap_cons, List.append_assoc]
    cases Place.note? ⟨before, piece, Piece.spelled pieces⟩ with
    | none => rfl
    | some note => rfl

end Scan

namespace Census

/-- The notes of an unrefined census: one for each piece that calls for it, and the closing one. -/
theorem notes_ofText_false (text : String) :
    (ofText text false).notes =
      (reading text).filterMap Place.note? ++
        [.finished (ofText text false).tokens.length (ofText text false).symbols.size
          (ofText text false).diagnostics.length] := by
  have hstart : (Scan.ofText text).restart.cursor =
      .between [] (Piece.spelled (Piece.split text.toList)) := by
    rw [Piece.spelled_split]
    rfl
  have hnotes := Scan.notes_absorbAll hstart
  have hrun : (ofText text false).notes = (Scan.ofText text).restart.toEnd.notes.toList ++
      [.finished (ofText text false).tokens.length (ofText text false).symbols.size
        (ofText text false).diagnostics.length] := Array.toList_push
  rw [hrun, Scan.toEnd_eq_foldl]
  exact congrArg (· ++ _) hnotes

/-- Texts with the same finds at their places have the same unrefined census. -/
theorem ofText_false_congr {text other : String}
    (htokens : Places.tokens (reading other) = Places.tokens (reading text))
    (hsymbols : sighted other = sighted text)
    (hdiagnostics : Places.diagnostics (reading other) = Places.diagnostics (reading text))
    (hnotes : (reading other).filterMap Place.note? = (reading text).filterMap Place.note?) :
    ofText other false = ofText text false := by
  have hfields : ∀ text, ofText text false =
      { tokens := Places.tokens (reading text)
        symbols := sighted text
        diagnostics := Places.diagnostics (reading text)
        className := (Context.behind (Places.tokens (reading text))).className
        notes := (reading text).filterMap Place.note? ++
          [.finished (Places.tokens (reading text)).length (sighted text).size
            (Places.diagnostics (reading text)).length] } := by
    intro text
    obtain ⟨htokens, hsymbols, hdiagnostics, hclass⟩ := ofText_false text
    have hnotes := notes_ofText_false text
    rw [htokens, hsymbols, hdiagnostics] at hnotes
    rw [← hnotes, ← hclass, ← htokens, ← hsymbols, ← hdiagnostics]
  rw [hfields, hfields, htokens, hsymbols, hdiagnostics, hnotes]

/-! ## The analysis -/

section Returns

variable {text : String}

/-- The places of the text with carriage returns, if no newline is part of a token or breaks one
off. -/
theorem reading_withReturns
    (hbroken : ∀ diagnostic ∈ (ofText text false).diagnostics,
      diagnostic.message ≠ "Unterminated string literal, closed at end of line")
    (hlexeme : ∀ token ∈ (ofText text false).tokens, '\n' ∉ token.lexeme.toList) :
    ∃ others, Piece.Returned (Piece.split text.toList) others ∧
      reading (String.ofList (withReturns text.toList)) = places (withReturns []) others := by
  have htoken : ∀ piece ∈ Piece.split text.toList, piece.kind? ≠ none → '\n' ∉ piece.text := by
    intro piece hmem hkind hline
    have hpiece : piece.lexeme ∈ (ofText text false).tokens.map (·.lexeme) := by
      rw [map_lexeme_tokens]
      refine List.mem_map_of_mem (List.mem_filter.mpr ⟨hmem, ?_⟩)
      exact Option.isSome_iff_ne_none.mpr hkind
    obtain ⟨token, htoken, heq⟩ := List.mem_map.mp hpiece
    refine hlexeme token htoken ?_
    rw [heq, Piece.toList_lexeme]
    exact List.mem_append_left _ hline
  obtain ⟨others, hreturned⟩ := Piece.exists_returned (Piece.fit_split text.toList)
    (fault?_ne_of_message_ne .brokenLiteral hbroken) htoken
  refine ⟨others, hreturned, ?_⟩
  have hsplit : Piece.split (withReturns text.toList) = others := by
    refine Piece.split_eq_iff.mpr ⟨?_, hreturned.fit (Piece.fit_split _)⟩
    rw [hreturned.spelled_eq, Piece.spelled_split]
  rw [reading, String.toList_ofList, hsplit]
  rfl

/-- The census before refinement. -/
theorem ofText_withReturns_false
    (hbroken : ∀ diagnostic ∈ (ofText text false).diagnostics,
      diagnostic.message ≠ "Unterminated string literal, closed at end of line")
    (hlexeme : ∀ token ∈ (ofText text false).tokens, '\n' ∉ token.lexeme.toList) :
    ofText (String.ofList (withReturns text.toList)) false = ofText text false := by
  obtain ⟨others, hreturned, hreading⟩ := reading_withReturns hbroken hlexeme
  generalize String.ofList (withReturns text.toList) = returned at hreading
  have htokens : Places.tokens (reading returned) = Places.tokens (reading text) := by
    rw [hreading]
    exact hreturned.filterMap_places (fun place hgap _ => place.token?_of_gap hgap)
      Place.token?_withReturns (fun _ _ _ _ => rfl) []
  have hdiagnostics : Places.diagnostics (reading returned) =
      Places.diagnostics (reading text) := by
    rw [hreading]
    exact hreturned.filterMap_places (fun place _ hfault => by rw [Place.diagnostic?, hfault]; rfl)
      Place.diagnostic?_withReturns (fun _ _ closed _ => by cases closed <;> rfl) []
  have hnotes : (reading returned).filterMap Place.note? =
      (reading text).filterMap Place.note? := by
    rw [hreading]
    exact hreturned.filterMap_places (fun place => place.note?_of_gap)
      Place.note?_withReturns (fun _ _ closed _ => by cases closed <;> rfl) []
  have hsymbols : sighted returned = sighted text := by
    have hblurred : (reading returned).filterMap Place.blurred? =
        (reading text).filterMap Place.blurred? := by
      rw [hreading]
      exact hreturned.filterMap_places
        (fun place hgap _ => by rw [Place.blurred?, Place.track?, place.token?_of_gap hgap]; rfl)
        Place.blurred?_withReturns (fun _ _ _ _ => rfl) []
    unfold sighted
    rw [← SymbolTable.sightAll_blurred, Places.blurred_trail, hblurred, ← Places.blurred_trail,
      SymbolTable.sightAll_blurred]
  exact ofText_false_congr htokens hsymbols hdiagnostics hnotes

end Returns

end Census

/-- **Carriage returns before newlines change nothing.** If no token has a newline in it and no string
literal is broken off by one, then a carriage return before each newline leaves all of an analysis as
it is: tokens and diagnostics with their positions, symbols, the class, and what is noted. Carriage
returns that the text has already do not matter. -/
theorem Analysis.ofText_withReturns {text : String} (filename : String) (refine : Bool)
    (hbroken : ∀ diagnostic ∈ (Census.ofText text false).diagnostics,
      diagnostic.message ≠ "Unterminated string literal, closed at end of line")
    (hlexeme : ∀ token ∈ (Census.ofText text false).tokens, '\n' ∉ token.lexeme.toList) :
    ofText filename (String.ofList (withReturns text.toList)) refine =
      ofText filename text refine := by
  have hcensus := Census.ofText_withReturns_false hbroken hlexeme
  have hrefined : ∀ text, Census.ofText text true = (Census.ofText text false).refined :=
    fun _ => rfl
  unfold ofText
  cases refine with
  | false => rw [hcensus]
  | true => rw [hrefined, hrefined, hcensus]

/-- Two kinds of comments that meet ends of lines, a name and a number in front of one, and a string
literal that runs to the end of the text. -/
theorem Analysis.ofText_withReturns_comments :
    let text := "class A //b\n/*c\n*/ int f\n(1.2.\n\"d"
    let returned := "class A //b\r\n/*c\r\n*/ int f\r\n(1.2.\r\n\"d"
    (∀ diagnostic ∈ (Census.ofText text false).diagnostics,
        diagnostic.message ≠ "Unterminated string literal, closed at end of line") ∧
      (∀ token ∈ (Census.ofText text false).tokens, '\n' ∉ token.lexeme.toList) ∧
      ofText "A" returned true = ofText "A" text true := by
  intro text returned
  have hbroken : ∀ diagnostic ∈ (Census.ofText text false).diagnostics,
      diagnostic.message ≠ "Unterminated string literal, closed at end of line" := by
    decide +kernel
  have hlexeme : ∀ token ∈ (Census.ofText text false).tokens, '\n' ∉ token.lexeme.toList := by
    decide +kernel
  have hreturned : returned = String.ofList (withReturns text.toList) := by decide +kernel
  rw [hreturned]
  exact ⟨hbroken, hlexeme, ofText_withReturns "A" true hbroken hlexeme⟩

end SymbolCensus
