import SymbolCensus.Analysis.Census
import SymbolCensus.Proofs.Splitting
import SymbolCensus.Proofs.Trail

/-!
# What a reading leaves

A scan that reads a whole text takes one piece after another and updates a cursor, a context, a
symbol table and two lists as it goes. This file says what it has at the end as functions of the
pieces of the text alone.

- `Cursor.between`: where a cursor stands, given the characters on either side of it.
- `Place`: a piece where it stands in a text; `places` lists the pieces of a text so.
- `Scan.Reached`: the invariant of a reading. `Reached.absorb` is the step of one piece and
  `Reached.absorbAll` the whole run.
- `Census.ofText_false`: the census of a text, read off its places.
-/

namespace SymbolCensus

/-! ## Where a cursor stands -/

/-- The position behind some text: the newlines before it are counted, and the characters since the
last of them. -/
def Position.behind (taken : List Char) : Position where
  line := ↑(taken.count '\n' + 1)
  column := ↑((taken.reverse.takeWhile (· != '\n')).length + 1)

namespace Cursor

/-- The cursor between two parts of a text. -/
def between (taken rest : List Char) : Cursor where
  before := taken.reverse
  rest
  offset := taken.length
  line := taken.count '\n' + 1
  column := (taken.reverse.takeWhile (· != '\n')).length + 1

@[simp] theorem position_between (taken rest : List Char) :
    (between taken rest).position = Position.behind taken := rfl

@[simp] theorem rest_between (taken rest : List Char) : (between taken rest).rest = rest := rfl

theorem step_between (taken : List Char) (c : Char) (rest : List Char) :
    (between taken (c :: rest)).step = between (taken ++ [c]) rest := by
  show (⟨_, _, _, _, _⟩ : Cursor) = ⟨_, _, _, _, _⟩
  by_cases hc : c = '\n'
  · simp [hc, between]
  · simp [hc, between]

theorem skip_between_take (taken rest : List Char) (count : Nat) :
    (between taken rest).skip count = between (taken ++ rest.take count) (rest.drop count) := by
  induction count generalizing taken rest with
  | zero =>
    rw [List.take_zero, List.append_nil]
    rfl
  | succ count ih =>
    cases rest with
    | nil =>
      show (between taken []).skip count = _
      rw [ih, List.take_nil, List.take_nil, List.drop_nil, List.drop_nil]
    | cons c rest =>
      show ((between taken (c :: rest)).step).skip count = _
      rw [step_between, ih, List.append_assoc]
      rfl

theorem skip_between (taken text rest : List Char) :
    (between taken (text ++ rest)).skip text.length = between (taken ++ text) rest := by
  rw [skip_between_take, List.take_left, List.drop_left]

/-- Looking ahead sees what stands ahead. -/
theorem peek_between (taken rest : List Char) (ahead : Nat) :
    (between taken rest).peek ahead = .ok rest[ahead]? := by
  have htext : (between taken rest).text = taken ++ rest := by
    show taken.reverse.reverse ++ rest = _
    rw [List.reverse_reverse]
  have hplace : (0 : Int) ≤ taken.length + ahead := Int.natCast_nonneg (taken.length + ahead)
  unfold peek
  rw [htext]
  show (if (0 : Int) ≤ taken.length + ahead then
    Except.ok (taken ++ rest)[((taken.length : Int) + ahead).toNat]? else _) = _
  rw [if_pos hplace, ← Int.natCast_add, Int.toNat_natCast,
    List.getElem?_append_right (Nat.le_add_right ..), Nat.add_sub_cancel_left]

end Cursor

/-! ## Pieces where they stand -/

/-- A piece of a text, with the text before and behind it. -/
structure Place where
  before : List Char
  piece : Piece
  after : List Char

namespace Place

/-- The position at which the piece starts. -/
def position (place : Place) : Position :=
  Position.behind place.before

/-- The token that the piece yields there. -/
def token? (place : Place) : Option Token :=
  place.piece.token? place.position

/-- The diagnostic that the piece calls for. -/
def diagnostic? (place : Place) : Option Diagnostic :=
  place.piece.fault?.map (⟨·, place.position⟩)

/-- The token with the character right behind it. -/
def track? (place : Place) : Option (Token × Option Char) :=
  place.token?.map (·, place.after.head?)

end Place

/-- Pieces that stand one behind the other, after some text. -/
def places (before : List Char) : List Piece → List Place
  | [] => []
  | piece :: pieces =>
    ⟨before, piece, Piece.spelled pieces⟩ :: places (before ++ piece.text) pieces

namespace Places

/-- The tokens of some places with the character behind each. -/
def trail (taken : List Place) : Trail :=
  taken.filterMap Place.track?

/-- The tokens of some places. -/
def tokens (taken : List Place) : List Token :=
  taken.filterMap Place.token?

/-- The diagnostics of some places. -/
def diagnostics (taken : List Place) : List Diagnostic :=
  taken.filterMap Place.diagnostic?

/-- The text that some places cover. -/
def covered (taken : List Place) : List Char :=
  taken.flatMap (·.piece.text)

theorem tokens_trail (taken : List Place) : (trail taken).tokens = tokens taken := by
  show (taken.filterMap Place.track?).map Prod.fst = taken.filterMap Place.token?
  rw [List.map_filterMap]
  refine List.filterMap_congr fun place _ => ?_
  show (place.token?.map (·, place.after.head?)).map Prod.fst = place.token?
  cases place.token? with
  | none => rfl
  | some token => rfl

theorem covered_concat (taken : List Place) (place : Place) :
    covered (taken ++ [place]) = covered taken ++ place.piece.text := by
  simp [covered]

theorem trail_cons (place : Place) (taken : List Place) :
    trail (place :: taken) = place.track?.toList ++ trail taken := by
  unfold trail
  rw [List.filterMap_cons]
  cases place.track? with
  | none => rfl
  | some entry => rfl

theorem trail_concat (taken : List Place) (place : Place) :
    trail (taken ++ [place]) = trail taken ++ place.track?.toList := by
  unfold trail
  rw [List.filterMap_append]
  cases h : place.track? <;> simp [h]

theorem tokens_concat (taken : List Place) (place : Place) :
    tokens (taken ++ [place]) = tokens taken ++ place.token?.toList := by
  unfold tokens
  rw [List.filterMap_append]
  cases h : place.token? <;> simp [h]

theorem diagnostics_concat (taken : List Place) (place : Place) :
    diagnostics (taken ++ [place]) = diagnostics taken ++ place.diagnostic?.toList := by
  unfold diagnostics
  rw [List.filterMap_append]
  cases h : place.diagnostic? <;> simp [h]

/-- The places of a list of pieces are the ways to split it at a piece. -/
theorem mem_places_iff {before : List Char} {pieces : List Piece} {place : Place} :
    place ∈ places before pieces ↔
      ∃ done ahead, pieces = done ++ place.piece :: ahead ∧
        place.before = before ++ Piece.spelled done ∧ place.after = Piece.spelled ahead := by
  induction pieces generalizing before with
  | nil => simp [places]
  | cons piece pieces ih =>
    rw [places, List.mem_cons, ih]
    constructor
    · rintro (rfl | ⟨done, ahead, rfl, hbefore, hafter⟩)
      · exact ⟨[], pieces, rfl, (List.append_nil _).symm, rfl⟩
      · refine ⟨piece :: done, ahead, rfl, ?_, hafter⟩
        rw [hbefore, Piece.spelled_cons, List.append_assoc]
    · rintro ⟨done, ahead, hpieces, hbefore, hafter⟩
      cases done with
      | nil =>
        left
        obtain ⟨rfl, rfl⟩ := List.cons.inj hpieces
        rw [Piece.spelled_nil, List.append_nil] at hbefore
        rw [← hbefore, ← hafter]
      | cons first done =>
        right
        obtain ⟨rfl, rfl⟩ := List.cons.inj hpieces
        refine ⟨done, ahead, rfl, ?_, hafter⟩
        rw [hbefore, Piece.spelled_cons, List.append_assoc]

/-- Every place stands in the text that the pieces spell, with their text before it or behind it. -/
theorem spans_places {before : List Char} {pieces : List Piece} :
    ∀ place ∈ places before pieces,
      place.before ++ place.piece.text ++ place.after = before ++ Piece.spelled pieces ∧
        before <+: place.before ∧ place.piece ∈ pieces := by
  intro place hmem
  obtain ⟨done, ahead, rfl, hbefore, hafter⟩ := mem_places_iff.mp hmem
  refine ⟨?_, ?_, List.mem_append_right _ (List.mem_cons_self ..)⟩
  · rw [hbefore, hafter, Piece.spelled_append, Piece.spelled_cons]
    simp only [List.append_assoc]
  · rw [hbefore]
    exact List.prefix_append ..

/-- What is found at places without a look at the text behind them is found in parts of a list of
pieces as in all of it. -/
theorem filterMap_places_append {α : Type} {find : Place → Option α}
    (hfind : ∀ before piece after after', find ⟨before, piece, after⟩ = find ⟨before, piece, after'⟩)
    (before : List Char) (pieces more : List Piece) :
    (places before (pieces ++ more)).filterMap find =
      (places before pieces).filterMap find ++
        (places (before ++ Piece.spelled pieces) more).filterMap find := by
  induction pieces generalizing before with
  | nil =>
    rw [Piece.spelled_nil, List.append_nil]
    rfl
  | cons piece pieces ih =>
    rw [List.cons_append, places, places, List.filterMap_cons, List.filterMap_cons, ih,
      hfind before piece _ (Piece.spelled pieces), Piece.spelled_cons, List.append_assoc]
    cases find ⟨before, piece, Piece.spelled pieces⟩ with
    | none => rfl
    | some found => rfl

theorem tokens_places_append (before : List Char) (pieces more : List Piece) :
    tokens (places before (pieces ++ more)) =
      tokens (places before pieces) ++ tokens (places (before ++ Piece.spelled pieces) more) :=
  filterMap_places_append (fun _ _ _ _ => rfl) before pieces more

theorem diagnostics_places_append (before : List Char) (pieces more : List Piece) :
    diagnostics (places before (pieces ++ more)) =
      diagnostics (places before pieces) ++
        diagnostics (places (before ++ Piece.spelled pieces) more) :=
  filterMap_places_append (fun _ _ _ _ => rfl) before pieces more

theorem tokens_places_gaps (before : List Char) {gaps : List Piece}
    (h : ∀ piece ∈ gaps, piece.Gap) : tokens (places before gaps) = [] := by
  refine List.filterMap_eq_nil_iff.mpr fun place hmem => ?_
  rw [Place.token?, Piece.token?, h _ (spans_places place hmem).2.2]
  rfl

end Places

/-! ## What one piece does to a scan -/

namespace Scan

/-- Takes a piece at the cursor, with the end that it puts to a declaration. -/
def absorb (scan : Scan) (piece : Piece) : Scan :=
  let next := scan.accept piece scan.cursor.position
  if piece.endsDeclaration then { next with context := next.context.clearDeclaration } else next

theorem step_eq_absorb {scan : Scan} {c : Char} {rest : List Char}
    (h : scan.cursor.rest = c :: rest) : scan.step = scan.absorb (Piece.leading c rest) := by
  unfold step
  rw [h]
  rfl

@[simp] theorem cursor_absorb (scan : Scan) (piece : Piece) :
    (scan.absorb piece).cursor = scan.cursor.skip piece.text.length := by
  unfold absorb
  dsimp only
  split
  · exact cursor_accept ..
  · exact cursor_accept ..

/-- Reading to the end takes the pieces into which the rest of the text falls. -/
theorem toEnd_eq_foldl (scan : Scan) :
    scan.toEnd = (Piece.split scan.cursor.rest).foldl absorb scan := by
  fun_induction toEnd scan with
  | case1 scan h =>
    rw [h, Piece.split]
    rfl
  | case2 scan h ih =>
    obtain ⟨c, rest, hrest⟩ := List.exists_cons_of_ne_nil h
    rw [ih, rest_step hrest, hrest, Piece.split, List.foldl_cons, step_eq_absorb hrest]

section Emit

variable (scan : Scan) (token : Token)

theorem tokens_emit : (scan.emit token).tokens = scan.tokens.push token := by
  unfold emit
  dsimp only
  split <;> rfl

theorem diagnostics_emit : (scan.emit token).diagnostics = scan.diagnostics := by
  unfold emit
  dsimp only
  split <;> rfl

/-- Only identifiers are sighted. -/
theorem symbols_emit :
    (scan.emit token).symbols =
      if token.kind = .identifier then
        scan.symbols.sight token scan.context scan.cursor.current?
      else scan.symbols := by
  unfold emit
  dsimp only
  cases hkind : token.kind <;> rfl

theorem context_emit :
    (scan.emit token).context =
      match token.kind with
      | .keyword => scan.context.afterKeyword token.lexeme
      | .identifier =>
        scan.context.afterIdentifier token.lexeme (!scan.symbols.contains token.lexeme)
      | .constant => scan.context
      | .operator | .punctuation => scan.context.afterMark token.lexeme := by
  unfold emit
  dsimp only
  cases hkind : token.kind <;> rfl

end Emit

section Judge

variable (scan : Scan) (piece : Piece) (position : Position)

@[simp] theorem tokens_judge : (scan.judge piece position).tokens = scan.tokens := by
  unfold judge
  dsimp only
  split <;> split <;> rfl

@[simp] theorem symbols_judge : (scan.judge piece position).symbols = scan.symbols := by
  unfold judge
  dsimp only
  split <;> split <;> rfl

@[simp] theorem context_judge : (scan.judge piece position).context = scan.context := by
  unfold judge
  dsimp only
  split <;> split <;> rfl

theorem diagnostics_judge :
    (scan.judge piece position).diagnostics.toList =
      scan.diagnostics.toList ++ (piece.fault?.map (⟨·, position⟩ : Fault → Diagnostic)).toList := by
  unfold judge
  dsimp only
  cases piece.fault? with
  | none => split <;> simp [remark]
  | some fault => split <;> simp [remark, report]

end Judge

section Absorb

variable (scan : Scan) (piece : Piece)

/-- A piece that ends a declaration changes no more than the context by that. -/
theorem absorb_eq :
    scan.absorb piece =
      { scan.accept piece scan.cursor.position with
        context :=
          if piece.endsDeclaration then
            (scan.accept piece scan.cursor.position).context.clearDeclaration
          else (scan.accept piece scan.cursor.position).context } := by
  unfold absorb
  dsimp only
  split <;> rfl

theorem accept_of_token {scan : Scan} {piece : Piece} {position : Position} {token : Token}
    (h : piece.token? position = some token) :
    scan.accept piece position = ((scan.moveOver piece).judge piece position).emit token := by
  unfold accept keep
  rw [h]

theorem accept_of_gap {scan : Scan} {piece : Piece} {position : Position}
    (h : piece.token? position = none) :
    scan.accept piece position = (scan.moveOver piece).judge piece position := by
  unfold accept keep
  rw [h]

theorem tokens_accept (position : Position) :
    (scan.accept piece position).tokens.toList =
      scan.tokens.toList ++ (piece.token? position).toList := by
  cases h : piece.token? position with
  | none => simp [accept_of_gap h, moveOver]
  | some token => simp [accept_of_token h, tokens_emit, moveOver]

theorem tokens_absorb :
    (scan.absorb piece).tokens.toList =
      scan.tokens.toList ++ (piece.token? scan.cursor.position).toList := by
  rw [absorb_eq]
  exact tokens_accept scan piece _

theorem diagnostics_accept (position : Position) :
    (scan.accept piece position).diagnostics.toList =
      scan.diagnostics.toList ++ (piece.fault?.map (⟨·, position⟩ : Fault → Diagnostic)).toList := by
  cases h : piece.token? position with
  | none =>
    rw [accept_of_gap h, diagnostics_judge]
    rfl
  | some token =>
    rw [accept_of_token h, diagnostics_emit, diagnostics_judge]
    rfl

theorem diagnostics_absorb :
    (scan.absorb piece).diagnostics.toList =
      scan.diagnostics.toList ++
        (piece.fault?.map (⟨·, scan.cursor.position⟩ : Fault → Diagnostic)).toList := by
  rw [absorb_eq]
  exact diagnostics_accept scan piece _

/-- A piece that yields no token leaves the symbols and the context alone. -/
theorem absorb_of_gap {scan : Scan} {piece : Piece} (h : piece.kind? = none) :
    (scan.absorb piece).symbols = scan.symbols ∧ (scan.absorb piece).context = scan.context := by
  have htoken : piece.token? scan.cursor.position = none := by
    rw [Piece.token?, h]
    rfl
  have hends : piece.endsDeclaration = false := by
    cases piece <;> first | rfl | cases h
  rw [absorb_eq, hends, accept_of_gap htoken]
  simp [moveOver]

/-- A token is sighted if it is an identifier, in the context and with the character that comes
right behind it. -/
theorem symbols_absorb {scan : Scan} {piece : Piece} {token : Token}
    (h : piece.token? scan.cursor.position = some token) :
    (scan.absorb piece).symbols =
      if token.kind = .identifier then
        scan.symbols.sight token scan.context (scan.cursor.skip piece.text.length).current?
      else scan.symbols := by
  rw [absorb_eq, accept_of_token h]
  dsimp only
  rw [symbols_emit]
  simp [moveOver]

/-- Constants, operators and punctuation characters are the tokens that end a declaration. -/
theorem endsDeclaration_eq {piece : Piece} {position : Position} {token : Token}
    (h : piece.token? position = some token) :
    piece.endsDeclaration = !(token.kind == .keyword || token.kind == .identifier) := by
  obtain ⟨kind, hkind, rfl⟩ := Option.map_eq_some_iff.mp h
  cases piece with
  | blank c => cases hkind
  | lineComment written => cases hkind
  | blockComment written closed => cases hkind
  | word written =>
    obtain rfl := Option.some.inj hkind
    dsimp only
    split <;> rfl
  | literal written ending =>
    obtain rfl := Option.some.inj hkind
    rfl
  | numeral whole fraction pointFollows =>
    obtain rfl := Option.some.inj hkind
    rfl
  | compound first second =>
    obtain rfl := Option.some.inj hkind
    rfl
  | mark c =>
    obtain rfl := Option.some.inj hkind
    dsimp only
    split <;> rfl

theorem context_absorb {scan : Scan} {piece : Piece} {token : Token}
    (h : piece.token? scan.cursor.position = some token) :
    (scan.absorb piece).context =
      scan.context.past token (!scan.symbols.contains token.lexeme) := by
  rw [absorb_eq, endsDeclaration_eq h, accept_of_token h]
  cases hkind : token.kind with
  | keyword => simp [context_emit, Context.past, hkind, moveOver]
  | identifier => simp [context_emit, Context.past, hkind, moveOver]
  | constant => simp [context_emit, Context.past, hkind, moveOver]
  | operator => simp [context_emit, Context.past, hkind, moveOver]
  | punctuation => simp [context_emit, Context.past, hkind, moveOver]

end Absorb

/-! ## A whole reading -/

/-- What a scan has when the text up to some point has been read piece by piece. -/
structure Reached (scan : Scan) (taken : List Place) (rest : List Char) : Prop where
  cursor : scan.cursor = .between (Places.covered taken) rest
  tokens : scan.tokens.toList = Places.tokens taken
  diagnostics : scan.diagnostics.toList = Places.diagnostics taken
  context : scan.context = Context.behind (Places.tokens taken)
  symbols : scan.symbols = SymbolTable.sightAll {} (Places.trail taken).sightings

/-- A scan before anything is read. -/
theorem reached_ofSource (source : List Char) : Reached (ofSource source) [] source :=
  ⟨rfl, rfl, rfl, rfl, rfl⟩

/-- **One piece.** It comes into the lists as it stands; the table sights its token in the context
that the tokens before it give. -/
theorem Reached.absorb {scan : Scan} {taken : List Place} {piece : Piece} {rest : List Char}
    (h : scan.Reached taken (piece.text ++ rest)) :
    (scan.absorb piece).Reached (taken ++ [⟨Places.covered taken, piece, rest⟩]) rest := by
  have hposition : scan.cursor.position = Position.behind (Places.covered taken) := by
    rw [h.cursor, Cursor.position_between]
  have hskip : scan.cursor.skip piece.text.length =
      .between (Places.covered taken ++ piece.text) rest := by
    rw [h.cursor, Cursor.skip_between]
  generalize hplace : (⟨Places.covered taken, piece, rest⟩ : Place) = place
  have hpiece : place.piece = piece := by rw [← hplace]
  have htoken : place.token? = piece.token? scan.cursor.position := by
    rw [← hplace, hposition]
    rfl
  have hdiagnostic : place.diagnostic? =
      piece.fault?.map (⟨·, scan.cursor.position⟩ : Fault → Diagnostic) := by
    rw [← hplace, hposition]
    rfl
  constructor
  case cursor => rw [cursor_absorb, hskip, Places.covered_concat, hpiece]
  case tokens => rw [tokens_absorb, Places.tokens_concat, htoken, h.tokens]
  case diagnostics => rw [diagnostics_absorb, Places.diagnostics_concat, hdiagnostic, h.diagnostics]
  case context =>
    -- the table knows a name just where an identifier before has it
    rw [Places.tokens_concat, htoken]
    cases hyields : piece.token? scan.cursor.position with
    | none =>
      rw [(absorb_of_gap (Option.map_eq_none_iff.mp hyields)).2, h.context]
      simp
    | some token =>
      rw [context_absorb hyields, h.symbols, Trail.contains_sightAll, Places.tokens_trail,
        h.context, Context.past_behind (Piece.lexical_token? hyields)]
      rfl
  case symbols =>
    -- the cursor stands behind the piece when its token is sighted
    cases hyields : piece.token? scan.cursor.position with
    | none =>
      rw [Places.trail_concat, Place.track?, htoken, hyields,
        (absorb_of_gap (Option.map_eq_none_iff.mp hyields)).1, h.symbols]
      simp
    | some token =>
      have hnext : (scan.cursor.skip piece.text.length).current? = place.after.head? := by
        rw [hskip, ← hplace]
        rfl
      rw [Places.trail_concat, Place.track?, htoken, hyields, symbols_absorb hyields, hnext]
      show _ = SymbolTable.sightAll {} (Trail.sightings (_ ++ [(token, place.after.head?)]))
      rw [Trail.sightings_concat, Places.tokens_trail, ← h.context]
      by_cases hkind : token.kind = .identifier
      · rw [if_pos hkind, if_pos hkind, SymbolTable.sightAll_concat, h.symbols]
      · rw [if_neg hkind, if_neg hkind, h.symbols]

/-- **A run of pieces**, by induction on those that are left. -/
theorem Reached.absorbAll {scan : Scan} {taken : List Place} {pieces : List Piece}
    (h : scan.Reached taken (Piece.spelled pieces)) :
    (pieces.foldl Scan.absorb scan).Reached
      (taken ++ places (Places.covered taken) pieces) [] := by
  induction pieces generalizing scan taken with
  | nil =>
    rw [places, List.append_nil]
    exact h
  | cons piece pieces ih =>
    have hnext := ih h.absorb
    rw [Places.covered_concat, List.append_assoc] at hnext
    exact hnext

end Scan

/-! ## The census of a text -/

/-- The pieces of a text where they stand. -/
def reading (text : String) : List Place :=
  places [] (Piece.split text.toList)

/-- The table that the scan of a text leaves. -/
def sighted (text : String) : SymbolTable :=
  .sightAll {} (Places.trail (reading text)).sightings

theorem Scan.reached_run (text : String) :
    (Scan.ofText text).restart.toEnd.Reached (reading text) [] := by
  have hstart := reached_ofSource text.toList
  rw [← Piece.spelled_split text.toList] at hstart
  have hend := hstart.absorbAll
  rw [Piece.spelled_split] at hend
  rw [toEnd_eq_foldl]
  exact hend

namespace Census

/-- **The census of a text without refinement.** -/
theorem ofText_false (text : String) :
    (ofText text false).tokens = Places.tokens (reading text) ∧
      (ofText text false).symbols = sighted text ∧
      (ofText text false).diagnostics = Places.diagnostics (reading text) ∧
      (ofText text false).className =
        (Context.behind (Places.tokens (reading text))).className := by
  have h := Scan.reached_run text
  refine ⟨h.tokens, h.symbols, h.diagnostics, ?_⟩
  show (Scan.ofText text).restart.toEnd.context.className = _
  rw [h.context]

/-- The tokens of a census are those of the places of the text, refined or not. -/
theorem tokens_ofText (text : String) (refine : Bool) :
    (ofText text refine).tokens = Places.tokens (reading text) := by
  cases refine with
  | false => exact (ofText_false text).1
  | true => exact (ofText_false text).1

/-- So are the diagnostics. -/
theorem diagnostics_ofText (text : String) (refine : Bool) :
    (ofText text refine).diagnostics = Places.diagnostics (reading text) := by
  cases refine with
  | false => exact (ofText_false text).2.2.1
  | true => exact (ofText_false text).2.2.1

/-- A fault that no message is about is none of any piece. -/
theorem fault?_ne_of_message_ne {text : String} {refine : Bool} (fault : Fault)
    (h : ∀ diagnostic ∈ (ofText text refine).diagnostics, diagnostic.message ≠ fault.message) :
    ∀ piece ∈ Piece.split text.toList, piece.fault? ≠ some fault := by
  intro piece hmem hfault
  obtain ⟨done, ahead, hsplit⟩ := List.append_of_mem hmem
  have hplace : ⟨Piece.spelled done, piece, Piece.spelled ahead⟩ ∈ reading text :=
    Places.mem_places_iff.mpr ⟨done, ahead, hsplit, rfl, rfl⟩
  refine h ⟨fault, Position.behind (Piece.spelled done)⟩ ?_ rfl
  rw [diagnostics_ofText]
  exact List.mem_filterMap.mpr ⟨_, hplace, by rw [Place.diagnostic?, hfault]; rfl⟩

end Census

end SymbolCensus
