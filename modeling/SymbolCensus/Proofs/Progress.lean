import SymbolCensus.Proofs.Invariant
import SymbolCensus.Proofs.Roles

/-!
# No operation gets stuck

A scan asks questions that need not have an answer: for the character at a place, for the first
character of a keyword, for the character that a mark starts with. This file follows them one by
one. An attempt is an operation in which each of these questions can fail and which then leaves what
it has done so far, a cursor moved or a token kept; so it could fail in the middle of anything.

- `Scan.attempt`: an operation with its questions, and `Scan.attemptAll` for a sequence of them.
- `Scan.attempt_eq`: the only question that is ever left open is the one for a mark at the end of
  the text, and nothing has been done by then.
- `Cursor.In`: the cursor stands in a text. All operations keep it there.
- `Scan.exists_iterate_toEnd`: reading to the end takes no more steps than there are characters.
- `Scan.safe_attemptAll`: all this together, in every reachable state.
-/

namespace SymbolCensus

/-! ## Questions that can fail -/

/-- The context behind a keyword. The keyword is asked for its first character when the flag is
already set. -/
def Context.attemptKeyword (context : Context) (lexeme : String) :
    Context × Except Failure Unit :=
  let context := { context with afterClass := lexeme == "class" }
  match Lexicon.startsTypeName lexeme with
  | .ok waits => ({ context with pendingType := if waits then some lexeme else none }, .ok ())
  | .error failure => (context, .error failure)

theorem Context.attemptKeyword_eq (context : Context) {lexeme : String}
    (h : lexeme ∈ Lexicon.keywords) :
    context.attemptKeyword lexeme = (context.afterKeyword lexeme, .ok ()) := by
  unfold attemptKeyword afterKeyword
  rw [startsTypeName_eq h]
  cases Lexicon.typeWords.contains lexeme with
  | false => rfl
  | true => rfl

-- A keyword without a character would stop here, with the flag set.
example : (Context.attemptKeyword { afterClass := true } "") =
    ({ afterClass := false }, .error .outsideText) := rfl

/-- A refinement by tokens of a text comes to the end. -/
theorem Refinement.snd_pass_of_lexical (refinement : Refinement) {tokens : List Token}
    (h : ∀ token ∈ tokens, token.Lexical) : (refinement.pass tokens).2 = .ok () := by
  have hall : ∀ token ∈ tokens, token.canBeJudged = true := fun token hmem =>
    (h token hmem).canBeJudged
  rw [pass_eq, List.all_eq_true.mpr hall]
  rfl

namespace Scan

/-- Keeps a token, which comes into the list before anything is asked about it. -/
def attemptEmit (scan : Scan) (token : Token) : Scan × Except Failure Unit :=
  match token.kind with
  | .keyword =>
    let (context, outcome) := scan.context.attemptKeyword token.lexeme
    ({ scan with tokens := scan.tokens.push token, context }, outcome)
  | _ => (scan.emit token, .ok ())

/-- Takes a piece, over which the cursor has moved before its token is kept. -/
def attemptAccept (scan : Scan) (piece : Piece) (position : Position) :
    Scan × Except Failure Unit :=
  let scan := (scan.moveOver piece).judge piece position
  match piece.token? position with
  | some token => scan.attemptEmit token
  | none => (scan, .ok ())

/-- Takes a mark. The cursor moves before it is known that there is a character. -/
def attemptMark (scan : Scan) (position : Position) : Scan × Except Failure Unit :=
  match scan.cursor.rest with
  | [] => ({ scan with cursor := scan.cursor.step }, .error .nothingLeft)
  | c :: rest => scan.attemptAccept (Piece.markAt c rest) position

/-- Takes the piece at the cursor. -/
def attemptStep (scan : Scan) : Scan × Except Failure Unit :=
  match scan.cursor.rest with
  | [] => (scan, .ok ())
  | c :: rest =>
    let piece := Piece.leading c rest
    match scan.attemptAccept piece scan.cursor.position with
    | (next, .error failure) => (next, .error failure)
    | (next, .ok ()) =>
      (if piece.endsDeclaration then { next with context := next.context.clearDeclaration }
        else next, .ok ())

section Attempt

variable (scan : Scan)

theorem attemptEmit_eq {token : Token} (h : token.Lexical) :
    scan.attemptEmit token = (scan.emit token, .ok ()) := by
  unfold attemptEmit emit
  cases hkind : token.kind with
  | keyword =>
    dsimp only
    rw [Context.attemptKeyword_eq _ (h.keyword hkind)]
  | identifier => rfl
  | constant => rfl
  | operator => rfl
  | punctuation => rfl

/-- **One piece.** Whatever it is, its token has a first character if it is a keyword. -/
theorem attemptAccept_eq (piece : Piece) (position : Position) :
    scan.attemptAccept piece position = (scan.accept piece position, .ok ()) := by
  unfold attemptAccept
  dsimp only
  cases htoken : piece.token? position with
  | none => rw [accept_of_gap htoken]
  | some token =>
    dsimp only
    rw [accept_of_token htoken, attemptEmit_eq _ (Piece.lexical_token? htoken)]

theorem attemptStep_eq : scan.attemptStep = (scan.step, .ok ()) := by
  unfold attemptStep step
  cases scan.cursor.rest with
  | nil => rfl
  | cons c rest =>
    dsimp only
    rw [attemptAccept_eq]

end Attempt

/-- Takes pieces until the end of the text, or until a question about one of them fails. -/
def attemptToEnd (scan : Scan) : Scan × Except Failure Unit :=
  if _h : scan.cursor.rest = [] then (scan, .ok ())
  else match _hnext : scan.attemptStep with
    | (next, .error failure) => (next, .error failure)
    | (next, .ok ()) => next.attemptToEnd
termination_by scan.cursor.rest.length
decreasing_by
  rw [attemptStep_eq] at _hnext
  obtain ⟨rfl, -⟩ := Prod.mk.inj _hnext
  exact rest_step_lt _h

/-- Reads the whole text from a fresh start; the closing note is kept if all went well. -/
def attemptRun (scan : Scan) : Scan × Except Failure Unit :=
  match scan.restart.attemptToEnd with
  | (last, .error failure) => (last, .error failure)
  | (last, .ok ()) =>
    (last.remark (.finished last.tokens.size last.symbols.size last.diagnostics.size), .ok ())

/-- Attempts an operation. What it has done when a question fails stays done. -/
def attempt (scan : Scan) : Operation → Scan × Except Failure Unit
  | .run => scan.attemptRun
  | .advance count => ({ scan with cursor := scan.cursor.skip count }, .ok ())
  | .setContext context => ({ scan with context }, .ok ())
  | .takeLineComment =>
    scan.attemptAccept (Piece.lineCommentAt scan.cursor.rest) scan.cursor.position
  | .takeBlockComment position =>
    scan.attemptAccept (Piece.blockCommentAt scan.cursor.rest) position
  | .takeLiteral position => scan.attemptAccept (Piece.literalAt scan.cursor.rest) position
  | .takeNumeral position => scan.attemptAccept (Piece.numeralAt scan.cursor.rest) position
  | .takeWord position => scan.attemptAccept (Piece.wordAt scan.cursor.rest) position
  | .takeMark position => scan.attemptMark position

/-- Attempts operations one after another, each where the one before it left the scan. -/
def attemptAll (scan : Scan) (operations : List Operation) : Scan :=
  operations.foldl (fun scan operation => (scan.attempt operation).1) scan

theorem attemptToEnd_eq (scan : Scan) : scan.attemptToEnd = (scan.toEnd, .ok ()) := by
  fun_induction toEnd scan with
  | case1 scan hend =>
    rw [attemptToEnd, dif_pos hend]
  | case2 scan hne ih =>
    rw [attemptToEnd, dif_neg hne]
    split
    next next failure hnext =>
      rw [attemptStep_eq] at hnext
      cases hnext
    next next hnext =>
      rw [attemptStep_eq] at hnext
      obtain ⟨rfl, -⟩ := Prod.mk.inj hnext
      exact ih

/-- **One operation.** It either succeeds or leaves the scan as it was. -/
theorem attempt_eq (scan : Scan) (operation : Operation) :
    scan.attempt operation =
      match scan.perform operation with
      | .ok next => (next, .ok ())
      | .error failure => (scan, .error failure) := by
  cases operation with
  | run =>
    show scan.attemptRun = _
    unfold attemptRun
    rw [attemptToEnd_eq]
    rfl
  | advance count => rfl
  | setContext context => rfl
  | takeLineComment => simp only [attempt, perform, attemptAccept_eq]
  | takeBlockComment position => simp only [attempt, perform, attemptAccept_eq]
  | takeLiteral position => simp only [attempt, perform, attemptAccept_eq]
  | takeNumeral position => simp only [attempt, perform, attemptAccept_eq]
  | takeWord position => simp only [attempt, perform, attemptAccept_eq]
  | takeMark position =>
    show scan.attemptMark position = _
    unfold attemptMark perform
    dsimp only
    cases hrest : scan.cursor.rest with
    | nil =>
      -- the cursor cannot have moved
      have hstep : scan.cursor.step = scan.cursor := by
        unfold Cursor.step
        rw [hrest]
      dsimp only
      rw [hstep]
    | cons c rest =>
      dsimp only
      rw [attemptAccept_eq]

example : (ofText "").attempt (.takeMark ⟨1, 1⟩) = (ofText "", .error .nothingLeft) := rfl

/-- What operations lead to is what those of them that succeed lead to. -/
theorem attemptAll_eq (scan : Scan) (operations : List Operation) :
    scan.attemptAll operations = scan.performAll operations := by
  unfold attemptAll performAll
  congr 1
  funext scan operation
  rw [attempt_eq]
  cases scan.perform operation with
  | error failure => rfl
  | ok next => rfl

end Scan

/-! ## The cursor stays in the text -/

namespace Cursor

/-- The cursor stands between two parts of a text. -/
def In (cursor : Cursor) (text : List Char) : Prop :=
  ∃ taken rest, taken ++ rest = text ∧ cursor = between taken rest

theorem in_start (text : List Char) : (start text).In text :=
  ⟨[], text, rfl, rfl⟩

variable {cursor : Cursor} {text : List Char}

theorem In.skip (h : cursor.In text) (count : Nat) : (cursor.skip count).In text := by
  obtain ⟨taken, rest, rfl, rfl⟩ := h
  refine ⟨taken ++ rest.take count, rest.drop count, ?_, skip_between_take taken rest count⟩
  rw [List.append_assoc, List.take_append_drop]

/-- What was read and what is left make up the text. -/
theorem In.offset_add_length_rest (h : cursor.In text) :
    cursor.offset + cursor.rest.length = text.length := by
  obtain ⟨taken, rest, rfl, rfl⟩ := h
  exact List.length_append.symm

theorem In.rest_eq_nil_iff (h : cursor.In text) :
    cursor.rest = [] ↔ cursor.offset = text.length := by
  have hlength := h.offset_add_length_rest
  rw [← List.length_eq_zero_iff]
  omega

/-- Looking ahead, however far, finds a character of the text or none. -/
theorem In.peek (h : cursor.In text) (ahead : Nat) :
    cursor.peek ahead = .ok text[cursor.offset + ahead]? := by
  obtain ⟨taken, rest, rfl, rfl⟩ := h
  show _ = Except.ok (taken ++ rest)[taken.length + ahead]?
  rw [peek_between, List.getElem?_append_right (Nat.le_add_right ..), Nat.add_sub_cancel_left]

theorem offset_skip (cursor : Cursor) (count : Nat) :
    (cursor.skip count).offset = cursor.offset + min count cursor.rest.length := by
  induction count generalizing cursor with
  | zero => simp [Cursor.skip]
  | succ count ih =>
    show (cursor.step.skip count).offset = _
    rw [ih, rest_step, List.length_drop]
    unfold step
    cases hrest : cursor.rest with
    | nil => simp
    | cons c rest =>
      dsimp only
      rw [List.length_cons]
      omega

end Cursor

namespace Scan

/-- The scan is one of the text, and its cursor stands in it. -/
structure Within (scan : Scan) (text : List Char) : Prop where
  source : scan.source = text
  cursor : scan.cursor.In text

theorem source_accept (scan : Scan) (piece : Piece) (position : Position) :
    (scan.accept piece position).source = scan.source := by
  have hjudged : ((scan.moveOver piece).judge piece position).source = scan.source := by
    unfold judge
    dsimp only
    split <;> split <;> rfl
  unfold accept keep
  split
  · unfold emit
    dsimp only
    split <;> exact hjudged
  · exact hjudged

theorem invariant_within (text : List Char) : Invariant (Within · text) where
  restart h := ⟨h.source, h.source ▸ Cursor.in_start _⟩
  skip h count := ⟨h.source, h.cursor.skip count⟩
  setContext h _ := ⟨h.source, h.cursor⟩
  accept {scan} h piece position := by
    refine ⟨?_, ?_⟩
    · rw [source_accept, h.source]
    · rw [cursor_accept]
      exact h.cursor.skip _
  remark h _ := ⟨h.source, h.cursor⟩

/-- The tokens that are kept are such as pieces of text yield. -/
theorem invariant_lexical : Invariant fun scan => ∀ token ∈ scan.tokens.toList, token.Lexical where
  restart _ := List.forall_mem_nil _
  skip h _ := h
  setContext h _ := h
  accept {scan} h piece position := by
    intro token hmem
    rw [tokens_accept, List.mem_append, Option.mem_toList] at hmem
    rcases hmem with hmem | hnew
    · exact h token hmem
    · exact Piece.lexical_token? hnew
  remark h _ := h

/-! ## Steps of a reading -/

/-- **A step moves on**, by one character at least, and not out of the text. -/
theorem Within.offset_step {scan : Scan} {text : List Char} (h : scan.Within text)
    (hne : scan.cursor.rest ≠ []) :
    scan.cursor.offset < scan.step.cursor.offset ∧ scan.step.cursor.offset ≤ text.length := by
  obtain ⟨c, rest, hrest⟩ := List.exists_cons_of_ne_nil hne
  have hpiece := List.length_pos_iff.mpr (Piece.text_leading_ne_nil c rest)
  have hleft := List.length_pos_iff.mpr hne
  have hlength := h.cursor.offset_add_length_rest
  rw [step_eq_absorb hrest, cursor_absorb, Cursor.offset_skip]
  omega

/-- **A reading ends**, after no more steps than there are characters left. -/
theorem exists_iterate_toEnd (scan : Scan) :
    ∃ count ≤ scan.cursor.rest.length,
      (∀ earlier < count, (step^[earlier] scan).cursor.rest ≠ []) ∧
        scan.toEnd = step^[count] scan ∧ scan.toEnd.cursor.rest = [] := by
  fun_induction toEnd scan with
  | case1 scan hend =>
    exact ⟨0, Nat.zero_le _, fun _ hlt => absurd hlt (Nat.not_lt_zero _), rfl, hend⟩
  | case2 scan hne ih =>
    obtain ⟨count, hcount, hearlier, hsteps, hend⟩ := ih
    refine ⟨count + 1, Nat.lt_of_le_of_lt hcount (rest_step_lt hne), ?_, hsteps, hend⟩
    intro earlier hlt
    cases earlier with
    | zero => exact hne
    | succ earlier => exact hearlier earlier (Nat.lt_of_succ_lt_succ hlt)

/-! ## Every reachable state -/

/-- No error can be had from a scan of a text but one, and no reading of it goes on forever. -/
structure Safe (scan : Scan) (text : List Char) : Prop where
  /-- Only a mark can be asked for in vain, and only at the end of the text. -/
  fails_iff : ∀ operation failure, (scan.attempt operation).2 = .error failure ↔
    failure = .nothingLeft ∧ scan.cursor.offset = text.length ∧
      ∃ position, operation = .takeMark position
  /-- That leaves everything as it is. -/
  unchanged : ∀ operation failure, (scan.attempt operation).2 = .error failure →
    (scan.attempt operation).1 = scan
  /-- All else does what it is meant to do. -/
  succeeds : ∀ operation, (scan.attempt operation).2 = .ok () →
    scan.perform operation = .ok (scan.attempt operation).1
  /-- Characters can be asked for at and behind the cursor. -/
  peek : ∀ ahead : Nat, scan.cursor.peek ahead = .ok text[scan.cursor.offset + ahead]?
  /-- In a reading from here each step succeeds and moves on, but not out of the text. -/
  advances : ∀ state, scan.ComesBy state → state.cursor.offset ≠ text.length →
    state.attemptStep = (state.step, .ok ()) ∧
      state.cursor.offset < state.step.cursor.offset ∧ state.step.cursor.offset ≤ text.length
  /-- It ends after so many steps, none of them at the end of the text, and with the cursor
  there. -/
  ends : ∃ count ≤ text.length,
    (∀ earlier < count, (step^[earlier] scan.restart).cursor.offset ≠ text.length) ∧
      scan.restart.attemptToEnd = (step^[count] scan.restart, .ok ()) ∧
        scan.run.cursor = .between text []
  /-- A refinement by its tokens does not stop early, whatever it starts from. -/
  refines : ∀ refinement : Refinement, (refinement.pass scan.tokens.toList).2 = .ok ()

variable {scan : Scan} {text : List Char}

theorem snd_attempt_eq_error_iff {operation : Operation} {failure : Failure} :
    (scan.attempt operation).2 = .error failure ↔ scan.perform operation = .error failure := by
  rw [attempt_eq]
  cases scan.perform operation with
  | error other => simp
  | ok next => simp

theorem Within.safe (h : scan.Within text)
    (hlexical : ∀ token ∈ scan.tokens.toList, token.Lexical) : scan.Safe text := by
  have hway : ∀ {state}, scan.ComesBy state → state.Within text := fun hstate =>
    (invariant_within text).comesBy h hstate
  constructor
  case fails_iff =>
    intro operation failure
    rw [snd_attempt_eq_error_iff, perform_eq_error_iff, h.cursor.rest_eq_nil_iff]
  case unchanged =>
    intro operation failure hfails
    rw [attempt_eq, snd_attempt_eq_error_iff.mp hfails]
  case succeeds =>
    intro operation hsucceeds
    rw [attempt_eq] at hsucceeds ⊢
    cases hnext : scan.perform operation with
    | error failure =>
      rw [hnext] at hsucceeds
      cases hsucceeds
    | ok next => rfl
  case peek => exact h.cursor.peek
  case advances =>
    intro state hstate hoffset
    have hwithin := hway hstate
    exact ⟨attemptStep_eq state, hwithin.offset_step (mt hwithin.cursor.rest_eq_nil_iff.mp hoffset)⟩
  case ends =>
    obtain ⟨count, hcount, hearlier, hsteps, hend⟩ := exists_iterate_toEnd scan.restart
    have hstart := hway .start
    refine ⟨count, ?_, fun earlier hlt => ?_, ?_, ?_⟩
    · have hlength := hstart.cursor.offset_add_length_rest
      omega
    · have hwithin : (step^[earlier] scan.restart).Within text :=
        Function.Iterate.rec _ hstart (fun _ h => (invariant_within text).step h) earlier
      exact mt hwithin.cursor.rest_eq_nil_iff.mpr (hearlier earlier hlt)
    · rw [attemptToEnd_eq, hsteps]
    · obtain ⟨taken, rest, htext, hcursor⟩ := (hway ComesBy.start.toEnd).cursor
      rw [hcursor, Cursor.rest_between] at hend
      rw [hend, List.append_nil] at htext
      show scan.restart.toEnd.cursor = _
      rw [hcursor, hend, htext]
  case refines =>
    exact fun refinement => refinement.snd_pass_of_lexical hlexical

/-- **No error is reachable, and every reading comes to its end.** Whatever is attempted on a scan
of a text, in any order, what is reached is what the operations that succeed lead to, and the scan
is safe there. -/
theorem safe_attemptAll (text : String) (operations : List Operation) :
    (ofText text).attemptAll operations = (ofText text).performAll operations ∧
      ((ofText text).attemptAll operations).Safe text.toList := by
  have hstart : (ofText text).Within text.toList := ⟨rfl, Cursor.in_start _⟩
  have hwithin := (invariant_within text.toList).performAll hstart operations
  have hnothing : ∀ token ∈ (ofText text).tokens.toList, token.Lexical := List.forall_mem_nil _
  have hlexical := invariant_lexical.performAll hnothing operations
  rw [attemptAll_eq]
  exact ⟨rfl, hwithin.safe hlexical⟩

end Scan

end SymbolCensus
