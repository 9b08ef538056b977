import SymbolCensus.Proofs.Reading

/-!
# The states that a reading comes by

A reading takes one piece after another. Its context is written at four places: behind a keyword,
behind an identifier, behind a parenthesis, and once more behind all tokens that are no words. This
file says that no piece leaves a flag behind that the tokens found so far would not give.

- `Scan.ComesBy`: the states of a reading before each piece, and the one at its end.
- `ComesBy.exists_reached`: the invariant of a reading holds in all of them, by induction on the
  pieces taken.
- `Scan.context_eq_behind`: the context is a function of the tokens, and a piece that yields no
  token leaves it as it is.
-/

namespace SymbolCensus

namespace Scan

/-- The states of a reading from a fresh start: the first one, and the one behind each piece. -/
inductive ComesBy (scan : Scan) : Scan → Prop
  | start : ComesBy scan scan.restart
  | step {state : Scan} : ComesBy scan state → state.cursor.rest ≠ [] → ComesBy scan state.step

/-- Reading on to the end stays on the way. -/
theorem ComesBy.toEnd {scan state : Scan} (h : scan.ComesBy state) : scan.ComesBy state.toEnd := by
  fun_induction Scan.toEnd state with
  | case1 state _ => exact h
  | case2 state hne ih => exact ih (h.step hne)

/-- A step takes the piece at the cursor. -/
theorem Reached.step {scan : Scan} {taken : List Place} {rest : List Char}
    (h : scan.Reached taken rest) (hne : scan.cursor.rest ≠ []) :
    ∃ place after, scan.step.Reached (taken ++ [place]) after := by
  obtain ⟨c, more, hrest⟩ := List.exists_cons_of_ne_nil hne
  obtain ⟨after, hafter⟩ := Piece.isPrefix_text_leading c more
  have htext : rest = (Piece.leading c more).text ++ after := by
    rw [hafter, ← hrest, h.cursor, Cursor.rest_between]
  rw [htext] at h
  rw [step_eq_absorb hrest]
  exact ⟨_, after, h.absorb⟩

/-- In every state on the way the invariant of a reading holds. -/
theorem ComesBy.exists_reached {scan state : Scan} (h : scan.ComesBy state) :
    ∃ taken rest, state.Reached taken rest := by
  induction h with
  | start => exact ⟨[], scan.source, ⟨rfl, rfl, rfl, rfl, rfl⟩⟩
  | step _ hne ih =>
    obtain ⟨taken, rest, hreached⟩ := ih
    obtain ⟨place, after, hnext⟩ := hreached.step hne
    exact ⟨taken ++ [place], after, hnext⟩

theorem ComesBy.context_eq {scan state : Scan} (h : scan.ComesBy state) :
    state.context = .behind state.tokens.toList := by
  obtain ⟨taken, rest, hreached⟩ := h.exists_reached
  rw [hreached.context, hreached.tokens]

/-- Blanks and comments leave the context alone, in whatever state they are met. -/
theorem context_step_of_gap {state : Scan} {c : Char} {rest : List Char}
    (hrest : state.cursor.rest = c :: rest) (hgap : (Piece.leading c rest).Gap) :
    state.step.context = state.context := by
  rw [step_eq_absorb hrest]
  exact (absorb_of_gap hgap).2

/-- **The context is a function of the tokens found so far.** That is so before each piece and at
the end of a reading; and where the next piece is a blank or a comment, closed or not, the context
stays as it is. -/
theorem context_eq_behind (scan : Scan) :
    (∀ state, scan.ComesBy state →
      state.context = .behind state.tokens.toList ∧
        ∀ c rest, state.cursor.rest = c :: rest → (Piece.leading c rest).Gap →
          state.step.context = state.context) ∧
    scan.run.context = .behind scan.run.tokens.toList := by
  constructor
  · intro state hstate
    exact ⟨hstate.context_eq, fun c rest => context_step_of_gap⟩
  · have hend : scan.ComesBy scan.restart.toEnd := ComesBy.start.toEnd
    exact hend.context_eq

/-- Before a comment that is never closed, a type word waits in an open list of parameters. -/
theorem context_eq_behind_openComment :
    let scan := ofText "class A(int /*"
    let state := scan.restart.step.step.step.step.step.step
    scan.ComesBy state ∧ state.cursor.rest = ['/', '*'] ∧ (Piece.leading '/' ['*']).Gap ∧
      state.context = .behind state.tokens.toList ∧ state.step.context = state.context ∧
      state.context =
        { pendingType := some "int", inParameters := true, className := some "A" } := by
  intro scan state
  have hstate : scan.ComesBy state :=
    .step (.step (.step (.step (.step (.step .start (by decide)) (by decide)) (by decide))
      (by decide)) (by decide)) (by decide)
  have hrest : state.cursor.rest = ['/', '*'] := by decide
  have hgap : (Piece.leading '/' ['*']).Gap := by
    unfold Piece.Gap
    decide
  obtain ⟨hcontext, hstays⟩ := (context_eq_behind scan).1 state hstate
  exact ⟨hstate, hrest, hgap, hcontext, hstays _ _ hrest hgap, by decide⟩

end Scan

end SymbolCensus
