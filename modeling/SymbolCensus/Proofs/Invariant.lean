import SymbolCensus.Proofs.Course
import SymbolCensus.Scan.Operation

/-!
# Invariants of a scan

Many things can be done to a scan and in any order, but all of them come to a few moves: to start
afresh, to move the cursor, to replace the context, to take a piece, to keep a note. A property that
no move takes away holds in every state that is ever reached.

- `Scan.Invariant`: such a property.
- `Invariant.comesBy`: it holds before and behind every piece of a reading.
- `Invariant.perform`, `Invariant.performAll`: one operation, and any sequence of them.
-/

namespace SymbolCensus.Scan

/-- A property that no move takes away from a scan. A piece of any sort may be taken under any
position, whatever is at the cursor. -/
structure Invariant (Holds : Scan → Prop) : Prop where
  restart : ∀ {scan}, Holds scan → Holds scan.restart
  skip : ∀ {scan}, Holds scan → ∀ count, Holds { scan with cursor := scan.cursor.skip count }
  setContext : ∀ {scan}, Holds scan → ∀ context, Holds { scan with context }
  accept : ∀ {scan}, Holds scan → ∀ piece position, Holds (scan.accept piece position)
  remark : ∀ {scan}, Holds scan → ∀ note, Holds (scan.remark note)

namespace Invariant

variable {Holds : Scan → Prop} {scan : Scan}

theorem step (hkept : Invariant Holds) (h : Holds scan) : Holds scan.step := by
  unfold Scan.step
  split
  · exact h
  · dsimp only
    split
    · exact hkept.setContext (hkept.accept h _ _) _
    · exact hkept.accept h _ _

theorem toEnd (hkept : Invariant Holds) (h : Holds scan) : Holds scan.toEnd := by
  fun_induction Scan.toEnd scan with
  | case1 scan _ => exact h
  | case2 scan _ ih => exact ih (hkept.step h)

/-- The states that a reading comes by. -/
theorem comesBy (hkept : Invariant Holds) (h : Holds scan) {state : Scan}
    (hstate : scan.ComesBy state) : Holds state := by
  induction hstate with
  | start => exact hkept.restart h
  | step _ _ ih => exact hkept.step ih

/-- **One operation**, if it succeeds. -/
theorem perform (hkept : Invariant Holds) (h : Holds scan) {operation : Operation} {next : Scan}
    (hnext : scan.perform operation = .ok next) : Holds next := by
  cases operation with
  | run =>
    cases hnext
    exact hkept.remark (hkept.toEnd (hkept.restart h)) _
  | advance count =>
    cases hnext
    exact hkept.skip h count
  | setContext context =>
    cases hnext
    exact hkept.setContext h context
  | takeLineComment =>
    cases hnext
    exact hkept.accept h _ _
  | takeBlockComment position =>
    cases hnext
    exact hkept.accept h _ _
  | takeLiteral position =>
    cases hnext
    exact hkept.accept h _ _
  | takeNumeral position =>
    cases hnext
    exact hkept.accept h _ _
  | takeWord position =>
    cases hnext
    exact hkept.accept h _ _
  | takeMark position =>
    unfold Scan.perform at hnext
    dsimp only at hnext
    cases hrest : scan.cursor.rest with
    | nil =>
      rw [hrest] at hnext
      cases hnext
    | cons c rest =>
      rw [hrest] at hnext
      cases hnext
      exact hkept.accept h _ _

/-- **Any sequence of operations.** One that fails leaves the scan as it is. -/
theorem performAll (hkept : Invariant Holds) (h : Holds scan) (operations : List Operation) :
    Holds (scan.performAll operations) := by
  induction operations generalizing scan with
  | nil => exact h
  | cons operation operations ih =>
    have hstep : Holds ((scan.perform operation).toOption.getD scan) := by
      cases hnext : scan.perform operation with
      | error failure => exact h
      | ok next => exact hkept.perform h hnext
    exact ih hstep

end Invariant

end SymbolCensus.Scan
