import SymbolCensus.Scan.Basic

/-!
# Operations on a scan

A scan may be stopped between two pieces, looked at and moved on by hand: from a fresh start, by
single characters, with another context, or by a piece of a chosen sort, whatever character is at
the cursor. Pieces taken by hand are placed where the caller says.

- `Scan.perform`: what an operation does, and the one way in which it can fail.
- `Scan.performAll`: operations one after another, those that fail doing nothing.
-/

namespace SymbolCensus

/-- An operation on a scan. -/
inductive Operation where
  /-- Read the whole text from a fresh start. -/
  | run
  /-- Move the cursor over so many characters. -/
  | advance (count : Nat)
  /-- Replace the context. -/
  | setContext (context : Context)
  | takeLineComment
  | takeBlockComment (position : Position)
  | takeLiteral (position : Position)
  | takeNumeral (position : Position)
  | takeWord (position : Position)
  /-- Take an operator or a punctuation character, for which a character must be left. -/
  | takeMark (position : Position)
deriving DecidableEq, Repr

namespace Scan

/-- Performs an operation. -/
def perform (scan : Scan) : Operation → Except Failure Scan
  | .run => .ok scan.run
  | .advance count => .ok { scan with cursor := scan.cursor.skip count }
  | .setContext context => .ok { scan with context }
  | .takeLineComment =>
    .ok (scan.accept (Piece.lineCommentAt scan.cursor.rest) scan.cursor.position)
  | .takeBlockComment position =>
    .ok (scan.accept (Piece.blockCommentAt scan.cursor.rest) position)
  | .takeLiteral position => .ok (scan.accept (Piece.literalAt scan.cursor.rest) position)
  | .takeNumeral position => .ok (scan.accept (Piece.numeralAt scan.cursor.rest) position)
  | .takeWord position => .ok (scan.accept (Piece.wordAt scan.cursor.rest) position)
  | .takeMark position =>
    match scan.cursor.rest with
    | [] => .error .nothingLeft
    | c :: rest => .ok (scan.accept (Piece.markAt c rest) position)

/-- Performs operations one after another. One that fails leaves the scan as it is. -/
def performAll (scan : Scan) (operations : List Operation) : Scan :=
  operations.foldl (fun scan operation => (scan.perform operation).toOption.getD scan) scan

/-- Only taking a mark can fail, and only at the end of the text. -/
theorem perform_eq_error_iff {scan : Scan} {operation : Operation} {failure : Failure} :
    scan.perform operation = .error failure ↔
      failure = .nothingLeft ∧ scan.cursor.rest = [] ∧
        ∃ position, operation = .takeMark position := by
  cases operation with
  | takeMark position =>
    simp only [perform]
    cases h : scan.cursor.rest with
    | nil => simp [eq_comm]
    | cons c rest => simp
  | _ => simp [perform]

end Scan

end SymbolCensus
