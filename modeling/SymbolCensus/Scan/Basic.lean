import SymbolCensus.Cursor
import SymbolCensus.Piece
import SymbolCensus.SymbolTable.Sighting

/-!
# Scans

A scan reads a source text from left to right and keeps what it found: tokens, symbols and
diagnostics. It takes one piece of the text at a time.

- `Scan.accept`: what one piece does to a scan, whatever sort of piece it is.
- `Scan.step`: takes the piece at the cursor.
- `Scan.toEnd`: takes pieces until none is left; `Scan.rest_step_lt` says why that ends.
- `Scan.run`: a fresh start, all pieces and a closing note.
-/

namespace SymbolCensus

/-- Something that a scan remarks on for those who watch it. They only listen: nothing that they do
acts on the scan. -/
inductive Note where
  /-- A diagnostic was reported. -/
  | reported (diagnostic : Diagnostic)
  /-- A character of no class was taken as punctuation. -/
  | strange (c : Char) (position : Position)
  /-- The text was read to its end, with so many tokens, symbols and diagnostics. -/
  | finished (tokens symbols diagnostics : Nat)
deriving DecidableEq, Repr, Inhabited

/-- A source text, how far it has been read and what was found. The notes go back to the beginning;
all else is what was found since the last fresh start. -/
structure Scan where
  source : List Char
  cursor : Cursor
  context : Context := {}
  tokens : Array Token := #[]
  symbols : SymbolTable := {}
  diagnostics : Array Diagnostic := #[]
  notes : Array Note := #[]
deriving Repr, Inhabited

namespace Scan

/-- A scan of a text, given by its characters, before anything is read. -/
def ofSource (source : List Char) : Scan :=
  { source, cursor := .start source }

/-- A scan of a text before anything is read. -/
def ofText (text : String) : Scan :=
  ofSource text.toList

/-- Forgets all but the text and the notes, and goes back to the start. -/
def restart (scan : Scan) : Scan :=
  { ofSource scan.source with notes := scan.notes }

/-- Keeps a diagnostic and notes it for those who watch, who only listen. -/
def report (scan : Scan) (diagnostic : Diagnostic) : Scan :=
  { scan with
    diagnostics := scan.diagnostics.push diagnostic
    notes := scan.notes.push (.reported diagnostic) }

/-- Keeps a note. -/
def remark (scan : Scan) (note : Note) : Scan :=
  { scan with notes := scan.notes.push note }

/-- Keeps a token, with what it means for the symbols and for the context. The cursor stands right
behind the token. -/
def emit (scan : Scan) (token : Token) : Scan :=
  let scan := { scan with tokens := scan.tokens.push token }
  match token.kind with
  | .keyword => { scan with context := scan.context.afterKeyword token.lexeme }
  | .identifier =>
    let (symbols, context) := scan.symbols.observe scan.context token scan.cursor.current?
    { scan with symbols, context }
  | .constant => scan
  | .operator | .punctuation => { scan with context := scan.context.afterMark token.lexeme }

/-- Moves the cursor over a piece. -/
def moveOver (scan : Scan) (piece : Piece) : Scan :=
  { scan with cursor := scan.cursor.skip piece.text.length }

/-- Reports what is wrong with a piece, and remarks on a character of no class. -/
def judge (scan : Scan) (piece : Piece) (position : Position) : Scan :=
  let scan :=
    match piece.fault? with
    | some fault => scan.report ⟨fault, position⟩
    | none => scan
  match piece.strange? with
  | some c => scan.remark (.strange c position)
  | none => scan

/-- Keeps the token of a piece, if it yields one. -/
def keep (scan : Scan) (piece : Piece) (position : Position) : Scan :=
  match piece.token? position with
  | some token => scan.emit token
  | none => scan

/-- Takes a piece, which starts at the cursor and is said to stand at a position: the cursor moves
over it, and its faults and its token are kept under that position. -/
def accept (scan : Scan) (piece : Piece) (position : Position) : Scan :=
  ((scan.moveOver piece).judge piece position).keep piece position

/-! ## Reading a whole text -/

/-- Takes the piece at the cursor. Behind a constant, an operator or a punctuation character no
type waits for a name any more. -/
def step (scan : Scan) : Scan :=
  match scan.cursor.rest with
  | [] => scan
  | c :: rest =>
    let piece := Piece.leading c rest
    let next := scan.accept piece scan.cursor.position
    if piece.endsDeclaration then { next with context := next.context.clearDeclaration } else next

@[simp] theorem cursor_report (scan : Scan) (diagnostic : Diagnostic) :
    (scan.report diagnostic).cursor = scan.cursor := rfl

@[simp] theorem cursor_remark (scan : Scan) (note : Note) :
    (scan.remark note).cursor = scan.cursor := rfl

@[simp] theorem cursor_emit (scan : Scan) (token : Token) :
    (scan.emit token).cursor = scan.cursor := by
  unfold emit
  dsimp only
  split <;> rfl

@[simp] theorem cursor_judge (scan : Scan) (piece : Piece) (position : Position) :
    (scan.judge piece position).cursor = scan.cursor := by
  unfold judge
  dsimp only
  split <;> split <;> rfl

@[simp] theorem cursor_keep (scan : Scan) (piece : Piece) (position : Position) :
    (scan.keep piece position).cursor = scan.cursor := by
  unfold keep
  split
  · exact cursor_emit scan _
  · rfl

@[simp] theorem cursor_accept (scan : Scan) (piece : Piece) (position : Position) :
    (scan.accept piece position).cursor = scan.cursor.skip piece.text.length := by
  simp [accept, moveOver]

/-- A step leaves what lies behind the piece at the cursor. -/
theorem rest_step {scan : Scan} {c : Char} {rest : List Char} (h : scan.cursor.rest = c :: rest) :
    scan.step.cursor.rest = (c :: rest).drop (Piece.leading c rest).text.length := by
  unfold step
  rw [h]
  dsimp only
  split <;> simp [h]

/-- A step leaves less to read. -/
theorem rest_step_lt {scan : Scan} (h : scan.cursor.rest ≠ []) :
    scan.step.cursor.rest.length < scan.cursor.rest.length := by
  obtain ⟨c, rest, hrest⟩ := List.exists_cons_of_ne_nil h
  have hpos := List.length_pos_iff.2 (Piece.text_leading_ne_nil c rest)
  rw [rest_step hrest, hrest, List.length_drop]
  simp only [List.length_cons]
  omega

/-- Takes pieces until the end of the text. -/
def toEnd (scan : Scan) : Scan :=
  if _h : scan.cursor.rest = [] then scan else scan.step.toEnd
termination_by scan.cursor.rest.length
decreasing_by exact rest_step_lt (by assumption)

/-- Reads the whole text from a fresh start. -/
def run (scan : Scan) : Scan :=
  let scan := scan.restart.toEnd
  scan.remark (.finished scan.tokens.size scan.symbols.size scan.diagnostics.size)

end Scan

end SymbolCensus
