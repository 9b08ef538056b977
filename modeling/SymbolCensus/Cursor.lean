import SymbolCensus.Failure
import SymbolCensus.Position

/-!
# Cursors

A cursor stands between two characters of a text. It keeps the characters on either side of it and
counts offset, line and column as it moves, one character at a time; only a newline character
starts a new line.

- `step`, `skip`: move over one character, or over several.
- `read`: moves over several characters and gives them.
- `peek`: look at a character relative to the cursor without moving.
- `textSince`: what was read since an offset.
-/

namespace SymbolCensus

/-- A place between two characters of a text. The characters before it are kept last first. -/
structure Cursor where
  before : List Char
  rest : List Char
  offset : Nat
  line : Nat
  column : Nat
deriving DecidableEq, Repr, Inhabited

namespace Cursor

/-- The cursor before the first character of a text. -/
def start (text : List Char) : Cursor :=
  { before := [], rest := text, offset := 0, line := 1, column := 1 }

/-- The line and column of a cursor. -/
def position (cursor : Cursor) : Position :=
  ⟨cursor.line, cursor.column⟩

/-- No character is left. -/
def atEnd (cursor : Cursor) : Bool :=
  cursor.rest.isEmpty

/-- The next character, if any is left. -/
def current? (cursor : Cursor) : Option Char :=
  cursor.rest.head?

/-- Moves over one character; at the end of the text the cursor stays where it is. -/
def step (cursor : Cursor) : Cursor :=
  match cursor.rest with
  | [] => cursor
  | c :: rest =>
    { before := c :: cursor.before
      rest
      offset := cursor.offset + 1
      line := if c = '\n' then cursor.line + 1 else cursor.line
      column := if c = '\n' then 1 else cursor.column + 1 }

/-- Moves over `n` characters, or to the end of the text. -/
def skip (cursor : Cursor) : Nat → Cursor
  | 0 => cursor
  | n + 1 => cursor.step.skip n

/-- The next `n` characters, none standing for each that is asked for past the end of the text, and
the cursor behind them. -/
def read (cursor : Cursor) : Nat → List (Option Char) × Cursor
  | 0 => ([], cursor)
  | n + 1 =>
    let (characters, last) := cursor.step.read n
    (cursor.current? :: characters, last)

/-- The whole text around a cursor. -/
def text (cursor : Cursor) : List Char :=
  cursor.before.reverse ++ cursor.rest

/-- The character `ahead` places from the next one. Past the end of the text there is none; a
place before the start is counted from the end once more, and lies outside the text if that does
not reach it either. Places are counted back in 64 bits at most. -/
def peek (cursor : Cursor) (ahead : Int) : Except Failure (Option Char) :=
  let place : Int := cursor.offset + ahead
  let text := cursor.text
  if 0 ≤ place then .ok text[place.toNat]?
  else if place < -0x8000000000000000 then .error .uncountablePlace
  else if 0 ≤ place + text.length then .ok text[(place + text.length).toNat]?
  else .error .outsideText

/-- The text between an offset and the cursor. A negative offset is counted from the end of the
text; one that lies outside the text stands for its nearest end. -/
def textSince (cursor : Cursor) (start : Int) : List Char :=
  let start := if start < 0 then start + cursor.text.length else start
  cursor.before.reverse.drop start.toNat

@[simp] theorem rest_step (cursor : Cursor) : cursor.step.rest = cursor.rest.drop 1 := by
  unfold step
  split <;> simp_all

@[simp] theorem rest_skip (cursor : Cursor) (n : Nat) :
    (cursor.skip n).rest = cursor.rest.drop n := by
  induction n generalizing cursor with
  | zero => rfl
  | succ n ih => simp [skip, ih]

@[simp] theorem snd_read (cursor : Cursor) (n : Nat) : (cursor.read n).2 = cursor.skip n := by
  induction n generalizing cursor with
  | zero => rfl
  | succ n ih => exact ih cursor.step

end Cursor

end SymbolCensus
