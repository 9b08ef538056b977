import SymbolCensus.Proofs.Coverage
import SymbolCensus.Proofs.Progress

/-!
# The coordinates of the cursor

A cursor never knows where it is in its text: it counts offset, line and column as it goes, one
character at a time, and many operations make it go. This file says that what it counts is at all
times a function of the offset alone, which can be inverted, and that nothing but a fresh start ever
takes it back.

- `Scan.advances`: how often an operation advances the cursor, also in vain at the end of the text.
- `Trip`: a scan with all answers that its cursor gave since the start of the text. `Trip.during` is
  the cursor in the middle of an operation, `Trip.perform` the scan behind it.
- `Trip.cursor_perform`: whatever an operation does, the cursor goes where its advances take it.
- `Trip.Faithful`: the invariant of a trip, by induction on the operations.
- `Cursor.Coordinates`, `Trip.coordinates_visited`: what is counted at every moment.
-/

namespace SymbolCensus

/-! ## Operations as advances -/

namespace Scan

/-- Where the cursor is when an operation sets out. -/
def origin (scan : Scan) : Operation → Cursor
  | .run => .start scan.source
  | _ => scan.cursor

/-- How often an operation advances the cursor. Comments, literals, words and marks are taken with
their first characters unseen, so that some of these advances may come to nothing at the end of the
text. -/
def advances (scan : Scan) : Operation → Nat
  | .run => scan.source.length
  | .advance count => count
  | .setContext _ => 0
  | .takeLineComment => max 2 (Piece.lineCommentAt scan.cursor.rest).text.length
  | .takeBlockComment _ => max 2 (Piece.blockCommentAt scan.cursor.rest).text.length
  | .takeLiteral _ => max 1 (Piece.literalAt scan.cursor.rest).text.length
  | .takeNumeral _ => (Piece.numeralAt scan.cursor.rest).text.length
  | .takeWord _ => max 1 (Piece.wordAt scan.cursor.rest).text.length
  | .takeMark _ =>
    match scan.cursor.rest with
    | [] => 1
    | c :: rest => (Piece.markAt c rest).text.length

end Scan

/-- A scan, and all that its cursor has answered since it was last set to the start: a character for
each advance, or none at the end of the text. -/
structure Trip where
  scan : Scan
  answers : List (Option Char)

namespace Trip

/-- The beginning of a trip through a text. -/
def start (text : String) : Trip :=
  { scan := .ofText text, answers := [] }

/-- The cursor and its answers in an operation, after so many advances. -/
def during (trip : Trip) (operation : Operation) (count : Nat) : Cursor × List (Option Char) :=
  let (characters, cursor) := (trip.scan.origin operation).read count
  (cursor, if operation = .run then characters else trip.answers ++ characters)

/-- Performs an operation. One that fails has advanced the cursor all the same. -/
def perform (trip : Trip) (operation : Operation) : Trip where
  scan := (trip.scan.perform operation).toOption.getD trip.scan
  answers := (trip.during operation (trip.scan.advances operation)).2

/-- Performs operations one after another. -/
def performAll (trip : Trip) (operations : List Operation) : Trip :=
  operations.foldl perform trip

end Trip

namespace Cursor

theorem step_of_rest_eq_nil {cursor : Cursor} (h : cursor.rest = []) : cursor.step = cursor := by
  unfold step
  rw [h]

/-- At the end of the text the cursor stays, however often it is advanced. -/
theorem skip_of_rest_eq_nil {cursor : Cursor} (h : cursor.rest = []) (count : Nat) :
    cursor.skip count = cursor := by
  induction count with
  | zero => rfl
  | succ count ih =>
    show cursor.step.skip count = cursor
    rw [step_of_rest_eq_nil h, ih]

theorem skip_add (cursor : Cursor) (count more : Nat) :
    cursor.skip (count + more) = (cursor.skip count).skip more := by
  induction count generalizing cursor with
  | zero => rw [Nat.zero_add]; rfl
  | succ count ih =>
    rw [Nat.succ_add]
    exact ih cursor.step

/-- Advances that are made for sure lead no further than the text. -/
theorem skip_max {cursor : Cursor} {least count : Nat} (h : min least cursor.rest.length ≤ count) :
    cursor.skip (max least count) = cursor.skip count := by
  by_cases hle : least ≤ count
  · rw [Nat.max_eq_right hle]
  · have hend : (cursor.skip count).rest = [] := by
      rw [rest_skip]
      exact List.drop_eq_nil_of_le (by omega)
    have hmax : max least count = count + (least - count) := by omega
    rw [hmax, skip_add, skip_of_rest_eq_nil hend]

/-- The characters among the answers are those that the cursor has passed. -/
theorem reduceOption_read (cursor : Cursor) (count : Nat) :
    (cursor.read count).1.reduceOption = cursor.rest.take count := by
  induction count generalizing cursor with
  | zero => rfl
  | succ count ih =>
    show (cursor.current? :: (cursor.step.read count).1).reduceOption = _
    have hcurrent : cursor.current? = cursor.rest.head? := rfl
    have hstep := ih cursor.step
    rw [rest_step] at hstep
    rw [hcurrent]
    cases hrest : cursor.rest with
    | nil =>
      rw [hrest] at hstep
      rw [List.head?_nil, List.reduceOption_cons_of_none, hstep]
      simp
    | cons c rest =>
      rw [hrest] at hstep
      rw [List.head?_cons, List.reduceOption_cons_of_some, hstep]
      rfl

/-- A cursor stands in a text and has answered with the characters before it. -/
structure Followed (cursor : Cursor) (answers : List (Option Char)) (text : List Char) : Prop where
  stands : cursor.In text
  heard : answers.reduceOption = text.take cursor.offset

theorem followed_start (text : List Char) : (start text).Followed [] text :=
  ⟨in_start text, rfl⟩

/-- **Any number of advances.** -/
theorem Followed.read {cursor : Cursor} {answers : List (Option Char)} {text : List Char}
    (h : cursor.Followed answers text) (count : Nat) :
    (cursor.skip count).Followed (answers ++ (cursor.read count).1) text where
  stands := h.stands.skip count
  heard := by
    rw [List.reduceOption_append, reduceOption_read, h.heard]
    obtain ⟨taken, rest, rfl, rfl⟩ := h.stands
    rw [skip_between_take, rest_between]
    show (taken ++ rest).take taken.length ++ rest.take count =
      (taken ++ rest).take (taken ++ rest.take count).length
    have hsplit : taken ++ rest = taken ++ rest.take count ++ rest.drop count := by
      rw [List.append_assoc, List.take_append_drop]
    rw [List.take_left, hsplit, List.take_left]

theorem offset_le_offset_skip (cursor : Cursor) (count : Nat) :
    cursor.offset ≤ (cursor.skip count).offset := by
  rw [offset_skip]
  exact Nat.le_add_right ..

end Cursor

namespace Scan

/-- Reading to the end takes the cursor over all that is left. -/
theorem cursor_toEnd (scan : Scan) :
    scan.toEnd.cursor = scan.cursor.skip scan.cursor.rest.length := by
  fun_induction toEnd scan with
  | case1 scan hend =>
    rw [hend]
    rfl
  | case2 scan hne ih =>
    obtain ⟨c, rest, hrest⟩ := List.exists_cons_of_ne_nil hne
    have hpiece := (Piece.isPrefix_text_leading c rest).length_le
    have hcursor : scan.step.cursor =
        scan.cursor.skip (Piece.leading c rest).text.length := by
      rw [step_eq_absorb hrest, cursor_absorb]
    rw [ih, hcursor, Cursor.rest_skip, ← Cursor.skip_add, List.length_drop, hrest,
      Nat.add_sub_cancel' hpiece]

/-- A piece that takes some characters unseen is no shorter, unless the text is. -/
theorem min_le_length_take_append (least : Nat) (rest body : List Char) :
    min least rest.length ≤ (rest.take least ++ body).length := by
  rw [List.length_append, List.length_take]
  exact Nat.le_add_right ..

/-- **The cursor goes where the advances of an operation take it.** -/
theorem cursor_perform (scan : Scan) (operation : Operation) :
    ((scan.perform operation).toOption.getD scan).cursor =
      (scan.origin operation).skip (scan.advances operation) := by
  cases operation with
  | run => exact cursor_toEnd scan.restart
  | advance count => rfl
  | setContext context => rfl
  | takeLineComment =>
    have hleast : min 2 scan.cursor.rest.length ≤
        (Piece.lineCommentAt scan.cursor.rest).text.length := min_le_length_take_append ..
    exact (cursor_accept ..).trans (Cursor.skip_max hleast).symm
  | takeBlockComment position =>
    have hleast : min 2 scan.cursor.rest.length ≤
        (Piece.blockCommentAt scan.cursor.rest).text.length := min_le_length_take_append ..
    exact (cursor_accept ..).trans (Cursor.skip_max hleast).symm
  | takeLiteral position =>
    have hleast : min 1 scan.cursor.rest.length ≤
        (Piece.literalAt scan.cursor.rest).text.length := min_le_length_take_append ..
    exact (cursor_accept ..).trans (Cursor.skip_max hleast).symm
  | takeNumeral position => exact cursor_accept ..
  | takeWord position =>
    have hleast : min 1 scan.cursor.rest.length ≤
        (Piece.wordAt scan.cursor.rest).text.length := min_le_length_take_append ..
    exact (cursor_accept ..).trans (Cursor.skip_max hleast).symm
  | takeMark position =>
    unfold perform advances origin
    dsimp only
    cases hrest : scan.cursor.rest with
    | nil => exact (Cursor.skip_of_rest_eq_nil hrest 1).symm
    | cons c rest => exact cursor_accept ..

end Scan

/-! ## Trips -/

namespace Trip

open Scan

theorem during_eq (trip : Trip) (operation : Operation) (count : Nat) :
    trip.during operation count =
      ((trip.scan.origin operation).skip count,
        (if operation = .run then [] else trip.answers) ++
          ((trip.scan.origin operation).read count).1) := by
  unfold during
  dsimp only
  rw [Cursor.snd_read]
  split
  · rfl
  · rfl

/-- The cursor of a trip is followed through the text of its scan. -/
structure Faithful (trip : Trip) (text : List Char) : Prop where
  source : trip.scan.source = text
  cursor : trip.scan.cursor.Followed trip.answers text

theorem faithful_start (text : String) : (start text).Faithful text.toList :=
  ⟨rfl, Cursor.followed_start _⟩

variable {trip : Trip} {text : List Char}

/-- **In the middle of an operation** the cursor is followed as well. Only a reading of the whole
text sets out from the start. -/
theorem Faithful.during (h : trip.Faithful text) (operation : Operation) (count : Nat) :
    (trip.during operation count).1.Followed (trip.during operation count).2 text := by
  have horigin : (trip.scan.origin operation).Followed
      (if operation = .run then [] else trip.answers) text := by
    cases operation with
    | run =>
      show (Cursor.start trip.scan.source).Followed [] text
      rw [h.source]
      exact Cursor.followed_start text
    | _ => exact h.cursor
  rw [during_eq]
  exact horigin.read count

theorem cursor_perform (trip : Trip) (operation : Operation) :
    (trip.perform operation).scan.cursor =
      (trip.during operation (trip.scan.advances operation)).1 := by
  rw [during_eq]
  exact trip.scan.cursor_perform operation

/-- **One operation.** -/
theorem Faithful.perform (h : trip.Faithful text) (operation : Operation) :
    (trip.perform operation).Faithful text where
  source :=
    ((invariant_within text).performAll ⟨h.source, h.cursor.stands⟩ [operation]).source
  cursor := by
    rw [cursor_perform]
    exact h.during operation _

/-- **Any sequence of operations.** -/
theorem Faithful.performAll (h : trip.Faithful text) (operations : List Operation) :
    (trip.performAll operations).Faithful text := by
  induction operations generalizing trip with
  | nil => exact h
  | cons operation operations ih => exact ih (h.perform operation)

theorem scan_performAll (trip : Trip) (operations : List Operation) :
    (trip.performAll operations).scan = trip.scan.performAll operations := by
  induction operations generalizing trip with
  | nil => rfl
  | cons operation operations ih => exact ih _

/-- From operation to operation the cursor never goes back: a reading of the whole text starts
afresh, but does not stop before the end. -/
theorem Faithful.offset_le_perform (h : trip.Faithful text) (operation : Operation) :
    trip.scan.cursor.offset ≤ (trip.perform operation).scan.cursor.offset := by
  rw [cursor_perform, during_eq]
  cases operation with
  | run =>
    show _ ≤ ((Cursor.start trip.scan.source).skip trip.scan.source.length).offset
    have hlength := h.cursor.stands.offset_add_length_rest
    rw [Cursor.offset_skip, h.source]
    show _ ≤ 0 + min text.length text.length
    omega
  | _ => exact Cursor.offset_le_offset_skip ..

theorem Faithful.offset_le_performAll (h : trip.Faithful text) (operations : List Operation) :
    trip.scan.cursor.offset ≤ (trip.performAll operations).scan.cursor.offset := by
  induction operations generalizing trip with
  | nil => exact Nat.le_refl _
  | cons operation operations ih =>
    exact (h.offset_le_perform operation).trans (ih (h.perform operation))

end Trip

/-! ## Coordinates -/

namespace Cursor

/-- What a cursor in a text counts is a function of its offset, and the offset is a function of it.
The answers are those since the start. -/
structure Coordinates (cursor : Cursor) (answers : List (Option Char)) (text : List Char) :
    Prop where
  inside : cursor.offset ≤ text.length
  line : cursor.line = (text.take cursor.offset).count '\n' + 1
  /-- One more than the characters behind the last newline. -/
  column : cursor.column = ((text.take cursor.offset).rtakeWhile (· != '\n')).length + 1
  recovered : cursor.position.offset text = cursor.offset
  heard : answers.reduceOption = text.take cursor.offset

variable {cursor other : Cursor} {answers : List (Option Char)} {text : List Char}

theorem Followed.coordinates (h : cursor.Followed answers text) :
    cursor.Coordinates answers text := by
  obtain ⟨⟨taken, rest, rfl, rfl⟩, hheard⟩ := h
  have htaken : (taken ++ rest).take (between taken rest).offset = taken := List.take_left
  constructor
  case inside =>
    show taken.length ≤ _
    rw [List.length_append]
    exact Nat.le_add_right ..
  case line =>
    rw [htaken]
    rfl
  case column =>
    rw [htaken, List.rtakeWhile, List.length_reverse]
    rfl
  case recovered => exact Position.offset_behind taken rest
  case heard => exact hheard

theorem In.before_of_lt (h : cursor.In text) (hother : other.In text)
    (hlt : cursor.offset < other.offset) : cursor.position.Before other.position := by
  obtain ⟨taken, rest, htext, rfl⟩ := h
  obtain ⟨taken', rest', htext', rfl⟩ := hother
  have hlt : taken.length < taken'.length := hlt
  obtain ⟨more, rfl⟩ : taken <+: taken' :=
    List.prefix_of_prefix_length_le ⟨rest, htext⟩ ⟨rest', htext'⟩ (Nat.le_of_lt hlt)
  refine Position.before_behind_append taken ?_
  rintro rfl
  rw [List.append_nil] at hlt
  exact Nat.lt_irrefl _ hlt

/-- The offset alone says where in a text a cursor stands. -/
theorem In.eq_of_offset_eq (h : cursor.In text) (hother : other.In text)
    (hsame : cursor.offset = other.offset) : cursor = other := by
  obtain ⟨taken, rest, htext, rfl⟩ := h
  obtain ⟨taken', rest', htext', rfl⟩ := hother
  obtain ⟨rfl, rfl⟩ := List.append_inj (htext.trans htext'.symm) hsame
  rfl

/-- **Larger offsets have larger positions**, and only they. -/
theorem In.offset_lt_iff (h : cursor.In text) (hother : other.In text) :
    cursor.offset < other.offset ↔ cursor.position.Before other.position := by
  refine ⟨h.before_of_lt hother, fun hbefore => ?_⟩
  rcases Nat.lt_trichotomy cursor.offset other.offset with hlt | hsame | hgt
  · exact hlt
  · exact absurd (congrArg position (h.eq_of_offset_eq hother hsame)) hbefore.ne
  · exact absurd rfl (hbefore.trans (hother.before_of_lt h hgt)).ne

end Cursor

namespace Trip

/-- A cursor with its answers at some moment of some trip through a text: in the middle of an
operation, behind any others. -/
def Visits (text : String) (cursor : Cursor) (answers : List (Option Char)) : Prop :=
  ∃ operations operation count,
    ((start text).performAll operations).during operation count = (cursor, answers)

theorem Visits.followed {text : String} {cursor : Cursor} {answers : List (Option Char)}
    (h : Visits text cursor answers) : cursor.Followed answers text.toList := by
  obtain ⟨operations, operation, count, hduring⟩ := h
  have hfollowed :=
    ((faithful_start text).performAll operations).during operation count
  rwa [hduring] at hfollowed

/-- **The coordinates of the cursor at all times.** Whatever operations were performed on a scan of a
text, and in the middle of each of them:

- what the cursor counts is determined by its offset, and larger offsets have larger positions;
- an operation moves the cursor by advances alone, each of which leaves the offset or increases it;
  only a reading of the whole text sets out from the start. -/
theorem coordinates_visited (text : String) :
    (∀ cursor answers, Visits text cursor answers →
      cursor.Coordinates answers text.toList ∧
        ∀ other answers', Visits text other answers' →
          (cursor.offset < other.offset ↔ cursor.position.Before other.position)) ∧
    ∀ operations : List Operation, let trip := (start text).performAll operations
      trip.scan = (Scan.ofText text).performAll operations ∧
      (∀ more, trip.scan.cursor.offset ≤ (trip.performAll more).scan.cursor.offset) ∧
      ∀ operation,
        (trip.during operation 0).1 =
          (if operation = .run then .start text.toList else trip.scan.cursor) ∧
        (∀ count, (trip.during operation count).1.offset ≤
          (trip.during operation (count + 1)).1.offset) ∧
        trip.during operation (trip.scan.advances operation) =
          ((trip.perform operation).scan.cursor, (trip.perform operation).answers) := by
  refine ⟨fun cursor answers hvisits => ⟨hvisits.followed.coordinates, ?_⟩, ?_⟩
  · intro other answers' hother
    exact hvisits.followed.stands.offset_lt_iff hother.followed.stands
  intro operations trip
  have hfaithful := (faithful_start text).performAll operations
  refine ⟨scan_performAll _ operations, hfaithful.offset_le_performAll, fun operation => ?_⟩
  refine ⟨?_, fun count => ?_, ?_⟩
  · rw [during_eq]
    show trip.scan.origin operation = _
    cases operation with
    | run => exact congrArg Cursor.start hfaithful.source
    | _ => rfl
  · rw [during_eq, during_eq, Cursor.skip_add]
    exact Cursor.offset_le_offset_skip ..
  · rw [cursor_perform]
    rfl

end Trip

end SymbolCensus
