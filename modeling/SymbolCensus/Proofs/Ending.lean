import SymbolCensus.Proofs.Diagnosis
import SymbolCensus.Proofs.Progress

/-!
# Where string literals and comments end

A literal or a comment is read from its front: a backslash takes the next character along, a star is
followed by a look at the next character. Where it ends can also be told from the text as a whole, by
the first place at which something stands. This file says that the two agree, at every place of
every text, and what is left of a scan that takes a literal or a comment there.

- `firstFrom`: the first place with a property, from a given place on.
- `endsLiteralAt`: a quotation mark or a newline that no backslash takes along, because the
  backslashes right before it pair up. `OpenBody.even_trailing` and `OpenBody.exists_escape` say that
  pairs counted from the end are those that reading takes from the front.
- `literalFrom`, `blockCommentFrom`, `lineCommentFrom`: how far a literal or a comment reaches.
- `Scan.takeLiteral_literalFrom`, `Scan.takeComment_commentFrom`: a scan that takes one gets so far,
  and keeps and reports what belongs to it and nothing else.
-/

namespace SymbolCensus

/-- How far a literal or a comment reaches. -/
structure Extent where
  /-- The place behind it. -/
  stop : Nat
  /-- What is said about it, if anything is. -/
  message : Option String
deriving DecidableEq, Repr

/-! ## The first place with a property -/

/-- The first place of a text, from a given one on, that has a property. -/
def firstFrom (text : List Char) (start : Nat) (p : Nat → Bool) : Option Nat :=
  (List.range text.length).find? fun i => start ≤ i && p i

section FirstFrom

variable {text : List Char} {start stop : Nat} {p : Nat → Bool}

theorem firstFrom_eq_some_iff :
    firstFrom text start p = some stop ↔
      (start ≤ stop ∧ stop < text.length ∧ p stop = true) ∧
        ∀ i, start ≤ i → i < stop → p i = false := by
  unfold firstFrom
  rw [List.find?_range_eq_some, List.mem_range, Bool.and_eq_true, decide_eq_true_eq]
  constructor
  · rintro ⟨⟨hstart, hp⟩, hstop, hbefore⟩
    refine ⟨⟨hstart, hstop, hp⟩, fun i hi hlt => ?_⟩
    simpa [hi] using hbefore i hlt
  · rintro ⟨⟨hstart, hstop, hp⟩, hbefore⟩
    refine ⟨⟨hstart, hp⟩, hstop, fun i hlt => ?_⟩
    by_cases hi : start ≤ i
    · simp [hbefore i hi hlt]
    · simp [hi]

theorem firstFrom_eq_none_iff :
    firstFrom text start p = none ↔ ∀ i, start ≤ i → i < text.length → p i = false := by
  unfold firstFrom
  rw [List.find?_range_eq_none]
  constructor
  · intro h i hi hlt
    simpa [hi] using h i hlt
  · intro h i hlt
    by_cases hi : start ≤ i
    · simp [h i hi hlt]
    · simp [hi]

/-- The place is found by its distance from where the search starts. -/
theorem firstFrom_add {k : Nat} (hlt : start + k < text.length) (hp : p (start + k) = true)
    (hbefore : ∀ j < k, p (start + j) = false) : firstFrom text start p = some (start + k) := by
  refine firstFrom_eq_some_iff.mpr ⟨⟨Nat.le_add_right .., hlt, hp⟩, fun i hi hlt => ?_⟩
  obtain ⟨j, rfl⟩ := Nat.exists_eq_add_of_le hi
  exact hbefore j (Nat.lt_of_add_lt_add_left hlt)

theorem firstFrom_eq_none {k : Nat} (hlength : text.length ≤ start + k)
    (h : ∀ j < k, p (start + j) = false) : firstFrom text start p = none := by
  refine firstFrom_eq_none_iff.mpr fun i hi hlt => ?_
  obtain ⟨j, rfl⟩ := Nat.exists_eq_add_of_le hi
  exact h j (Nat.lt_of_add_lt_add_left (Nat.lt_of_lt_of_le hlt hlength))

end FirstFrom

/-! ## Backslashes -/

/-- The number of backslashes at the end of some text. -/
def trailingBackslashes (text : List Char) : Nat :=
  (text.reverse.takeWhile (· == '\\')).length

theorem trailingBackslashes_concat (text : List Char) :
    trailingBackslashes (text ++ ['\\']) = trailingBackslashes text + 1 := by
  simp [trailingBackslashes]

theorem trailingBackslashes_concat_other {c : Char} (h : c ≠ '\\') (text : List Char) :
    trailingBackslashes (text ++ [c]) = 0 := by
  simp [trailingBackslashes, h]

theorem trailingBackslashes_of_all {text : List Char} (h : ∀ c ∈ text, c = '\\') :
    trailingBackslashes text = text.length := by
  have hall : text.reverse.takeWhile (· == '\\') = text.reverse := by
    refine List.takeWhile_eq_self_iff.mpr fun c hc => ?_
    rw [h c (List.mem_reverse.mp hc)]
    rfl
  rw [trailingBackslashes, hall, List.length_reverse]

/-- A character at the front counts only if it is one of nothing but backslashes. -/
theorem trailingBackslashes_cons {c : Char} {text : List Char}
    (h : ¬ ∀ d ∈ c :: text, d = '\\') :
    trailingBackslashes (c :: text) = trailingBackslashes text := by
  unfold trailingBackslashes
  rw [List.reverse_cons, List.takeWhile_append]
  split
  next hall =>
    -- all of the text is backslashes, so the character is none
    have htext : ∀ d ∈ text, d = '\\' := by
      have hself := (List.takeWhile_prefix (· == '\\')).eq_of_length hall
      intro d hd
      simpa using List.takeWhile_eq_self_iff.mp hself d (List.mem_reverse.mpr hd)
    have hc : c ≠ '\\' := fun hc => h (List.forall_mem_cons.mpr ⟨hc, htext⟩)
    have hnone : [c].takeWhile (· == '\\') = [] := by simp [hc]
    rw [hnone, List.append_nil, hall]
  next => rfl

/-- A backslash and what it takes along do not change whether the backslashes at the end pair up. -/
theorem even_trailingBackslashes_escape (c : Char) (text : List Char) :
    Even (trailingBackslashes ('\\' :: c :: text)) ↔ Even (trailingBackslashes text) := by
  by_cases hall : ∀ d ∈ '\\' :: c :: text, d = '\\'
  · have htext : ∀ d ∈ text, d = '\\' :=
      (List.forall_mem_cons.mp (List.forall_mem_cons.mp hall).2).2
    rw [trailingBackslashes_of_all hall, trailingBackslashes_of_all htext, List.length_cons,
      List.length_cons, Nat.add_assoc, Nat.even_add]
    simp
  · have hrest : ¬ ∀ d ∈ c :: text, d = '\\' :=
      fun hrest => hall (List.forall_mem_cons.mpr ⟨rfl, hrest⟩)
    rw [trailingBackslashes_cons hall, trailingBackslashes_cons hrest]

namespace OpenBody

/-- Behind an open inside every backslash has taken its character along. -/
theorem even_trailing {body : List Char} (h : OpenBody body) :
    Even (trailingBackslashes body) := by
  induction h with
  | nil => exact Even.zero
  | @plain c rest _ _ hslash _ ih =>
    rw [trailingBackslashes_cons fun hall => hslash (hall c (List.mem_cons_self ..))]
    exact ih
  | @escape c rest _ ih => exact (even_trailingBackslashes_escape c rest).mpr ih

/-- A quotation mark or a newline inside is taken along by a backslash. -/
theorem exists_escape {body : List Char} (h : OpenBody body) {before after : List Char} {c : Char}
    (hbody : body = before ++ c :: after) (hc : c = '"' ∨ c = '\n') :
    ∃ front, before = front ++ ['\\'] ∧ OpenBody front := by
  induction h generalizing before with
  | nil => exact absurd hbody.symm (List.append_ne_nil_of_right_ne_nil _ (List.cons_ne_nil _ _))
  | @plain d rest hline hquote hslash _ ih =>
    cases before with
    | nil =>
      obtain ⟨rfl, -⟩ := List.cons.inj hbody
      rcases hc with rfl | rfl
      · exact absurd rfl hquote
      · exact absurd rfl hline
    | cons e before =>
      obtain ⟨rfl, hrest⟩ := List.cons.inj hbody
      obtain ⟨front, rfl, hfront⟩ := ih hrest
      exact ⟨d :: front, rfl, .plain hline hquote hslash hfront⟩
  | @escape d rest _ ih =>
    rcases before with _ | ⟨e, _ | ⟨f, before⟩⟩
    · obtain ⟨rfl, -⟩ := List.cons.inj hbody
      rcases hc with hc | hc
      · cases hc
      · cases hc
    · obtain ⟨rfl, -⟩ := List.cons.inj hbody
      exact ⟨[], rfl, .nil⟩
    · obtain ⟨rfl, hrest⟩ := List.cons.inj hbody
      obtain ⟨rfl, hbehind⟩ := List.cons.inj hrest
      obtain ⟨front, rfl, hfront⟩ := ih hbehind
      exact ⟨'\\' :: d :: front, rfl, .escape hfront⟩

end OpenBody

/-! ## String literals -/

/-- How far a string literal reaches, with its lexeme. -/
structure LiteralExtent extends Extent where
  lexeme : List Char
deriving DecidableEq, Repr

/-- The character is one that a string literal cannot have in it by itself. -/
def closesLiteral (c : Char) : Bool :=
  c == '"' || c == '\n'

/-- A string literal from a given place ends at another one: a quotation mark or a newline stands
there, and the backslashes right before it pair up. They are counted back to the mark with which the
literal starts. -/
def endsLiteralAt (text : List Char) (start i : Nat) : Bool :=
  text[i]?.any closesLiteral && Even (trailingBackslashes ((text.take i).drop (start + 1)))

/-- The string literal from a given place on. A newline that ends it is left in place; the lexeme of
a literal without a closing mark gets one. -/
def literalFrom (text : List Char) (start : Nat) : LiteralExtent :=
  match firstFrom text (start + 1) (endsLiteralAt text start) with
  | some stop =>
    if text[stop]? = some '"' then
      { lexeme := (text.take (stop + 1)).drop start, stop := stop + 1, message := none }
    else
      { lexeme := (text.take stop).drop start ++ ['"'], stop
        message := some "Unterminated string literal, closed at end of line" }
  | none =>
    { lexeme := text.drop start ++ ['"'], stop := text.length
      message := some "Unterminated string literal" }

section Literal

variable {taken body tail : List Char} {c : Char}

theorem endsLiteralAt_add (text : List Char) (start k : Nat) :
    endsLiteralAt text start (start + 1 + k) =
      ((text.drop (start + 1))[k]?.any closesLiteral &&
        Even (trailingBackslashes ((text.drop (start + 1)).take k))) := by
  rw [endsLiteralAt, List.getElem?_drop, List.drop_take, Nat.add_sub_cancel_left]

theorem drop_cons_append (taken rest : List Char) (c : Char) :
    (taken ++ c :: rest).drop (taken.length + 1) = rest := by
  rw [← List.drop_drop, List.drop_left]
  rfl

/-- Nothing inside ends a literal. -/
theorem endsLiteralAt_inside (hbody : OpenBody body) {k : Nat} (hk : k < body.length) :
    endsLiteralAt (taken ++ c :: (body ++ tail)) taken.length (taken.length + 1 + k) = false := by
  rw [endsLiteralAt_add, drop_cons_append, List.getElem?_append_left hk,
    List.getElem?_eq_getElem hk, Option.any_some, List.take_append_of_le_length (Nat.le_of_lt hk)]
  by_cases hcloses : closesLiteral body[k] = true
  · -- a backslash takes it along, so one more than a number of pairs stands before it
    have hsplit : body = body.take k ++ body[k] :: body.drop (k + 1) := by
      rw [List.getElem_cons_drop, List.take_append_drop]
    obtain ⟨front, hfront, hopen⟩ := hbody.exists_escape hsplit (by simpa [closesLiteral] using hcloses)
    rw [hfront, trailingBackslashes_concat, hcloses, Bool.true_and, decide_eq_false_iff_not,
      Nat.even_add_one, not_not]
    exact hopen.even_trailing
  · rw [Bool.eq_false_iff.mpr hcloses, Bool.false_and]

/-- Behind the inside a literal ends if something stands there that can end it. -/
theorem endsLiteralAt_behind (hbody : OpenBody body) :
    endsLiteralAt (taken ++ c :: (body ++ tail)) taken.length (taken.length + 1 + body.length) =
      tail.head?.any closesLiteral := by
  have hhead : (body ++ tail)[body.length]? = tail.head? := by
    rw [List.getElem?_append_right (Nat.le_refl _), Nat.sub_self, List.head?_eq_getElem?]
  rw [endsLiteralAt_add, drop_cons_append, hhead, List.take_left,
    decide_eq_true hbody.even_trailing, Bool.and_true]

/-- The first place at which a literal ends is the one behind its inside. -/
theorem firstFrom_endsLiteralAt (hbody : OpenBody body)
    (hcloses : tail.head?.any closesLiteral = true) :
    firstFrom (taken ++ c :: (body ++ tail)) (taken.length + 1)
        (endsLiteralAt (taken ++ c :: (body ++ tail)) taken.length) =
      some (taken.length + 1 + body.length) := by
  have hpos : 0 < tail.length := by
    refine List.length_pos_iff.mpr ?_
    rintro rfl
    cases hcloses
  refine firstFrom_add ?_ ?_ fun j hj => endsLiteralAt_inside hbody hj
  · simp only [List.length_append, List.length_cons]
    omega
  · rw [endsLiteralAt_behind hbody, hcloses]

/-- Where nothing but a single backslash is left behind the inside, there is no such place. -/
theorem firstFrom_endsLiteralAt_eq_none (hbody : OpenBody body)
    (htail : tail = [] ∨ tail = ['\\']) :
    firstFrom (taken ++ c :: (body ++ tail)) (taken.length + 1)
        (endsLiteralAt (taken ++ c :: (body ++ tail)) taken.length) = none := by
  have htail : tail.length ≤ 1 ∧ tail.head?.any closesLiteral = false := by
    rcases htail with rfl | rfl
    · exact ⟨Nat.zero_le _, rfl⟩
    · exact ⟨Nat.le_refl _, rfl⟩
  refine firstFrom_eq_none (k := body.length + 1) ?_ fun j hj => ?_
  · simp only [List.length_append, List.length_cons]
    omega
  · rcases Nat.lt_succ_iff_lt_or_eq.mp hj with hj | rfl
    · exact endsLiteralAt_inside hbody hj
    · rw [endsLiteralAt_behind hbody, htail.2]

/-- The part of a text between two places. -/
theorem drop_take_append (taken written after : List Char) :
    ((taken ++ (written ++ after)).take (taken.length + written.length)).drop taken.length =
      written := by
  rw [List.drop_take, Nat.add_sub_cancel_left, List.drop_left, List.take_left]

theorem getElem?_behind (taken written after : List Char) :
    (taken ++ (written ++ after))[taken.length + written.length]? = after.head? := by
  rw [← List.append_assoc, ← List.length_append, List.getElem?_append_right (Nat.le_refl _),
    Nat.sub_self, List.head?_eq_getElem?]

theorem add_length_cons (n : Nat) (c : Char) (body : List Char) :
    n + (c :: body).length = n + 1 + body.length := by
  rw [List.length_cons, Nat.add_assoc, Nat.add_comm 1]

theorem literalFrom_closed (hbody : OpenBody body) :
    literalFrom (taken ++ c :: (body ++ '"' :: tail)) taken.length =
      { lexeme := c :: (body ++ ['"']), stop := taken.length + (c :: body).length + 1
        message := none } := by
  have hquote : (taken ++ c :: (body ++ '"' :: tail))[taken.length + (c :: body).length]? =
      some '"' := getElem?_behind taken (c :: body) ('"' :: tail)
  have hcut := drop_take_append taken (c :: body ++ ['"']) tail
  rw [List.append_assoc, List.length_append, ← Nat.add_assoc] at hcut
  unfold literalFrom
  rw [firstFrom_endsLiteralAt hbody rfl, ← add_length_cons]
  dsimp only
  rw [if_pos hquote]
  exact congrArg (LiteralExtent.mk _) hcut

theorem literalFrom_lineEnd (hbody : OpenBody body) :
    literalFrom (taken ++ c :: (body ++ '\n' :: tail)) taken.length =
      { lexeme := c :: body ++ ['"'], stop := taken.length + (c :: body).length
        message := some "Unterminated string literal, closed at end of line" } := by
  have hline : (taken ++ c :: (body ++ '\n' :: tail))[taken.length + (c :: body).length]? ≠
      some '"' := by
    rw [← List.cons_append, getElem?_behind, List.head?_cons]
    decide
  have hcut := drop_take_append taken (c :: body) ('\n' :: tail)
  unfold literalFrom
  rw [firstFrom_endsLiteralAt hbody rfl, ← add_length_cons]
  dsimp only
  rw [if_neg hline]
  exact congrArg (fun written => LiteralExtent.mk _ (written ++ ['"'])) hcut

theorem literalFrom_textEnd (hbody : OpenBody body) (htail : tail = [] ∨ tail = ['\\']) :
    literalFrom (taken ++ c :: (body ++ tail)) taken.length =
      { lexeme := c :: (body ++ tail) ++ ['"'], stop := taken.length + (c :: (body ++ tail)).length
        message := some "Unterminated string literal" } := by
  unfold literalFrom
  rw [firstFrom_endsLiteralAt_eq_none hbody htail, List.drop_left, List.length_append]

theorem literalFrom_length (text : List Char) :
    literalFrom text text.length =
      { lexeme := ['"'], stop := text.length, message := some "Unterminated string literal" } := by
  have hnone : firstFrom text (text.length + 1) (endsLiteralAt text text.length) = none :=
    firstFrom_eq_none_iff.mpr fun i hi hlt => by omega
  unfold literalFrom
  rw [hnone, List.drop_length]
  rfl

end Literal

/-- **Reading from the front gets to where the text says that the literal ends.** -/
theorem Piece.literalAt_eq_literalFrom (taken rest : List Char) :
    let literal := literalFrom (taken ++ rest) taken.length
    (literalAt rest).lexeme = String.ofList literal.lexeme ∧
      taken.length + (literalAt rest).text.length = literal.stop ∧
      (literalAt rest).fault?.map Fault.message = literal.message := by
  cases rest with
  | nil =>
    rw [List.append_nil, literalFrom_length]
    exact ⟨rfl, rfl, rfl⟩
  | cons c rest =>
    obtain ⟨body, tail, rfl, hbody, hend⟩ := exists_openBody rest
    have hread : literalAt (c :: (body ++ tail)) =
        .literal (c :: (body ++ (literalBody tail).1)) (literalBody tail).2 := by
      show Piece.literal (c :: (literalBody (body ++ tail)).1) (literalBody (body ++ tail)).2 = _
      rw [literalBody_append hbody]
    rw [hread]
    rcases hend with rfl | rfl | ⟨tail, rfl⟩ | ⟨tail, rfl⟩
    · rw [literalFrom_textEnd hbody (.inl rfl)]
      exact ⟨rfl, rfl, rfl⟩
    · rw [literalFrom_textEnd hbody (.inr rfl)]
      exact ⟨rfl, rfl, rfl⟩
    · rw [literalFrom_closed hbody]
      refine ⟨rfl, ?_, rfl⟩
      simp [literalBody, text, Nat.add_assoc]
    · rw [literalFrom_lineEnd hbody]
      refine ⟨?_, ?_, rfl⟩
      · simp [literalBody, lexeme]
      · simp [literalBody, text]

theorem endsLiteralAt_newline {text : List Char} {i : Nat} (h : text[i]? = some '\n')
    (start : Nat) :
    endsLiteralAt text start i =
      decide (Even (trailingBackslashes ((text.take i).drop (start + 1)))) := by
  rw [endsLiteralAt, h]
  rfl

/-- The newlines in a literal are those that a backslash takes along. -/
theorem lt_stop_literalFrom_iff {text : List Char} {start i : Nat} (hstart : start < i)
    (hstop : i ≤ (literalFrom text start).stop) (hline : text[i]? = some '\n') :
    i < (literalFrom text start).stop ↔
      ¬ Even (trailingBackslashes ((text.take i).drop (start + 1))) := by
  have hends := endsLiteralAt_newline hline start
  have hlength := (List.getElem?_eq_some_iff.mp hline).1
  unfold literalFrom at hstop ⊢
  cases hfirst : firstFrom text (start + 1) (endsLiteralAt text start) with
  | none =>
    have hinside := firstFrom_eq_none_iff.mp hfirst i hstart hlength
    rw [hends, decide_eq_false_iff_not] at hinside
    exact iff_of_true hlength hinside
  | some stop =>
    obtain ⟨⟨hle, hlt, hat⟩, hbefore⟩ := firstFrom_eq_some_iff.mp hfirst
    rw [hfirst] at hstop
    dsimp only at hstop ⊢
    have hinside : i < stop → ¬ Even (trailingBackslashes ((text.take i).drop (start + 1))) := by
      intro hi
      have hfalse := hbefore i hstart hi
      rwa [hends, decide_eq_false_iff_not] at hfalse
    by_cases hquote : text[stop]? = some '"'
    · rw [if_pos hquote] at hstop ⊢
      rcases Nat.lt_trichotomy i stop with hi | rfl | hi
      · exact iff_of_true (Nat.lt_succ_of_lt hi) (hinside hi)
      · rw [hline] at hquote
        cases hquote
      · -- the closing mark stands right before the newline
        obtain rfl : i = stop + 1 := Nat.le_antisymm hstop hi
        have hlast : (text.take (stop + 1)).drop (start + 1) =
            (text.take stop).drop (start + 1) ++ ['"'] := by
          rw [List.take_add_one, hquote, List.drop_append_of_le_length]
          · rfl
          · rw [List.length_take]
            omega
        rw [hlast, trailingBackslashes_concat_other (by decide)]
        exact iff_of_false (Nat.lt_irrefl _) (not_not.mpr Even.zero)
    · rw [if_neg hquote] at hstop ⊢
      rcases Nat.lt_or_eq_of_le hstop with hi | rfl
      · exact iff_of_true hi (hinside hi)
      · rw [hends, decide_eq_true_eq] at hat
        exact iff_of_false (Nat.lt_irrefl _) (not_not.mpr hat)

/-! ## Comments -/

/-- The closing mark of a block comment stands at a place. -/
def closesCommentAt (text : List Char) (i : Nat) : Bool :=
  ['*', '/'].isPrefixOf (text.drop i)

/-- The block comment from a given place on ends behind the first closing mark that comes after its
two opening characters. -/
def blockCommentFrom (text : List Char) (start : Nat) : Extent :=
  match firstFrom text (start + 2) (closesCommentAt text) with
  | some i => { stop := i + 2, message := none }
  | none => { stop := text.length, message := some "Unterminated block comment" }

/-- The line comment from a given place on ends at the first newline after its two opening
characters, which is left in place, or at the end of the text. -/
def lineCommentFrom (text : List Char) (start : Nat) : Extent :=
  match firstFrom text (start + 2) fun i => text[i]? == some '\n' with
  | some i => { stop := i, message := none }
  | none => { stop := text.length, message := none }

/-- No closing mark starts inside a comment, nor at its last character with the mark behind it. -/
theorem CommentBody.not_isPrefix {body tail : List Char} (h : CommentBody body) (hne : body ≠ [])
    (htail : tail = [] ∨ ∃ rest, tail = '*' :: '/' :: rest) : ¬ ['*', '/'] <+: body ++ tail := by
  obtain ⟨c, rest, rfl⟩ := List.exists_cons_of_ne_nil hne
  obtain ⟨hfirst, -⟩ := CommentBody.cons_iff.mp h
  rintro ⟨behind, hbehind⟩
  obtain ⟨rfl, hrest⟩ := List.cons.inj hbehind
  cases rest with
  | nil =>
    rcases htail with rfl | ⟨tail, rfl⟩
    · cases hrest
    · cases hrest
  | cons d rest =>
    obtain ⟨rfl, -⟩ := List.cons.inj hrest
    exact hfirst ⟨rfl, rfl⟩

section Comment

variable {taken rest body tail : List Char}

theorem drop_opening (taken rest : List Char) (k : Nat) :
    (taken ++ rest).drop (taken.length + 2 + k) = (rest.drop 2).drop k := by
  rw [Nat.add_assoc, ← List.drop_drop, List.drop_left, List.drop_drop]

theorem closesCommentAt_inside (hbody : CommentBody body) (hrest : rest.drop 2 = body ++ tail)
    (htail : tail = [] ∨ ∃ rest, tail = '*' :: '/' :: rest) {k : Nat} (hk : k < body.length) :
    closesCommentAt (taken ++ rest) (taken.length + 2 + k) = false := by
  have hpart : CommentBody (body.drop k) := fun h => hbody (h.trans (List.drop_suffix ..).isInfix)
  have hne : body.drop k ≠ [] := by
    rw [Ne, List.drop_eq_nil_iff]
    exact Nat.not_le_of_lt hk
  rw [closesCommentAt, drop_opening, hrest, List.drop_append_of_le_length (Nat.le_of_lt hk),
    Bool.eq_false_iff, Ne, List.isPrefixOf_iff_prefix]
  exact hpart.not_isPrefix hne htail

/-- **Reading from the front gets to where the text says that the comment ends.** -/
theorem Piece.blockCommentAt_eq_blockCommentFrom (taken rest : List Char) :
    taken.length + (blockCommentAt rest).text.length =
        (blockCommentFrom (taken ++ rest) taken.length).stop ∧
      (blockCommentAt rest).fault?.map Fault.message =
        (blockCommentFrom (taken ++ rest) taken.length).message := by
  obtain ⟨body, tail, hrest, hbody, htail⟩ := exists_commentBody (rest.drop 2)
  have hinside : ∀ k < body.length,
      closesCommentAt (taken ++ rest) (taken.length + 2 + k) = false :=
    fun k hk => closesCommentAt_inside hbody hrest htail hk
  have hlength := congrArg List.length hrest
  rw [List.length_drop, List.length_append] at hlength
  unfold blockCommentAt blockCommentFrom
  rw [hrest]
  rcases htail with rfl | ⟨tail, rfl⟩
  · rw [List.length_nil] at hlength
    have hnone : firstFrom (taken ++ rest) (taken.length + 2) (closesCommentAt (taken ++ rest)) =
        none := by
      refine firstFrom_eq_none (k := body.length) ?_ hinside
      rw [List.length_append]
      omega
    rw [hnone, List.append_nil, commentBody_open hbody]
    refine ⟨?_, rfl⟩
    show taken.length + (rest.take 2 ++ body).length = (taken ++ rest).length
    simp only [List.length_append, List.length_take]
    omega
  · rw [List.length_cons, List.length_cons] at hlength
    have hfirst : firstFrom (taken ++ rest) (taken.length + 2) (closesCommentAt (taken ++ rest)) =
        some (taken.length + 2 + body.length) := by
      refine firstFrom_add ?_ ?_ hinside
      · rw [List.length_append]
        omega
      · rw [closesCommentAt, drop_opening, hrest, List.drop_left]
        rfl
    rw [hfirst, commentBody_append hbody]
    refine ⟨?_, rfl⟩
    show taken.length + (rest.take 2 ++ (body ++ ['*', '/'])).length = _
    simp only [List.length_append, List.length_take, List.length_cons, List.length_nil]
    omega

/-- So it does for a line comment, of which nothing is ever said. -/
theorem Piece.lineCommentAt_eq_lineCommentFrom (taken rest : List Char) :
    taken.length + (lineCommentAt rest).text.length =
        (lineCommentFrom (taken ++ rest) taken.length).stop ∧
      (lineCommentFrom (taken ++ rest) taken.length).message = none := by
  obtain ⟨body, hbody⟩ : ∃ body, body = (rest.drop 2).takeWhile (· != '\n') := ⟨_, rfl⟩
  obtain ⟨tail, htail⟩ : ∃ tail, tail = (rest.drop 2).dropWhile (· != '\n') := ⟨_, rfl⟩
  have hrest : rest.drop 2 = body ++ tail := by
    rw [hbody, htail, List.takeWhile_append_dropWhile]
  have hat : ∀ k, (taken ++ rest)[taken.length + 2 + k]? = (body ++ tail)[k]? := by
    intro k
    rw [← List.head?_drop, drop_opening, hrest, List.head?_drop]
  have hinside : ∀ k < body.length,
      ((taken ++ rest)[taken.length + 2 + k]? == some '\n') = false := by
    intro k hk
    have hmem : body[k] ∈ (rest.drop 2).takeWhile (· != '\n') := hbody ▸ List.getElem_mem hk
    rw [hat, List.getElem?_append_left hk, List.getElem?_eq_getElem hk]
    simpa using List.mem_takeWhile_imp hmem
  have hlength := congrArg List.length hrest
  rw [List.length_drop, List.length_append] at hlength
  have htext : (lineCommentAt rest).text = rest.take 2 ++ body := by
    rw [hbody]
    rfl
  rw [htext, List.length_append, List.length_take]
  unfold lineCommentFrom
  cases tail with
  | nil =>
    rw [List.length_nil] at hlength
    rw [firstFrom_eq_none (k := body.length) _ hinside]
    · refine ⟨?_, rfl⟩
      dsimp only
      rw [List.length_append]
      omega
    · rw [List.length_append]
      omega
  | cons c tail =>
    rw [List.length_cons] at hlength
    have hline : (c != '\n') = false := Piece.head?_dropWhile_not c (by rw [← htail]; rfl)
    rw [firstFrom_add (k := body.length) _ _ hinside]
    · refine ⟨?_, rfl⟩
      dsimp only
      omega
    · rw [List.length_append]
      omega
    · rw [hat, List.getElem?_append_right (Nat.le_refl _), Nat.sub_self]
      simpa using hline

end Comment

/-! ## Scans that take a literal or a comment -/

/-- The newlines of a piece are those of its lexeme. -/
theorem Piece.count_newline_lexeme (piece : Piece) :
    piece.lexeme.toList.count '\n' = piece.text.count '\n' := by
  rw [toList_lexeme, List.count_append]
  split <;> rfl

namespace Scan

/-- A scan takes what reaches to a place of a text and yields a token or none: the cursor moves
there, the token is kept, what is said about it is kept and heard, and all else stays as it is. -/
structure Takes (scan next : Scan) (text : List Char) (position : Position)
    (token? : Option Token) (extent : Extent) : Prop where
  /-- The cursor stands there, and has the line and the column of its place in the text. -/
  cursor : next.cursor = .between (text.take extent.stop) (text.drop extent.stop)
  offset : next.cursor.offset = extent.stop
  tokens : next.tokens.toList = scan.tokens.toList ++ token?.toList
  /-- There is at most one diagnostic, and it has the position that was given. -/
  reported : ∃ found : Option Diagnostic,
    found.map (·.message) = extent.message ∧ (∀ diagnostic ∈ found, diagnostic.position = position) ∧
      next.diagnostics.toList = scan.diagnostics.toList ++ found.toList ∧
      next.heard = scan.heard ++ found.toList
  source : next.source = scan.source
  symbols : next.symbols = scan.symbols
  context : next.context = scan.context

variable {scan : Scan} {text : List Char}

/-- Constants and gaps change neither the symbols nor the context. -/
theorem symbols_context_accept {piece : Piece} (hkind : ∀ kind ∈ piece.kind?, kind = .constant)
    (position : Position) :
    (scan.accept piece position).symbols = scan.symbols ∧
      (scan.accept piece position).context = scan.context := by
  cases htoken : piece.token? position with
  | none =>
    rw [accept_of_gap htoken, symbols_judge, context_judge]
    exact ⟨rfl, rfl⟩
  | some token =>
    obtain ⟨kind, hyields, rfl⟩ := Option.map_eq_some_iff.mp htoken
    rw [accept_of_token htoken, symbols_emit, context_emit, hkind kind hyields, symbols_judge,
      context_judge]
    exact ⟨rfl, rfl⟩

/-- What a piece does that reaches to where the extent says. -/
theorem takes_accept (h : scan.cursor.In text) {piece : Piece} (position : Position)
    (hbegins : piece.text <+: scan.cursor.rest) (hkind : ∀ kind ∈ piece.kind?, kind = .constant)
    {extent : Extent} (hstop : scan.cursor.offset + piece.text.length = extent.stop)
    (hmessage : piece.fault?.map Fault.message = extent.message) :
    scan.Takes (scan.accept piece position) text position (piece.token? position) extent := by
  obtain ⟨taken, rest, rfl, hcursor⟩ := h
  rw [hcursor, Cursor.rest_between] at hbegins
  obtain ⟨after, rfl⟩ := hbegins
  have hmoved : (scan.accept piece position).cursor = .between (taken ++ piece.text) after := by
    rw [cursor_accept, hcursor, Cursor.skip_between]
  have hlength : (taken ++ piece.text).length = extent.stop := by
    rw [← hstop, hcursor, List.length_append]
    rfl
  constructor
  case cursor =>
    rw [hmoved, ← hlength, ← List.append_assoc, List.take_left, List.drop_left]
  case offset =>
    rw [hmoved]
    exact hlength
  case tokens => exact tokens_accept scan piece position
  case reported =>
    refine ⟨piece.fault?.map (⟨·, position⟩), ?_, ?_, diagnostics_accept scan piece position,
      heard_accept scan piece position⟩
    · rw [← hmessage, Option.map_map]
      rfl
    · intro diagnostic hdiagnostic
      obtain ⟨fault, -, rfl⟩ := Option.mem_map.mp hdiagnostic
      rfl
  case source => exact source_accept scan piece position
  case symbols => exact (symbols_context_accept hkind position).1
  case context => exact (symbols_context_accept hkind position).2

theorem line_accept (h : scan.cursor.In text) {piece : Piece} (position : Position)
    (hbegins : piece.text <+: scan.cursor.rest) :
    (scan.accept piece position).cursor.line = scan.cursor.line + piece.text.count '\n' := by
  obtain ⟨taken, rest, -, hcursor⟩ := h
  rw [hcursor, Cursor.rest_between] at hbegins
  obtain ⟨after, rfl⟩ := hbegins
  rw [cursor_accept, hcursor, Cursor.skip_between]
  show (taken ++ piece.text).count '\n' + 1 = taken.count '\n' + 1 + piece.text.count '\n'
  rw [List.count_append]
  omega

/-- **A scan that takes a string literal gets to where the text says that it ends**, whatever
character the literal starts with. The lines go on by the newlines of the lexeme, and a newline is
one of them exactly if an odd number of backslashes stands before it. -/
theorem takeLiteral_literalFrom (h : scan.cursor.In text) (position : Position) :
    let start := scan.cursor.offset
    let literal := literalFrom text start
    ∃ next, scan.perform (.takeLiteral position) = .ok next ∧
      scan.Takes next text position
        (some { kind := .constant, lexeme := String.ofList literal.lexeme, position
                valueType := some "string" })
        literal.toExtent ∧
      next.cursor.line = scan.cursor.line + literal.lexeme.count '\n' ∧
      ∀ i, start < i → i ≤ literal.stop → text[i]? = some '\n' →
        (i < literal.stop ↔
          ¬ Even (trailingBackslashes ((text.take i).drop (start + 1)))) := by
  intro start literal
  obtain ⟨hlexeme, hstop, hmessage⟩ : (Piece.literalAt scan.cursor.rest).lexeme =
        String.ofList literal.lexeme ∧
      scan.cursor.offset + (Piece.literalAt scan.cursor.rest).text.length = literal.stop ∧
      (Piece.literalAt scan.cursor.rest).fault?.map Fault.message = literal.message := by
    obtain ⟨taken, rest, rfl, hcursor⟩ := h
    simp only [literal, start, hcursor]
    exact Piece.literalAt_eq_literalFrom taken rest
  have hbegins := Piece.isPrefix_text_literalAt scan.cursor.rest
  refine ⟨_, rfl, ?_, ?_, fun i hstart hle hline => lt_stop_literalFrom_iff hstart hle hline⟩
  · rw [← hlexeme]
    refine takes_accept h position hbegins ?_ hstop hmessage
    rintro kind ⟨⟩
    rfl
  · rw [line_accept h position hbegins, ← Piece.count_newline_lexeme, hlexeme, String.toList_ofList]

theorem takeLiteral_literalFrom_escapes :
    let text := "s=\"a\\\"\\\nb\\\\\";".toList
    let scan : Scan := { ofSource text with cursor := (Cursor.start text).skip 2 }
    let literal := "\"a\\\"\\\nb\\\\\""
    scan.cursor.In text ∧
      literalFrom text 2 = { lexeme := literal.toList, stop := 12, message := none } ∧
      (2 < 7 ∧ text[7]? = some '\n') ∧
      ∃ next, scan.perform (.takeLiteral ⟨1, 3⟩) = .ok next ∧
        next.cursor.rest = [';'] ∧ next.cursor.line = 2 ∧
        next.tokens.toList =
          [{ kind := .constant, lexeme := literal, position := ⟨1, 3⟩
             valueType := some "string" }] ∧
        next.diagnostics.toList = [] ∧
        (7 < 12 ↔ ¬ Even (trailingBackslashes ((text.take 7).drop 3))) := by
  intro text scan literal
  have hin : scan.cursor.In text := (Cursor.in_start text).skip 2
  have hends : literalFrom text scan.cursor.offset =
      { lexeme := literal.toList, stop := 12, message := none } := by decide +kernel
  have hline : text[7]? = some '\n' := by decide +kernel
  obtain ⟨next, hnext, htakes, hlines, hinside⟩ := takeLiteral_literalFrom hin ⟨1, 3⟩
  rw [hends] at htakes hlines hinside
  obtain ⟨found, hmessage, -, hreported, -⟩ := htakes.reported
  obtain rfl : found = none := Option.map_eq_none_iff.mp hmessage
  refine ⟨hin, hends, ⟨by decide, hline⟩, next, hnext, ?_, hlines.trans (by decide +kernel), ?_,
    hreported, hinside 7 (by decide) (by decide) hline⟩
  · rw [htakes.cursor]
    decide +kernel
  · rw [htakes.tokens, String.ofList_toList]
    rfl

/-- **A scan that takes a comment gets to where the text says that it ends**, whatever two
characters the comment starts with. -/
theorem takeComment_commentFrom (h : scan.cursor.In text) (position : Position) :
    (∃ next, scan.perform (.takeBlockComment position) = .ok next ∧
        scan.Takes next text position none (blockCommentFrom text scan.cursor.offset)) ∧
      ∃ next, scan.perform .takeLineComment = .ok next ∧
        scan.Takes next text scan.cursor.position none
          (lineCommentFrom text scan.cursor.offset) := by
  obtain ⟨hblock, hline⟩ :
      (scan.cursor.offset + (Piece.blockCommentAt scan.cursor.rest).text.length =
          (blockCommentFrom text scan.cursor.offset).stop ∧
        (Piece.blockCommentAt scan.cursor.rest).fault?.map Fault.message =
          (blockCommentFrom text scan.cursor.offset).message) ∧
      scan.cursor.offset + (Piece.lineCommentAt scan.cursor.rest).text.length =
          (lineCommentFrom text scan.cursor.offset).stop ∧
        (lineCommentFrom text scan.cursor.offset).message = none := by
    obtain ⟨taken, rest, rfl, hcursor⟩ := h
    rw [hcursor]
    exact ⟨Piece.blockCommentAt_eq_blockCommentFrom taken rest,
      Piece.lineCommentAt_eq_lineCommentFrom taken rest⟩
  have hgap : ∀ kind ∈ (none : Option TokenKind), kind = .constant := by
    rintro kind ⟨⟩
  refine ⟨⟨_, rfl, ?_⟩, ⟨_, rfl, ?_⟩⟩
  · exact takes_accept h position (Piece.isPrefix_text_blockCommentAt _) hgap hblock.1 hblock.2
  · exact takes_accept h _ (Piece.isPrefix_text_lineCommentAt _) hgap hline.1 hline.2.symm

theorem takeComment_commentFrom_stars :
    let text := "/*/**\n/".toList
    let scan := ofSource text
    scan.cursor.In text ∧ blockCommentFrom text 0 =
        { stop := 7, message := some "Unterminated block comment" } ∧
      lineCommentFrom text 0 = { stop := 5, message := none } ∧
      (∃ next, scan.perform (.takeBlockComment ⟨3, 4⟩) = .ok next ∧
        next.cursor = .between text [] ∧ next.tokens.toList = [] ∧
        next.diagnostics.toList.map (fun diagnostic => (diagnostic.message, diagnostic.position)) =
          [("Unterminated block comment", ⟨3, 4⟩)]) ∧
      ∃ next, scan.perform .takeLineComment = .ok next ∧
        next.cursor = .between (text.take 5) ['\n', '/'] ∧ next.tokens.toList = [] ∧
        next.diagnostics.toList = [] := by
  intro text scan
  have hin : scan.cursor.In text := Cursor.in_start text
  have hblock : blockCommentFrom text scan.cursor.offset =
      { stop := 7, message := some "Unterminated block comment" } := by decide +kernel
  have hline : lineCommentFrom text scan.cursor.offset = { stop := 5, message := none } := by
    decide +kernel
  obtain ⟨⟨next, hnext, htakes⟩, ⟨other, hother, htakes'⟩⟩ := takeComment_commentFrom hin ⟨3, 4⟩
  rw [hblock] at htakes
  rw [hline] at htakes'
  obtain ⟨found, hmessage, hplaced, hreported, -⟩ := htakes.reported
  obtain ⟨found', hmessage', -, hreported', -⟩ := htakes'.reported
  refine ⟨hin, hblock, hline, ⟨next, hnext, htakes.cursor, htakes.tokens, ?_⟩,
    ⟨other, hother, htakes'.cursor, htakes'.tokens, ?_⟩⟩
  · obtain ⟨diagnostic, rfl, hsays⟩ := Option.map_eq_some_iff.mp hmessage
    rw [hreported, hsays.symm, ← hplaced diagnostic rfl]
    rfl
  · obtain rfl : found' = none := Option.map_eq_none_iff.mp hmessage'
    exact hreported'

end Scan

end SymbolCensus
