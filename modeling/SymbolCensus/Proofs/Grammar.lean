import Mathlib
import SymbolCensus.Piece

/-!
# The grammar of pieces

`Piece.leading` reads the piece at the front of a text by looking ahead and consuming. This file
says the same thing without reading: which character lists can be a piece of which sort
(`Piece.Shape`), and which character, if any, may follow it (`Piece.StopsAt`).

- `Piece.Starts`: a piece has its shape, stands at the front of a text, and what follows ends it.
- `starts_leading`, `Starts.eq_leading`: the piece that is read is the one that starts the text, and
  there is no other. One character of lookahead is all that the rest of the text can contribute.

Everything about a piece that is read again in another place (cut out of a text, moved behind other
text, followed by something else) goes through these two statements.
-/

namespace SymbolCensus

/-- The inside of a string literal up to a point at which it is still open: no newline and no
quotation mark but behind a backslash, and every backslash with the character that it takes along. -/
inductive OpenBody : List Char → Prop
  | nil : OpenBody []
  | plain {c : Char} {rest : List Char} :
      c ≠ '\n' → c ≠ '"' → c ≠ '\\' → OpenBody rest → OpenBody (c :: rest)
  | escape {c : Char} {rest : List Char} : OpenBody rest → OpenBody ('\\' :: c :: rest)

/-- The inside of a block comment: the closing mark does not occur in it. -/
def CommentBody (body : List Char) : Prop :=
  ¬ ['*', '/'] <:+: body

theorem CommentBody.empty : CommentBody [] := by
  simp [CommentBody]

theorem CommentBody.cons_iff {c : Char} {rest : List Char} :
    CommentBody (c :: rest) ↔ ¬ (c = '*' ∧ rest.head? = some '/') ∧ CommentBody rest := by
  have hstart : ['*', '/'] <+: c :: rest ↔ c = '*' ∧ rest.head? = some '/' := by
    rw [List.cons_prefix_cons]
    cases rest with
    | nil => simp
    | cons d tail => simp [eq_comm]
  rw [CommentBody, List.infix_cons_iff, not_or, hstart, CommentBody]

namespace Piece

/-! ## String literals -/

theorem literalBody_plain {c : Char} {rest : List Char} (hline : c ≠ '\n') (hquote : c ≠ '"')
    (hslash : c ≠ '\\') :
    literalBody (c :: rest) = (c :: (literalBody rest).1, (literalBody rest).2) := by
  rw [literalBody] <;> simp_all

/-- An open inside is read through, and what comes behind it decides how the literal ends. -/
theorem literalBody_append {body : List Char} (h : OpenBody body) (tail : List Char) :
    literalBody (body ++ tail) = (body ++ (literalBody tail).1, (literalBody tail).2) := by
  -- the constructors of an open inside are the branches of the reading function
  induction h with
  | nil => rfl
  | plain hline hquote hslash _ ih =>
    rw [List.cons_append, literalBody_plain hline hquote hslash, ih]
    rfl
  | @escape c rest _ ih =>
    show literalBody ('\\' :: c :: (rest ++ tail)) = _
    rw [literalBody, ih]
    rfl

/-- Every text is an open inside up to the first thing that can end a literal. -/
theorem exists_openBody (text : List Char) :
    ∃ body rest, text = body ++ rest ∧ OpenBody body ∧
      (rest = [] ∨ rest = ['\\'] ∨ (∃ tail, rest = '"' :: tail) ∨ ∃ tail, rest = '\n' :: tail) := by
  -- the cases are those of the reading function
  fun_induction literalBody text with
  | case1 => exact ⟨[], [], rfl, .nil, .inl rfl⟩
  | case2 tail => exact ⟨[], _, rfl, .nil, .inr (.inr (.inr ⟨tail, rfl⟩))⟩
  | case3 tail => exact ⟨[], _, rfl, .nil, .inr (.inr (.inl ⟨tail, rfl⟩))⟩
  | case4 => exact ⟨[], _, rfl, .nil, .inr (.inl rfl)⟩
  | case5 c rest _ _ _ ih =>
    obtain ⟨body, tail, rfl, hbody, hend⟩ := ih
    exact ⟨'\\' :: c :: body, tail, rfl, .escape hbody, hend⟩
  | case6 c rest hline hquote hlast hpair _ _ _ ih =>
    obtain ⟨body, tail, rfl, hbody, hend⟩ := ih
    have hslash : c ≠ '\\' := by
      intro hc
      cases hrest : body ++ tail with
      | nil => exact hlast hc hrest
      | cons d more => exact hpair d more hc hrest
    exact ⟨c :: body, tail, rfl, .plain hline hquote hslash hbody, hend⟩

/-! ## Block comments -/

/-- A comment without its closing mark inside is read through to that mark. -/
theorem commentBody_append {body : List Char} (h : CommentBody body) (tail : List Char) :
    commentBody (body ++ '*' :: '/' :: tail) = (body ++ ['*', '/'], true) := by
  induction body with
  | nil => rfl
  | cons c rest ih =>
    obtain ⟨hfirst, hrest⟩ := CommentBody.cons_iff.mp h
    rw [List.cons_append, commentBody, ih hrest]
    · rfl
    · -- a mark that starts at the first character would lie inside, or end at the real one
      intro more hc hmore
      apply hfirst
      refine ⟨hc, ?_⟩
      cases rest with
      | nil => simp at hmore
      | cons d _ =>
        rw [List.cons_append] at hmore
        rw [List.head?_cons, (List.cons.inj hmore).1]

/-- A text without the closing mark is all comment, and the comment is open. -/
theorem commentBody_open {body : List Char} (h : CommentBody body) :
    commentBody body = (body, false) := by
  induction body with
  | nil => rfl
  | cons c rest ih =>
    obtain ⟨hfirst, hrest⟩ := CommentBody.cons_iff.mp h
    rw [commentBody, ih hrest]
    intro more hc hmore
    exact hfirst ⟨hc, by rw [hmore]; rfl⟩

/-- Every text is a comment's inside up to the first closing mark, or to its end. -/
theorem exists_commentBody (text : List Char) :
    ∃ body rest, text = body ++ rest ∧ CommentBody body ∧
      (rest = [] ∨ ∃ tail, rest = '*' :: '/' :: tail) := by
  fun_induction commentBody text with
  | case1 => exact ⟨[], [], rfl, CommentBody.empty, .inl rfl⟩
  | case2 tail => exact ⟨[], _, rfl, CommentBody.empty, .inr ⟨tail, rfl⟩⟩
  | case3 c rest hopen _ _ _ ih =>
    obtain ⟨body, tail, rfl, hbody, hend⟩ := ih
    refine ⟨c :: body, tail, rfl, CommentBody.cons_iff.mpr ⟨?_, hbody⟩, hend⟩
    rintro ⟨hc, hhead⟩
    cases body with
    | nil => cases hhead
    | cons d more =>
      rw [List.head?_cons, Option.some.injEq] at hhead
      exact hopen (more ++ tail) hc (by rw [hhead]; rfl)

/-! ## Shapes and what may follow them -/

/-- The character lists that a piece of each sort can cover. -/
def Shape : Piece → Prop
  | blank c => Lexicon.isBlank c = true
  | lineComment text => ∃ body, text = '/' :: '/' :: body ∧ '\n' ∉ body
  | blockComment text true => ∃ body, text = '/' :: '*' :: (body ++ ['*', '/']) ∧ CommentBody body
  | blockComment text false => ∃ body, text = '/' :: '*' :: body ∧ CommentBody body
  | word text =>
    ∃ c rest, text = c :: rest ∧ Lexicon.isWordStart c = true ∧
      ∀ d ∈ rest, Lexicon.isWordPart d = true
  | literal text .closed => ∃ body, text = '"' :: (body ++ ['"']) ∧ OpenBody body
  | literal text .lineEnd => ∃ body, text = '"' :: body ∧ OpenBody body
  | literal text .textEnd =>
    ∃ body, (text = '"' :: body ∨ text = '"' :: (body ++ ['\\'])) ∧ OpenBody body
  | numeral whole fraction pointFollows =>
    whole ≠ [] ∧ (∀ d ∈ whole, d.isDigit = true) ∧
      (∀ d ∈ fraction.getD [], d.isDigit = true) ∧ (fraction = none → pointFollows = false)
  | compound first second => isCompound first second = true
  | mark c =>
    Lexicon.isBlank c = false ∧ Lexicon.isWordStart c = false ∧ c ≠ '"' ∧ c.isDigit = false

/-- The next character, or the end of the text, is one behind which a piece ends. -/
def StopsAt : Piece → Option Char → Prop
  | blank _, _ => True
  | lineComment _, next => ∀ c ∈ next, c = '\n'
  | blockComment _ closed, next => closed = false → next = none
  | word _, next => ∀ c ∈ next, Lexicon.isWordPart c = false
  | literal _ .closed, _ => True
  | literal _ .lineEnd, next => next = some '\n'
  | literal _ .textEnd, next => next = none
  | numeral _ none _, next => ∀ c ∈ next, c.isDigit = false ∧ c ≠ '.'
  | numeral _ (some _) pointFollows, next =>
    (∀ c ∈ next, c.isDigit = false) ∧ pointFollows = (next == some '.')
  | compound _ _, _ => True
  | mark c, next => ∀ d ∈ next, isCompound c d = false ∧ ¬ (c = '/' ∧ (d = '/' ∨ d = '*'))

/-- The text starts with the piece, and what follows ends it there. -/
def Starts (piece : Piece) (text : List Char) : Prop :=
  ∃ tail, text = piece.text ++ tail ∧ piece.Shape ∧ piece.StopsAt tail.head?

/-! ## The piece that is read starts the text -/

/-- A run of characters of a class, and the first character outside it. -/
theorem head?_dropWhile_not {p : Char → Bool} {text : List Char} :
    ∀ c ∈ (text.dropWhile p).head?, p c = false := by
  intro c hc
  have h := List.head?_dropWhile_not p text
  rw [Option.mem_def] at hc
  rw [hc] at h
  simpa using h

theorem starts_lineCommentAt (rest : List Char) :
    (lineCommentAt ('/' :: '/' :: rest)).Starts ('/' :: '/' :: rest) := by
  refine ⟨rest.dropWhile (· != '\n'), ?_, ⟨rest.takeWhile (· != '\n'), rfl, ?_⟩, ?_⟩
  · show '/' :: '/' :: rest = '/' :: '/' :: (rest.takeWhile (· != '\n') ++ _)
    rw [List.takeWhile_append_dropWhile]
  · intro hmem
    have := List.all_eq_true.mp (List.all_takeWhile (p := (· != '\n')) (l := rest)) _ hmem
    simp at this
  · intro c hc
    have := head?_dropWhile_not c hc
    simpa using this

theorem starts_blockCommentAt (rest : List Char) :
    (blockCommentAt ('/' :: '*' :: rest)).Starts ('/' :: '*' :: rest) := by
  obtain ⟨body, tail, rfl, hbody, rfl | ⟨tail, rfl⟩⟩ := exists_commentBody rest
  · -- the comment is open, so nothing is left behind it
    rw [List.append_nil]
    refine ⟨[], ?_, ?_, ?_⟩
    · simp [blockCommentAt, commentBody_open hbody, text]
    · simp only [blockCommentAt, List.drop_succ_cons, List.drop_zero, commentBody_open hbody]
      exact ⟨body, rfl, hbody⟩
    · simp only [blockCommentAt, List.drop_succ_cons, List.drop_zero, commentBody_open hbody]
      exact fun _ => rfl
  · refine ⟨tail, ?_, ?_, ?_⟩
    · simp [blockCommentAt, commentBody_append hbody, text]
    · simp only [blockCommentAt, List.drop_succ_cons, List.drop_zero, commentBody_append hbody]
      exact ⟨body, rfl, hbody⟩
    · simp only [blockCommentAt, List.drop_succ_cons, List.drop_zero, commentBody_append hbody]
      exact fun h => absurd h (by decide)

theorem starts_wordAt {c : Char} (rest : List Char) (h : Lexicon.isWordStart c = true) :
    (wordAt (c :: rest)).Starts (c :: rest) := by
  refine ⟨rest.dropWhile Lexicon.isWordPart, ?_,
    ⟨c, rest.takeWhile Lexicon.isWordPart, rfl, h, ?_⟩, ?_⟩
  · show c :: rest = c :: (rest.takeWhile Lexicon.isWordPart ++ _)
    rw [List.takeWhile_append_dropWhile]
  · exact List.all_eq_true.mp List.all_takeWhile
  · exact head?_dropWhile_not

theorem starts_literalAt (rest : List Char) : (literalAt ('"' :: rest)).Starts ('"' :: rest) := by
  obtain ⟨body, tail, rfl, hbody, hend⟩ := exists_openBody rest
  have hread : literalAt ('"' :: (body ++ tail)) =
      .literal ('"' :: (body ++ (literalBody tail).1)) (literalBody tail).2 := by
    show Piece.literal ('"' :: (literalBody (body ++ tail)).1) (literalBody (body ++ tail)).2 = _
    rw [literalBody_append hbody]
  rw [hread]
  rcases hend with rfl | rfl | ⟨tail, rfl⟩ | ⟨tail, rfl⟩
  · refine ⟨[], ?_, ⟨body, .inl ?_, hbody⟩, rfl⟩
    · simp [text, literalBody]
    · simp [literalBody]
  · refine ⟨[], ?_, ⟨body, .inr ?_, hbody⟩, rfl⟩
    · simp [text, literalBody]
    · simp [literalBody]
  · refine ⟨tail, ?_, ⟨body, ?_, hbody⟩, trivial⟩
    · simp [text, literalBody]
    · simp [literalBody]
  · refine ⟨'\n' :: tail, ?_, ⟨body, ?_, hbody⟩, rfl⟩
    · simp [text, literalBody]
    · simp [literalBody]

theorem starts_numeralAt {c : Char} (rest : List Char) (h : c.isDigit = true) :
    (numeralAt (c :: rest)).Starts (c :: rest) := by
  have hsplit := List.takeWhile_append_dropWhile (p := Char.isDigit) (l := c :: rest)
  have hdigits : ∀ d ∈ (c :: rest).takeWhile Char.isDigit, d.isDigit = true :=
    List.all_eq_true.mp List.all_takeWhile
  have hne : (c :: rest).takeWhile Char.isDigit ≠ [] := by simp [h]
  have hstop : ∀ d ∈ ((c :: rest).dropWhile Char.isDigit).head?, d.isDigit = false :=
    head?_dropWhile_not
  unfold numeralAt
  generalize (c :: rest).takeWhile Char.isDigit = whole at *
  split
  next behind heq =>
    -- a point follows the digits, and more digits may follow the point
    have hfraction := List.takeWhile_append_dropWhile (p := Char.isDigit) (l := behind)
    refine ⟨behind.dropWhile Char.isDigit, ?_, ⟨hne, hdigits, ?_, ?_⟩, ?_, rfl⟩
    · rw [← hsplit, heq]
      conv => lhs; rw [← hfraction]
      simp [text]
    · exact List.all_eq_true.mp List.all_takeWhile
    · intro hnone
      cases hnone
    · exact head?_dropWhile_not
  next hpoint =>
    refine ⟨(c :: rest).dropWhile Char.isDigit, hsplit.symm, ⟨hne, hdigits, ?_, fun _ => rfl⟩, ?_⟩
    · exact List.forall_mem_nil _
    intro d hd
    refine ⟨hstop d hd, ?_⟩
    rintro rfl
    cases hbehind : (c :: rest).dropWhile Char.isDigit with
    | nil => simp [hbehind] at hd
    | cons e behind =>
      rw [hbehind, List.head?_cons, Option.mem_def, Option.some.injEq] at hd
      exact hpoint behind (by rw [hbehind, hd])

theorem starts_markAt {c : Char} {rest : List Char}
    (hmark : (Piece.mark c).Shape) (hcomment : ∀ d ∈ rest.head?, ¬ (c = '/' ∧ (d = '/' ∨ d = '*'))) :
    (markAt c rest).Starts (c :: rest) := by
  unfold markAt
  split
  next => exact ⟨[], rfl, hmark, fun _ h => absurd h (Option.not_mem_none _)⟩
  next second rest =>
    by_cases hpair : isCompound c second = true
    · rw [if_pos hpair]
      exact ⟨rest, rfl, hpair, trivial⟩
    · rw [if_neg hpair]
      refine ⟨second :: rest, rfl, hmark, ?_⟩
      intro d hd
      have hsecond : d = second := by simpa [eq_comm] using hd
      exact ⟨by rw [hsecond]; exact Bool.eq_false_iff.mpr hpair, hcomment d hd⟩

/-- **The piece that is read is one that starts the text.** -/
theorem starts_leading (c : Char) (rest : List Char) : (leading c rest).Starts (c :: rest) := by
  unfold leading
  by_cases hblank : Lexicon.isBlank c = true
  · rw [if_pos hblank]
    exact ⟨rest, rfl, hblank, trivial⟩
  rw [if_neg hblank]
  by_cases hline : c = '/' ∧ rest.head? = some '/'
  · rw [if_pos hline]
    obtain ⟨rfl, hhead⟩ := hline
    obtain ⟨more, rfl⟩ := List.head?_eq_some_iff.mp hhead
    exact starts_lineCommentAt more
  rw [if_neg hline]
  by_cases hblock : c = '/' ∧ rest.head? = some '*'
  · rw [if_pos hblock]
    obtain ⟨rfl, hhead⟩ := hblock
    obtain ⟨more, rfl⟩ := List.head?_eq_some_iff.mp hhead
    exact starts_blockCommentAt more
  rw [if_neg hblock]
  by_cases hword : Lexicon.isWordStart c = true
  · rw [if_pos hword]
    exact starts_wordAt rest hword
  rw [if_neg hword]
  by_cases hquote : c = '"'
  · rw [if_pos hquote, hquote]
    exact starts_literalAt rest
  rw [if_neg hquote]
  by_cases hdigit : c.isDigit = true
  · rw [if_pos hdigit]
    exact starts_numeralAt rest hdigit
  rw [if_neg hdigit]
  refine starts_markAt ⟨?_, ?_, hquote, ?_⟩ ?_
  · exact Bool.eq_false_iff.mpr hblank
  · exact Bool.eq_false_iff.mpr hword
  · exact Bool.eq_false_iff.mpr hdigit
  · rintro d hd ⟨hc, rfl | rfl⟩
    · exact hline ⟨hc, hd⟩
    · exact hblock ⟨hc, hd⟩

/-! ## No other piece starts the text

The sort of a piece is chosen by its first characters, so these lemmas are about classes of
characters that exclude each other. -/

theorem isBlank_iff {c : Char} :
    Lexicon.isBlank c = true ↔ c = '\t' ∨ c = '\n' ∨ c = '\r' ∨ c = ' ' := by
  simp [Lexicon.isBlank, Lexicon.blanks]

theorem not_isWordStart_of_isBlank {c : Char} (h : Lexicon.isBlank c = true) :
    Lexicon.isWordStart c = false := by
  rcases isBlank_iff.mp h with rfl | rfl | rfl | rfl <;> decide

theorem not_isWordPart_of_isBlank {c : Char} (h : Lexicon.isBlank c = true) :
    Lexicon.isWordPart c = false := by
  rcases isBlank_iff.mp h with rfl | rfl | rfl | rfl <;> decide

theorem not_isWordStart_of_isDigit {c : Char} (h : c.isDigit = true) :
    Lexicon.isWordStart c = false := by
  -- digits lie below all letters, the underscore and above the dollar sign
  have hbounds : 48 ≤ c.toNat ∧ c.toNat ≤ 57 := by
    simpa [Char.isDigit, UInt32.le_iff_toNat_le] using h
  have hascii : c.toNat < 0x80 := by omega
  have halpha : c.isAlpha = false := by
    rw [Bool.eq_false_iff]
    intro ha
    simp only [Char.isAlpha, Char.isUpper, Char.isLower, Bool.or_eq_true, Bool.and_eq_true,
      decide_eq_true_eq, UInt32.le_iff_toNat_le, ge_iff_le] at ha
    have hval : c.toNat = c.val.toNat := rfl
    rcases ha with ha | ha
    · have : 65 ≤ c.val.toNat := ha.1
      omega
    · have : 97 ≤ c.val.toNat := ha.1
      omega
  have hne : ∀ d : Char, 57 < d.toNat ∨ d.toNat < 48 → c ≠ d := by
    rintro d hd rfl
    omega
  have h1 : c ≠ '_' := hne '_' (by decide)
  have h2 : c ≠ '$' := hne '$' (by decide)
  simp [Lexicon.isWordStart, Unicode.isLetter, hascii, halpha, h1, h2]

theorem not_isBlank_of_isDigit {c : Char} (h : c.isDigit = true) : Lexicon.isBlank c = false := by
  rw [Bool.eq_false_iff]
  intro hblank
  rcases isBlank_iff.mp hblank with rfl | rfl | rfl | rfl <;> cases h

theorem mem_of_isCompound {first second : Char} (h : isCompound first second = true) :
    [first, second] ∈ Lexicon.compoundOperators.map String.toList := by
  refine List.mem_map.mpr ⟨String.ofList [first, second], ?_, String.toList_ofList⟩
  simpa [isCompound] using h

/-- No operator or comment mark has a blank in it. -/
theorem not_isCompound_of_isBlank {c d : Char} (h : Lexicon.isBlank d = true) :
    isCompound c d = false ∧ ¬ (c = '/' ∧ (d = '/' ∨ d = '*')) := by
  constructor
  · rw [Bool.eq_false_iff]
    intro hpair
    have hmem := mem_of_isCompound hpair
    rcases isBlank_iff.mp h with rfl | rfl | rfl | rfl <;>
      simp [Lexicon.compoundOperators] at hmem
  · rintro ⟨-, rfl | rfl⟩
    · revert h
      decide
    · revert h
      decide

/-- The first characters of the operators of two characters. -/
theorem first_of_isCompound {first second : Char} (h : isCompound first second = true) :
    (Piece.mark first).Shape ∧ ¬ (first = '/' ∧ (second = '/' ∨ second = '*')) := by
  have hmem := mem_of_isCompound h
  -- the operators are few enough to look at each
  simp only [Lexicon.compoundOperators, List.map_cons, List.map_nil, List.mem_cons,
    List.not_mem_nil, or_false] at hmem
  rcases hmem with hp | hp | hp | hp | hp | hp | hp | hp | hp | hp | hp | hp <;>
    obtain ⟨rfl, rfl⟩ : _ ∧ _ := by simpa using hp
  all_goals exact ⟨⟨by decide, by decide, by decide, by decide⟩, by decide⟩

theorem takeWhile_append_stop {p : Char → Bool} {body tail : List Char}
    (hbody : ∀ d ∈ body, p d = true) (hstop : ∀ c ∈ tail.head?, p c = false) :
    (body ++ tail).takeWhile p = body := by
  rw [List.takeWhile_append_of_pos hbody]
  cases tail with
  | nil => simp
  | cons c rest => simp [hstop c rfl]

theorem dropWhile_append_stop {p : Char → Bool} {body tail : List Char}
    (hbody : ∀ d ∈ body, p d = true) (hstop : ∀ c ∈ tail.head?, p c = false) :
    (body ++ tail).dropWhile p = tail := by
  rw [List.dropWhile_append_of_pos hbody]
  cases tail with
  | nil => rfl
  | cons c rest => simp [hstop c rfl]

/-- A mark is read where no comment starts. -/
theorem leading_mark_sort {c : Char} {rest : List Char} (h : (Piece.mark c).Shape)
    (hcomment : ∀ d ∈ rest.head?, ¬ (c = '/' ∧ (d = '/' ∨ d = '*'))) :
    leading c rest = markAt c rest := by
  obtain ⟨hblank, hword, hquote, hdigit⟩ := h
  unfold leading
  rw [if_neg (by simp [hblank]), if_neg, if_neg, if_neg (by simp [hword]), if_neg hquote,
    if_neg (by simp [hdigit])]
  · exact fun hc => hcomment _ hc.2 ⟨hc.1, .inr rfl⟩
  · exact fun hc => hcomment _ hc.2 ⟨hc.1, .inl rfl⟩

theorem leading_word_sort {c : Char} (rest : List Char) (h : Lexicon.isWordStart c = true) :
    leading c rest = wordAt (c :: rest) := by
  have hblank : Lexicon.isBlank c = false := by
    rw [Bool.eq_false_iff]
    intro hblank
    rw [not_isWordStart_of_isBlank hblank] at h
    cases h
  have hslash : c ≠ '/' := by
    rintro rfl
    revert h
    decide
  unfold leading
  rw [if_neg (by simp [hblank]), if_neg (by simp [hslash]), if_neg (by simp [hslash]), if_pos h]

theorem leading_numeral_sort {c : Char} (rest : List Char) (h : c.isDigit = true) :
    leading c rest = numeralAt (c :: rest) := by
  have hslash : c ≠ '/' := by
    rintro rfl
    cases h
  have hquote : c ≠ '"' := by
    rintro rfl
    cases h
  unfold leading
  rw [if_neg (by simp [not_isBlank_of_isDigit h]), if_neg (by simp [hslash]),
    if_neg (by simp [hslash]), if_neg (by simp [not_isWordStart_of_isDigit h]), if_neg hquote,
    if_pos h]

theorem leading_lineComment {body tail : List Char} (hbody : '\n' ∉ body)
    (hstop : ∀ c ∈ tail.head?, c = '\n') :
    leading '/' ('/' :: (body ++ tail)) = .lineComment ('/' :: '/' :: body) := by
  have hread : (body ++ tail).takeWhile (· != '\n') = body := by
    refine takeWhile_append_stop (fun d hd => ?_) (fun d hd => ?_)
    · simp only [bne_iff_ne]
      rintro rfl
      exact hbody hd
    · simp [hstop d hd]
  show Piece.lineComment ('/' :: '/' :: (body ++ tail).takeWhile (· != '\n')) = _
  rw [hread]

theorem leading_blockComment (rest : List Char) :
    leading '/' ('*' :: rest) =
      .blockComment ('/' :: '*' :: (commentBody rest).1) (commentBody rest).2 := rfl

/-- A literal is open through its inside; what stands behind that decides how it ends. -/
theorem leading_literal {body : List Char} (hbody : OpenBody body) (behind : List Char) :
    leading '"' (body ++ behind) =
      .literal ('"' :: (body ++ (literalBody behind).1)) (literalBody behind).2 := by
  show Piece.literal ('"' :: (literalBody (body ++ behind)).1) (literalBody (body ++ behind)).2 = _
  rw [literalBody_append hbody]

theorem leading_numeral {c : Char} {more tail : List Char}
    (hwhole : ∀ d ∈ c :: more, d.isDigit = true)
    (hstop : ∀ d ∈ tail.head?, d.isDigit = false ∧ d ≠ '.') :
    leading c (more ++ tail) = .numeral (c :: more) none false := by
  rw [leading_numeral_sort _ (hwhole c (List.mem_cons_self ..))]
  show numeralAt ((c :: more) ++ tail) = _
  unfold numeralAt
  rw [takeWhile_append_stop hwhole fun e he => (hstop e he).1,
    dropWhile_append_stop hwhole fun e he => (hstop e he).1]
  split
  next behind => exact absurd rfl (hstop '.' rfl).2
  next => rfl

theorem leading_numeral_point {c : Char} {more digits tail : List Char}
    (hwhole : ∀ d ∈ c :: more, d.isDigit = true) (hdigits : ∀ d ∈ digits, d.isDigit = true)
    (hstop : ∀ d ∈ tail.head?, d.isDigit = false) :
    leading c (more ++ '.' :: (digits ++ tail)) =
      .numeral (c :: more) (some digits) (tail.head? == some '.') := by
  rw [leading_numeral_sort _ (hwhole c (List.mem_cons_self ..))]
  have hpoint : ∀ e ∈ ('.' :: (digits ++ tail)).head?, e.isDigit = false := by
    intro e he
    obtain rfl : '.' = e := by simpa using he
    rfl
  show numeralAt ((c :: more) ++ '.' :: (digits ++ tail)) = _
  unfold numeralAt
  rw [takeWhile_append_stop hwhole hpoint, dropWhile_append_stop hwhole hpoint]
  show Piece.numeral (c :: more) (some ((digits ++ tail).takeWhile Char.isDigit))
    (((digits ++ tail).dropWhile Char.isDigit).head? == some '.') = _
  rw [takeWhile_append_stop hdigits hstop, dropWhile_append_stop hdigits hstop]

/-- **No other piece starts the text.** -/
theorem Starts.eq_leading {piece : Piece} {c : Char} {rest : List Char}
    (h : piece.Starts (c :: rest)) : leading c rest = piece := by
  obtain ⟨tail, htext, hshape, hstops⟩ := h
  -- the shape gives the first characters, which choose the sort that is read
  cases piece with
  | blank d =>
    have hblank : Lexicon.isBlank d = true := hshape
    obtain ⟨rfl, rfl⟩ := List.cons.inj htext
    unfold leading
    rw [if_pos hblank]
  | lineComment written =>
    obtain ⟨body, rfl, hbody⟩ := hshape
    obtain ⟨rfl, rfl⟩ := List.cons.inj htext
    exact leading_lineComment hbody hstops
  | blockComment written closed =>
    cases closed with
    | true =>
      obtain ⟨body, rfl, hbody⟩ := hshape
      obtain ⟨rfl, rfl⟩ := List.cons.inj htext
      have htail : body ++ ['*', '/'] ++ tail = body ++ '*' :: '/' :: tail := by simp
      show leading '/' ('*' :: (body ++ ['*', '/'] ++ tail)) = _
      rw [htail, leading_blockComment, commentBody_append hbody]
    | false =>
      obtain ⟨body, rfl, hbody⟩ := hshape
      obtain rfl : tail = [] := List.head?_eq_none_iff.mp (hstops rfl)
      obtain ⟨rfl, rfl⟩ := List.cons.inj htext
      show leading '/' ('*' :: (body ++ [])) = _
      rw [List.append_nil, leading_blockComment, commentBody_open hbody]
  | word written =>
    obtain ⟨d, more, rfl, hstart, hmore⟩ := hshape
    obtain ⟨rfl, rfl⟩ := List.cons.inj htext
    rw [leading_word_sort _ hstart]
    show Piece.word (c :: (more ++ tail).takeWhile Lexicon.isWordPart) = _
    rw [takeWhile_append_stop hmore hstops]
  | literal written ending =>
    cases ending with
    | closed =>
      obtain ⟨body, rfl, hbody⟩ := hshape
      obtain ⟨rfl, rfl⟩ := List.cons.inj htext
      show leading '"' (body ++ ['"'] ++ tail) = _
      rw [List.append_assoc, leading_literal hbody]
      rfl
    | lineEnd =>
      obtain ⟨body, rfl, hbody⟩ := hshape
      obtain ⟨behind, rfl⟩ := List.head?_eq_some_iff.mp hstops
      obtain ⟨rfl, rfl⟩ := List.cons.inj htext
      show leading '"' (body ++ '\n' :: behind) = _
      rw [leading_literal hbody, literalBody, List.append_nil]
    | textEnd =>
      obtain rfl : tail = [] := List.head?_eq_none_iff.mp hstops
      obtain ⟨body, rfl | rfl, hbody⟩ := hshape
      · obtain ⟨rfl, rfl⟩ := List.cons.inj htext
        show leading '"' (body ++ []) = _
        rw [leading_literal hbody, literalBody, List.append_nil]
      · obtain ⟨rfl, rfl⟩ := List.cons.inj htext
        show leading '"' (body ++ ['\\'] ++ []) = _
        rw [List.append_assoc, leading_literal hbody]
        rfl
  | numeral whole fraction pointFollows =>
    obtain ⟨hne, hwhole, hfraction, hpoint⟩ := hshape
    obtain ⟨d, more, rfl⟩ := List.exists_cons_of_ne_nil hne
    cases fraction with
    | none =>
      obtain rfl := hpoint rfl
      obtain ⟨rfl, rfl⟩ := List.cons.inj htext
      exact leading_numeral hwhole hstops
    | some digits =>
      obtain ⟨hdigits, rfl⟩ := hstops
      obtain ⟨rfl, rfl⟩ := List.cons.inj htext
      have htail : more ++ '.' :: digits ++ tail = more ++ '.' :: (digits ++ tail) := by simp
      show leading c (more ++ '.' :: digits ++ tail) = _
      rw [htail]
      exact leading_numeral_point hwhole hfraction hdigits
  | compound first second =>
    have hpair : isCompound first second = true := hshape
    obtain ⟨rfl, rfl⟩ := List.cons.inj htext
    obtain ⟨hmark, hcomment⟩ := first_of_isCompound hpair
    rw [leading_mark_sort hmark]
    · show markAt c (second :: tail) = _
      rw [markAt, if_pos hpair]
    · intro d hd
      obtain rfl : second = d := by simpa using hd
      exact hcomment
  | mark d =>
    obtain ⟨rfl, rfl⟩ := List.cons.inj htext
    rw [leading_mark_sort hshape fun d hd => (hstops d hd).2]
    show markAt c rest = _
    cases rest with
    | nil => rfl
    | cons second behind =>
      rw [markAt, if_neg]
      simp [(hstops second rfl).1]

end Piece

end SymbolCensus
