import SymbolCensus.Proofs.Grammar
import SymbolCensus.Text.Column

/-!
# Reading columns back

A field keeps all its characters when it is put into its column, so what a row says can be found again
in two ways: character by character from the left, each field up to the first character that cannot be
in it, or all at once, as the words between the spaces.

- `toList_leftAligned`, `toList_rightAligned`: a field and the spaces that fill its column up.
- `eq_of_append_stop`: two rows that are equal have the same field at their front.
- `isNumberPart`: the characters of written integers, of which `toString_int_inj` makes integers again.
- `words`: the parts of a row between white space. `words_append_space` says that a space ends a word,
  and everything about words follows from that.
-/

namespace SymbolCensus.Text

/-! ## Fields and spaces -/

theorem toList_leftAligned (width : Nat) (field : String) :
    (leftAligned width field).toList =
      field.toList ++ List.replicate (width - field.toList.length) ' ' :=
  String.toList_ofList

theorem toList_rightAligned (width : Nat) (field : String) :
    (rightAligned width field).toList =
      List.replicate (width - field.toList.length) ' ' ++ field.toList :=
  String.toList_ofList

/-- The spaces at the end of a row go, and all that comes before them stays. -/
theorem toList_withoutTrailingSpaces {row : String} {front : List Char} {count : Nat}
    (hrow : row.toList = front ++ List.replicate count ' ')
    (hfront : ∀ c ∈ front.getLast?, c ≠ ' ') : (withoutTrailingSpaces row).toList = front := by
  have hspaces : ∀ c ∈ List.replicate count ' ', (c == ' ') = true := by simp
  have hstop : ∀ c ∈ front.reverse.head?, (c == ' ') = false := by
    rw [List.head?_reverse]
    simpa using hfront
  rw [withoutTrailingSpaces, String.toList_ofList, hrow, List.reverse_append,
    List.reverse_replicate, Piece.dropWhile_append_stop hspaces hstop, List.reverse_reverse]

/-- A run of characters of a class, up to the first character outside it, is the same in two texts
that are equal. -/
theorem eq_of_append_stop {p : Char → Bool} {field field' rest rest' : List Char}
    (hfield : ∀ c ∈ field, p c = true) (hrest : ∀ c ∈ rest.head?, p c = false)
    (hfield' : ∀ c ∈ field', p c = true) (hrest' : ∀ c ∈ rest'.head?, p c = false)
    (h : field ++ rest = field' ++ rest') : field = field' ∧ rest = rest' := by
  constructor
  · rw [← Piece.takeWhile_append_stop hfield hrest, h, Piece.takeWhile_append_stop hfield' hrest']
  · rw [← Piece.dropWhile_append_stop hfield hrest, h, Piece.dropWhile_append_stop hfield' hrest']

/-- A character outside the class stops the run before it. -/
theorem stop_cons {p : Char → Bool} {c : Char} (h : p c = false) (rest : List Char) :
    ∀ d ∈ (c :: rest).head?, p d = false := by
  intro d hd
  rw [← Option.some.inj hd]
  exact h

/-- A field without a mark is a run of other characters. -/
theorem bne_mark {mark : Char} {field : List Char} (h : mark ∉ field) :
    ∀ c ∈ field, (c != mark) = true :=
  fun _ hc => bne_iff_ne.mpr (ne_of_mem_of_not_mem hc h)

/-- A mark ends the field before it if the field has none. -/
theorem eq_of_append_mark {mark : Char} {field field' rest rest' : List Char} (hfield : mark ∉ field)
    (hfield' : mark ∉ field') (h : field ++ mark :: rest = field' ++ mark :: rest') :
    field = field' ∧ rest = rest' := by
  have hstop := stop_cons (p := (· != mark)) (bne_self_eq_false mark)
  obtain ⟨heq, hrest⟩ :=
    eq_of_append_stop (bne_mark hfield) (hstop rest) (bne_mark hfield') (hstop rest') h
  exact ⟨heq, (List.cons.inj hrest).2⟩

/-- However many spaces two rows start with, they go on with the same text. -/
theorem eq_behind_spaces {count count' : Nat} {rest rest' : List Char}
    (hrest : ∀ c ∈ rest.head?, c ≠ ' ') (hrest' : ∀ c ∈ rest'.head?, c ≠ ' ')
    (h : List.replicate count ' ' ++ rest = List.replicate count' ' ' ++ rest') : rest = rest' := by
  have hspaces : ∀ count, ∀ c ∈ List.replicate count ' ', (c == ' ') = true := by simp
  exact (eq_of_append_stop (hspaces count) (by simpa using hrest) (hspaces count')
    (by simpa using hrest') h).2

/-! ## Numbers -/

/-- The characters that integers are written with. -/
def isNumberPart (c : Char) : Bool :=
  c.isDigit || c == '-'

theorem isNumberPart_of_mem_toString {n : Int} {c : Char} (h : c ∈ (toString n).toList) :
    isNumberPart c = true := by
  have hdigits : ∀ m : Nat, c ∈ m.repr.toList → isNumberPart c = true := by
    intro m hm
    rw [Nat.repr_eq_ofList_toDigits, String.toList_ofList] at hm
    rw [isNumberPart, Nat.isDigit_of_mem_toDigits (by decide) (by decide) hm, Bool.true_or]
  rw [Int.toString_eq_repr, Int.repr_eq_if] at h
  split at h
  · exact hdigits _ h
  · rw [String.toList_append, List.mem_append] at h
    rcases h with h | h
    · obtain rfl : c = '-' := List.mem_singleton.mp h
      rfl
    · exact hdigits _ h

theorem toList_toString_int_ne_nil (n : Int) : (toString n).toList ≠ [] := by
  rw [Ne, String.toList_eq_nil_iff, Int.toString_eq_repr, Int.repr_eq_if]
  split
  · exact Nat.repr_ne_empty
  · intro hempty
    rw [String.append_eq_empty_iff] at hempty
    exact Nat.repr_ne_empty hempty.2

theorem toString_int_inj {n m : Int} (h : (toString n).toList = (toString m).toList) : n = m := by
  rw [String.toList_inj, Int.toString_eq_repr, Int.toString_eq_repr] at h
  exact Int.repr_inj.mp h

/-- A number at the front of a row does not start with another sort of character. -/
theorem isNumberPart_of_head? {n : Int} {rest : List Char} :
    ∀ c ∈ ((toString n).toList ++ rest).head?, isNumberPart c = true := by
  intro c hc
  rw [List.head?_append_of_ne_nil _ (toList_toString_int_ne_nil n)] at hc
  exact isNumberPart_of_mem_toString (List.mem_of_head? hc)

/-- Two rows that are equal have the same number at their front. -/
theorem eq_of_number {n m : Int} {rest rest' : List Char}
    (hrest : ∀ c ∈ rest.head?, isNumberPart c = false)
    (hrest' : ∀ c ∈ rest'.head?, isNumberPart c = false)
    (h : (toString n).toList ++ rest = (toString m).toList ++ rest') : n = m ∧ rest = rest' := by
  obtain ⟨hnumber, hbehind⟩ := eq_of_append_stop (fun _ => isNumberPart_of_mem_toString) hrest
    (fun _ => isNumberPart_of_mem_toString) hrest' h
  exact ⟨toString_int_inj hnumber, hbehind⟩

/-! ## Words -/

/-- The white space of Unicode, with the four separators of ASCII. -/
def spaces : List Char :=
  ['\t', '\n', '\x0b', '\x0c', '\r', '\x1c', '\x1d', '\x1e', '\x1f', ' ', '\x85', '\xa0', '\u1680',
   '\u2000', '\u2001', '\u2002', '\u2003', '\u2004', '\u2005', '\u2006', '\u2007', '\u2008',
   '\u2009', '\u200a', '\u2028', '\u2029', '\u202f', '\u205f', '\u3000']

/-- The white space that ends a line. -/
def lineBreaks : List Char :=
  ['\n', '\x0b', '\x0c', '\r', '\x1c', '\x1d', '\x1e', '\x85', '\u2028', '\u2029']

/-- A character is white space. -/
def isSpace (c : Char) : Bool :=
  spaces.contains c

/-- The parts of a row between runs of white space. -/
def wordsOf (row : List Char) : List (List Char) :=
  (row.splitOnP isSpace).filter (· ≠ [])

/-- The words of a row. -/
def words (row : String) : List String :=
  (wordsOf row.toList).map String.ofList

/-- Some characters, none of which is white space. -/
def IsUnspaced (field : List Char) : Prop :=
  field ≠ [] ∧ ∀ c ∈ field, isSpace c = false

instance (field : List Char) : Decidable (IsUnspaced field) :=
  decidable_of_iff ((!field.isEmpty && field.all fun c => !isSpace c) = true) (by
    simp [IsUnspaced])

theorem wordsOf_append_space (row more : List Char) :
    wordsOf (row ++ ' ' :: more) = wordsOf row ++ wordsOf more := by
  rw [wordsOf, List.splitOnP_append_cons _ _ (by decide), List.filter_append]
  rfl

theorem wordsOf_spaces (count : Nat) (row : List Char) :
    wordsOf (List.replicate count ' ' ++ row) = wordsOf row := by
  induction count with
  | zero => rfl
  | succ count ih => exact (wordsOf_append_space [] _).trans ih

theorem wordsOf_append_spaces (row : List Char) (count : Nat) :
    wordsOf (row ++ List.replicate count ' ') = wordsOf row := by
  cases count with
  | zero => rw [List.replicate_zero, List.append_nil]
  | succ count =>
    have hnone := wordsOf_spaces count []
    rw [List.append_nil] at hnone
    rw [List.replicate_succ, wordsOf_append_space, hnone]
    exact List.append_nil _

theorem IsUnspaced.wordsOf {field : List Char} (h : IsUnspaced field) : wordsOf field = [field] := by
  rw [Text.wordsOf, List.splitOnP_eq_singleton h.2, List.filter_cons_of_pos (by simpa using h.1)]
  rfl

theorem words_append_space (row more : String) :
    words (row ++ " " ++ more) = words row ++ words more := by
  have hrow : (row ++ " " ++ more).toList = row.toList ++ ' ' :: more.toList := by
    rw [String.toList_append, String.toList_append, List.append_assoc]
    rfl
  rw [words, hrow, wordsOf_append_space, List.map_append]
  rfl

/-- A word between spaces is still one word. -/
theorem words_of_column {row field : String} {before behind : Nat} (h : IsUnspaced field.toList)
    (hrow : row.toList = List.replicate before ' ' ++ (field.toList ++ List.replicate behind ' ')) :
    words row = [field] := by
  rw [words, hrow, wordsOf_spaces, wordsOf_append_spaces, h.wordsOf, List.map_singleton,
    String.ofList_toList]

theorem words_of_unspaced {field : String} (h : IsUnspaced field.toList) : words field = [field] := by
  rw [words, h.wordsOf, List.map_singleton, String.ofList_toList]

theorem words_leftAligned {field : String} (h : IsUnspaced field.toList) (width : Nat) :
    words (leftAligned width field) = [field] := by
  have hrow : (leftAligned width field).toList = List.replicate 0 ' ' ++ (field.toList ++ _) :=
    toList_leftAligned width field
  exact words_of_column h hrow

/-! ## Fields without white space -/

/-- No white space is in a class of characters that does not have it. -/
theorem isSpace_eq_false {p : Char → Bool} (hp : spaces.any p = false) {c : Char}
    (hc : p c = true) : isSpace c = false := by
  rw [Bool.eq_false_iff]
  intro hspace
  exact List.any_eq_false.mp hp c (List.contains_iff_mem.mp hspace) hc

theorem IsUnspaced.append {field more : String} (h : IsUnspaced field.toList)
    (hmore : IsUnspaced more.toList) : IsUnspaced (field ++ more).toList := by
  rw [String.toList_append]
  exact ⟨List.append_ne_nil_of_left_ne_nil h.1 _, List.forall_mem_append.mpr ⟨h.2, hmore.2⟩⟩

theorem isUnspaced_toString (n : Int) : IsUnspaced (toString n).toList :=
  ⟨toList_toString_int_ne_nil n, fun _ hc =>
    isSpace_eq_false rfl (isNumberPart_of_mem_toString hc)⟩

/-- The row is a single line. -/
def IsLine (row : String) : Prop :=
  ∀ c ∈ row.toList, c ∉ lineBreaks

instance (row : String) : Decidable (IsLine row) :=
  decidable_of_iff ((row.toList.all fun c => !lineBreaks.contains c) = true) (by simp [IsLine])

theorem IsLine.append {row more : String} (h : IsLine row) (hmore : IsLine more) :
    IsLine (row ++ more) := by
  unfold IsLine
  rw [String.toList_append, List.forall_mem_append]
  exact ⟨h, hmore⟩

theorem IsUnspaced.isLine {field : String} (h : IsUnspaced field.toList) : IsLine field := by
  have hbreaks : ∀ c ∈ lineBreaks, isSpace c = true := List.all_eq_true.mp rfl
  intro c hc hbreak
  exact Bool.false_ne_true ((h.2 c hc).symm.trans (hbreaks c hbreak))

/-- Spaces do not end a line. -/
theorem not_mem_lineBreaks_of_mem_replicate {count : Nat} {c : Char}
    (h : c ∈ List.replicate count ' ') : c ∉ lineBreaks := by
  rw [List.eq_of_mem_replicate h]
  decide

theorem IsUnspaced.isLine_leftAligned {field : String} (h : IsUnspaced field.toList) (width : Nat) :
    IsLine (leftAligned width field) := by
  unfold IsLine
  rw [toList_leftAligned, List.forall_mem_append]
  exact ⟨h.isLine, fun _ => not_mem_lineBreaks_of_mem_replicate⟩

theorem IsUnspaced.isLine_rightAligned {field : String} (h : IsUnspaced field.toList) (width : Nat) :
    IsLine (rightAligned width field) := by
  unfold IsLine
  rw [toList_rightAligned, List.forall_mem_append]
  exact ⟨fun _ => not_mem_lineBreaks_of_mem_replicate, h.isLine⟩

end SymbolCensus.Text
