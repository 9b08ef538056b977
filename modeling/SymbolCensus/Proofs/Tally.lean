import SymbolCensus.Proofs.Invariant
import SymbolCensus.Proofs.Verdict

/-!
# The table tallies with the tokens

A scan keeps tokens and symbols side by side and writes to them in separate places. However it is
driven (whole readings, restarts, pieces taken by hand under any label and in any context,
operations that fail), the table stays a summary of the identifiers among the tokens: which there
are, how many of each, and where the first one stands. Roles and declared types are another matter;
they depend on the context, which may be replaced at any time.

- `SymbolTable.Tallies`: the invariant.
- `Tallies.map`: changes that keep names, places and counts keep it. Those of a guess, of a late
  type and of a refinement are of that sort.
- `Tallies.record`: an identifier comes into the table as it comes into the list.
- `Scan.invariant_tallies`, `Scan.tallies_performAll`: each move of a scan, and any sequence of
  operations.
-/

namespace SymbolCensus

namespace SymbolTable

open Pattern

/-- A table sums up the identifiers of a token list: one entry for each name, in the order of their
first occurrences, with the number of its occurrences and the position of the first. -/
structure Tallies (table : SymbolTable) (tokens : List Token) : Prop where
  names : table.names = (identifiers tokens).eraseDups
  sightings : ∀ symbol ∈ table.entries,
    symbol.sightings = (identifiers tokens).count symbol.name
  first : ∀ symbol ∈ table.entries,
    (tokens.find? (Token.isNamed symbol.name)).map (·.position) = some symbol.first

/-- A change of an entry that keeps its name, its first position and its count. -/
def KeepsCount (change : Symbol → Symbol) : Prop :=
  ∀ symbol, (change symbol).name = symbol.name ∧ (change symbol).first = symbol.first ∧
    (change symbol).sightings = symbol.sightings

theorem tallies_empty : Tallies {} [] :=
  ⟨rfl, List.forall_mem_nil _, List.forall_mem_nil _⟩

variable {table : SymbolTable} {tokens : List Token}

/-- Entries may change in all that is not counted. -/
theorem Tallies.map {change : Symbol → Symbol} (h : table.Tallies tokens)
    (hkeeps : KeepsCount change) : Tallies ⟨table.entries.map change⟩ tokens := by
  refine ⟨?_, ?_, ?_⟩
  · have hnames : SymbolTable.names ⟨table.entries.map change⟩ = table.names := by
      unfold SymbolTable.names
      rw [List.map_map]
      exact List.map_congr_left fun symbol _ => (hkeeps symbol).1
    rw [hnames, h.names]
  · intro symbol hmem
    obtain ⟨old, hold, rfl⟩ := List.mem_map.mp hmem
    obtain ⟨hname, -, hsightings⟩ := hkeeps old
    rw [hname, hsightings, h.sightings old hold]
  · intro symbol hmem
    obtain ⟨old, hold, rfl⟩ := List.mem_map.mp hmem
    obtain ⟨hname, hfirst, -⟩ := hkeeps old
    rw [hname, hfirst, h.first old hold]

/-- In particular the entry of one name may. -/
theorem Tallies.modify {change : Symbol → Symbol} (h : table.Tallies tokens)
    (hkeeps : KeepsCount change) (name : String) : (table.modify name change).Tallies tokens := by
  refine h.map fun symbol => ?_
  split
  · exact hkeeps symbol
  · exact ⟨rfl, rfl, rfl⟩

theorem keepsCount_classified (role : Role) (type : Option String) :
    KeepsCount (·.classified role type) :=
  fun _ => ⟨rfl, rfl, rfl⟩

theorem keepsCount_adopting (type : Option String) : KeepsCount (·.adopting type) := by
  intro symbol
  dsimp only
  unfold Symbol.adopting
  split
  · exact ⟨rfl, rfl, rfl⟩
  · exact ⟨rfl, rfl, rfl⟩

/-- The entries are about the names that occur. -/
theorem Tallies.mem_names_iff (h : table.Tallies tokens) {name : String} :
    name ∈ table.names ↔ name ∈ identifiers tokens := by
  rw [h.names, List.mem_eraseDups]

/-- What comes behind a first occurrence does not move it. -/
theorem Tallies.first_concat {symbol : Symbol} (h : table.Tallies tokens)
    (hmem : symbol ∈ table.entries) (token : Token) :
    ((tokens ++ [token]).find? (Token.isNamed symbol.name)).map (·.position) =
      some symbol.first := by
  obtain ⟨found, hfound, hposition⟩ := Option.map_eq_some_iff.mp (h.first symbol hmem)
  rw [List.find?_append, hfound, Option.some_or, Option.map_some, hposition]

/-- Where a name does not occur, no token has it. -/
theorem find?_isNamed_eq_none {name : String} (h : name ∉ identifiers tokens) :
    tokens.find? (Token.isNamed name) = none := by
  refine List.find?_eq_none.mpr fun token hmem hnamed => h ?_
  exact mem_identifiers_iff.mpr ⟨token, hmem, Token.isNamed_iff.mp hnamed⟩

/-- A token that is no identifier does not count. -/
theorem Tallies.skip (h : table.Tallies tokens) {token : Token} (hkind : token.kind ≠ .identifier) :
    table.Tallies (tokens ++ [token]) := by
  have hidentifiers : identifiers (tokens ++ [token]) = identifiers tokens := by
    rw [identifiers_concat, if_neg hkind]
  refine ⟨?_, ?_, fun symbol hmem => h.first_concat hmem token⟩
  · rw [hidentifiers, h.names]
  · rw [hidentifiers]
    exact h.sightings

section Record

variable {token : Token}

theorem Tallies.names_record (h : table.Tallies tokens) (hkind : token.kind = .identifier) :
    (table.record token).names = (identifiers (tokens ++ [token])).eraseDups := by
  rw [SymbolTable.names_record, identifiers_concat, if_pos hkind, eraseDups_concat, h.names]
  simp only [List.mem_eraseDups]

/-- An identifier that is known: one entry counts one more, and all positions stay. -/
theorem Tallies.record_known (h : table.Tallies tokens) (hkind : token.kind = .identifier)
    (hknown : token.lexeme ∈ identifiers tokens) :
    (table.record token).Tallies (tokens ++ [token]) := by
  have hbumped : ∀ symbol ∈ (table.record token).entries, ∃ old ∈ table.entries,
      symbol = if old.name = token.lexeme then old.bump else old := by
    unfold SymbolTable.record
    rw [if_pos (contains_iff.mpr (h.mem_names_iff.mpr hknown))]
    intro symbol hmem
    obtain ⟨old, hold, rfl⟩ := List.mem_map.mp hmem
    exact ⟨old, hold, rfl⟩
  refine ⟨h.names_record hkind, ?_, ?_⟩
  · intro symbol hmem
    obtain ⟨old, hold, rfl⟩ := hbumped symbol hmem
    have hcount := h.sightings old hold
    rw [identifiers_concat, if_pos hkind, List.count_append]
    by_cases hsame : old.name = token.lexeme
    · simp [hsame, Symbol.bump, hcount]
    · simp [hsame, Ne.symm hsame, hcount]
  · intro symbol hmem
    obtain ⟨old, hold, rfl⟩ := hbumped symbol hmem
    have hfirst := h.first_concat hold token
    split
    · exact hfirst
    · exact hfirst

/-- An identifier that is new: the old entries are about other names, and the entry added is about
this token alone. -/
theorem Tallies.record_new (h : table.Tallies tokens) (hkind : token.kind = .identifier)
    (hnew : token.lexeme ∉ identifiers tokens) :
    (table.record token).Tallies (tokens ++ [token]) := by
  have hentries : (table.record token).entries =
      table.entries ++ [{ name := token.lexeme, first := token.position }] := by
    unfold SymbolTable.record
    rw [if_neg (mt contains_iff.mp (mt h.mem_names_iff.mp hnew))]
  refine ⟨h.names_record hkind, ?_, ?_⟩
  · rw [hentries, identifiers_concat, if_pos hkind]
    intro symbol hmem
    rw [List.count_append]
    rcases List.mem_append.mp hmem with hold | hlast
    · have hne : symbol.name ≠ token.lexeme := by
        intro hname
        refine hnew (h.mem_names_iff.mp ?_)
        exact hname ▸ List.mem_map_of_mem hold
      simp [h.sightings symbol hold, Ne.symm hne]
    · rw [List.mem_singleton.mp hlast]
      simp [List.count_eq_zero.mpr hnew]
  · rw [hentries]
    intro symbol hmem
    rcases List.mem_append.mp hmem with hold | hlast
    · exact h.first_concat hold token
    · have hnamed : Token.isNamed token.lexeme token = true := Token.isNamed_iff.mpr ⟨hkind, rfl⟩
      rw [List.mem_singleton.mp hlast, List.find?_append, find?_isNamed_eq_none hnew,
        Option.none_or, List.find?_singleton, if_pos hnamed, Option.map_some]

/-- **An identifier** comes into the table as it comes into the list. -/
theorem Tallies.record (h : table.Tallies tokens) (hkind : token.kind = .identifier) :
    (table.record token).Tallies (tokens ++ [token]) := by
  by_cases hknown : token.lexeme ∈ identifiers tokens
  · exact h.record_known hkind hknown
  · exact h.record_new hkind hknown

end Record

/-- A sighting counts as recording does; what it guesses is not counted. -/
theorem Tallies.sight (h : table.Tallies tokens) {token : Token}
    (hkind : token.kind = .identifier) (context : Context) (next : Option Char) :
    (table.sight token context next).Tallies (tokens ++ [token]) := by
  unfold SymbolTable.sight
  split
  · exact (h.record hkind).modify (keepsCount_adopting _) _
  · exact (h.record hkind).modify (keepsCount_classified _ _) _

/-- A refinement by whatever tokens changes nothing that is counted. -/
theorem Tallies.refine {start : Refinement} (h : start.symbols.Tallies tokens)
    (others : List Token) : (start.refine others).symbols.Tallies tokens := by
  unfold Refinement.refine
  rw [Refinement.pass_eq]
  exact h.map fun _ => ⟨rfl, rfl, rfl⟩

end SymbolTable

namespace Scan

open SymbolTable

/-- A token comes into the list and, if it is an identifier, into the table. -/
theorem tallies_emit {scan : Scan} (h : scan.symbols.Tallies scan.tokens.toList) (token : Token) :
    (scan.emit token).symbols.Tallies (scan.emit token).tokens.toList := by
  rw [symbols_emit, tokens_emit, Array.toList_push]
  by_cases hkind : token.kind = .identifier
  · rw [if_pos hkind]
    exact h.sight hkind _ _
  · rw [if_neg hkind]
    exact h.skip hkind

/-- A piece of any sort may be taken under any label. -/
theorem tallies_accept {scan : Scan} (h : scan.symbols.Tallies scan.tokens.toList) (piece : Piece)
    (position : Position) :
    (scan.accept piece position).symbols.Tallies (scan.accept piece position).tokens.toList := by
  have hjudged : ((scan.moveOver piece).judge piece position).symbols.Tallies
      ((scan.moveOver piece).judge piece position).tokens.toList := by
    rw [symbols_judge, tokens_judge]
    exact h
  cases htoken : piece.token? position with
  | none =>
    rw [accept_of_gap htoken]
    exact hjudged
  | some token =>
    rw [accept_of_token htoken]
    exact tallies_emit hjudged token

/-- No move of a scan takes the agreement away. A fresh start has nothing on either side. -/
theorem invariant_tallies : Invariant fun scan => scan.symbols.Tallies scan.tokens.toList where
  restart _ := tallies_empty
  skip h _ := h
  setContext h _ := h
  accept := tallies_accept
  remark h _ := h

/-- Any sequence of operations. One that fails leaves the scan as it is. -/
theorem tallies_operations {scan : Scan} (h : scan.symbols.Tallies scan.tokens.toList)
    (operations : List Operation) :
    (scan.performAll operations).symbols.Tallies (scan.performAll operations).tokens.toList :=
  invariant_tallies.performAll h operations

/-- **Table and tokens agree in every reachable state** of a scan, whatever was done to it, and any
number of refinements of the table by these tokens changes nothing about that. -/
theorem tallies_performAll (text : String) (operations : List Operation) :
    let scan := (ofText text).performAll operations
    scan.symbols.Tallies scan.tokens.toList ∧
      ∀ className n, ((fun refinement : Refinement => refinement.refine scan.tokens.toList)^[n]
        { symbols := scan.symbols, className }).symbols.Tallies scan.tokens.toList := by
  have hstart : (ofText text).symbols.Tallies (ofText text).tokens.toList := tallies_empty
  have hscan := tallies_operations hstart operations
  refine ⟨hscan, fun className n => ?_⟩
  induction n with
  | zero => exact hscan
  | succ n ih =>
    rw [Function.iterate_succ_apply']
    exact ih.refine _

end Scan

end SymbolCensus
