import SymbolCensus.Proofs.Sightings

/-!
# Whole runs of observations

An observation puts an identifier into the table and gives the context behind it. Here any number of
them follow one another on one table, each with an identifier, a context and a character behind it
that have nothing to do with the others. What the table says of a name comes down to its own
observations, whatever others stand between them, and a context depends on the others only in
whether its name was among them before.

- `observeAll`: one observation after another, with all contexts that they leave.
- `Symbol.Keeps`, `keeps_observeAll`: on any table, what is known of a symbol stays known. The step
  is `keeps_observe`.
- `Symbol.SumsUp`: an entry tells of the first observation of its name and of those after it.
- `Observed`, `observed_observeAll`: the table and the contexts of a run that starts with nothing.
-/

namespace SymbolCensus

/-! ## What stays known of a symbol -/

namespace Symbol

/-- What is known of a symbol is still known later: the role that was given to it, where it was seen
first and, if it had one, its declared type. -/
structure Keeps (symbol later : Symbol) : Prop where
  name : later.name = symbol.name
  role : later.role = symbol.role
  first : later.first = symbol.first
  declaredType : symbol.declaredType ≠ none → later.declaredType = symbol.declaredType

theorem Keeps.refl (symbol : Symbol) : symbol.Keeps symbol :=
  ⟨rfl, rfl, rfl, fun _ => rfl⟩

theorem Keeps.trans {symbol later last : Symbol} (h : symbol.Keeps later) (h' : later.Keeps last) :
    symbol.Keeps last where
  name := h'.name.trans h.name
  role := h'.role.trans h.role
  first := h'.first.trans h.first
  declaredType := by
    intro hne
    have hlater := h.declaredType hne
    rw [h'.declaredType (hlater ▸ hne), hlater]

theorem keeps_bump (symbol : Symbol) : symbol.Keeps symbol.bump :=
  ⟨rfl, rfl, rfl, fun _ => rfl⟩

theorem keeps_adopting (type : Option String) (symbol : Symbol) :
    symbol.Keeps (symbol.adopting type) := by
  unfold adopting
  split
  next h => exact ⟨rfl, rfl, rfl, fun hne => absurd h.2 hne⟩
  next => exact Keeps.refl symbol

end Symbol

namespace SymbolTable

/-- Each symbol of a table is still in the later one, with what is known of it. -/
def Keeps (table later : SymbolTable) : Prop :=
  ∀ name symbol, table.find? name = some symbol →
    ∃ known, later.find? name = some known ∧ symbol.Keeps known

theorem Keeps.refl (table : SymbolTable) : table.Keeps table :=
  fun _ symbol hfind => ⟨symbol, hfind, Symbol.Keeps.refl symbol⟩

theorem Keeps.trans {table later last : SymbolTable} (h : table.Keeps later)
    (h' : later.Keeps last) : table.Keeps last := by
  intro name symbol hfind
  obtain ⟨known, hknown, hkeeps⟩ := h name symbol hfind
  obtain ⟨found, hfound, hkeeps'⟩ := h' name known hknown
  exact ⟨found, hfound, hkeeps.trans hkeeps'⟩

variable {table : SymbolTable}

theorem name_of_find? {name : String} {symbol : Symbol} (h : table.find? name = some symbol) :
    symbol.name = name := by
  have hsame := List.find?_some h
  exact beq_iff_eq.mp hsame

theorem find?_modify {change : Symbol → Symbol}
    (hname : ∀ symbol, (change symbol).name = symbol.name) (table : SymbolTable)
    (changed name : String) :
    (table.modify changed change).find? name =
      (table.find? name).map fun symbol =>
        if symbol.name = changed then change symbol else symbol := by
  have hsame : (fun symbol : Symbol => symbol.name == name) ∘
      (fun symbol => if symbol.name = changed then change symbol else symbol) =
      fun symbol => symbol.name == name := by
    funext symbol
    show ((if symbol.name = changed then change symbol else symbol).name == name) = _
    split
    · rw [hname]
    · rfl
  unfold modify find?
  rw [List.find?_map, hsame]

theorem keeps_modify {change : Symbol → Symbol} (h : ∀ symbol : Symbol, symbol.Keeps (change symbol))
    (table : SymbolTable) (changed : String) : table.Keeps (table.modify changed change) := by
  intro name symbol hfind
  rw [find?_modify (fun symbol => (h symbol).name), hfind]
  refine ⟨_, rfl, ?_⟩
  dsimp only
  split
  · exact h symbol
  · exact Symbol.Keeps.refl symbol

/-- A new name comes at the end, behind all entries. -/
theorem find?_record_new {token : Token} (hnew : table.contains token.lexeme = false) {name : String}
    {symbol : Symbol} (hfind : table.find? name = some symbol) :
    (table.record token).find? name = some symbol := by
  unfold record
  rw [if_neg (by rw [hnew]; exact Bool.false_ne_true), find?, List.find?_append]
  show (table.find? name).or _ = some symbol
  rw [hfind, Option.some_or]

/-- **One observation, on any table.** -/
theorem keeps_observe (table : SymbolTable) (context : Context) (token : Token)
    (next : Option Char) : table.Keeps (table.observe context token next).1 := by
  show table.Keeps (table.sight token context next)
  unfold sight
  by_cases hknown : table.contains token.lexeme = true
  · rw [if_pos hknown, record, if_pos hknown]
    exact (keeps_modify Symbol.keeps_bump table _).trans
      (keeps_modify (Symbol.keeps_adopting _) _ _)
  · rw [if_neg hknown]
    rw [Bool.not_eq_true] at hknown
    intro name symbol hfind
    refine ⟨symbol, ?_, Symbol.Keeps.refl symbol⟩
    -- the new entry alone is classified, and its name is none of the others
    have hother : symbol.name ≠ token.lexeme := by
      rw [name_of_find? hfind]
      rintro rfl
      rw [contains, hfind] at hknown
      cases hknown
    obtain ⟨role, type⟩ := context.guess next
    dsimp only
    rw [find?_modify fun symbol => symbol.name_classified role type,
      find?_record_new hknown hfind, Option.map_some, if_neg hother]

/-! ## Runs of observations -/

/-- Observations one after another, with the context behind each of them. -/
def observeAll (table : SymbolTable) : List Sighting → SymbolTable × List Context
  | [] => (table, [])
  | sighting :: sightings =>
    let (table, context) := table.observe sighting.context sighting.token sighting.next
    let (table, contexts) := table.observeAll sightings
    (table, context :: contexts)

/-- **Any number of observations, on any table.** -/
theorem keeps_observeAll (table : SymbolTable) (sightings : List Sighting) :
    table.Keeps (table.observeAll sightings).1 := by
  induction sightings generalizing table with
  | nil => exact Keeps.refl table
  | cons sighting sightings ih =>
    exact (keeps_observe table sighting.context sighting.token sighting.next).trans (ih _)

theorem fst_observeAll (table : SymbolTable) (sightings : List Sighting) :
    (table.observeAll sightings).1 = table.sightAll sightings := by
  induction sightings generalizing table with
  | nil => rfl
  | cons sighting sightings ih => exact ih _

theorem getElem?_snd_observeAll (table : SymbolTable) (sightings : List Sighting) (i : Nat) :
    (table.observeAll sightings).2[i]? =
      sightings[i]?.map fun sighting =>
        sighting.context.afterIdentifier sighting.name
          (!(table.sightAll (sightings.take i)).contains sighting.name) := by
  induction sightings generalizing table i with
  | nil => rfl
  | cons sighting sightings ih =>
    cases i with
    | zero => rfl
    | succ i => exact ih _ i

end SymbolTable

/-! ## Runs that start with nothing -/

/-- An entry tells of the first observation of its name and of those after it: the role is decided
by the first alone, the declared type is the first that waited at any of them. -/
structure Symbol.SumsUp (symbol : Symbol) (first : Sighting) (later : List Sighting) : Prop where
  name : symbol.name = first.name
  role : symbol.role =
    if first.context.afterClass = true then .classType
    else if first.context.pendingType = none then .unknown
    else if first.next = some '(' then .method
    else if first.context.inParameters = true then .parameter
    else .field
  declaredType : symbol.declaredType =
    if symbol.role = .classType then none
    else (first :: later).findSome? (·.context.pendingType)
  position : symbol.first = first.token.position
  count : symbol.sightings = (first :: later).length

namespace Sighting

theorem firstRole_ne_localVariable (sightings : List Sighting) :
    firstRole sightings ≠ .localVariable := by
  unfold firstRole
  cases sightings.head? with
  | none => exact Role.noConfusion
  | some first =>
    rw [Option.map_some, Option.getD_some, fst_guess]
    split
    · decide
    split
    · decide
    split
    · decide
    split
    · decide
    · decide

theorem sumsUp_summary (first : Sighting) (later : List Sighting) :
    (summary first.name (first :: later)).SumsUp first later where
  name := rfl
  role := fst_guess first.context first.next
  declaredType := rfl
  position := rfl
  count := rfl

end Sighting

/-- The table and the contexts of a run of observations that starts with nothing. -/
structure Observed (history : List Sighting) (table : SymbolTable) (contexts : List Context) :
    Prop where
  names : table.names = (history.map Sighting.name).eraseDups
  /-- A name that was never observed has no entry. -/
  unseen : ∀ name, Sighting.own name history = [] → table.find? name = none
  seen : ∀ name first later, Sighting.own name history = first :: later →
    ∃ symbol, table.find? name = some symbol ∧ symbol.SumsUp first later
  no_local : ∀ symbol ∈ table.entries, symbol.role ≠ .localVariable
  /-- Further observations, of whatever names, leave what is known. -/
  kept : ∀ more, table.Keeps (table.observeAll more).1
  /-- Nothing waits behind an observation, the parameter list is as open as before, and a class is
  named just where the name is new and stands behind the keyword. -/
  contexts : contexts = history.mapIdx fun i sighting =>
    { sighting.context with
      pendingType := none
      afterClass := false
      className :=
        if sighting.context.afterClass = true ∧
            sighting.name ∉ (history.take i).map Sighting.name then
          some sighting.name
        else sighting.context.className }

/-- **The whole run.** -/
theorem SymbolTable.observed_observeAll (history : List Sighting) :
    Observed history (observeAll {} history).1 (observeAll {} history).2 where
  names := by
    rw [fst_observeAll, names_sightAll]
  unseen := by
    intro name hown
    rw [fst_observeAll, find?_sightAll, if_neg (Sighting.own_eq_nil_iff.mp hown)]
  seen := by
    intro name first later hown
    have hname : first.name = name := by
      have hmem : first ∈ Sighting.own name history := hown ▸ List.mem_cons_self ..
      exact beq_iff_eq.mp (List.mem_filter.mp hmem).2
    have hseen : name ∈ history.map Sighting.name := by
      by_contra hnot
      rw [Sighting.own_eq_nil_iff.mpr hnot] at hown
      cases hown
    rw [fst_observeAll, find?_sightAll, if_pos hseen, hown, ← hname]
    exact ⟨_, rfl, Sighting.sumsUp_summary first later⟩
  no_local := by
    intro symbol hmem
    rw [fst_observeAll, entries_sightAll] at hmem
    obtain ⟨name, -, rfl⟩ := List.mem_map.mp hmem
    exact Sighting.firstRole_ne_localVariable _
  kept := fun more => keeps_observeAll _ more
  contexts := by
    refine List.ext_getElem? fun i => ?_
    rw [getElem?_snd_observeAll, List.getElem?_mapIdx]
    congr 1
    funext sighting
    have hnames : ((!(sightAll {} (history.take i)).contains sighting.name) &&
          sighting.context.afterClass) = true ↔
        sighting.context.afterClass = true ∧
          sighting.name ∉ (history.take i).map Sighting.name := by
      rw [Bool.and_eq_true, Bool.not_eq_true', ← Bool.not_eq_true, contains_sightAll, and_comm]
    simp only [Context.afterIdentifier, hnames]

end SymbolCensus
