import Mathlib
import SymbolCensus.SymbolTable.Sighting

/-!
# What a history of sightings leaves in the table

Each sighting touches one entry, and what it does there depends on what is there already. Over a
whole history this comes to very little: the first sighting of a name decides its role, and the
first type that waited at any of them becomes its declared type unless it is a class
(`Sighting.summary`). Names that are sighted in between do not matter.

- `sightAll`: one sighting after another, each in a context of its own.
- `summary_concat`: one more sighting of a name changes its summary as it changes the entry.
- `entries_sightAll`: by induction on the history, the whole table. `names_sightAll`,
  `contains_sightAll` and `find?_sightAll` are read off it.
-/

namespace SymbolCensus

/-- An identifier with the context in which it is sighted and the character right behind it. -/
structure Sighting where
  token : Token
  context : Context
  next : Option Char

namespace Sighting

/-- The name that is sighted. -/
def name (sighting : Sighting) : String :=
  sighting.token.lexeme

/-- The sightings of one name. -/
def own (name : String) (sightings : List Sighting) : List Sighting :=
  sightings.filter (·.name == name)

/-- The role that the first of some sightings decides. -/
def firstRole (sightings : List Sighting) : Role :=
  (sightings.head?.map fun sighting => (sighting.context.guess sighting.next).1).getD .unknown

/-- What all sightings of a name leave in its entry. -/
def summary (name : String) (sightings : List Sighting) : Symbol :=
  { name
    role := firstRole sightings
    declaredType :=
      if firstRole sightings = .classType then none
      else sightings.findSome? (·.context.pendingType)
    first := (sightings.head?.map (·.token.position)).getD default
    sightings := sightings.length }

theorem fst_guess (context : Context) (next : Option Char) :
    (context.guess next).1 =
      if context.afterClass = true then .classType
      else if context.pendingType = none then .unknown
      else if next = some '(' then .method
      else if context.inParameters = true then .parameter
      else .field := by
  unfold Context.guess
  by_cases hclass : context.afterClass = true
  · rw [if_pos hclass, if_pos hclass]
  · rw [if_neg hclass, if_neg hclass]
    cases context.pendingType with
    | none => rfl
    | some type =>
      rw [if_neg (Option.some_ne_none type)]
      dsimp only
      split
      · rfl
      split
      · rfl
      · rfl

/-- A guess makes a class right behind the keyword and nowhere else. -/
theorem fst_guess_eq_classType_iff (context : Context) (next : Option Char) :
    (context.guess next).1 = .classType ↔ context.afterClass = true := by
  rw [fst_guess]
  by_cases hclass : context.afterClass = true
  · rw [if_pos hclass]
    exact iff_of_true rfl hclass
  · rw [if_neg hclass]
    refine iff_of_false ?_ hclass
    split
    · exact Role.noConfusion
    split
    · exact Role.noConfusion
    split
    · exact Role.noConfusion
    · exact Role.noConfusion

/-- The role guessed is that of a class just where the declared type guessed leaves out the type
that waits. -/
theorem snd_guess (context : Context) (next : Option Char) :
    (context.guess next).2 =
      if (context.guess next).1 = .classType then none else context.pendingType := by
  unfold Context.guess
  by_cases hclass : context.afterClass = true
  · rw [if_pos hclass]
    rfl
  · rw [if_neg hclass]
    cases context.pendingType with
    | none => rfl
    | some type =>
      dsimp only
      split
      · rfl
      split <;> rfl

theorem summary_singleton (sighting : Sighting) :
    summary sighting.name [sighting] =
      Symbol.classified
        { name := sighting.name, first := sighting.token.position }
        (sighting.context.guess sighting.next).1 (sighting.context.guess sighting.next).2 := by
  have htype : [sighting].findSome? (·.context.pendingType) = sighting.context.pendingType := by
    cases h : sighting.context.pendingType <;> simp [h]
  rw [snd_guess, summary, htype]
  rfl

/-- A later sighting counts, and supplies a type that is still missing. -/
theorem summary_concat {name : String} {sightings : List Sighting} (hne : sightings ≠ [])
    (sighting : Sighting) :
    summary name (sightings ++ [sighting]) =
      (summary name sightings).bump.adopting sighting.context.pendingType := by
  obtain ⟨first, rest, rfl⟩ := List.exists_cons_of_ne_nil hne
  have hrole : firstRole (first :: rest ++ [sighting]) = firstRole (first :: rest) := rfl
  have htype : (first :: rest ++ [sighting]).findSome? (·.context.pendingType) =
      ((first :: rest).findSome? (·.context.pendingType)).or sighting.context.pendingType := by
    rw [List.findSome?_append]
    congr 1
    cases h : sighting.context.pendingType <;> simp [h]
  have hlength : ((first :: rest ++ [sighting]).length : Int) = (first :: rest).length + 1 := by
    simp
  unfold summary Symbol.adopting Symbol.bump
  rw [hrole, htype, hlength]
  by_cases hclass : firstRole (first :: rest) = .classType
  · simp [hclass]
  · cases hfound : (first :: rest).findSome? (·.context.pendingType) with
    | none => simp [hclass]
    | some type => simp [hclass]

theorem own_concat_self {name : String} {sighting : Sighting} (h : sighting.name = name)
    (sightings : List Sighting) :
    own name (sightings ++ [sighting]) = own name sightings ++ [sighting] := by
  simp [own, List.filter_append, h]

theorem own_concat_other {name : String} {sighting : Sighting} (h : sighting.name ≠ name)
    (sightings : List Sighting) :
    own name (sightings ++ [sighting]) = own name sightings := by
  simp [own, List.filter_append, h]

theorem own_eq_nil_iff {name : String} {sightings : List Sighting} :
    own name sightings = [] ↔ name ∉ sightings.map Sighting.name := by
  simp only [own, List.filter_eq_nil_iff, List.mem_map, beq_iff_eq, not_exists, not_and]

end Sighting

namespace SymbolTable

open Sighting

/-- The table after one sighting after another. -/
def sightAll (table : SymbolTable) (sightings : List Sighting) : SymbolTable :=
  sightings.foldl (fun table sighting => table.sight sighting.token sighting.context sighting.next)
    table

theorem sightAll_concat (table : SymbolTable) (sightings : List Sighting) (sighting : Sighting) :
    table.sightAll (sightings ++ [sighting]) =
      (table.sightAll sightings).sight sighting.token sighting.context sighting.next := by
  unfold sightAll
  rw [List.foldl_append]
  rfl

section Map

variable {names : List String} {entry : String → Symbol}

/-- A change to the entry of one name, where the entries are given by their names. -/
theorem modify_map (hname : ∀ name, (entry name).name = name) (name : String)
    (change : Symbol → Symbol) :
    modify ⟨names.map entry⟩ name change =
      ⟨names.map fun other => if other = name then change (entry other) else entry other⟩ := by
  unfold modify
  rw [List.map_map]
  congr 1
  refine List.map_congr_left fun other _ => ?_
  show (if (entry other).name = name then _ else _) = _
  rw [hname]

theorem contains_map (hname : ∀ name, (entry name).name = name) (name : String) :
    contains ⟨names.map entry⟩ name = true ↔ name ∈ names := by
  rw [contains_iff, SymbolTable.names, List.map_map]
  have hid : ((·.name) ∘ entry) = id := funext hname
  rw [hid, List.map_id]

theorem find?_map (hname : ∀ name, (entry name).name = name) (name : String) :
    find? ⟨names.map entry⟩ name = if name ∈ names then some (entry name) else none := by
  unfold find?
  rw [List.find?_map]
  have hsame : ((·.name == name) ∘ entry) = (· == name) :=
    funext fun other => congrArg (· == name) (hname other)
  rw [hsame]
  cases hfound : names.find? (· == name) with
  | none =>
    have h : name ∉ names := fun h => List.find?_eq_none.mp hfound name h (beq_self_eq_true name)
    rw [if_neg h]
    rfl
  | some other =>
    have hsame := List.find?_some hfound
    obtain rfl := beq_iff_eq.mp hsame
    rw [if_pos (List.mem_of_find?_eq_some hfound)]
    rfl

/-- A sighting of a known name bumps its entry, which may adopt a type. -/
theorem sight_map_known (hname : ∀ name, (entry name).name = name) (sighting : Sighting)
    (h : sighting.name ∈ names) :
    (sight ⟨names.map entry⟩ sighting.token sighting.context sighting.next).entries =
      names.map fun other =>
        if other = sighting.name then
          (entry other).bump.adopting sighting.context.pendingType
        else entry other := by
  have hcontains := (contains_map hname _).mpr h
  unfold sight record
  rw [show sighting.token.lexeme = sighting.name from rfl, if_pos hcontains, if_pos hcontains,
    modify_map hname, modify_map]
  · refine List.map_congr_left fun other _ => ?_
    by_cases hsame : other = sighting.name
    · rw [if_pos hsame, if_pos hsame, if_pos hsame]
    · rw [if_neg hsame, if_neg hsame, if_neg hsame]
  · intro other
    split
    · exact hname other
    · exact hname other

/-- A sighting of a new name adds an entry with the guess that the context allows. -/
theorem sight_map_new (hname : ∀ name, (entry name).name = name) (sighting : Sighting)
    (h : sighting.name ∉ names) :
    (sight ⟨names.map entry⟩ sighting.token sighting.context sighting.next).entries =
      names.map entry ++ [summary sighting.name [sighting]] := by
  have hcontains := mt (contains_map hname sighting.name).mp h
  unfold sight record
  rw [show sighting.token.lexeme = sighting.name from rfl, if_neg hcontains, if_neg hcontains]
  rw [summary_singleton]
  generalize sighting.context.guess sighting.next = guess
  show (modify ⟨names.map entry ++ [_]⟩ sighting.name (·.classified guess.1 guess.2)).entries = _
  rw [modify, List.map_append, List.map_singleton, if_pos rfl, List.map_map]
  congr 3
  refine List.map_congr_left fun other hmem => ?_
  show (if (entry other).name = sighting.name then _ else _) = _
  rw [hname, if_neg]
  rintro rfl
  exact h hmem

end Map

theorem eraseDups_concat (names : List String) (name : String) :
    (names ++ [name]).eraseDups =
      if name ∈ names then names.eraseDups else names.eraseDups ++ [name] := by
  rw [List.eraseDups_append]
  by_cases h : name ∈ names
  · simp [List.removeAll, h]
  · simp [List.removeAll, h, List.eraseDups_cons]

/-- **The table after a history of sightings.** The names stand in the order of their first
sightings, and each entry sums up the sightings of its name. -/
theorem entries_sightAll (sightings : List Sighting) :
    (sightAll {} sightings).entries =
      (sightings.map Sighting.name).eraseDups.map fun name => summary name (own name sightings) := by
  induction sightings using List.reverseRecOn with
  | nil => rfl
  | append_singleton sightings sighting ih =>
    have hname : ∀ other, (summary other (own other sightings)).name = other := fun _ => rfl
    have htable : sightAll {} sightings = ⟨_⟩ := congrArg SymbolTable.mk ih
    rw [sightAll_concat, htable, List.map_append, List.map_singleton, eraseDups_concat]
    -- a known name changes its entry where it stands, a new one adds an entry at the end
    by_cases hknown : sighting.name ∈ sightings.map Sighting.name
    · rw [if_pos hknown, sight_map_known hname sighting (List.mem_eraseDups.mpr hknown)]
      refine List.map_congr_left fun other _ => ?_
      by_cases hsame : other = sighting.name
      · have hne : own other sightings ≠ [] := by
          rw [Ne, own_eq_nil_iff, not_not, hsame]
          exact hknown
        rw [if_pos hsame, own_concat_self hsame.symm, summary_concat hne]
      · rw [if_neg hsame, own_concat_other (Ne.symm hsame)]
    · rw [if_neg hknown, sight_map_new hname sighting (mt List.mem_eraseDups.mp hknown),
        List.map_append, List.map_singleton, own_concat_self rfl, own_eq_nil_iff.mpr hknown,
        List.nil_append]
      congr 1
      refine List.map_congr_left fun other hmem => ?_
      rw [own_concat_other]
      rintro rfl
      exact hknown (List.mem_eraseDups.mp hmem)

theorem names_sightAll (sightings : List Sighting) :
    (sightAll {} sightings).names = (sightings.map Sighting.name).eraseDups := by
  rw [names, entries_sightAll, List.map_map]
  exact List.map_id _

theorem contains_sightAll (sightings : List Sighting) (name : String) :
    (sightAll {} sightings).contains name = true ↔ name ∈ sightings.map Sighting.name := by
  rw [contains_iff, names_sightAll, List.mem_eraseDups]

theorem find?_sightAll (sightings : List Sighting) (name : String) :
    (sightAll {} sightings).find? name =
      if name ∈ sightings.map Sighting.name then some (summary name (own name sightings))
      else none := by
  have htable : sightAll {} sightings = ⟨_⟩ := congrArg SymbolTable.mk (entries_sightAll sightings)
  have hname : ∀ other, (summary other (own other sightings)).name = other := fun _ => rfl
  rw [htable, find?_map hname]
  simp only [List.mem_eraseDups]

end SymbolTable

end SymbolCensus
