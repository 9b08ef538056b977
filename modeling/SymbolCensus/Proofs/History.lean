import SymbolCensus.Proofs.Observation
import SymbolCensus.SymbolTable.Change

/-!
# Histories of a symbol table

A table that starts empty is changed any number of times: names are sighted and bumped, roles and
declared types are assigned, together or one by one and in any order, and some of these changes
fail. Whatever the others do, what the table says of a name comes down to the changes of that name
from its first sighting on (`Change.life`); those before find no entry, and fail.

- `attempt`, `attemptAll`: changes with their answers. `apply_eq` says that they do what `apply`
  does.
- `Change.Fails`: when a change fails behind a history, and with which failure.
- `summary`: the entry of a name as its life tells it. `entries_attemptAll` is the whole table, by
  induction on the history; the step is `entries_attempt`.
- `Represents`, `represents_attemptAll`: all views of the table, and all answers on the way.
-/

namespace SymbolCensus

namespace SymbolTable

/-! ## Changes with their answers -/

namespace Change

/-- The name that is sighted, if the change is a sighting. -/
def sighted? : Change → Option String
  | record token => some token.lexeme
  | _ => none

/-- The entry that a sighting makes for a new name. -/
def newEntry? : Change → Option Symbol
  | record token => some { name := token.lexeme, first := token.position }
  | _ => none

/-- What a change makes of the entry of its name, unless it assigns what is no role. -/
def touch? : Change → Except Failure (Symbol → Symbol)
  | record _ => .ok Symbol.bump
  | bump _ => .ok Symbol.bump
  | assign _ label declaredType =>
    (Role.ofLabel label).map fun role => (·.classified role declaredType)
  | assignRole _ label => (Role.ofLabel label).map fun role => ({ · with role })
  | assignType _ declaredType => .ok ({ · with declaredType })

/-- What comes of that: the entry stays as it is if the change fails. -/
def touch (change : Change) (entry : Symbol) : Symbol :=
  match change.touch? with
  | .error _ => entry
  | .ok touch => touch entry

end Change

/-- What a change that succeeds tells: the entry of its name as it is now, and whether the change
has added it. -/
structure Answer where
  entry : Symbol
  isNew : Bool
deriving DecidableEq, Repr

/-- Makes a change and tells what came of it. -/
def attempt (table : SymbolTable) (change : Change) : SymbolTable × Except Failure Answer :=
  match table.find? change.name with
  | none =>
    match change.newEntry? with
    | none => (table, .error (.unknownSymbol change.name))
    | some entry => (⟨table.entries ++ [entry]⟩, .ok ⟨entry, true⟩)
  | some entry =>
    match change.touch? with
    | .error failure => (table, .error failure)
    | .ok touch => (table.modify change.name touch, .ok ⟨touch entry, false⟩)

/-- Makes changes one after another, with the answers to them. -/
def attemptAll (table : SymbolTable) : List Change → SymbolTable × List (Except Failure Answer)
  | [] => (table, [])
  | change :: changes =>
    let (table, answer) := table.attempt change
    let (table, answers) := table.attemptAll changes
    (table, answer :: answers)

section Attempt

variable {table : SymbolTable} {change : Change}

/-- Of an unknown name only a sighting can be made. -/
theorem attempt_of_find?_none (h : table.find? change.name = none) :
    table.attempt change =
      match change.newEntry? with
      | none => (table, .error (.unknownSymbol change.name))
      | some entry => (⟨table.entries ++ [entry]⟩, .ok ⟨entry, true⟩) := by
  rw [attempt, h]

/-- The entry of a known name is changed where it stands. -/
theorem attempt_of_find? {entry : Symbol} (h : table.find? change.name = some entry) :
    table.attempt change =
      match change.touch? with
      | .error failure => (table, .error failure)
      | .ok touch => (table.modify change.name touch, .ok ⟨touch entry, false⟩) := by
  rw [attempt, h]

theorem fst_attempt_of_find? {entry : Symbol} (h : table.find? change.name = some entry) :
    (table.attempt change).1 = table.modify change.name change.touch := by
  rw [attempt_of_find? h]
  unfold Change.touch
  cases change.touch? with
  | error failure => simp [modify]
  | ok touch => rfl

/-- A change does what it is told to do, or else leaves the table as it is. -/
theorem apply_eq (table : SymbolTable) (change : Change) :
    table.apply change = (table.attempt change).2.map fun _ => (table.attempt change).1 := by
  unfold attempt
  cases change with
  | record token =>
    simp only [apply, record, Change.name]
    cases hfind : table.find? token.lexeme with
    | none =>
      rw [contains, hfind]
      rfl
    | some entry =>
      rw [contains, hfind]
      rfl
  | bump name =>
    simp only [apply, bump, lookup, Change.name]
    cases table.find? name with
    | none => rfl
    | some entry => rfl
  | assign name label declaredType =>
    simp only [apply, assign, lookup, Change.name, Change.touch?]
    cases table.find? name with
    | none => rfl
    | some entry =>
      cases Role.ofLabel label with
      | error failure => rfl
      | ok role => rfl
  | assignRole name label =>
    simp only [apply, assignRole, lookup, Change.name, Change.touch?]
    cases table.find? name with
    | none => rfl
    | some entry =>
      cases Role.ofLabel label with
      | error failure => rfl
      | ok role => rfl
  | assignType name declaredType =>
    simp only [apply, assignType, lookup, Change.name]
    cases table.find? name with
    | none => rfl
    | some entry => rfl

theorem attempt_of_error {failure : Failure} (h : (table.attempt change).2 = .error failure) :
    (table.attempt change).1 = table := by
  cases hfind : table.find? change.name with
  | none =>
    rw [attempt_of_find?_none hfind] at h ⊢
    cases hnew : change.newEntry? with
    | none => rfl
    | some entry =>
      rw [hnew] at h
      cases h
  | some entry =>
    rw [attempt_of_find? hfind] at h ⊢
    cases htouch : change.touch? with
    | error failure => rfl
    | ok touch =>
      rw [htouch] at h
      cases h

theorem fst_attemptAll (table : SymbolTable) (changes : List Change) :
    (table.attemptAll changes).1 = table.applyAll changes := by
  have hstep : ∀ (table : SymbolTable) change,
      (table.apply change).toOption.getD table = (table.attempt change).1 := by
    intro table change
    rw [apply_eq]
    cases h : (table.attempt change).2 with
    | error failure => exact (attempt_of_error h).symm
    | ok answer => rfl
  induction changes generalizing table with
  | nil => rfl
  | cons change changes ih =>
    show ((table.attempt change).1.attemptAll changes).1 = _
    rw [ih, ← hstep]
    rfl

theorem fst_attemptAll_concat (table : SymbolTable) (changes : List Change) (change : Change) :
    (table.attemptAll (changes ++ [change])).1 =
      ((table.attemptAll changes).1.attempt change).1 := by
  induction changes generalizing table with
  | nil => rfl
  | cons first changes ih => exact ih _

end Attempt

/-! ## What a history says of a name -/

namespace Change

/-- The names that are sighted, in order, each as often as it is. -/
def sightedNames (history : List Change) : List String :=
  history.filterMap sighted?

/-- The changes of a name from its first sighting on. -/
def life (name : String) (history : List Change) : List Change :=
  (history.filter (·.name == name)).dropWhile (!·.sighted?.isSome)

/-- The position of a sighting. -/
def position? : Change → Option Position
  | record token => some token.position
  | _ => none

/-- The change is a bump. -/
def isBump : Change → Bool
  | bump _ => true
  | _ => false

/-- What the role is called that is to be assigned. -/
def label? : Change → Option String
  | assign _ label _ => some label
  | assignRole _ label => some label
  | _ => none

/-- The role that is assigned, if the label is that of a role. -/
def role? (change : Change) : Option Role :=
  change.label?.bind fun label => (Role.ofLabel label).toOption

/-- The declared type that is assigned, which may be none. Nothing is assigned along with what is no
role. -/
def declaredType? : Change → Option (Option String)
  | assign _ label declaredType => (Role.ofLabel label).toOption.map fun _ => declaredType
  | assignType _ declaredType => some declaredType
  | _ => none

/-- What some changes gave last. -/
def last {α : Type} (given? : Change → Option α) (life : List Change) : Option α :=
  (life.filterMap given?).getLast?

/-- Behind a history a change fails: its name was never sighted, or else it assigns what is no role.
A sighting never fails. -/
def Fails (history : List Change) (change : Change) (failure : Failure) : Prop :=
  change.name ∉ sightedNames history ∧ change.sighted? = none ∧
      failure = .unknownSymbol change.name ∨
    change.name ∈ sightedNames history ∧ ∃ label, change.label? = some label ∧
      (∀ role : Role, role.label ≠ label) ∧ failure = .unknownLabel label "SymbolKind"

theorem name_of_sighted? {change : Change} {name : String} (h : change.sighted? = some name) :
    change.name = name := by
  cases change with
  | record token => exact Option.some.inj h
  | _ => cases h

theorem name_of_newEntry? {change : Change} {entry : Symbol} (h : change.newEntry? = some entry) :
    entry.name = change.name := by
  cases change with
  | record token =>
    obtain rfl := Option.some.inj h
    rfl
  | _ => cases h

theorem mem_sightedNames_iff {name : String} {history : List Change} :
    name ∈ sightedNames history ↔ ∃ change ∈ history, change.sighted? = some name :=
  List.mem_filterMap

theorem sightedNames_concat (history : List Change) (change : Change) :
    sightedNames (history ++ [change]) = sightedNames history ++ change.sighted?.toList := by
  unfold sightedNames
  rw [List.filterMap_append]
  cases h : change.sighted? <;> simp [h]

/-- A sighting of a name is a sighting, and a change of that name. -/
theorem sighted?_beq (change : Change) (name : String) :
    (change.sighted? == some name) = (change.sighted?.isSome && change.name == name) := by
  cases change with
  | record token => simp [sighted?, Change.name, Bool.beq_eq_decide_eq]
  | _ => simp [sighted?]

/-- The life of a name starts with its first sighting. -/
theorem head?_life (name : String) (history : List Change) :
    (life name history).head? = history.find? (·.sighted? == some name) := by
  unfold life
  rw [← List.find?_eq_head?_dropWhile_not, List.find?_filter]
  refine List.find?_congr fun change _ => ?_
  rw [sighted?_beq, Bool.and_comm, Bool.decide_and, Bool.decide_coe, Bool.decide_coe]

theorem life_eq_nil_iff {name : String} {history : List Change} :
    life name history = [] ↔ name ∉ sightedNames history := by
  rw [← List.head?_eq_none_iff, head?_life, List.find?_eq_none, mem_sightedNames_iff]
  simp

/-- All sightings of a name belong to its life. -/
theorem countP_sighted_life (name : String) (history : List Change) :
    (life name history).countP (·.sighted?.isSome) = (sightedNames history).count name := by
  -- what is dropped before the first sighting is no sighting
  have hdropped : ((history.filter (·.name == name)).takeWhile (!·.sighted?.isSome)).countP
      (·.sighted?.isSome) = 0 := by
    refine List.countP_eq_zero.mpr fun change hmem => ?_
    have hnot := List.mem_takeWhile_imp hmem
    rwa [Bool.not_eq_true', ← Bool.not_eq_true] at hnot
  have hall := congrArg (List.countP (·.sighted?.isSome))
    (List.takeWhile_append_dropWhile (p := (!·.sighted?.isSome))
      (l := history.filter (·.name == name)))
  rw [List.countP_append, hdropped, Nat.zero_add, List.countP_filter] at hall
  rw [sightedNames, List.count_filterMap]
  simp only [sighted?_beq]
  exact hall

theorem life_concat_other {name : String} {change : Change} (h : change.name ≠ name)
    (history : List Change) : life name (history ++ [change]) = life name history := by
  unfold life
  rw [List.filter_append, List.filter_singleton, beq_false_of_ne h, cond_false, List.append_nil]

/-- A name comes to life when it is sighted, and from then on all its changes belong to its life. -/
theorem life_concat_self (history : List Change) (change : Change) :
    life change.name (history ++ [change]) =
      if change.name ∈ sightedNames history then life change.name history ++ [change]
      else change.sighted?.toList.map fun _ => change := by
  have hown : (history ++ [change]).filter (·.name == change.name) =
      history.filter (·.name == change.name) ++ [change] := by
    rw [List.filter_append, List.filter_singleton, beq_self_eq_true, cond_true]
  have hlife : (history.filter (·.name == change.name)).dropWhile (!·.sighted?.isSome) =
      life change.name history := rfl
  rw [life, hown, List.dropWhile_append, hlife]
  by_cases hknown : change.name ∈ sightedNames history
  · have hne : life change.name history ≠ [] := fun hnil => life_eq_nil_iff.mp hnil hknown
    rw [if_pos hknown, if_neg (mt List.isEmpty_iff.mp hne)]
  · rw [if_neg hknown, if_pos (List.isEmpty_iff.mpr (life_eq_nil_iff.mpr hknown))]
    cases change <;> rfl

theorem last_concat {α : Type} (given? : Change → Option α) (life : List Change)
    (change : Change) : last given? (life ++ [change]) = (given? change).or (last given? life) := by
  unfold last
  rw [List.filterMap_append]
  cases h : given? change with
  | none => simp [h]
  | some given => simp [h]

theorem name_touch? {change : Change} {touch : Symbol → Symbol} (h : change.touch? = .ok touch)
    (entry : Symbol) : (touch entry).name = entry.name := by
  cases change with
  | record token =>
    obtain rfl := Except.ok.inj h
    rfl
  | bump name =>
    obtain rfl := Except.ok.inj h
    rfl
  | assign name label declaredType =>
    cases hrole : Role.ofLabel label with
    | error failure => simp [touch?, hrole, Except.map] at h
    | ok role =>
      simp only [touch?, hrole, Except.map, Except.ok.injEq] at h
      rw [← h]
      rfl
  | assignRole name label =>
    cases hrole : Role.ofLabel label with
    | error failure => simp [touch?, hrole, Except.map] at h
    | ok role =>
      simp only [touch?, hrole, Except.map, Except.ok.injEq] at h
      rw [← h]
  | assignType name declaredType =>
    obtain rfl := Except.ok.inj h
    rfl

end Change

/-- The entry of a name, as its life tells it. -/
def summary (name : String) (life : List Change) : Symbol where
  name
  role := (Change.last Change.role? life).getD .unknown
  declaredType := (Change.last Change.declaredType? life).getD none
  first := (life.head?.bind Change.position?).getD default
  sightings := life.countP (·.sighted?.isSome) + life.countP Change.isBump

/-- One more change of a known name makes of its summary what it makes of the entry. -/
theorem summary_concat (name : String) {life : List Change} (hne : life ≠ []) (change : Change) :
    summary name (life ++ [change]) = change.touch (summary name life) := by
  have hfirst : (life ++ [change]).head? = life.head? := List.head?_append_of_ne_nil _ hne
  unfold summary Change.touch
  rw [hfirst, List.countP_append, List.countP_append, Change.last_concat, Change.last_concat]
  cases change with
  | record token =>
    have hcount : [Change.record token].countP (·.sighted?.isSome) = 1 ∧
        [Change.record token].countP Change.isBump = 0 := ⟨rfl, rfl⟩
    rw [hcount.1, hcount.2]
    refine congrArg (Symbol.mk name _ _ _) ?_
    dsimp only
    omega
  | bump other =>
    have hcount : [Change.bump other].countP (·.sighted?.isSome) = 0 ∧
        [Change.bump other].countP Change.isBump = 1 := ⟨rfl, rfl⟩
    rw [hcount.1, hcount.2]
    refine congrArg (Symbol.mk name _ _ _) ?_
    dsimp only
    omega
  | assign other label declaredType =>
    simp only [Change.role?, Change.label?, Change.declaredType?, Change.touch?, Option.bind_some]
    cases Role.ofLabel label with
    | ok role => rfl
    | error failure => rfl
  | assignRole other label =>
    simp only [Change.role?, Change.label?, Change.declaredType?, Change.touch?, Option.bind_some]
    cases Role.ofLabel label with
    | ok role => rfl
    | error failure => rfl
  | assignType other declaredType => rfl

/-! ## The whole table -/

/-- The entries that a history leads to. -/
def entriesOf (history : List Change) : List Symbol :=
  (Change.sightedNames history).eraseDups.map fun name => summary name (Change.life name history)

section Entries

variable {table : SymbolTable} {history : List Change}

theorem find?_of_entries (h : table.entries = entriesOf history) (name : String) :
    table.find? name =
      if name ∈ Change.sightedNames history then some (summary name (Change.life name history))
      else none := by
  have htable : table = ⟨_⟩ := congrArg SymbolTable.mk h
  have hname : ∀ other, (summary other (Change.life other history)).name = other := fun _ => rfl
  rw [htable, entriesOf, find?_map hname]
  simp only [List.mem_eraseDups]

theorem names_of_entries (h : table.entries = entriesOf history) :
    table.names = (Change.sightedNames history).eraseDups := by
  rw [names, h, entriesOf, List.map_map]
  exact List.map_id _

/-- Only the first sighting of a name adds to the names, and adds at the end. -/
theorem eraseDups_sightedNames_concat (history : List Change) (change : Change) :
    (Change.sightedNames (history ++ [change])).eraseDups =
      if change.name ∈ Change.sightedNames history then (Change.sightedNames history).eraseDups
      else (Change.sightedNames history).eraseDups ++ change.sighted?.toList := by
  rw [Change.sightedNames_concat]
  cases h : change.sighted? with
  | none => simp
  | some name =>
    rw [Change.name_of_sighted? h]
    exact eraseDups_concat _ name

/-- A change of a known name: its entry is changed where it stands, and all others stay. -/
theorem entriesOf_concat_known {change : Change}
    (hknown : change.name ∈ Change.sightedNames history) :
    entriesOf (history ++ [change]) =
      (modify ⟨entriesOf history⟩ change.name change.touch).entries := by
  unfold entriesOf modify
  rw [eraseDups_sightedNames_concat, if_pos hknown, List.map_map]
  refine List.map_congr_left fun name _ => ?_
  show _ = if name = change.name then _ else _
  by_cases hsame : name = change.name
  · have hne : Change.life change.name history ≠ [] := fun hnil =>
      Change.life_eq_nil_iff.mp hnil hknown
    rw [if_pos hsame, hsame, Change.life_concat_self, if_pos hknown, summary_concat _ hne]
  · rw [if_neg hsame, Change.life_concat_other (Ne.symm hsame)]

/-- A change of an unknown name: only a sighting adds an entry, and adds it at the end. -/
theorem entriesOf_concat_unknown {change : Change}
    (hnew : change.name ∉ Change.sightedNames history) :
    entriesOf (history ++ [change]) = entriesOf history ++ change.newEntry?.toList := by
  unfold entriesOf
  rw [eraseDups_sightedNames_concat, if_neg hnew, List.map_append]
  congr 1
  · refine List.map_congr_left fun name hmem => ?_
    rw [Change.life_concat_other]
    rintro rfl
    exact hnew (List.mem_eraseDups.mp hmem)
  · have hlife := Change.life_concat_self history change
    rw [if_neg hnew] at hlife
    cases change with
    | record token =>
      show [summary token.lexeme (Change.life token.lexeme _)] = _
      rw [show Change.life token.lexeme _ = _ from hlife]
      rfl
    | _ => rfl

/-- **One change**, behind any history. -/
theorem entries_attempt (h : table.entries = entriesOf history) (change : Change) :
    (table.attempt change).1.entries = entriesOf (history ++ [change]) := by
  have hfind := find?_of_entries h change.name
  by_cases hknown : change.name ∈ Change.sightedNames history
  · rw [if_pos hknown] at hfind
    rw [fst_attempt_of_find? hfind, entriesOf_concat_known hknown, ← h]
  · rw [if_neg hknown] at hfind
    rw [attempt_of_find?_none hfind, entriesOf_concat_unknown hknown]
    cases change.newEntry? with
    | none => exact h.trans (List.append_nil _).symm
    | some entry => exact congrArg (· ++ [entry]) h

/-- **The table behind any history.** The names stand in the order of their first sightings, and
each entry is told by the life of its name. -/
theorem entries_attemptAll (history : List Change) :
    (attemptAll {} history).1.entries = entriesOf history := by
  induction history using List.reverseRecOn with
  | nil => rfl
  | append_singleton history change ih =>
    rw [fst_attemptAll_concat]
    exact entries_attempt ih change

theorem nodup_eraseDups (names : List String) : names.eraseDups.Nodup := by
  induction names using List.reverseRecOn with
  | nil => exact List.nodup_nil
  | append_singleton names name ih =>
    rw [eraseDups_concat]
    split
    next => exact ih
    next hnew =>
      rw [List.nodup_append]
      refine ⟨ih, List.nodup_singleton name, fun other hother last hlast => ?_⟩
      rw [List.mem_singleton.mp hlast]
      rintro rfl
      exact hnew (List.mem_eraseDups.mp hother)

end Entries

end SymbolTable

/-! ## The answers -/

theorem Role.mem_all (role : Role) : role ∈ Role.all := by
  cases role <;> decide

theorem Role.ofLabel_eq_error_iff {label : String} {failure : Failure} :
    Role.ofLabel label = .error failure ↔
      (∀ role : Role, role.label ≠ label) ∧ failure = .unknownLabel label "SymbolKind" := by
  unfold Role.ofLabel
  cases hfind : Role.all.find? (·.label == label) with
  | none =>
    have hnone : ∀ role : Role, role.label ≠ label := by
      intro role hlabel
      exact List.find?_eq_none.mp hfind role role.mem_all (beq_iff_eq.mpr hlabel)
    simp [hnone, eq_comm]
  | some role =>
    have hfound := List.find?_some hfind
    have hlabel : role.label = label := beq_iff_eq.mp hfound
    simp only [reduceCtorEq, false_iff, not_and]
    intro hnone
    exact absurd hlabel (hnone role)

namespace SymbolTable

/-- Of a known name only an assignment can fail, for its label. -/
theorem Change.touch?_eq_error_iff {change : Change} {failure : Failure} :
    change.touch? = .error failure ↔ ∃ label, change.label? = some label ∧
      (∀ role : Role, role.label ≠ label) ∧ failure = .unknownLabel label "SymbolKind" := by
  have hmap : ∀ (label : String) (touch : Role → Symbol → Symbol),
      (Role.ofLabel label).map touch = .error failure ↔ Role.ofLabel label = .error failure := by
    intro label touch
    cases Role.ofLabel label with
    | error other => simp [Except.map]
    | ok role => simp [Except.map]
  cases change with
  | record token => simp [touch?, label?]
  | bump name => simp [touch?, label?]
  | assign name label declaredType => simp [touch?, label?, hmap, Role.ofLabel_eq_error_iff]
  | assignRole name label => simp [touch?, label?, hmap, Role.ofLabel_eq_error_iff]
  | assignType name declaredType => simp [touch?, label?]

theorem Change.newEntry?_eq (change : Change) :
    change.newEntry? = change.sighted?.map fun name => summary name [change] := by
  cases change <;> rfl

section Answers

variable {table : SymbolTable} {history : List Change} {change : Change}

/-- **Which changes fail**, behind any history. -/
theorem snd_attempt_eq_error_iff (h : table.entries = entriesOf history) {failure : Failure} :
    (table.attempt change).2 = .error failure ↔ change.Fails history failure := by
  have hfind := find?_of_entries h change.name
  unfold Change.Fails
  by_cases hknown : change.name ∈ Change.sightedNames history
  · rw [if_pos hknown] at hfind
    rw [attempt_of_find? hfind, ← Change.touch?_eq_error_iff]
    simp only [hknown, not_true_eq_false, false_and, false_or, true_and]
    cases change.touch? with
    | error other => simp
    | ok touch => simp
  · rw [if_neg hknown] at hfind
    rw [attempt_of_find?_none hfind, Change.newEntry?_eq]
    simp only [hknown, not_false_eq_true, true_and, false_and, or_false]
    cases change.sighted? with
    | none => simp [eq_comm]
    | some name => simp

/-- **What is answered**: the entry that can be found then, and whether it is new. -/
theorem find?_of_attempt {answer : Answer} (h : (table.attempt change).2 = .ok answer) :
    (table.attempt change).1.find? change.name = some answer.entry ∧
      (answer.isNew = true ↔ table.find? change.name = none) := by
  cases hfind : table.find? change.name with
  | none =>
    rw [attempt_of_find?_none hfind] at h ⊢
    cases hnew : change.newEntry? with
    | none =>
      rw [hnew] at h
      cases h
    | some entry =>
      rw [hnew] at h
      obtain rfl := Except.ok.inj h
      refine ⟨?_, by simp⟩
      show (table.entries ++ [entry]).find? (·.name == change.name) = some entry
      have hnone : table.entries.find? (·.name == change.name) = none := hfind
      rw [List.find?_append, hnone, Option.none_or]
      exact List.find?_cons_of_pos (beq_iff_eq.mpr (Change.name_of_newEntry? hnew))
  | some entry =>
    rw [attempt_of_find? hfind] at h ⊢
    cases htouch : change.touch? with
    | error failure =>
      rw [htouch] at h
      cases h
    | ok touch =>
      rw [htouch] at h
      obtain rfl := Except.ok.inj h
      refine ⟨?_, by simp⟩
      show (table.modify change.name touch).find? change.name = some (touch entry)
      rw [find?_modify (Change.name_touch? htouch), hfind, Option.map_some,
        if_pos (name_of_find? hfind)]

/-- The names that are said to be new, in the order of the answers. -/
def newNames (answers : List (Except Failure Answer)) : List String :=
  answers.filterMap fun answer =>
    match answer with
    | .ok answer => if answer.isNew then some answer.entry.name else none
    | .error _ => none

/-- One answer: a name is said to be new just where it comes into the table. -/
theorem names_attempt (table : SymbolTable) (change : Change) :
    (table.attempt change).1.names = table.names ++ newNames [(table.attempt change).2] := by
  cases hfind : table.find? change.name with
  | none =>
    rw [attempt_of_find?_none hfind]
    cases change.newEntry? with
    | none => exact (List.append_nil _).symm
    | some entry => exact List.map_append
  | some entry =>
    rw [attempt_of_find? hfind]
    cases htouch : change.touch? with
    | error failure => exact (List.append_nil _).symm
    | ok touch => exact (names_modify (Change.name_touch? htouch)).trans (List.append_nil _).symm

/-- **All answers**: the names that are said to be new are those that come into the table. -/
theorem names_attemptAll (table : SymbolTable) (changes : List Change) :
    (table.attemptAll changes).1.names = table.names ++ newNames (table.attemptAll changes).2 := by
  induction changes generalizing table with
  | nil => exact (List.append_nil _).symm
  | cons change changes ih =>
    show ((table.attempt change).1.attemptAll changes).1.names = _
    rw [ih, names_attempt, List.append_assoc]
    congr 1
    exact (List.filterMap_append ..).symm

end Answers

/-! ## All views of a table -/

section Views

variable {history : List Change}

/-- An entry tells of the changes of its name, from the first sighting on. -/
structure Tells (history : List Change) (entry : Symbol) : Prop where
  /-- All sightings count, and the bumps that came behind the first of them. -/
  sightings : entry.sightings = (Change.sightedNames history).count entry.name +
    (Change.life entry.name history).countP Change.isBump
  first : ∃ token, history.find? (·.sighted? == some entry.name) = some (.record token) ∧
    entry.first = token.position
  /-- Of all that was assigned the last stands. -/
  role : entry.role = (Change.last Change.role? (Change.life entry.name history)).getD .unknown
  declaredType : entry.declaredType =
    (Change.last Change.declaredType? (Change.life entry.name history)).getD none

theorem tells_summary {name : String} (h : name ∈ Change.sightedNames history) :
    Tells history (summary name (Change.life name history)) where
  sightings := by
    rw [← Change.countP_sighted_life]
    rfl
  first := by
    have hhead := Change.head?_life name history
    cases hfind : history.find? (·.sighted? == some name) with
    | none =>
      rw [hfind, List.head?_eq_none_iff] at hhead
      exact absurd h (Change.life_eq_nil_iff.mp hhead)
    | some change =>
      have hsighted := List.find?_some hfind
      cases change with
      | record token =>
        refine ⟨token, hfind, ?_⟩
        unfold summary
        rw [hhead, hfind]
        rfl
      | _ => cases hsighted
  role := rfl
  declaredType := rfl

/-- All ways to look up a name that was sighted find its entry. -/
theorem lookup_known {table : SymbolTable} (h : table.entries = entriesOf history) {name : String}
    (hmem : name ∈ Change.sightedNames history) :
    ∃ entry ∈ table.entries, entry.name = name ∧ table.find? name = some entry ∧
      table.lookup name = .ok entry ∧ table.contains name = true := by
  have hfind := find?_of_entries h name
  rw [if_pos hmem] at hfind
  refine ⟨summary name (Change.life name history), List.mem_of_find?_eq_some hfind, rfl, hfind,
    ?_, ?_⟩
  · rw [lookup, hfind]
  · rw [contains, hfind]
    rfl

/-- No way to look up any other name finds an entry. -/
theorem lookup_unknown {table : SymbolTable} (h : table.entries = entriesOf history)
    {name : String} (hnot : name ∉ Change.sightedNames history) :
    name ∉ table.names ∧ table.find? name = none ∧
      table.lookup name = .error (.unknownSymbol name) ∧ table.contains name = false := by
  have hfind := find?_of_entries h name
  rw [if_neg hnot] at hfind
  refine ⟨?_, hfind, ?_, ?_⟩
  · rwa [names_of_entries h, List.mem_eraseDups]
  · rw [lookup, hfind]
  · rw [contains, hfind]
    rfl

/-- A table and the answers on the way to it represent a history of changes. -/
structure Represents (history : List Change) (table : SymbolTable)
    (answers : List (Except Failure Answer)) : Prop where
  /-- The keys are the names that were sighted, in the order of their first sightings, each of them
  once. -/
  names : table.names = (Change.sightedNames history).eraseDups
  distinct : table.names.Nodup
  entries : table.entries.map (·.name) = table.names
  size : table.size = table.names.length
  /-- All ways to look up a name agree. -/
  known : ∀ name ∈ Change.sightedNames history, ∃ entry ∈ table.entries, entry.name = name ∧
    table.find? name = some entry ∧ table.lookup name = .ok entry ∧ table.contains name = true
  unknown : ∀ name ∉ Change.sightedNames history, name ∉ table.names ∧
    table.find? name = none ∧ table.lookup name = .error (.unknownSymbol name) ∧
      table.contains name = false
  tells : ∀ entry ∈ table.entries, Tells history entry
  /-- A sighting was said to be the first of its name once for each name. -/
  newNames : newNames answers = table.names
  /-- What another change would do. -/
  performed : ∀ change,
    table.apply change = (table.attempt change).2.map fun _ => (table.attempt change).1
  fails_iff : ∀ change failure,
    (table.attempt change).2 = .error failure ↔ change.Fails history failure
  unchanged : ∀ change failure,
    (table.attempt change).2 = .error failure → (table.attempt change).1 = table
  answered : ∀ change answer, (table.attempt change).2 = .ok answer →
    (table.attempt change).1.find? change.name = some answer.entry ∧
      (answer.isNew = true ↔ change.name ∉ Change.sightedNames history)

/-- **The table represents its history**, whatever changes were made or failed. -/
theorem represents_attemptAll (history : List Change) :
    (attemptAll {} history).1 = applyAll {} history ∧
      Represents history (applyAll {} history) (attemptAll {} history).2 := by
  have hentries := entries_attemptAll history
  rw [fst_attemptAll] at hentries ⊢
  have hnames := names_of_entries hentries
  refine ⟨rfl, ?_⟩
  constructor
  case names => exact hnames
  case distinct => exact hnames ▸ nodup_eraseDups _
  case entries => rfl
  case size => exact (List.length_map _).symm
  case known => exact fun name => lookup_known hentries
  case unknown => exact fun name => lookup_unknown hentries
  case tells =>
    intro entry hmem
    rw [hentries] at hmem
    obtain ⟨name, hname, rfl⟩ := List.mem_map.mp hmem
    exact tells_summary (List.mem_eraseDups.mp hname)
  case newNames =>
    have hall := names_attemptAll {} history
    rw [fst_attemptAll] at hall
    exact hall.symm
  case performed => exact apply_eq _
  case fails_iff =>
    intro change failure
    exact snd_attempt_eq_error_iff hentries
  case unchanged =>
    intro change failure
    exact attempt_of_error
  case answered =>
    intro change answer hanswer
    have hanswered := find?_of_attempt hanswer
    refine ⟨hanswered.1, ?_⟩
    rw [hanswered.2, find?_of_entries hentries]
    simp

end Views

end SymbolTable

end SymbolCensus
