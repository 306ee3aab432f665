import Mathlib.Tactic

/-!
# Keyed tables with generated keys

A relational table whose rows carry one integer primary key.  The key `0` marks a
row that has not been stored yet: such a row receives the next generated key when
it is added, as an auto-increment column does.  Every operation is all-or-nothing
and answers `none` where the database rejects the statement.

The invariant that keys are distinct and lie below the generator is a field of the
table, so a rejected statement is the only way an operation can fail to produce a
well-formed table.
-/

namespace ECam.Library

/-- Selecting by a test that exactly one row of a duplicate-free list passes. -/
theorem filter_eq_singleton {α : Type} [DecidableEq α] {rows : List α} {row : α}
    {accept : α → Bool} (nodup : rows.Nodup) (member : row ∈ rows)
    (only : ∀ other ∈ rows, accept other = true ↔ other = row) :
    rows.filter accept = [row] := by
  have sameTest : rows.filter accept = rows.filter (· == row) := by
    apply List.filter_congr
    intro other otherMember
    rw [Bool.eq_iff_iff, only other otherMember, beq_iff_eq]
  rw [sameTest, List.filter_beq, List.count_eq_one_of_mem nodup member]
  rfl

/-- Rows that expose their integer primary key. -/
class Entity (Row : Type) where
  key : Row → Int
  withKey : Int → Row → Row
  key_withKey : ∀ (value : Int) (row : Row), key (withKey value row) = value

attribute [simp] Entity.key_withKey

/-- A table of rows with pairwise different keys, all of them below the next key
that the generator hands out. -/
@[ext] structure Table (Row : Type) [Entity Row] where
  rows : List Row
  nextKey : Int
  keys_nodup : (rows.map Entity.key).Nodup
  keys_lt : ∀ row ∈ rows, Entity.key row < nextKey
  nextKey_pos : 0 < nextKey

namespace Table

variable {Row : Type} [Entity Row]

/-- The table without rows, whose generator starts at `1`. -/
def empty : Table Row where
  rows := []
  nextKey := 1
  keys_nodup := by simp
  keys_lt := by simp
  nextKey_pos := by decide

/-- Whether some row carries the key. -/
def hasKey (table : Table Row) (value : Int) : Bool :=
  table.rows.any fun row => Entity.key row == value

theorem hasKey_iff {table : Table Row} {value : Int} :
    table.hasKey value = true ↔ ∃ row ∈ table.rows, Entity.key row = value := by
  simp [hasKey]

theorem hasKey_of_mem {table : Table Row} {row : Row} (member : row ∈ table.rows) :
    table.hasKey (Entity.key row) = true :=
  hasKey_iff.mpr ⟨row, member, rfl⟩

/-- The key of a row determines the row. -/
theorem eq_of_key_eq (table : Table Row) {left right : Row}
    (leftMember : left ∈ table.rows) (rightMember : right ∈ table.rows)
    (equal : Entity.key left = Entity.key right) : left = right :=
  List.inj_on_of_nodup_map table.keys_nodup leftMember rightMember equal

theorem rows_nodup (table : Table Row) : table.rows.Nodup :=
  List.Nodup.of_map _ table.keys_nodup

/-- A generated key is not in use. -/
theorem hasKey_nextKey (table : Table Row) : table.hasKey table.nextKey = false := by
  rw [Bool.eq_false_iff]
  intro used
  obtain ⟨row, member, equal⟩ := hasKey_iff.mp used
  have below := table.keys_lt row member
  omega

/-! ## Adding rows -/

/-- The row as it is stored: a row with key `0` takes the generated key. -/
def assignKey (table : Table Row) (row : Row) : Row :=
  if Entity.key row = 0 then Entity.withKey table.nextKey row else row

/-- Store one row whose key is free, and move the generator past that key. -/
def insert (table : Table Row) (row : Row)
    (free : table.hasKey (Entity.key row) = false) : Table Row where
  rows := table.rows ++ [row]
  nextKey := max table.nextKey (Entity.key row + 1)
  keys_nodup := by
    rw [List.map_append, List.nodup_append]
    refine ⟨table.keys_nodup, by simp, ?_⟩
    intro value member other otherMember equal
    obtain ⟨stored, storedMember, rfl⟩ := List.mem_map.mp member
    simp only [List.map_cons, List.map_nil, List.mem_singleton] at otherMember
    have used := hasKey_of_mem storedMember
    rw [equal, otherMember, free] at used
    exact Bool.false_ne_true used
  keys_lt := by
    intro other member
    rcases List.mem_append.mp member with old | new
    · have below := table.keys_lt other old
      omega
    · rw [List.mem_singleton.mp new]
      omega
  nextKey_pos := by
    have positive := table.nextKey_pos
    omega

/-- Add one row, returning the table and the row as stored.  A key already in use
is rejected. -/
def add? (table : Table Row) (row : Row) : Option (Table Row × Row) :=
  let stored := table.assignKey row
  if free : table.hasKey (Entity.key stored) = false then
    some (table.insert stored free, stored)
  else
    none

/-- Add several rows in order, or none of them. -/
def addRange? (table : Table Row) : List Row → Option (Table Row)
  | [] => some table
  | row :: rest =>
      match table.add? row with
      | none => none
      | some (next, _) => next.addRange? rest

/-- A row that brings its own key. -/
theorem add?_own {table : Table Row} {row : Row} (assigned : Entity.key row ≠ 0)
    (free : table.hasKey (Entity.key row) = false) :
    ∃ next, table.add? row = some (next, row) ∧ next.rows = table.rows ++ [row] := by
  have stored : table.assignKey row = row := by simp [assignKey, assigned]
  refine ⟨table.insert row free, ?_, rfl⟩
  simp [add?, stored, free]

/-- Adding a row either appends it, with its own or a generated key, or is
rejected because its own key is in use. -/
theorem add?_cases {table next : Table Row} {row stored : Row}
    (added : table.add? row = some (next, stored)) :
    stored = table.assignKey row ∧ table.hasKey (Entity.key stored) = false ∧
      next.rows = table.rows ++ [stored] := by
  simp only [add?] at added
  split at added
  next free =>
    simp only [Option.some.injEq, Prod.mk.injEq] at added
    obtain ⟨rfl, rfl⟩ := added
    exact ⟨rfl, free, rfl⟩
  next => cases added

/-- Rows with consecutive keys from `start` on. -/
def stamp (start : Int) : List Row → List Row
  | [] => []
  | row :: rest => Entity.withKey start row :: stamp (start + 1) rest

@[simp] theorem stamp_nil (start : Int) : stamp start ([] : List Row) = [] := rfl

@[simp] theorem length_stamp (start : Int) (rows : List Row) :
    (stamp start rows).length = rows.length := by
  induction rows generalizing start with
  | nil => rfl
  | cons row rest ih => simp [stamp, ih]

theorem stamp_append (start : Int) (left right : List Row) :
    stamp start (left ++ right) =
      stamp start left ++ stamp (start + left.length) right := by
  induction left generalizing start with
  | nil => simp
  | cons row rest ih =>
      simp only [List.cons_append, stamp, ih, List.length_cons, Nat.cast_add,
        Nat.cast_one, List.cons.injEq, List.append_cancel_left_eq, true_and]
      congr 1
      omega

theorem getElem?_stamp (start : Int) (rows : List Row) (index : Nat) :
    (stamp start rows)[index]? =
      rows[index]?.map (Entity.withKey (start + index)) := by
  induction rows generalizing start index with
  | nil => simp
  | cons row rest ih =>
      cases index with
      | zero => simp [stamp]
      | succ index =>
          simp only [stamp, List.getElem?_cons_succ, ih, Nat.cast_add, Nat.cast_one]
          congr 2
          omega

/-- Stamped rows carry keys from `start` on. -/
theorem key_of_mem_stamp {start : Int} {rows : List Row} {row : Row}
    (member : row ∈ stamp start rows) :
    ∃ original ∈ rows, ∃ value, start ≤ value ∧ row = Entity.withKey value original := by
  obtain ⟨index, selected⟩ := List.mem_iff_getElem?.mp member
  rw [getElem?_stamp, Option.map_eq_some_iff] at selected
  obtain ⟨original, found, rfl⟩ := selected
  exact ⟨original, List.mem_of_getElem? found, _, by omega, rfl⟩

theorem add?_generated (table : Table Row) {row : Row} (unassigned : Entity.key row = 0) :
    ∃ next, table.add? row = some (next, Entity.withKey table.nextKey row) ∧
      next.rows = table.rows ++ [Entity.withKey table.nextKey row] ∧
      next.nextKey = table.nextKey + 1 := by
  have stored : table.assignKey row = Entity.withKey table.nextKey row := by
    simp [assignKey, unassigned]
  have free : table.hasKey (Entity.key (Entity.withKey table.nextKey row)) = false := by
    rw [Entity.key_withKey]
    exact table.hasKey_nextKey
  refine ⟨table.insert _ free, ?_, rfl, ?_⟩
  · simp only [add?, stored, free, ↓reduceDIte]
  · simp [insert]

/-- Rows without keys are always accepted and receive consecutive generated keys. -/
theorem addRange?_generated (table : Table Row) (rows : List Row)
    (unassigned : ∀ row ∈ rows, Entity.key row = 0) :
    ∃ next, table.addRange? rows = some next ∧
      next.rows = table.rows ++ stamp table.nextKey rows ∧
      next.nextKey = table.nextKey + rows.length := by
  induction rows generalizing table with
  | nil => exact ⟨table, rfl, by simp, by simp⟩
  | cons row rest ih =>
      obtain ⟨middle, added, middleRows, middleKey⟩ :=
        table.add?_generated (unassigned row (by simp))
      obtain ⟨last, lastAdded, lastRows, lastKey⟩ :=
        ih middle fun other member => unassigned other (by simp [member])
      refine ⟨last, ?_, ?_, ?_⟩
      · simp only [addRange?, added, lastAdded]
      · rw [lastRows, middleRows, middleKey, stamp, List.append_assoc]
        rfl
      · rw [lastKey, middleKey]
        simp only [List.length_cons, Nat.cast_add, Nat.cast_one]
        omega

/-! ## Updating and removing rows -/

/-- Replace the row with the same key.  Without such a row the statement affects
no row and is rejected. -/
def update? (table : Table Row) (row : Row) : Option (Table Row) :=
  if table.hasKey (Entity.key row) = true then
    some {
      rows := table.rows.map fun other =>
        if Entity.key other = Entity.key row then row else other
      nextKey := table.nextKey
      keys_nodup := by
        have sameKeys : (table.rows.map fun other =>
            if Entity.key other = Entity.key row then row else other).map Entity.key =
              table.rows.map Entity.key := by
          rw [List.map_map]
          apply List.map_congr_left
          intro other _
          by_cases equal : Entity.key other = Entity.key row <;> simp [equal]
        rw [sameKeys]
        exact table.keys_nodup
      keys_lt := by
        intro other member
        obtain ⟨original, originalMember, rfl⟩ := List.mem_map.mp member
        have below := table.keys_lt original originalMember
        split
        next equal => rwa [equal] at below
        next => exact below
      nextKey_pos := table.nextKey_pos }
  else
    none

theorem update?_some {table next : Table Row} {row : Row}
    (updated : table.update? row = some next) :
    table.hasKey (Entity.key row) = true ∧ next.nextKey = table.nextKey ∧
      next.rows = table.rows.map fun other =>
        if Entity.key other = Entity.key row then row else other := by
  simp only [update?] at updated
  split at updated
  next used =>
    cases updated
    exact ⟨used, rfl, rfl⟩
  next => cases updated

theorem update?_of_hasKey {table : Table Row} {row : Row}
    (used : table.hasKey (Entity.key row) = true) :
    ∃ next, table.update? row = some next := by
  simp [update?, used]

/-- An update changes the table unless the row is stored already. -/
theorem update?_eq_self_iff {table next : Table Row} {row : Row}
    (updated : table.update? row = some next) : next = table ↔ row ∈ table.rows := by
  obtain ⟨used, nextKey, rows⟩ := update?_some updated
  constructor
  · intro same
    obtain ⟨old, member, equal⟩ := hasKey_iff.mp used
    rw [← same, rows]
    exact List.mem_map.mpr ⟨old, member, by simp [equal]⟩
  · intro stored
    have unchanged : (table.rows.map fun other =>
        if Entity.key other = Entity.key row then row else other) = table.rows.map id := by
      apply List.map_congr_left
      intro other member
      split
      next equal => exact table.eq_of_key_eq stored member equal.symm
      next => rfl
    apply Table.ext
    · rw [rows, unchanged, List.map_id]
    · exact nextKey

/-- Updating keeps the keys in use. -/
theorem hasKey_update? {table next : Table Row} {row : Row} (value : Int)
    (updated : table.update? row = some next) :
    next.hasKey value = table.hasKey value := by
  obtain ⟨_, _, rows⟩ := update?_some updated
  rw [hasKey, hasKey, rows, List.any_map]
  congr 1
  funext other
  simp only [Function.comp_apply]
  split
  next equal => rw [equal]
  next => rfl

/-- Updating one row does not change what is found under another key. -/
theorem find?_update? {table next : Table Row} {row : Row} {value : Int}
    (updated : table.update? row = some next) (different : Entity.key row ≠ value) :
    (next.rows.find? fun other => Entity.key other == value) =
      table.rows.find? fun other => Entity.key other == value := by
  obtain ⟨_, _, rows⟩ := update?_some updated
  rw [rows, List.find?_map]
  have sameTest : ((fun other => Entity.key other == value) ∘ fun other =>
      if Entity.key other = Entity.key row then row else other) =
        fun other => Entity.key other == value := by
    funext other
    simp only [Function.comp_apply]
    split
    next equal => rw [equal]
    next => rfl
  rw [sameTest]
  cases found : table.rows.find? fun other => Entity.key other == value with
  | none => rfl
  | some other =>
      have owner : Entity.key other = value := by simpa using List.find?_some found
      have kept : Entity.key other ≠ Entity.key row := by
        rw [owner]
        exact different.symm
      simp [kept]

/-- The rows of the table without those whose key is among the given rows'. -/
def without (table : Table Row) (victims : List Row) : Table Row where
  rows := table.rows.filter fun row =>
    !victims.any fun victim => Entity.key victim == Entity.key row
  nextKey := table.nextKey
  keys_nodup := table.keys_nodup.sublist (List.filter_sublist.map _)
  keys_lt := fun row member => table.keys_lt row (List.mem_filter.mp member).1
  nextKey_pos := table.nextKey_pos

/-- Delete the given rows by key.  If one of them is gone, a delete affects no row
and the whole batch is rejected. -/
def removeRange? (table : Table Row) (victims : List Row) : Option (Table Row) :=
  if victims.all (fun victim => table.hasKey (Entity.key victim)) then
    some (table.without victims)
  else
    none

theorem removeRange?_some {table next : Table Row} {victims : List Row}
    (removed : table.removeRange? victims = some next) :
    (∀ victim ∈ victims, table.hasKey (Entity.key victim) = true) ∧
      next = table.without victims := by
  simp only [removeRange?] at removed
  split at removed
  next present =>
    cases removed
    exact ⟨by simpa using present, rfl⟩
  next => cases removed

/-- Removing rows of the table leaves the rows that are not among them. -/
theorem without_rows_of_subset [DecidableEq Row] (table : Table Row) {victims : List Row}
    (subset : ∀ victim ∈ victims, victim ∈ table.rows) :
    (table.without victims).rows = table.rows.filter fun row => row ∉ victims := by
  apply List.filter_congr
  intro row member
  rw [decide_not]
  congr 1
  rw [Bool.eq_iff_iff]
  simp only [List.any_eq_true, beq_iff_eq, decide_eq_true_eq]
  constructor
  · rintro ⟨victim, victimMember, equal⟩
    rwa [← table.eq_of_key_eq (subset victim victimMember) member equal]
  · intro chosen
    exact ⟨row, chosen, rfl⟩

/-- The key of a removed row is free. -/
theorem hasKey_without_of_mem (table : Table Row) {victims : List Row} {victim : Row}
    (member : victim ∈ victims) :
    (table.without victims).hasKey (Entity.key victim) = false := by
  rw [Bool.eq_false_iff]
  intro used
  obtain ⟨row, rowMember, equal⟩ := hasKey_iff.mp used
  have kept := (List.mem_filter.mp rowMember).2
  rw [Bool.not_eq_true', List.any_eq_false] at kept
  exact kept victim member (by simp [equal])

/-- Removing rows frees keys only. -/
theorem hasKey_without_of_not (table : Table Row) {victims : List Row} {value : Int}
    (free : table.hasKey value = false) : (table.without victims).hasKey value = false := by
  rw [Bool.eq_false_iff]
  intro used
  obtain ⟨row, rowMember, equal⟩ := hasKey_iff.mp used
  have stillUsed := hasKey_iff.mpr ⟨row, (List.mem_filter.mp rowMember).1, equal⟩
  rw [free] at stillUsed
  exact Bool.false_ne_true stillUsed

/-- Removing the rows selected by a predicate leaves the other rows. -/
theorem without_filter_rows (table : Table Row) (selected : Row → Bool) :
    (table.without (table.rows.filter selected)).rows =
      table.rows.filter fun row => !selected row := by
  classical
  have subset : ∀ victim ∈ table.rows.filter selected, victim ∈ table.rows :=
    fun victim member => (List.mem_filter.mp member).1
  rw [table.without_rows_of_subset subset]
  apply List.filter_congr
  intro row member
  simp [member]

/-- A batch deletion of rows just selected is accepted. -/
theorem removeRange?_filter (table : Table Row) (selected : Row → Bool) :
    table.removeRange? (table.rows.filter selected) =
      some (table.without (table.rows.filter selected)) := by
  have present : (table.rows.filter selected).all
      (fun victim => table.hasKey (Entity.key victim)) = true := by
    rw [List.all_eq_true]
    intro victim member
    exact hasKey_of_mem (List.mem_filter.mp member).1
  simp [removeRange?, present]

/-! ## Looking up a key -/

/-- The row with a key. -/
def lookup (table : Table Row) (value : Int) : Option Row :=
  table.rows.find? fun row => Entity.key row == value

theorem lookup_eq_some_iff {table : Table Row} {value : Int} {row : Row} :
    table.lookup value = some row ↔ row ∈ table.rows ∧ Entity.key row = value := by
  constructor
  · intro found
    exact ⟨List.mem_of_find?_eq_some found, by simpa using List.find?_some found⟩
  · rintro ⟨member, rfl⟩
    cases found : table.lookup (Entity.key row) with
    | none =>
        have missing := List.find?_eq_none.mp found row member
        simp at missing
    | some other =>
        have equal : Entity.key other = Entity.key row := by simpa using List.find?_some found
        rw [table.eq_of_key_eq (List.mem_of_find?_eq_some found) member equal]

theorem lookup_eq_none_iff {table : Table Row} {value : Int} :
    table.lookup value = none ↔ table.hasKey value = false := by
  simp [lookup, hasKey]

theorem lookup_isSome {table : Table Row} {value : Int} :
    (table.lookup value).isSome = table.hasKey value := by
  cases found : table.lookup value with
  | none =>
      rw [lookup_eq_none_iff.mp found]
      rfl
  | some row =>
      rcases lookup_eq_some_iff.mp found with ⟨member, rfl⟩
      rw [hasKey_of_mem member]
      rfl

/-- A row that is added is found under its key. -/
theorem lookup_add? {table next : Table Row} {row stored : Row}
    (added : table.add? row = some (next, stored)) :
    next.lookup = Function.update table.lookup (Entity.key stored) (some stored) := by
  rcases add?_cases added with ⟨-, free, rows⟩
  funext value
  apply Option.ext
  intro other
  rw [lookup_eq_some_iff, rows, List.mem_append, List.mem_singleton, Function.update_apply]
  split
  next here =>
    rw [here, Option.some.injEq]
    constructor
    · rintro ⟨old | new, equal⟩
      · have used := hasKey_of_mem old
        rw [equal, free] at used
        cases used
      · exact new.symm
    · rintro rfl
      exact ⟨Or.inr rfl, rfl⟩
  next different =>
    rw [lookup_eq_some_iff]
    constructor
    · rintro ⟨old | new, equal⟩
      · exact ⟨old, equal⟩
      · rw [← equal, new] at different
        exact absurd rfl different
    · rintro ⟨old, equal⟩
      exact ⟨Or.inl old, equal⟩

/-- A row that is replaced is found under its key. -/
theorem lookup_update? {table next : Table Row} {row : Row}
    (updated : table.update? row = some next) :
    next.lookup = Function.update table.lookup (Entity.key row) (some row) := by
  rcases update?_some updated with ⟨used, -, rows⟩
  funext value
  rw [Function.update_apply]
  split
  next here =>
    rcases hasKey_iff.mp used with ⟨old, member, equal⟩
    rw [here, lookup_eq_some_iff, rows]
    exact ⟨List.mem_map.mpr ⟨old, member, if_pos equal⟩, rfl⟩
  next different => exact find?_update? updated (Ne.symm different)

/-- A row that is removed is not found any more. -/
theorem lookup_removeRange? {table next : Table Row} {victim : Row}
    (removed : table.removeRange? [victim] = some next) :
    next.lookup = Function.update table.lookup (Entity.key victim) none := by
  rcases removeRange?_some removed with ⟨-, rfl⟩
  funext value
  rw [Function.update_apply]
  split
  next here =>
    rw [here, lookup_eq_none_iff]
    exact table.hasKey_without_of_mem (List.mem_singleton.mpr rfl)
  next different =>
    apply Option.ext
    intro row
    rw [lookup_eq_some_iff, lookup_eq_some_iff, without, List.mem_filter]
    constructor
    · rintro ⟨⟨member, -⟩, equal⟩
      exact ⟨member, equal⟩
    · rintro ⟨member, equal⟩
      refine ⟨⟨member, ?_⟩, equal⟩
      simp [equal, Ne.symm different]

end Table

end ECam.Library
