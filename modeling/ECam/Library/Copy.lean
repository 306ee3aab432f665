import ECam.Library.Loop

/-!
# Copying cells

Loops that copy values from one array to another, cell by cell and row by row.  The arrays
are functions of arbitrary index types; a record of the indices read and written goes with
the copy, so that bounds and the number of writes can be stated.
-/

namespace ECam.Library

/-- An array that is being written. -/
structure CopyState (Source Target Value : Type) where
  output : Target → Value
  reads : List Source
  writes : List Target

variable {Source Target Value : Type} [DecidableEq Target]

/-- `output[target] = source[origin]`. -/
def copyCell (source : Source → Value) (origin : Source) (target : Target)
    (state : CopyState Source Target Value) : CopyState Source Target Value where
  output := Function.update state.output target (source origin)
  reads := state.reads ++ [origin]
  writes := state.writes ++ [target]

/-- The first cells are copied, row by row: `origin` and `target` give the indices of a
cell in the two arrays by its row and column. -/
structure Copied (source : Source → Value) (width : Nat) (origin : Nat → Nat → Source)
    (target : Nat → Nat → Target) (count : Nat) (state : CopyState Source Target Value) :
    Prop where
  reads : state.reads = (List.range count).map fun cell => origin (cell / width) (cell % width)
  writes : state.writes =
    (List.range count).map fun cell => target (cell / width) (cell % width)
  cells : ∀ cell < count, state.output (target (cell / width) (cell % width)) =
    source (origin (cell / width) (cell % width))

namespace Copied

variable {source : Source → Value} {width count : Nat} {origin : Nat → Nat → Source}
  {target : Nat → Nat → Target} {state : CopyState Source Target Value}

omit [DecidableEq Target] in
theorem start (output : Target → Value) :
    Copied source width origin target 0 ⟨output, [], []⟩ where
  reads := rfl
  writes := rfl
  cells := fun _ below => absurd below (Nat.not_lt_zero _)

/-- The next cell is written without touching the earlier ones. -/
theorem next {row column : Nat} (copied : Copied source width origin target (width * row + column)
      state) (inRow : column < width)
    (fresh : ∀ cell < width * row + column,
      target (cell / width) (cell % width) ≠ target row column) :
    Copied source width origin target (width * row + column + 1)
      (copyCell source (origin row column) (target row column) state) := by
  have rowOf : (width * row + column) / width = row := by
    rw [Nat.mul_add_div (by omega), Nat.div_eq_of_lt inRow, Nat.add_zero]
  have columnOf : (width * row + column) % width = column := by
    rw [Nat.mul_add_mod, Nat.mod_eq_of_lt inRow]
  constructor
  · rw [copyCell, copied.reads, List.range_succ, List.map_append, List.map_singleton, rowOf,
      columnOf]
  · rw [copyCell, copied.writes, List.range_succ, List.map_append, List.map_singleton, rowOf,
      columnOf]
  · intro cell below
    simp only [copyCell]
    by_cases last : cell = width * row + column
    · rw [last, rowOf, columnOf, Function.update_self]
    · have earlier : cell < width * row + column := by omega
      rw [Function.update_of_ne (fresh cell earlier)]
      exact copied.cells cell earlier

omit [DecidableEq Target] in
/-- A copied cell by its row and column. -/
theorem cell {height row column : Nat} (copied : Copied source width origin target
      (width * height) state) (inColumn : row < height) (inRow : column < width) :
    state.output (target row column) = source (origin row column) := by
  have inside : width * row + column < width * height := by
    calc width * row + column < width * row + width := by omega
      _ = width * (row + 1) := by ring
      _ ≤ width * height := Nat.mul_le_mul_left width inColumn
  have copy := copied.cells (width * row + column) inside
  rwa [Nat.mul_add_div (by omega), Nat.div_eq_of_lt inRow, Nat.add_zero, Nat.mul_add_mod,
    Nat.mod_eq_of_lt inRow] at copy

omit [DecidableEq Target] in
/-- Every index that was read is the origin of a cell. -/
theorem exists_of_mem_reads {height : Nat} {index : Source} (copied : Copied source width origin
      target (width * height) state) (member : index ∈ state.reads) :
    ∃ row < height, ∃ column < width, index = origin row column := by
  rw [copied.reads] at member
  rcases List.mem_map.mp member with ⟨cell, inside, rfl⟩
  rw [List.mem_range] at inside
  have positive : 0 < width := Nat.pos_of_mul_pos_right (Nat.zero_lt_of_lt inside)
  exact ⟨cell / width, Nat.div_lt_of_lt_mul inside, cell % width, Nat.mod_lt cell positive, rfl⟩

/-- An array that is stored row by row is written in order. -/
theorem writes_rowMajor {base : Nat} {state : CopyState Source Nat Value}
    (copied : Copied source width origin (fun row column => row * width + (column + base)) count
      state) : state.writes = List.range' base count := by
  rw [copied.writes, List.range'_eq_map_range]
  apply List.map_congr_left
  intro cell _
  have number := Nat.div_add_mod cell width
  rw [Nat.mul_comm] at number
  omega

/-! ## Loops over rows and columns -/

/-- The cells of an array of the given width have different indices. -/
def Distinct (width : Nat) (target : Nat → Nat → Target) : Prop :=
  ∀ row column otherRow otherColumn, column < width → otherColumn < width →
    target row column = target otherRow otherColumn → row = otherRow ∧ column = otherColumn

omit [DecidableEq Target] in
theorem Distinct.fresh {row column : Nat} (distinct : Distinct width target)
    (inRow : column < width) :
    ∀ cell < width * row + column, target (cell / width) (cell % width) ≠ target row column := by
  intro cell earlier same
  have positive : 0 < width := by omega
  rcases distinct _ _ _ _ (Nat.mod_lt cell positive) inRow same with ⟨rowOf, columnOf⟩
  have number := Nat.div_add_mod cell width
  rw [rowOf, columnOf] at number
  omega

/-- An array that is stored row by row. -/
theorem Distinct.rowMajor (base : Nat) :
    Distinct width (fun row column => row * width + (column + base)) := by
  intro row column otherRow otherColumn inRow inOther same
  simp only at same
  have number : width * row + column = width * otherRow + otherColumn := by
    rw [Nat.mul_comm width row, Nat.mul_comm width otherRow]
    omega
  have positive : 0 < width := by omega
  have rows := congrArg (· / width) number
  simp only [Nat.mul_add_div positive, Nat.div_eq_of_lt inRow, Nat.div_eq_of_lt inOther,
    Nat.add_zero] at rows
  rw [rows] at number
  exact ⟨rows, Nat.add_left_cancel number⟩

/-- Nested loops that count from one. -/
theorem forRange {height : Nat}
    {body : Nat → Nat → CopyState Source Target Value → CopyState Source Target Value}
    (distinct : Distinct width target)
    (step : ∀ row < height, ∀ column < width, body (row + 1) (column + 1) =
      copyCell source (origin row column) (target row column)) (output : Target → Value) :
    Copied source width origin target (width * height)
      (Loop.forRange height (fun y => Loop.forRange width (body y)) ⟨output, [], []⟩) := by
  refine Loop.forRange_invariant
    (fun row => Copied source width origin target (width * row)) (start output) ?_
  intro row inColumn state before
  refine Loop.forRange_invariant
    (fun column => Copied source width origin target (width * row + column)) before ?_
  intro column inRow state copied
  rw [step row inColumn column inRow]
  exact copied.next inRow (distinct.fresh inRow)

/-- Nested loops with 16-bit counters. -/
theorem countedUInt16 {height : Nat} {narrow : width < 2 ^ 16} {low : height < 2 ^ 16}
    {body : UInt16 → UInt16 → CopyState Source Target Value → CopyState Source Target Value}
    (distinct : Distinct width target)
    (step : ∀ row < height, ∀ column < width, body (UInt16.ofNat row) (UInt16.ofNat column) =
      copyCell source (origin row column) (target row column)) (output : Target → Value) :
    Copied source width origin target (width * height)
      ((Loop.countedUInt16 height low fun y state =>
        ((Loop.countedUInt16 width narrow (body y)).run (0, state)).2).run
          (0, ⟨output, [], []⟩)).2 := by
  refine Loop.countedUInt16_invariant
    (fun row => Copied source width origin target (width * row)) (start output) ?_
  intro row inColumn state before
  refine Loop.countedUInt16_invariant
    (fun column => Copied source width origin target (width * row + column)) before ?_
  intro column inRow state copied
  rw [step row inColumn column inRow]
  exact copied.next inRow (distinct.fresh inRow)

end Copied

end ECam.Library
