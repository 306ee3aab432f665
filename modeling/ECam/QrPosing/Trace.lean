import ECam.QrPosing.Detector

/-!
# What the traces of the detector find

A top line that has been traced over some columns is a staircase of top pixels, going
down by at most one row from column to column.  A side line that has been traced over
some rows is a column of white pixels.  Both facts are invariants of the trace loops,
for either direction of the top line.
-/

namespace ECam.QrPosing

open ECam.Library

variable {settings : Settings} {image : Int → UInt16}

/-! ## Pixels -/

/-- A pixel of the converted picture is white if its word is bright. -/
theorem white_readWord (frame : Frame) (row column : Int) :
    white (readWord (frame.map pureWord)) row column = true ↔
      ∃ inBounds : 0 ≤ row * 240 + column ∧ row * 240 + column < 57600,
        isBright (frame.get ⟨(row * 240 + column).toNat, by omega⟩) = true := by
  unfold white readWord
  split
  next inBounds =>
    have word : (frame.map pureWord).get ⟨(row * 240 + column).toNat, by omega⟩ =
        pureWord (frame.get ⟨(row * 240 + column).toNat, by omega⟩) := by
      simp [Vector.get]
    rw [word, pureWord_ne_zero]
    exact ⟨fun bright => ⟨inBounds, bright⟩, fun bright => bright.2⟩
  next outside =>
    constructor
    · intro contradiction
      cases contradiction
    · rintro ⟨inBounds, _⟩
      exact absurd inBounds outside

/-- The pixel of a frame in a row and a column; outside the frame it is black. -/
def pixel (frame : Frame) (row column : Int) : Bool :=
  if inFrame : (0 ≤ row ∧ row < 240) ∧ 0 ≤ column ∧ column < 240 then
    isBright (frame.get ⟨(row * 240 + column).toNat, by omega⟩)
  else
    false

/-- Within the columns of the picture, reading the buffer is reading a pixel. -/
theorem white_eq_pixel (frame : Frame) {row column : Int} (nonneg : 0 ≤ column)
    (inRow : column < 240) :
    white (readWord (frame.map pureWord)) row column = pixel frame row column := by
  rw [Bool.eq_iff_iff, white_readWord]
  unfold pixel
  split
  next inFrame => exact ⟨fun found => found.2, fun bright => ⟨by omega, bright⟩⟩
  next outside =>
    constructor
    · rintro ⟨inBounds, _⟩
      exact absurd (by omega) outside
    · intro contradiction
      cases contradiction

/-- The pixels of a frame that shows a picture. -/
theorem white_pictureWord (picture : Int → Int → Bool) {row column : Int}
    (nonneg : 0 ≤ column) (inRow : column < 240) :
    white (pictureWord picture) row column =
      (decide (0 ≤ row ∧ row < 240) && picture row column) := by
  have rowEq : (row * 240 + column) / 240 = row := by omega
  have columnEq : (row * 240 + column) % 240 = column := by omega
  have bounds : (0 ≤ row * 240 + column ∧ row * 240 + column < 57600) ↔
      0 ≤ row ∧ row < 240 := by omega
  simp only [white, pictureWord, rowEq, columnEq, ← and_assoc, bounds]
  split
  next shown =>
    rw [shown.2, decide_eq_true shown.1]
    rfl
  next hidden =>
    by_cases inRange : 0 ≤ row ∧ row < 240
    · have black : picture row column = false := by
        rw [← Bool.not_eq_true]
        exact fun shown => hidden ⟨inRange, shown⟩
      rw [black, Bool.and_false]
      rfl
    · rw [decide_eq_false inRange]
      rfl

/-- Settings with a margin, and a stepback that stays within the shortest side. -/
structure Settings.Valid (settings : Settings) : Prop where
  margin_pos : 1 ≤ settings.sTopMargin
  stepback_pos : 1 ≤ settings.sStepback
  stepback_le : settings.sStepback ≤ settings.sMinL

theorem Settings.Valid.minL_pos {settings : Settings} (valid : settings.Valid) :
    1 ≤ settings.sMinL :=
  valid.stepback_pos.trans valid.stepback_le

/-! ## Top lines -/

/-- A top line over the given number of columns, with the row it has in each. -/
structure TopLine.Traced (settings : Settings) (image : Int → UInt16) (e x y : Int)
    (row : Nat → Int) (columns : Nat) (line : TopLine) : Prop where
  columns_pos : 0 < columns
  start : row 0 = y
  steps : ∀ column, column + 1 < columns →
    row (column + 1) = row column ∨ row (column + 1) = row column + 1
  top : ∀ column < columns, topPixel settings image (row column) (x + e * column) = true
  last : row (columns - 1) = y + line.j
  i_eq : line.i = e * columns
  dx_eq : line.dx = e * columns
  found_eq : line.found = decide (settings.sMinL < columns)

/-- A top line that is found has more columns than required. -/
theorem TopLine.Traced.wide {e x y : Int} {row : Nat → Int} {columns : Nat} {line : TopLine}
    (traced : line.Traced settings image e x y row columns) (found : line.found = true) :
    settings.sMinL < columns := by
  simpa [traced.found_eq] using found

/-- A staircase never goes up. -/
theorem TopLine.Traced.start_le {e x y : Int} {row : Nat → Int} {columns : Nat}
    {line : TopLine} (traced : line.Traced settings image e x y row columns) {column : Nat}
    (inside : column < columns) : y ≤ row column := by
  induction column with
  | zero => exact le_of_eq traced.start.symm
  | succ column ih =>
      have before := ih (by omega)
      rcases traced.steps column inside with same | down <;> omega

theorem TopLine.Traced.drop_nonneg {e x y : Int} {row : Nat → Int} {columns : Nat}
    {line : TopLine} (traced : line.Traced settings image e x y row columns) :
    0 ≤ line.j := by
  have last := traced.start_le (Nat.sub_lt traced.columns_pos Nat.one_pos)
  rw [traced.last] at last
  omega

/-- The state in which the top line loops start. -/
theorem TopLine.traced_start {e x y : Int} (minL : 1 ≤ settings.sMinL)
    (start : topPixel settings image y x = true) :
    TopLine.Traced settings image e x y (fun _ => y) 1 ⟨e, 0, e, false⟩ where
  columns_pos := Nat.one_pos
  start := rfl
  steps := fun _ _ => Or.inl rfl
  top := by
    intro column below
    have first : column = 0 := by omega
    simpa [first] using start
  last := (Int.add_zero y).symm
  i_eq := (Int.mul_one e).symm
  dx_eq := (Int.mul_one e).symm
  found_eq := by
    simpa using minL

/-- One iteration of a top line loop appends one column to the staircase. -/
theorem TopLine.Traced.extend {e x y : Int} {long : Int → Bool} {row : Nat → Int}
    {columns : Nat} {line next : TopLine}
    (traced : line.Traced settings image e x y row columns)
    (longEnough : ∀ count : Nat, long (e * count) = decide (settings.sMinL < count))
    (extended : line.extend settings image e long x y = some next) :
    ∃ later, next.Traced settings image e x y later (columns + 1) := by
  rcases TopLine.extend_some extended with ⟨i_eq, dx_eq, found_eq, down, top⟩
  have pos := traced.columns_pos
  refine ⟨fun column => if column < columns then row column else y + next.j, ?_⟩
  constructor
  · exact Nat.succ_pos _
  · rw [if_pos pos]
    exact traced.start
  · intro column below
    have inside : column < columns := by omega
    rw [if_pos inside]
    split
    next => exact traced.steps column ‹_›
    next atEnd =>
      have lastColumn : column = columns - 1 := by omega
      rw [lastColumn, traced.last]
      omega
  · intro column below
    split
    next inside => exact traced.top column inside
    next atEnd =>
      have newColumn : column = columns := by omega
      rw [newColumn, ← traced.i_eq]
      exact top
  · simp
  · rw [i_eq, traced.i_eq]
    push_cast
    ring
  · rw [dx_eq, traced.dx_eq]
    push_cast
    ring
  · have length : line.dx + e = e * ((columns + 1 : Nat) : Int) := by
      rw [traced.dx_eq]
      push_cast
      ring
    rw [found_eq, traced.found_eq, length, longEnough, Bool.eq_iff_iff]
    simp only [Bool.or_eq_true, decide_eq_true_eq]
    push_cast
    omega

/-- The top line from a pixel of the picture, from left to right. -/
theorem tracedTopLeftToRight_traced {x y : Int} (minL : 1 ≤ settings.sMinL) (inRow : x < 240)
    (start : topPixel settings image y x = true) :
    ∃ row columns, (tracedTopLeftToRight settings image x y).Traced settings image 1 x y
      row columns ∧ x + columns ≤ 240 := by
  have kept : ∀ line next : TopLine,
      (∃ row columns, line.Traced settings image 1 x y row columns ∧ x + columns ≤ 240) →
      (topLineLeftToRight settings image x y).body line = some next →
      ∃ row columns, next.Traced settings image 1 x y row columns ∧ x + columns ≤ 240 := by
    rintro line next ⟨row, columns, traced, bound⟩ continued
    simp only [topLineLeftToRight] at continued
    split at continued
    next below =>
      have longEnough : ∀ count : Nat,
          decide (1 * (count : Int) > settings.sMinL) = decide (settings.sMinL < count) := by
        simp
      rcases traced.extend longEnough continued with ⟨later, extended⟩
      have i_eq := traced.i_eq
      refine ⟨later, columns + 1, extended, ?_⟩
      push_cast
      omega
    next => cases continued
  have initially : ∃ row columns,
      (⟨1, 0, 1, false⟩ : TopLine).Traced settings image 1 x y row columns ∧
        x + columns ≤ 240 :=
    ⟨_, 1, TopLine.traced_start minL start, by push_cast; omega⟩
  exact Loop.run_invariant kept initially

/-- The top line from a pixel of the picture, from right to left; it stays in
positive columns after its first one. -/
theorem tracedTopRightToLeft_traced {x y : Int} (minL : 1 ≤ settings.sMinL) (inRow : 0 ≤ x)
    (start : topPixel settings image y x = true) :
    ∃ row columns, (tracedTopRightToLeft settings image x y).Traced settings image (-1) x y
      row columns ∧ columns ≤ x + 1 := by
  have kept : ∀ line next : TopLine,
      (∃ row columns, line.Traced settings image (-1) x y row columns ∧ columns ≤ x + 1) →
      (topLineRightToLeft settings image x y).body line = some next →
      ∃ row columns, next.Traced settings image (-1) x y row columns ∧ columns ≤ x + 1 := by
    rintro line next ⟨row, columns, traced, bound⟩ continued
    simp only [topLineRightToLeft] at continued
    split at continued
    next below =>
      have longEnough : ∀ count : Nat,
          decide (-1 * (count : Int) < -settings.sMinL) = decide (settings.sMinL < count) := by
        simp
      rcases traced.extend longEnough continued with ⟨later, extended⟩
      have i_eq := traced.i_eq
      refine ⟨later, columns + 1, extended, ?_⟩
      push_cast
      omega
    next => cases continued
  have initially : ∃ row columns,
      (⟨-1, 0, -1, false⟩ : TopLine).Traced settings image (-1) x y row columns ∧
        columns ≤ x + 1 :=
    ⟨_, 1, TopLine.traced_start minL start, by push_cast; omega⟩
  exact Loop.run_invariant kept initially

/-! ## Side lines -/

/-- A side line over the given number of rows; the first one belongs to the top line. -/
structure SideLine.Traced (settings : Settings) (image : Int → UInt16) (column y j : Int)
    (count : Nat) (line : SideLine) : Prop where
  count_pos : 0 < count
  side : ∀ row : Nat, 0 < row → row < count → white image (y + j + row) column = true
  i_eq : line.i = count
  dy_eq : line.dy = count
  found_eq : line.found = decide (settings.sMinL < count)

/-- A side line that is found has more rows than required. -/
theorem SideLine.Traced.high {column y j : Int} {count : Nat} {line : SideLine}
    (traced : line.Traced settings image column y j count) (found : line.found = true) :
    settings.sMinL < count := by
  simpa [traced.found_eq] using found

theorem sideLine_traced (column y j : Int) (minL : 1 ≤ settings.sMinL) :
    ∃ count, ((sideLine settings image column y j).run ⟨1, 1, false⟩).Traced settings image
      column y j count := by
  have kept : ∀ line next : SideLine,
      (∃ count, line.Traced settings image column y j count) →
      (sideLine settings image column y j).body line = some next →
      ∃ count, next.Traced settings image column y j count := by
    rintro line next ⟨count, traced⟩ continued
    simp only [sideLine] at continued
    split at continued
    next =>
      split at continued
      next below =>
        cases continued
        refine ⟨count + 1, Nat.succ_pos _, ?_, ?_, ?_, ?_⟩
        · intro row pos inside
          by_cases old : row < count
          · exact traced.side row pos old
          · have new : row = count := by omega
            rw [new, ← traced.i_eq]
            exact below
        · simp [traced.i_eq]
        · simp [traced.dy_eq]
        · rw [Bool.eq_iff_iff]
          simp only [traced.found_eq, traced.dy_eq, Bool.or_eq_true, decide_eq_true_eq]
          push_cast
          omega
      next => cases continued
    next => cases continued
  have initially : ∃ count,
      (⟨1, 1, false⟩ : SideLine).Traced settings image column y j count := by
    refine ⟨1, Nat.one_pos, ?_, rfl, rfl, ?_⟩
    · intro row pos below
      omega
    · simpa using minL
  exact Loop.run_invariant kept initially

/-! ## Pixels, rows and passes that note nothing -/

/-- A pixel inside a noted area, or that does not start a top line, is passed over. -/
theorem visitLeftToRight_skip {x y : Int} {notes : Notes}
    (skipped : notes.insideLeftToRight x y = true ∨ topPixel settings image y x = false) :
    visitLeftToRight settings image y ⟨x, notes⟩ = ⟨x + 1, notes⟩ := by
  have test : (!notes.insideLeftToRight x y && topPixel settings image y x) = false := by
    rcases skipped with inside | noTop
    · rw [inside, Bool.not_true, Bool.false_and]
    · rw [noTop, Bool.and_false]
  simp only [visitLeftToRight, test, Bool.false_eq_true, if_false]

theorem visitRightToLeft_skip {x y : Int} {notes : Notes}
    (skipped : notes.insideRightToLeft x y = true ∨ topPixel settings image y x = false) :
    visitRightToLeft settings image y ⟨x, notes⟩ = ⟨x - 1, notes⟩ := by
  have test : (!notes.insideRightToLeft x y && topPixel settings image y x) = false := by
    rcases skipped with inside | noTop
    · rw [inside, Bool.not_true, Bool.false_and]
    · rw [noTop, Bool.and_false]
  simp only [visitRightToLeft, test, Bool.false_eq_true, if_false]

theorem rowLeftToRight_quiet {y start : Int} {notes : Notes}
    (quiet : ∀ x, start ≤ x → x < 240 →
      (visitLeftToRight settings image y ⟨x, notes⟩).notes = notes) :
    ((rowLeftToRight settings image y).run ⟨start, notes⟩).notes = notes := by
  have kept : ∀ cursor next : Cursor, start ≤ cursor.x ∧ cursor.notes = notes →
      (rowLeftToRight settings image y).body cursor = some next →
      start ≤ next.x ∧ next.notes = notes := by
    rintro ⟨x, current⟩ next ⟨position, same⟩ continued
    change current = notes at same
    subst same
    simp only [rowLeftToRight] at continued
    split at continued
    next inRow =>
      cases continued
      have moved := lt_visitLeftToRight_x settings image y ⟨x, current⟩
      refine ⟨?_, quiet x position inRow⟩
      simp only at moved position
      omega
    next => cases continued
  have initially : start ≤ (⟨start, notes⟩ : Cursor).x ∧
      (⟨start, notes⟩ : Cursor).notes = notes := ⟨le_refl _, rfl⟩
  exact (Loop.run_invariant kept initially).2

theorem rowRightToLeft_quiet {y start : Int} {notes : Notes}
    (quiet : ∀ x, 0 ≤ x → x ≤ start →
      (visitRightToLeft settings image y ⟨x, notes⟩).notes = notes) :
    ((rowRightToLeft settings image y).run ⟨start, notes⟩).notes = notes := by
  have kept : ∀ cursor next : Cursor, cursor.x ≤ start ∧ cursor.notes = notes →
      (rowRightToLeft settings image y).body cursor = some next →
      next.x ≤ start ∧ next.notes = notes := by
    rintro ⟨x, current⟩ next ⟨position, same⟩ continued
    change current = notes at same
    subst same
    simp only [rowRightToLeft] at continued
    split at continued
    next inRow =>
      cases continued
      have moved := visitRightToLeft_x_lt settings image y ⟨x, current⟩
      refine ⟨?_, quiet x inRow position⟩
      simp only at moved position
      omega
    next => cases continued
  have initially : (⟨start, notes⟩ : Cursor).x ≤ start ∧
      (⟨start, notes⟩ : Cursor).notes = notes := ⟨le_refl _, rfl⟩
  exact (Loop.run_invariant kept initially).2

theorem rows_quiet {row : Int → Notes → Notes} {start : Int} {notes : Notes}
    (quiet : ∀ y, start ≤ y → y < 240 → row y notes = notes) :
    ((rows row).run ⟨start, notes⟩).notes = notes := by
  have kept : ∀ cursor next : RowCursor, start ≤ cursor.y ∧ cursor.notes = notes →
      (rows row).body cursor = some next → start ≤ next.y ∧ next.notes = notes := by
    rintro ⟨y, _⟩ next ⟨position, rfl⟩ continued
    simp only [rows] at continued
    split at continued
    next inRange =>
      cases continued
      refine ⟨?_, quiet y position inRange⟩
      simp only at position ⊢
      omega
    next => cases continued
  have initially : start ≤ (⟨start, notes⟩ : RowCursor).y ∧
      (⟨start, notes⟩ : RowCursor).notes = notes := ⟨le_refl _, rfl⟩
  exact (Loop.run_invariant kept initially).2

/-! ## Skipping pixels and rows -/

/-- Pixels that are passed over may be skipped, also beyond the end of the row. -/
theorem rowLeftToRight_skip {y start stop : Int} {notes : Notes} (ordered : start ≤ stop)
    (skipped : ∀ x, start ≤ x → x < stop → x < 240 →
      notes.insideLeftToRight x y = true ∨ topPixel settings image y x = false) :
    ((rowLeftToRight settings image y).run ⟨start, notes⟩).notes =
      ((rowLeftToRight settings image y).run ⟨stop, notes⟩).notes := by
  induction size : (stop - start).toNat generalizing start with
  | zero =>
      have same : start = stop := by omega
      rw [same]
  | succ size ih =>
      by_cases inRow : start < 240
      · have continued : (rowLeftToRight settings image y).body ⟨start, notes⟩ =
            some ⟨start + 1, notes⟩ := by
          simp only [rowLeftToRight, if_pos inRow]
          rw [visitLeftToRight_skip (skipped start (le_refl _) (by omega) inRow)]
        rw [Loop.run_of_some continued]
        exact ih (by omega) (fun x above => skipped x (by omega)) (by omega)
      · rw [Loop.run_of_none (by simp only [rowLeftToRight, if_neg inRow]),
          Loop.run_of_none (by simp only [rowLeftToRight]; rw [if_neg (by omega)])]

theorem rowRightToLeft_skip {y start stop : Int} {notes : Notes} (ordered : stop ≤ start)
    (skipped : ∀ x, x ≤ start → stop < x → 0 ≤ x →
      notes.insideRightToLeft x y = true ∨ topPixel settings image y x = false) :
    ((rowRightToLeft settings image y).run ⟨start, notes⟩).notes =
      ((rowRightToLeft settings image y).run ⟨stop, notes⟩).notes := by
  induction size : (start - stop).toNat generalizing start with
  | zero =>
      have same : start = stop := by omega
      rw [same]
  | succ size ih =>
      by_cases inRow : start ≥ 0
      · have continued : (rowRightToLeft settings image y).body ⟨start, notes⟩ =
            some ⟨start - 1, notes⟩ := by
          simp only [rowRightToLeft, if_pos inRow]
          rw [visitRightToLeft_skip (skipped start (le_refl _) (by omega) inRow)]
        rw [Loop.run_of_some continued]
        exact ih (by omega) (fun x above => skipped x (by omega)) (by omega)
      · rw [Loop.run_of_none (by simp only [rowRightToLeft, if_neg inRow]),
          Loop.run_of_none (by simp only [rowRightToLeft]; rw [if_neg (by omega)])]

theorem rows_skip {row : Int → Notes → Notes} {start stop : Int} {notes : Notes}
    (ordered : start ≤ stop)
    (skipped : ∀ y, start ≤ y → y < stop → y < 240 → row y notes = notes) :
    ((rows row).run ⟨start, notes⟩).notes = ((rows row).run ⟨stop, notes⟩).notes := by
  induction size : (stop - start).toNat generalizing start with
  | zero =>
      have same : start = stop := by omega
      rw [same]
  | succ size ih =>
      by_cases inRange : start < 240
      · have continued : (rows row).body ⟨start, notes⟩ = some ⟨start + 1, notes⟩ := by
          simp only [rows, if_pos inRange]
          rw [skipped start (le_refl _) (by omega) inRange]
        rw [Loop.run_of_some continued]
        exact ih (by omega) (fun y above => skipped y (by omega)) (by omega)
      · rw [Loop.run_of_none (by simp only [rows, if_neg inRange]),
          Loop.run_of_none (by simp only [rows]; rw [if_neg (by omega)])]

/-! ## Straight lines -/

/-- The flag of a trace over one more column or row. -/
theorem found_succ (settings : Settings) (count : Nat) :
    (decide (settings.sMinL < (count : Int) + 1) ||
        decide ((count : Int) + 1 + 1 > settings.sMinL)) =
      decide (settings.sMinL < ((count + 1 : Nat) : Int) + 1) := by
  rw [Bool.eq_iff_iff]
  simp only [Bool.or_eq_true, decide_eq_true_eq]
  push_cast
  omega

/-- The top line along a row of top pixels that ends at the border or at a column with no
top pixel. -/
theorem tracedTopLeftToRight_row (minL : 1 ≤ settings.sMinL) {x y w : Int} (positive : 1 ≤ w)
    (bound : x + w ≤ 240)
    (top : ∀ column, x ≤ column → column < x + w → topPixel settings image y column = true)
    (sameRow : x + w < 240 → topPixel settings image y (x + w) = false)
    (nextRow : x + w < 240 → topPixel settings image (y + 1) (x + w) = false) :
    tracedTopLeftToRight settings image x y = ⟨w, 0, w, decide (settings.sMinL < w)⟩ := by
  let states : Nat → TopLine := fun count =>
    ⟨count + 1, 0, count + 1, decide (settings.sMinL < (count : Int) + 1)⟩
  have steps : ∀ count < (w - 1).toNat,
      (topLineLeftToRight settings image x y).body (states count) =
        some (states (count + 1)) := by
    intro count below
    have inRow : (count : Int) + 1 < 240 - x := by omega
    have topAt : topPixel settings image (y + 0) (x + (count + 1)) = true := by
      rw [Int.add_zero]
      exact top _ (by omega) (by omega)
    simp only [topLineLeftToRight, states, inRow, if_true, TopLine.extend, topAt, found_succ]
    push_cast
    rfl
  have ended : (topLineLeftToRight settings image x y).body
      ⟨w, 0, w, decide (settings.sMinL < w)⟩ = none := by
    simp only [topLineLeftToRight]
    split
    next inRow =>
      have behind : x + w < 240 := by omega
      have below : 0 + y + 1 = y + 1 := by ring
      simp only [TopLine.extend, Int.add_zero, below, sameRow behind, nextRow behind,
        Bool.false_eq_true, if_false]
    next => rfl
  have start : states 0 = ⟨1, 0, 1, false⟩ := by
    have least : 0 < settings.sMinL := by omega
    simpa [states] using least
  have final : states (w - 1).toNat = ⟨w, 0, w, decide (settings.sMinL < w)⟩ := by
    have count : (((w - 1).toNat : Nat) : Int) + 1 = w := by omega
    simp only [states, count]
  rw [tracedTopLeftToRight, ← start, Loop.run_skip states _ steps, final,
    Loop.run_of_none ended]

/-- The side line along a column of white pixels that ends at a black one. -/
theorem sideLine_column (minL : 1 ≤ settings.sMinL) {column y h : Int} (positive : 1 ≤ h)
    (bound : y + h ≤ 240)
    (inside : ∀ row, y < row → row < y + h → white image row column = true)
    (below : white image (y + h) column = false) :
    (sideLine settings image column y 0).run ⟨1, 1, false⟩ =
      ⟨h, h, decide (settings.sMinL < h)⟩ := by
  let states : Nat → SideLine := fun count =>
    ⟨count + 1, count + 1, decide (settings.sMinL < (count : Int) + 1)⟩
  have steps : ∀ count < (h - 1).toNat,
      (sideLine settings image column y 0).body (states count) = some (states (count + 1)) := by
    intro count under
    have inRange : (count : Int) + 1 < 240 - y + 0 := by omega
    have whiteAt : white image (y + 0 + (count + 1)) column = true :=
      inside _ (by omega) (by omega)
    simp only [sideLine, states, inRange, if_true, whiteAt, found_succ]
    push_cast
    rfl
  have ended : (sideLine settings image column y 0).body
      ⟨h, h, decide (settings.sMinL < h)⟩ = none := by
    simp only [sideLine, Int.add_zero, below, Bool.false_eq_true, if_false, ite_self]
  have start : states 0 = ⟨1, 1, false⟩ := by
    have least : 0 < settings.sMinL := by omega
    simpa [states] using least
  have final : states (h - 1).toNat = ⟨h, h, decide (settings.sMinL < h)⟩ := by
    have count : (((h - 1).toNat : Nat) : Int) + 1 = h := by omega
    simp only [states, count]
  rw [← start, Loop.run_skip states _ steps, final, Loop.run_of_none ended]

end ECam.QrPosing
