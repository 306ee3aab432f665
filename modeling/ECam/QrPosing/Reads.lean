import ECam.QrPosing.Soundness

/-!
# Which pixels the detector reads

The pixels that a pass reads are collected from the states of its loops.  The operator
`&` of the source evaluates both of its operands, so a test for a top pixel reads two
words, and the side line reads one pixel in each iteration.  The indices of the top line
leave the buffer in the first row already, and the side line leaves the picture when it
is white down to the bottom below a slanted top line.
-/

namespace ECam.QrPosing

open ECam.Library

section Reads

variable (settings : Settings) (image : Int → UInt16)

/-! ## Reads of the top line -/

/-- The indices that a test for a top pixel reads. -/
def topPixelReads (row column : Int) : List Int :=
  [row * 240 + column, (row - settings.sTopMargin) * 240 + column]

/-- The indices that one iteration of a top line loop reads; the row below is tested
only if the same row does not go on. -/
def TopLine.reads (x y : Int) (line : TopLine) : List Int :=
  topPixelReads settings (y + line.j) (x + line.i) ++
    if topPixel settings image (y + line.j) (x + line.i) then []
    else topPixelReads settings (line.j + y + 1) (x + line.i)

/-- The indices that a top line from left to right reads. -/
def topLineReadsLeftToRight (x y : Int) : List Int :=
  ((topLineLeftToRight settings image x y).states ⟨1, 0, 1, false⟩).flatMap fun line =>
    if line.i < 240 - x then line.reads settings image x y else []

/-- The indices that a top line from right to left reads. -/
def topLineReadsRightToLeft (x y : Int) : List Int :=
  ((topLineRightToLeft settings image x y).states ⟨-1, 0, -1, false⟩).flatMap fun line =>
    if line.i > 0 - x then line.reads settings image x y else []

/-- The indices that the visit of a pixel reads up to the end of its top line, from
left to right. -/
def visitReadsLeftToRight (y : Int) (cursor : Cursor) : List Int :=
  if cursor.notes.insideLeftToRight cursor.x y then []
  else
    topPixelReads settings y cursor.x ++
      if topPixel settings image y cursor.x then
        topLineReadsLeftToRight settings image cursor.x y
      else
        []

/-- The indices that the visit of a pixel reads up to the end of its top line, from
right to left. -/
def visitReadsRightToLeft (y : Int) (cursor : Cursor) : List Int :=
  if cursor.notes.insideRightToLeft cursor.x y then []
  else
    topPixelReads settings y cursor.x ++
      if topPixel settings image y cursor.x then
        topLineReadsRightToLeft settings image cursor.x y
      else
        []

/-- The indices that the pass from left to right reads for its top lines. -/
def passReadsLeftToRight (notes : Notes) : List Int :=
  ((rows (scanRowLeftToRight settings image)).states ⟨1, notes⟩).flatMap fun row =>
    if row.y < 240 then
      ((rowLeftToRight settings image row.y).states ⟨0, row.notes⟩).flatMap fun cursor =>
        if cursor.x < 240 then visitReadsLeftToRight settings image row.y cursor else []
    else
      []

/-- The indices that the pass from right to left reads for its top lines. -/
def passReadsRightToLeft (notes : Notes) : List Int :=
  ((rows (scanRowRightToLeft settings image)).states ⟨1, notes⟩).flatMap fun row =>
    if row.y < 240 then
      ((rowRightToLeft settings image row.y).states ⟨239, row.notes⟩).flatMap fun cursor =>
        if cursor.x ≥ 0 then visitReadsRightToLeft settings image row.y cursor else []
    else
      []

/-- The indices that the start tests and the top lines of both passes read. -/
def topEdgeReads (l1 : Vector QrCode 5) : List Int :=
  passReadsLeftToRight settings image (resetNotes l1) ++
    passReadsRightToLeft settings image (passLeftToRight settings image (resetNotes l1))

/-- The first test of the first row reads `sTopMargin` rows above it. -/
theorem first_test_read (l1 : Vector QrCode 5) :
    (1 - settings.sTopMargin) * 240 ∈ topEdgeReads settings image l1 := by
  apply List.mem_append_left
  apply List.mem_flatMap.mpr
  refine ⟨⟨1, resetNotes l1⟩, Loop.mem_states_self _ _, ?_⟩
  rw [if_pos (show (1 : Int) < 240 by decide)]
  apply List.mem_flatMap.mpr
  refine ⟨⟨0, resetNotes l1⟩, Loop.mem_states_self _ _, ?_⟩
  rw [if_pos (show (0 : Int) < 240 by decide)]
  simp [visitReadsLeftToRight, resetNotes_outside, topPixelReads]

end Reads

/-- With the settings of `app_main`, the search for top lines reads outside the buffer,
whatever the frame shows. -/
theorem top_edge_reads_outside (frame : Frame) (state : TaskState) :
    ∃ index ∈ topEdgeReads appMainSettings (readWord (frame.map pureWord)) state.l1,
      ¬(0 ≤ index ∧ index < 57600) :=
  ⟨_, first_test_read appMainSettings _ state.l1, by decide⟩

/-- On a black frame the word with index `-960` is read. -/
theorem top_edge_reads_not_inside :
    -960 ∈ topEdgeReads appMainSettings
        (readWord ((pictureFrame fun _ _ => false).map pureWord)) zeroTask.l1 ∧
      ¬∀ index ∈ topEdgeReads appMainSettings
          (readWord ((pictureFrame fun _ _ => false).map pureWord)) zeroTask.l1,
        0 ≤ index ∧ index < 57600 := by
  have read := first_test_read appMainSettings
    (readWord ((pictureFrame fun _ _ => false).map pureWord)) zeroTask.l1
  refine ⟨read, ?_⟩
  intro inside
  exact absurd (inside _ read) (by decide)

/-! ## Reads of the side line -/

section SideReads

variable (settings : Settings) (image : Int → UInt16)

/-- The pixels that a side line reads, by row and column. -/
def sideReads (column y j : Int) : List (Int × Int) :=
  ((sideLine settings image column y j).states ⟨1, 1, false⟩).flatMap fun line =>
    if line.i < 240 - y + j then [(y + j + line.i, column)] else []

/-- The pixels that the side line after a top line from left to right reads. -/
def sideReadsLeftToRight (x y : Int) : List (Int × Int) :=
  let top := tracedTopLeftToRight settings image x y
  sideReads settings image (x + top.dx - settings.sStepback) y top.j

/-- The pixels that the side line after a top line from right to left reads. -/
def sideReadsRightToLeft (x y : Int) : List (Int × Int) :=
  let top := tracedTopRightToLeft settings image x y
  sideReads settings image (x + top.dx + settings.sStepback) y top.j

/-- A pixel of the picture, by row and column. -/
def InPicture (pixel : Int × Int) : Prop :=
  (0 ≤ pixel.1 ∧ pixel.1 ≤ 239) ∧ 0 ≤ pixel.2 ∧ pixel.2 ≤ 239

variable {settings image} {column y j : Int}

/-- In every state of a side line, the rows above the current one are white. -/
theorem sideLine_states :
    ∀ line ∈ (sideLine settings image column y j).states ⟨1, 1, false⟩,
      1 ≤ line.i ∧ ∀ row, y + j < row → row < y + j + line.i →
        white image row column = true := by
  apply Loop.states_invariant
  · intro line next holds continued
    simp only [sideLine] at continued
    split at continued
    next =>
      split at continued
      next whiteAt =>
        cases continued
        refine ⟨by simp only; omega, ?_⟩
        intro row below inside
        by_cases old : row < y + j + line.i
        · exact holds.2 row below old
        · have current : row = y + j + line.i := by
            simp only at inside
            omega
          rw [current]
          exact whiteAt
      next => cases continued
    next => cases continued
  · refine ⟨le_refl 1, ?_⟩
    intro row below inside
    simp only at inside
    omega

/-- Below a column of white pixels, the side line reads the next one if its bound
allows. -/
theorem sideLine_reaches {count : Nat} (inRange : 1 + (count : Int) ≤ 240 - y + j)
    (whites : ∀ row, y + j < row → row ≤ y + j + count → white image row column = true) :
    ∃ line ∈ (sideLine settings image column y j).states ⟨1, 1, false⟩,
      line.i = 1 + (count : Int) := by
  induction count with
  | zero => exact ⟨_, Loop.mem_states_self _ _, rfl⟩
  | succ count ih =>
      push_cast at inRange whites ⊢
      rcases ih (by omega) (fun row below inside => whites row below (by omega)) with
        ⟨line, visited, position⟩
      have whiteAt : white image (y + j + line.i) column = true :=
        whites _ (by omega) (by omega)
      have bound : line.i < 240 - y + j := by omega
      have continued : (sideLine settings image column y j).body line =
          some { i := line.i + 1, dy := line.dy + 1,
                 found := line.found || decide (line.dy + 1 > settings.sMinL) } := by
        simp only [sideLine, bound, if_true, whiteAt]
      refine ⟨_, Loop.mem_states_step visited continued, ?_⟩
      simp only
      omega

/-- A side line in a column of the picture stays in the picture exactly if its top line
did not drop, or a black pixel ends it. -/
theorem sideReads_inside_iff (columnIn : 0 ≤ column ∧ column ≤ 239) (nonneg : 0 ≤ y)
    (dropped : 0 ≤ j) (rowIn : y + j ≤ 239) :
    (∀ pixel ∈ sideReads settings image column y j, InPicture pixel) ↔
      j = 0 ∨ ∃ row, y + j < row ∧ row ≤ 239 ∧ white image row column = false := by
  constructor
  · intro inside
    by_contra neither
    rw [not_or, not_exists] at neither
    have positive : 0 < j := by omega
    have whites : ∀ row, y + j < row → row ≤ y + j + ((239 - y - j).toNat : Int) →
        white image row column = true := by
      intro row below above
      rw [← Bool.not_eq_false]
      intro black
      exact neither.2 row ⟨below, by omega, black⟩
    rcases @sideLine_reaches settings image column y j (239 - y - j).toNat (by omega) whites
      with ⟨line, visited, position⟩
    have read : (y + j + line.i, column) ∈ sideReads settings image column y j := by
      apply List.mem_flatMap.mpr
      refine ⟨line, visited, ?_⟩
      rw [if_pos (by omega)]
      exact List.mem_singleton_self _
    have bottom := (inside _ read).1.2
    simp only at bottom
    omega
  · intro ends pixel read
    rcases List.mem_flatMap.mp read with ⟨line, visited, readHere⟩
    rcases sideLine_states line visited with ⟨positive, whites⟩
    split at readHere
    next bound =>
      rw [List.mem_singleton] at readHere
      rw [readHere]
      refine ⟨?_, columnIn⟩
      simp only
      rcases ends with level | ⟨row, below, inPicture, black⟩
      · omega
      · have notAbove : ¬row < y + j + line.i := by
          intro above
          rw [whites row below above] at black
          cases black
        omega
    next => cases readHere

/-- A top line from left to right and the column of its side line lie in the picture. -/
theorem tracedTopLeftToRight_columns (valid : settings.Valid) {x y : Int}
    (inRow : 0 ≤ x ∧ x < 240) (start : topPixel settings image y x = true)
    (found : (tracedTopLeftToRight settings image x y).found = true) :
    0 ≤ (tracedTopLeftToRight settings image x y).j ∧
      0 ≤ x + (tracedTopLeftToRight settings image x y).dx - settings.sStepback ∧
      x + (tracedTopLeftToRight settings image x y).dx - settings.sStepback ≤ 239 := by
  have stepback := valid.stepback_pos
  have stepbackLe := valid.stepback_le
  rcases tracedTopLeftToRight_traced valid.minL_pos inRow.2 start with
    ⟨row, columns, traced, bound⟩
  have wide := traced.wide found
  have dx_eq := traced.dx_eq
  have dropped := traced.drop_nonneg
  exact ⟨by omega, by omega, by omega⟩

/-- A top line from right to left and the column of its side line lie in the picture. -/
theorem tracedTopRightToLeft_columns (valid : settings.Valid) {x y : Int}
    (inRow : 0 ≤ x ∧ x < 240) (start : topPixel settings image y x = true)
    (found : (tracedTopRightToLeft settings image x y).found = true) :
    0 ≤ (tracedTopRightToLeft settings image x y).j ∧
      0 ≤ x + (tracedTopRightToLeft settings image x y).dx + settings.sStepback ∧
      x + (tracedTopRightToLeft settings image x y).dx + settings.sStepback ≤ 239 := by
  have stepback := valid.stepback_pos
  have stepbackLe := valid.stepback_le
  rcases tracedTopRightToLeft_traced valid.minL_pos inRow.1 start with
    ⟨row, columns, traced, bound⟩
  have wide := traced.wide found
  have dx_eq := traced.dx_eq
  have dropped := traced.drop_nonneg
  exact ⟨by omega, by omega, by omega⟩

variable (image) in
/-- The side line after a found top line stays in the picture exactly if the top line did
not drop or a black pixel ends the side line: the bound `240 - y + j` adds the drop where
it should subtract it. -/
theorem side_reads_inside_iff (valid : settings.Valid) {x y : Int} (inRow : 0 ≤ x ∧ x < 240)
    (nonneg : 0 ≤ y) (start : topPixel settings image y x = true) :
    ((tracedTopLeftToRight settings image x y).found = true →
      y + (tracedTopLeftToRight settings image x y).j ≤ 239 →
      ((∀ pixel ∈ sideReadsLeftToRight settings image x y, InPicture pixel) ↔
        (tracedTopLeftToRight settings image x y).j = 0 ∨
          ∃ row, y + (tracedTopLeftToRight settings image x y).j < row ∧ row ≤ 239 ∧
            white image row (x + (tracedTopLeftToRight settings image x y).dx -
              settings.sStepback) = false)) ∧
    ((tracedTopRightToLeft settings image x y).found = true →
      y + (tracedTopRightToLeft settings image x y).j ≤ 239 →
      ((∀ pixel ∈ sideReadsRightToLeft settings image x y, InPicture pixel) ↔
        (tracedTopRightToLeft settings image x y).j = 0 ∨
          ∃ row, y + (tracedTopRightToLeft settings image x y).j < row ∧ row ≤ 239 ∧
            white image row (x + (tracedTopRightToLeft settings image x y).dx +
              settings.sStepback) = false)) := by
  constructor
  · intro found usedRows
    rcases tracedTopLeftToRight_columns valid inRow start found with ⟨dropped, columnIn⟩
    exact sideReads_inside_iff columnIn nonneg dropped usedRows
  · intro found usedRows
    rcases tracedTopRightToLeft_columns valid inRow start found with ⟨dropped, columnIn⟩
    exact sideReads_inside_iff columnIn nonneg dropped usedRows

end SideReads

/-- A top line that drops by one row, above a column that is white down to the bottom. -/
def stairs (row column : Int) : Bool :=
  decide (row = 1 ∧ column = 0) || decide (2 ≤ row ∧ column = 1)

/-- The equivalence at the upper end of the stairs. -/
theorem side_reads_inside_iff_stairs :
    (∀ pixel ∈ sideReadsLeftToRight leastSettings (pictureWord stairs) 0 1, InPicture pixel) ↔
      (tracedTopLeftToRight leastSettings (pictureWord stairs) 0 1).j = 0 ∨
        ∃ row, 1 + (tracedTopLeftToRight leastSettings (pictureWord stairs) 0 1).j < row ∧
          row ≤ 239 ∧
          white (pictureWord stairs) row
            (0 + (tracedTopLeftToRight leastSettings (pictureWord stairs) 0 1).dx -
              leastSettings.sStepback) = false :=
  (side_reads_inside_iff (pictureWord stairs) leastSettings_valid (by decide) (by decide)
    (by decide)).1 (by decide) (by decide)

/-- In the first pixel that it visits on the stairs, the pass from left to right finds a
top line in rows `1` and `2`, and the side line reads row `240`. -/
theorem side_reads_not_inside :
    topPixel leastSettings (readWord ((pictureFrame stairs).map pureWord)) 1 0 = true ∧
      (resetNotes zeroTask.l1).insideLeftToRight 0 1 = false ∧
      tracedTopLeftToRight leastSettings (readWord ((pictureFrame stairs).map pureWord)) 0 1 =
        ⟨2, 1, 2, true⟩ ∧
      ¬∀ pixel ∈ sideReadsLeftToRight leastSettings
          (readWord ((pictureFrame stairs).map pureWord)) 0 1, InPicture pixel := by
  rw [readWord_pictureFrame]
  have top : tracedTopLeftToRight leastSettings (pictureWord stairs) 0 1 = ⟨2, 1, 2, true⟩ := by
    decide
  refine ⟨by decide, resetNotes_outside zeroTask.l1 0 1, top, ?_⟩
  rw [sideReadsLeftToRight, top,
    sideReads_inside_iff (by decide) (by decide) (by decide) (by decide)]
  rintro (level | ⟨row, below, inPicture, black⟩)
  · exact absurd level (by decide)
  · have inRange : (0 : Int) ≤ row ∧ row < 240 := by
      simp only at below
      omega
    have shown : stairs row (0 + 2 - leastSettings.sStepback) = true := by
      simp only [stairs, Bool.or_eq_true, decide_eq_true_eq]
      right
      simp only at below
      exact ⟨by omega, rfl⟩
    rw [white_pictureWord stairs (by decide) (by decide), shown, decide_eq_true inRange] at black
    cases black

end ECam.QrPosing
