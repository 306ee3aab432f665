import ECam.QrPosing.Soundness

/-!
# Traces in the shifted picture

If all white pixels stay away from the first row and the first column, the bounds of the
trace loops do not matter: a line that meets the border in one picture meets a black
pixel in the other one.
-/

namespace ECam.QrPosing

open ECam.Library

/-- One picture is the other one shifted by `dc` columns and `dr` rows, and no white pixel
of either lies outside rows and columns `1` to `239`. -/
structure Moved (picture shifted : Int → Int → Bool) (dc dr : Int) : Prop where
  pixels : ∀ row column, shifted (row + dr) (column + dc) = picture row column
  inside : ∀ row column, picture row column = true →
    (1 ≤ row ∧ row ≤ 239) ∧ 1 ≤ column ∧ column ≤ 239
  shiftedInside : ∀ row column, shifted row column = true →
    (1 ≤ row ∧ row ≤ 239) ∧ 1 ≤ column ∧ column ≤ 239

theorem Moved.symm {picture shifted : Int → Int → Bool} {dc dr : Int}
    (moved : Moved picture shifted dc dr) : Moved shifted picture (-dc) (-dr) where
  pixels := by
    intro row column
    have same := moved.pixels (row + -dr) (column + -dc)
    rw [Int.neg_add_cancel_right, Int.neg_add_cancel_right] at same
    exact same.symm
  inside := moved.shiftedInside
  shiftedInside := moved.inside

section Traces

variable {settings : Settings} {picture shifted : Int → Int → Bool} {dc dr : Int}
  {image other : Int → UInt16}

/-! ## Pixels -/

theorem Moved.white_eq (moved : Moved picture shifted dc dr) (shows : Shows image picture)
    (otherShows : Shows other shifted) {row column : Int} (inRow : 0 ≤ column ∧ column < 240)
    (shiftedIn : 0 ≤ column + dc ∧ column + dc < 240) :
    white other (row + dr) (column + dc) = white image row column := by
  rw [shows row column inRow.1 inRow.2, otherShows _ _ shiftedIn.1 shiftedIn.2, moved.pixels]

theorem Moved.of_white (moved : Moved picture shifted dc dr) (shows : Shows image picture)
    {row column : Int} (inRow : 0 ≤ column ∧ column < 240)
    (whiteAt : white image row column = true) :
    ((1 ≤ row ∧ row ≤ 239) ∧ 1 ≤ column ∧ column ≤ 239) ∧
      (1 ≤ row + dr ∧ row + dr ≤ 239) ∧ 1 ≤ column + dc ∧ column + dc ≤ 239 := by
  rw [shows row column inRow.1 inRow.2] at whiteAt
  refine ⟨moved.inside row column whiteAt, ?_⟩
  rw [← moved.pixels] at whiteAt
  exact moved.shiftedInside _ _ whiteAt

theorem Moved.topPixel_eq (moved : Moved picture shifted dc dr) (shows : Shows image picture)
    (otherShows : Shows other shifted) {row column : Int} (inRow : 0 ≤ column ∧ column < 240)
    (shiftedIn : 0 ≤ column + dc ∧ column + dc < 240) :
    topPixel settings other (row + dr) (column + dc) = topPixel settings image row column := by
  have above : row + dr - settings.sTopMargin = row - settings.sTopMargin + dr := by ring
  rw [topPixel, topPixel, above, moved.white_eq shows otherShows inRow shiftedIn,
    moved.white_eq shows otherShows inRow shiftedIn]

/-- A top pixel lies in both pictures. -/
theorem Moved.of_topPixel (moved : Moved picture shifted dc dr) (shows : Shows image picture)
    {row column : Int} (inRow : 0 ≤ column ∧ column < 240)
    (top : topPixel settings image row column = true) :
    ((1 ≤ row ∧ row ≤ 239) ∧ 1 ≤ column ∧ column ≤ 239) ∧
      (1 ≤ row + dr ∧ row + dr ≤ 239) ∧ 1 ≤ column + dc ∧ column + dc ≤ 239 := by
  rw [topPixel, Bool.and_eq_true] at top
  exact moved.of_white shows inRow top.1

/-- In a column that leaves the picture when it is shifted there is no top pixel. -/
theorem Moved.topPixel_lost (moved : Moved picture shifted dc dr) (shows : Shows image picture)
    {row column : Int} (inRow : 0 ≤ column ∧ column < 240)
    (lost : ¬(1 ≤ column + dc ∧ column + dc ≤ 239)) :
    topPixel settings image row column = false := by
  rw [← Bool.not_eq_true]
  intro top
  exact lost (moved.of_topPixel shows inRow top).2.2

/-! ## Top lines -/

/-- What the body of a top line loop does is determined by two tests. -/
theorem TopLine.extend_congr {e x y x' y' : Int} {long : Int → Bool} {line : TopLine}
    (same : topPixel settings other (y' + line.j) (x' + line.i) =
      topPixel settings image (y + line.j) (x + line.i))
    (below : topPixel settings other (line.j + y' + 1) (x' + line.i) =
      topPixel settings image (line.j + y + 1) (x + line.i)) :
    line.extend settings other e long x' y' = line.extend settings image e long x y := by
  rw [TopLine.extend, TopLine.extend, same, below]

theorem TopLine.extend_none {e x y : Int} {long : Int → Bool} {line : TopLine}
    (black : ∀ row, topPixel settings image row (x + line.i) = false) :
    line.extend settings image e long x y = none := by
  rw [TopLine.extend, black, black]
  rfl

/-- Top lines are the same in both pictures: where only one of the loops is stopped by
the border, the other one meets a black column. -/
theorem Moved.extend_eq (moved : Moved picture shifted dc dr) (shows : Shows image picture)
    (otherShows : Shows other shifted) {e x y : Int} {long : Int → Bool} {line : TopLine}
    (inRow : 0 ≤ x + line.i ∧ x + line.i < 240)
    (shiftedIn : 0 ≤ x + dc + line.i ∧ x + dc + line.i < 240) :
    line.extend settings other e long (x + dc) (y + dr) =
      line.extend settings image e long x y := by
  have column : x + dc + line.i = x + line.i + dc := by ring
  rw [column] at shiftedIn
  apply TopLine.extend_congr
  · have row : y + dr + line.j = y + line.j + dr := by ring
    rw [row, column, moved.topPixel_eq shows otherShows inRow shiftedIn]
  · have row : line.j + (y + dr) + 1 = line.j + y + 1 + dr := by ring
    rw [row, column, moved.topPixel_eq shows otherShows inRow shiftedIn]

theorem Moved.extend_lost (moved : Moved picture shifted dc dr) (shows : Shows image picture)
    {e x y : Int} {long : Int → Bool} {line : TopLine}
    (inRow : 0 ≤ x + line.i ∧ x + line.i < 240)
    (lost : ¬(1 ≤ x + line.i + dc ∧ x + line.i + dc ≤ 239)) :
    line.extend settings image e long x y = none :=
  TopLine.extend_none fun _ => moved.topPixel_lost shows inRow lost

theorem Moved.tracedTopLeftToRight_eq (moved : Moved picture shifted dc dr)
    (shows : Shows image picture) (otherShows : Shows other shifted) {x y : Int}
    (nonneg : 0 ≤ x) (shiftedNonneg : 0 ≤ x + dc) :
    tracedTopLeftToRight settings other (x + dc) (y + dr) =
      tracedTopLeftToRight settings image x y := by
  have together : ∀ left right : TopLine, left = right ∧ 1 ≤ right.i →
      ((topLineLeftToRight settings other (x + dc) (y + dr)).body left = none ∧
        (topLineLeftToRight settings image x y).body right = none) ∨
      ∃ next later, (topLineLeftToRight settings other (x + dc) (y + dr)).body left =
          some next ∧
        (topLineLeftToRight settings image x y).body right = some later ∧
        next = later ∧ 1 ≤ later.i := by
    rintro left line ⟨rfl, positive⟩
    have sameBody : (topLineLeftToRight settings other (x + dc) (y + dr)).body left =
        (topLineLeftToRight settings image x y).body left := by
      simp only [topLineLeftToRight]
      by_cases inRow : left.i < 240 - x <;> by_cases shiftedIn : left.i < 240 - (x + dc)
      · rw [if_pos inRow, if_pos shiftedIn]
        exact moved.extend_eq shows otherShows (by omega) (by omega)
      · rw [if_pos inRow, if_neg shiftedIn, moved.extend_lost shows (by omega) (by omega)]
      · rw [if_neg inRow, if_pos shiftedIn,
          moved.symm.extend_lost otherShows (by omega) (by omega)]
      · rw [if_neg inRow, if_neg shiftedIn]
    rw [sameBody]
    cases continued : (topLineLeftToRight settings image x y).body left with
    | none => exact Or.inl ⟨rfl, rfl⟩
    | some next =>
        refine Or.inr ⟨next, next, rfl, rfl, rfl, ?_⟩
        simp only [topLineLeftToRight] at continued
        split at continued
        next =>
          have step := (TopLine.extend_some continued).1
          omega
        next => cases continued
  exact (Loop.run_related together ⟨rfl, le_refl 1⟩).1

theorem Moved.tracedTopRightToLeft_eq (moved : Moved picture shifted dc dr)
    (shows : Shows image picture) (otherShows : Shows other shifted) {x y : Int}
    (inRow : x < 240) (shiftedIn : x + dc < 240) :
    tracedTopRightToLeft settings other (x + dc) (y + dr) =
      tracedTopRightToLeft settings image x y := by
  have together : ∀ left right : TopLine, left = right ∧ right.i ≤ -1 →
      ((topLineRightToLeft settings other (x + dc) (y + dr)).body left = none ∧
        (topLineRightToLeft settings image x y).body right = none) ∨
      ∃ next later, (topLineRightToLeft settings other (x + dc) (y + dr)).body left =
          some next ∧
        (topLineRightToLeft settings image x y).body right = some later ∧
        next = later ∧ later.i ≤ -1 := by
    rintro left line ⟨rfl, negative⟩
    have sameBody : (topLineRightToLeft settings other (x + dc) (y + dr)).body left =
        (topLineRightToLeft settings image x y).body left := by
      simp only [topLineRightToLeft]
      by_cases going : left.i > 0 - x <;> by_cases shiftedGoing : left.i > 0 - (x + dc)
      · rw [if_pos going, if_pos shiftedGoing]
        exact moved.extend_eq shows otherShows (by omega) (by omega)
      · rw [if_pos going, if_neg shiftedGoing, moved.extend_lost shows (by omega) (by omega)]
      · rw [if_neg going, if_pos shiftedGoing,
          moved.symm.extend_lost otherShows (by omega) (by omega)]
      · rw [if_neg going, if_neg shiftedGoing]
    rw [sameBody]
    cases continued : (topLineRightToLeft settings image x y).body left with
    | none => exact Or.inl ⟨rfl, rfl⟩
    | some next =>
        refine Or.inr ⟨next, next, rfl, rfl, rfl, ?_⟩
        simp only [topLineRightToLeft] at continued
        split at continued
        next =>
          have step := (TopLine.extend_some continued).1
          omega
        next => cases continued
  exact (Loop.run_related together ⟨rfl, le_refl (-1)⟩).1

/-! ## Side lines -/

/-- The bound of the side line loop lies below the picture. -/
theorem sideLine_body {column y j : Int} (nonneg : 0 ≤ j)
    (inPicture : ∀ row, white image row column = true → row ≤ 239) (line : SideLine) :
    (sideLine settings image column y j).body line =
      if white image (y + j + line.i) column then
        some {
          i := line.i + 1
          dy := line.dy + 1
          found := line.found || decide (line.dy + 1 > settings.sMinL) }
      else
        none := by
  simp only [sideLine]
  split
  next => rfl
  next outside =>
    split
    next whiteAt =>
      have bound := inPicture _ whiteAt
      omega
    next => rfl

theorem Moved.sideLine_eq (moved : Moved picture shifted dc dr) (shows : Shows image picture)
    (otherShows : Shows other shifted) {column y j : Int} (nonneg : 0 ≤ j)
    (inRow : 0 ≤ column ∧ column < 240) (shiftedIn : 0 ≤ column + dc ∧ column + dc < 240)
    (start : SideLine) :
    (sideLine settings other (column + dc) (y + dr) j).run start =
      (sideLine settings image column y j).run start := by
  have inPicture : ∀ row, white image row column = true → row ≤ 239 := by
    intro row whiteAt
    exact (moved.of_white shows inRow whiteAt).1.1.2
  have shiftedInPicture : ∀ row, white other row (column + dc) = true → row ≤ 239 := by
    intro row whiteAt
    exact (moved.symm.of_white otherShows shiftedIn whiteAt).1.1.2
  have together : ∀ left right : SideLine, left = right →
      ((sideLine settings other (column + dc) (y + dr) j).body left = none ∧
        (sideLine settings image column y j).body right = none) ∨
      ∃ next later, (sideLine settings other (column + dc) (y + dr) j).body left = some next ∧
        (sideLine settings image column y j).body right = some later ∧ next = later := by
    rintro line _ rfl
    have row : y + dr + j + line.i = y + j + line.i + dr := by ring
    rw [sideLine_body nonneg inPicture, sideLine_body nonneg shiftedInPicture, row,
      moved.white_eq shows otherShows inRow shiftedIn]
    split
    next => exact Or.inr ⟨_, _, rfl, rfl, rfl⟩
    next => exact Or.inl ⟨rfl, rfl⟩
  exact Loop.run_related together rfl

theorem Moved.tracedSideLeftToRight_eq (moved : Moved picture shifted dc dr)
    (shows : Shows image picture) (otherShows : Shows other shifted)
    (valid : settings.Valid) {x y : Int} (nonneg : 0 ≤ x) (inRow : x < 240)
    (start : topPixel settings image y x = true)
    (found : (tracedTopLeftToRight settings image x y).found = true) :
    tracedSideLeftToRight settings other (x + dc) (y + dr)
        (tracedTopLeftToRight settings image x y) =
      tracedSideLeftToRight settings image x y (tracedTopLeftToRight settings image x y) := by
  have stepback := valid.stepback_pos
  have stepbackLe := valid.stepback_le
  have startIn := (moved.of_topPixel shows ⟨nonneg, inRow⟩ start).2.2
  rcases tracedTopLeftToRight_traced valid.minL_pos inRow start with
    ⟨row, columns, traced, bound⟩
  have columns_pos := traced.columns_pos
  have dropped := traced.drop_nonneg
  have dx_eq := traced.dx_eq
  have wide := traced.wide found
  -- the last column of the top line lies in both pictures
  have lastIn := (moved.of_topPixel shows (by omega) (traced.top (columns - 1) (by omega))).2.2
  have column : x + dc + (tracedTopLeftToRight settings image x y).dx - settings.sStepback =
      x + (tracedTopLeftToRight settings image x y).dx - settings.sStepback + dc := by ring
  rw [tracedSideLeftToRight, tracedSideLeftToRight, column]
  exact moved.sideLine_eq shows otherShows (by omega) (by omega) (by omega) _

theorem Moved.tracedSideRightToLeft_eq (moved : Moved picture shifted dc dr)
    (shows : Shows image picture) (otherShows : Shows other shifted)
    (valid : settings.Valid) {x y : Int} (nonneg : 0 ≤ x) (inRow : x < 240)
    (start : topPixel settings image y x = true)
    (found : (tracedTopRightToLeft settings image x y).found = true) :
    tracedSideRightToLeft settings other (x + dc) (y + dr)
        (tracedTopRightToLeft settings image x y) =
      tracedSideRightToLeft settings image x y (tracedTopRightToLeft settings image x y) := by
  have stepback := valid.stepback_pos
  have stepbackLe := valid.stepback_le
  have startIn := (moved.of_topPixel shows ⟨nonneg, inRow⟩ start).2.2
  rcases tracedTopRightToLeft_traced valid.minL_pos nonneg start with
    ⟨row, columns, traced, bound⟩
  have columns_pos := traced.columns_pos
  have dropped := traced.drop_nonneg
  have dx_eq := traced.dx_eq
  have wide := traced.wide found
  have lastIn := (moved.of_topPixel shows (by omega) (traced.top (columns - 1) (by omega))).2.2
  have column : x + dc + (tracedTopRightToLeft settings image x y).dx + settings.sStepback =
      x + (tracedTopRightToLeft settings image x y).dx + settings.sStepback + dc := by ring
  rw [tracedSideRightToLeft, tracedSideRightToLeft, column]
  exact moved.sideLine_eq shows otherShows (by omega) (by omega) (by omega) _

end Traces

end ECam.QrPosing
