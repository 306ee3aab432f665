import ECam.QrPosing.Candidates

/-!
# A picture of one marker

The converted picture is white exactly on one rectangle.  If the rectangle is wider and
higher than `sMinL`, the pass from left to right notes it at its upper left corner; the
noted area then covers all white pixels, so nothing else is noted by either pass.  If
it is not, no trace is long enough and nothing is noted at all.
-/

namespace ECam.QrPosing

open ECam.Library

/-- Settings and the position and size of a rectangle within rows `1` to `239`. -/
structure Placed (settings : Settings) (a b w h : Int) : Prop where
  margin_pos : 1 ≤ settings.sTopMargin
  stepback_pos : 1 ≤ settings.sStepback
  stepback_le : settings.sStepback ≤ settings.sMinL
  a_nonneg : 0 ≤ a
  b_pos : 1 ≤ b
  w_pos : 1 ≤ w
  h_pos : 1 ≤ h
  right_le : a + w ≤ 240
  bottom_le : b + h ≤ 240

/-- The picture is white exactly on the rectangle. -/
def ShowsRectangle (image : Int → UInt16) (a b w h : Int) : Prop :=
  ∀ row column, 0 ≤ column → column < 240 →
    (white image row column = true ↔
      (a ≤ column ∧ column < a + w) ∧ b ≤ row ∧ row < b + h)

/-- The note made for the rectangle. -/
def markerNote (a b w h : Int) : QrCode where
  o := true
  f := false
  x0 := a
  y0 := b
  x1 := a + w
  y1 := b
  x2 := a + w
  y2 := b + h
  x3 := a
  y3 := b + h
  dx := w

section Rectangle

variable {settings : Settings} {image : Int → UInt16} {a b w h : Int}

theorem ShowsRectangle.black (shows : ShowsRectangle image a b w h) {row column : Int}
    (nonneg : 0 ≤ column) (inRow : column < 240)
    (outside : ¬((a ≤ column ∧ column < a + w) ∧ b ≤ row ∧ row < b + h)) :
    white image row column = false := by
  rw [← Bool.not_eq_true, shows row column nonneg inRow]
  exact outside

/-- A pixel that is not white starts no top line. -/
theorem ShowsRectangle.topPixel_outside (shows : ShowsRectangle image a b w h)
    {row column : Int} (nonneg : 0 ≤ column) (inRow : column < 240)
    (outside : ¬((a ≤ column ∧ column < a + w) ∧ b ≤ row ∧ row < b + h)) :
    topPixel settings image row column = false := by
  rw [topPixel, shows.black nonneg inRow outside, Bool.false_and]

/-- The first row of the rectangle is its top edge. -/
theorem ShowsRectangle.topPixel_first (shows : ShowsRectangle image a b w h)
    (placed : Placed settings a b w h) {column : Int} (left : a ≤ column)
    (right : column < a + w) : topPixel settings image b column = true := by
  have margin := placed.margin_pos
  have nonneg := placed.a_nonneg
  have bound := placed.right_le
  have height := placed.h_pos
  have above : white image (b - settings.sTopMargin) column = false :=
    shows.black (by omega) (by omega) (by omega)
  have inside : white image b column = true :=
    (shows b column (by omega) (by omega)).mpr ⟨⟨left, right⟩, by omega⟩
  rw [topPixel, inside, above]
  rfl

theorem ShowsRectangle.of_topPixel (shows : ShowsRectangle image a b w h) {row column : Int}
    (nonneg : 0 ≤ column) (inRow : column < 240)
    (top : topPixel settings image row column = true) :
    (a ≤ column ∧ column < a + w) ∧ b ≤ row ∧ row < b + h := by
  rw [topPixel, Bool.and_eq_true] at top
  exact (shows row column nonneg inRow).mp top.1

/-! ## Nothing is noted on a small rectangle -/

/-- A top line and a side line that are both long enough do not fit in a rectangle
that is too narrow or too low. -/
theorem ShowsRectangle.fits (shows : ShowsRectangle image a b w h)
    (placed : Placed settings a b w h) {e x y column : Int} {row : Nat → Int}
    {columns count : Nat} {top : TopLine} {side : SideLine} (sign : e = 1 ∨ e = -1)
    (traced : top.Traced settings image e x y row columns)
    (below : side.Traced settings image column y top.j count)
    (firstIn : 0 ≤ x ∧ x < 240)
    (lastIn : 0 ≤ x + e * (columns - 1 : Int) ∧ x + e * (columns - 1 : Int) < 240)
    (columnIn : 0 ≤ column ∧ column < 240)
    (topFound : top.found = true) (sideFound : side.found = true) :
    w > settings.sMinL ∧ h > settings.sMinL := by
  have pos := traced.columns_pos
  have countPos := below.count_pos
  have wide := traced.wide topFound
  have high := below.high sideFound
  have first := traced.top 0 pos
  rw [traced.start, Nat.cast_zero, Int.mul_zero, Int.add_zero] at first
  have firstWhite := shows.of_topPixel firstIn.1 firstIn.2 first
  have last := traced.top (columns - 1) (by omega)
  have lastColumn : ((columns - 1 : Nat) : Int) = (columns : Int) - 1 := by omega
  rw [traced.last, lastColumn] at last
  have lastWhite := shows.of_topPixel lastIn.1 lastIn.2 last
  have stepback := placed.stepback_pos
  have stepbackLe := placed.stepback_le
  have lowest := below.side (count - 1) (by omega) (by omega)
  have lowestWhite := (shows _ _ columnIn.1 columnIn.2).mp lowest
  constructor
  · rcases sign with rfl | rfl <;> omega
  · omega

/-- From left to right, nothing is noted on a rectangle that is too small. -/
theorem ShowsRectangle.visitLeftToRight_small (shows : ShowsRectangle image a b w h)
    (placed : Placed settings a b w h)
    (small : ¬(w > settings.sMinL ∧ h > settings.sMinL)) {x y : Int} (nonneg : 0 ≤ x)
    (inRow : x < 240) (notes : Notes) :
    (visitLeftToRight settings image y ⟨x, notes⟩).notes = notes := by
  have stepback := placed.stepback_pos
  have stepbackLe := placed.stepback_le
  cases top : topPixel settings image y x with
  | false => rw [visitLeftToRight_skip (Or.inr top)]
  | true =>
      rcases tracedTopLeftToRight_traced (by omega) inRow top with
        ⟨row, columns, traced, bound⟩
      rcases @sideLine_traced settings image
        (x + (tracedTopLeftToRight settings image x y).dx - settings.sStepback) y
        (tracedTopLeftToRight settings image x y).j (by omega) with ⟨count, below⟩
      have pos := traced.columns_pos
      have dx_eq := traced.dx_eq
      have rejected : (tracedTopLeftToRight settings image x y).found = true →
          (tracedSideLeftToRight settings image x y
            (tracedTopLeftToRight settings image x y)).found = false := by
        intro topFound
        rw [← Bool.not_eq_true]
        intro sideFound
        have wide := traced.wide topFound
        exact small (shows.fits placed (Or.inl rfl) traced below ⟨nonneg, inRow⟩
          (by omega) (by omega) topFound sideFound)
      simp only [visitLeftToRight, traceLeftToRight]
      split
      next =>
        split
        next topFound => simp [rejected topFound]
        next => rfl
      next => rfl

/-- From right to left, nothing is noted on a rectangle that is too small. -/
theorem ShowsRectangle.visitRightToLeft_small (shows : ShowsRectangle image a b w h)
    (placed : Placed settings a b w h)
    (small : ¬(w > settings.sMinL ∧ h > settings.sMinL)) {x y : Int} (nonneg : 0 ≤ x)
    (inRow : x < 240) (notes : Notes) :
    (visitRightToLeft settings image y ⟨x, notes⟩).notes = notes := by
  have stepback := placed.stepback_pos
  have stepbackLe := placed.stepback_le
  cases top : topPixel settings image y x with
  | false => rw [visitRightToLeft_skip (Or.inr top)]
  | true =>
      rcases tracedTopRightToLeft_traced (by omega) nonneg top with
        ⟨row, columns, traced, bound⟩
      rcases @sideLine_traced settings image
        (x + (tracedTopRightToLeft settings image x y).dx + settings.sStepback) y
        (tracedTopRightToLeft settings image x y).j (by omega) with ⟨count, below⟩
      have pos := traced.columns_pos
      have dx_eq := traced.dx_eq
      have rejected : (tracedTopRightToLeft settings image x y).found = true →
          (tracedSideRightToLeft settings image x y
            (tracedTopRightToLeft settings image x y)).found = false := by
        intro topFound
        rw [← Bool.not_eq_true]
        intro sideFound
        have wide := traced.wide topFound
        exact small (shows.fits placed (Or.inr rfl) traced below ⟨nonneg, inRow⟩
          (by omega) (by omega) topFound sideFound)
      simp only [visitRightToLeft, traceRightToLeft]
      split
      next =>
        split
        next topFound => simp [rejected topFound]
        next => rfl
      next => rfl

theorem ShowsRectangle.detect_small (shows : ShowsRectangle image a b w h)
    (placed : Placed settings a b w h)
    (small : ¬(w > settings.sMinL ∧ h > settings.sMinL)) (l1 : Vector QrCode 5) :
    detect settings image l1 = resetNotes l1 := by
  have first : passLeftToRight settings image (resetNotes l1) = resetNotes l1 := by
    apply rows_quiet
    intro y _ _
    apply rowLeftToRight_quiet
    intro x nonneg inRow
    exact shows.visitLeftToRight_small placed small nonneg inRow _
  have second : passRightToLeft settings image (resetNotes l1) = resetNotes l1 := by
    apply rows_quiet
    intro y _ _
    apply rowRightToLeft_quiet
    intro x nonneg inRow
    exact shows.visitRightToLeft_small placed small nonneg (by omega) _
  rw [detect, first, second]

/-! ## A large rectangle is noted at its corner -/

/-- The top line from the upper left corner is the whole first row. -/
theorem ShowsRectangle.tracedTop (shows : ShowsRectangle image a b w h)
    (placed : Placed settings a b w h) (wide : w > settings.sMinL) :
    tracedTopLeftToRight settings image a b = ⟨w, 0, w, true⟩ := by
  have stepback := placed.stepback_pos
  have stepbackLe := placed.stepback_le
  have nonneg := placed.a_nonneg
  rw [tracedTopLeftToRight_row (by omega) placed.w_pos placed.right_le
    (fun _ left right => shows.topPixel_first placed left right)
    (fun behind => shows.topPixel_outside (by omega) behind (by omega))
    (fun behind => shows.topPixel_outside (by omega) behind (by omega)), decide_eq_true wide]

/-- The side line below its end goes down to the last row. -/
theorem ShowsRectangle.tracedSide (shows : ShowsRectangle image a b w h)
    (placed : Placed settings a b w h) (wide : w > settings.sMinL)
    (high : h > settings.sMinL) :
    tracedSideLeftToRight settings image a b ⟨w, 0, w, true⟩ = ⟨h, h, true⟩ := by
  have stepback := placed.stepback_pos
  have stepbackLe := placed.stepback_le
  have nonneg := placed.a_nonneg
  have right := placed.right_le
  change (sideLine settings image (a + w - settings.sStepback) b 0).run ⟨1, 1, false⟩ = _
  rw [sideLine_column (by omega) placed.h_pos placed.bottom_le
    (fun _ _ _ => (shows _ _ (by omega) (by omega)).mpr (by omega))
    (shows.black (by omega) (by omega) (by omega)), decide_eq_true high]

/-- The notes after the marker has been noted in an empty buffer. -/
def markerNotes (l1 : Vector QrCode 5) (a b w h : Int) : Notes :=
  (resetNotes l1).note (markerNote a b w h)

theorem ShowsRectangle.visit_corner (shows : ShowsRectangle image a b w h)
    (placed : Placed settings a b w h) (wide : w > settings.sMinL)
    (high : h > settings.sMinL) (l1 : Vector QrCode 5) :
    visitLeftToRight settings image b ⟨a, resetNotes l1⟩ =
      ⟨a + h + 1, markerNotes l1 a b w h⟩ := by
  have width := placed.w_pos
  have top : topPixel settings image b a = true :=
    shows.topPixel_first placed (le_refl a) (by omega)
  have entry : corners false a b ⟨w, 0, w, true⟩ h w = markerNote a b w h := by
    simp [corners, markerNote]
  simp only [visitLeftToRight, resetNotes_outside, top, Bool.not_false, Bool.true_and, if_true,
    traceLeftToRight, shows.tracedTop placed wide, shows.tracedSide placed wide high, entry]
  rfl

theorem markerNotes_wellFormed (l1 : Vector QrCode 5) (a b w h : Int) :
    (markerNotes l1 a b w h).WellFormed :=
  (resetNotes_wellFormed l1).note rfl

/-- The marker is the only entry. -/
theorem markerNotes_entries (l1 : Vector QrCode 5) (a b w h : Int) :
    (markerNotes l1 a b w h).entries = [markerNote a b w h] := by
  rw [markerNotes, (resetNotes_wellFormed l1).entries_note, resetNotes_entries]
  rfl

/-- The noted area covers the rectangle, for both passes. -/
theorem markerNotes_inside (l1 : Vector QrCode 5) {x y : Int}
    (inside : (a ≤ x ∧ x < a + w) ∧ b ≤ y ∧ y < b + h) :
    (markerNotes l1 a b w h).insideLeftToRight x y = true ∧
      (markerNotes l1 a b w h).insideRightToLeft x y = true := by
  have wellFormed := markerNotes_wellFormed l1 a b w h
  rw [Notes.insideLeftToRight, Notes.insideRightToLeft, wellFormed.any_occupied,
    wellFormed.any_occupied, markerNotes_entries]
  simp only [List.any_cons, List.any_nil, Bool.or_false, markerNote, Bool.false_eq_true,
    if_false, decide_eq_true_eq]
  omega

/-- Once the marker is noted, every pixel is passed over. -/
theorem ShowsRectangle.visit_noted (shows : ShowsRectangle image a b w h)
    (l1 : Vector QrCode 5) {x y : Int} (nonneg : 0 ≤ x) (inRow : x < 240) :
    (visitLeftToRight settings image y ⟨x, markerNotes l1 a b w h⟩).notes =
        markerNotes l1 a b w h ∧
      (visitRightToLeft settings image y ⟨x, markerNotes l1 a b w h⟩).notes =
        markerNotes l1 a b w h := by
  by_cases inside : (a ≤ x ∧ x < a + w) ∧ b ≤ y ∧ y < b + h
  · have covered := markerNotes_inside l1 inside
    rw [visitLeftToRight_skip (Or.inl covered.1), visitRightToLeft_skip (Or.inl covered.2)]
    exact ⟨rfl, rfl⟩
  · have noTop : topPixel settings image y x = false :=
      shows.topPixel_outside nonneg inRow inside
    rw [visitLeftToRight_skip (Or.inr noTop), visitRightToLeft_skip (Or.inr noTop)]
    exact ⟨rfl, rfl⟩

/-- In its first row, the marker is noted. -/
theorem ShowsRectangle.scanRow_first (shows : ShowsRectangle image a b w h)
    (placed : Placed settings a b w h) (wide : w > settings.sMinL)
    (high : h > settings.sMinL) (l1 : Vector QrCode 5) :
    scanRowLeftToRight settings image b (resetNotes l1) = markerNotes l1 a b w h := by
  have nonneg := placed.a_nonneg
  have width := placed.w_pos
  have height := placed.h_pos
  have bound := placed.right_le
  -- up to the corner the row is black
  have before : ((rowLeftToRight settings image b).run ⟨0, resetNotes l1⟩).notes =
      ((rowLeftToRight settings image b).run ⟨a, resetNotes l1⟩).notes :=
    rowLeftToRight_skip nonneg fun x _ _ inRow =>
      Or.inr (shows.topPixel_outside (by omega) inRow (by omega))
  have corner : (rowLeftToRight settings image b).body ⟨a, resetNotes l1⟩ =
      some ⟨a + h + 1, markerNotes l1 a b w h⟩ := by
    have inRow : a < 240 := by omega
    simp only [rowLeftToRight, inRow, if_true, shows.visit_corner placed wide high l1]
  rw [scanRowLeftToRight, before, Loop.run_of_some corner]
  -- after it the marker is noted
  apply rowLeftToRight_quiet
  intro x start inRow
  exact (shows.visit_noted l1 (by omega) inRow).1

/-- Above its first row the marker is not noted. -/
theorem ShowsRectangle.scanRow_above (shows : ShowsRectangle image a b w h) {y : Int}
    (above : y < b) (notes : Notes) : scanRowLeftToRight settings image y notes = notes := by
  apply rowLeftToRight_quiet
  intro x nonneg inRow
  have noTop : topPixel settings image y x = false :=
    shows.topPixel_outside nonneg inRow (by omega)
  rw [visitLeftToRight_skip (Or.inr noTop)]

/-- The pass from left to right notes the marker. -/
theorem ShowsRectangle.pass_large (shows : ShowsRectangle image a b w h)
    (placed : Placed settings a b w h) (wide : w > settings.sMinL)
    (high : h > settings.sMinL) (l1 : Vector QrCode 5) :
    passLeftToRight settings image (resetNotes l1) = markerNotes l1 a b w h := by
  have bPos := placed.b_pos
  have height := placed.h_pos
  have bottom := placed.bottom_le
  have skipped : ((rows (scanRowLeftToRight settings image)).run ⟨1, resetNotes l1⟩).notes =
      ((rows (scanRowLeftToRight settings image)).run ⟨b, resetNotes l1⟩).notes :=
    rows_skip (by omega) fun y _ above _ => shows.scanRow_above above _
  have first : (rows (scanRowLeftToRight settings image)).body ⟨b, resetNotes l1⟩ =
      some ⟨b + 1, markerNotes l1 a b w h⟩ := by
    have inRange : b < 240 := by omega
    simp only [rows, inRange, if_true, shows.scanRow_first placed wide high l1]
  rw [passLeftToRight, skipped, Loop.run_of_some first]
  apply rows_quiet
  intro y _ _
  apply rowLeftToRight_quiet
  intro x nonneg inRow
  exact (shows.visit_noted l1 nonneg inRow).1

theorem ShowsRectangle.detect_large (shows : ShowsRectangle image a b w h)
    (placed : Placed settings a b w h) (wide : w > settings.sMinL)
    (high : h > settings.sMinL) (l1 : Vector QrCode 5) :
    detect settings image l1 = markerNotes l1 a b w h := by
  have rightToLeft : passRightToLeft settings image (markerNotes l1 a b w h) =
      markerNotes l1 a b w h := by
    apply rows_quiet
    intro y _ _
    apply rowRightToLeft_quiet
    intro x nonneg inRow
    exact (shows.visit_noted l1 nonneg (by omega)).2
  rw [detect, shows.pass_large placed wide high, rightToLeft]

end Rectangle

/-! ## From the frame to the report -/

/-- The frame is bright exactly on the rectangle. -/
def BrightOn (frame : Frame) (a b w h : Int) : Prop :=
  ∀ (row column : Nat) (rowIn : row < 240) (columnIn : column < 240),
    isBright frame[row * 240 + column] = true ↔
      (a ≤ column ∧ column < a + w) ∧ b ≤ row ∧ row < b + h

theorem BrightOn.shows {settings : Settings} {frame : Frame} {a b w h : Int}
    (bright : BrightOn frame a b w h) (placed : Placed settings a b w h) :
    ShowsRectangle (readWord (frame.map pureWord)) a b w h := by
  intro row column nonneg inRow
  have bPos := placed.b_pos
  have bottom := placed.bottom_le
  rw [white_readWord frame row column]
  by_cases rowIn : 0 ≤ row ∧ row < 240
  · have words := bright row.toNat column.toNat (by omega) (by omega)
    have index : (row * 240 + column).toNat = row.toNat * 240 + column.toNat := by omega
    rw [Int.toNat_of_nonneg nonneg, Int.toNat_of_nonneg rowIn.1] at words
    rw [← words]
    simp only [index]
    exact ⟨fun found => found.2, fun found => ⟨by omega, found⟩⟩
  · constructor
    · rintro ⟨inBounds, _⟩
      omega
    · intro inside
      omega

/-- The centre and the width of a large rectangle are reported. -/
theorem BrightOn.position_large (scan : Frame → Option String) {settings : Settings}
    {a b w h : Int} (placed : Placed settings a b w h) (state : TaskState) {frame : Frame}
    (bright : BrightOn frame a b w h) (wide : w > settings.sMinL) (high : h > settings.sMinL) :
    (processFrame scan settings state frame).2.position =
      positionLine ((2 * a + w) / 2) w := by
  have detected := (bright.shows placed).detect_large placed wide high state.l1
  have width := placed.w_pos
  have left := placed.a_nonneg
  have chosen : selectBest state.best (markerNotes state.l1 a b w h).l1 =
      markerNote a b w h := by
    rw [(markerNotes_wellFormed state.l1 a b w h).selectBest, Notes.best, markerNotes_entries,
      List.foldl_cons, List.foldl_nil]
    simp only [QrCode.better, markerNote, Bool.true_and]
    rw [if_pos]
    apply decide_eq_true
    omega
  have centre : (a + w + a).tdiv 2 = (2 * a + w) / 2 := by
    have double : a + w + a = 2 * a + w := by ring
    rw [Int.tdiv_eq_ediv_of_nonneg (by omega), double]
  have extent : a + w - a = w := by ring
  rw [(processFrame_of_detect scan detected).2, chosen]
  simp only [reportLine, markerNote, QrCode.width, Bool.not_true, Bool.false_eq_true,
    if_false, centre, extent]

/-- Exact report on a single marker.  On a frame that is bright exactly on one
rectangle, a rectangle wider and higher than `sMinL` is the only note and its centre
and width are reported; for a smaller one there is no note and `#500;5` is reported. -/
theorem single_marker_report (scan : Frame → Option String) {settings : Settings}
    {a b w h : Int} (placed : Placed settings a b w h) (state : TaskState) {frame : Frame}
    (bright : BrightOn frame a b w h) :
    (w > settings.sMinL ∧ h > settings.sMinL →
      (processFrame scan settings state frame).1.l1.toList.filter QrCode.o =
          [markerNote a b w h] ∧
        (processFrame scan settings state frame).2.position =
          positionLine ((2 * a + w) / 2) w) ∧
    (¬(w > settings.sMinL ∧ h > settings.sMinL) →
      (processFrame scan settings state frame).1.l1.toList.filter QrCode.o = [] ∧
        (processFrame scan settings state frame).2.position = positionLine 500 5) := by
  have shows := bright.shows placed
  constructor
  · rintro ⟨wide, high⟩
    have detected := shows.detect_large placed wide high state.l1
    have position := bright.position_large scan placed state wide high
    refine ⟨?_, position⟩
    rw [(processFrame_of_detect scan detected).1,
      (markerNotes_wellFormed state.l1 a b w h).filter_occupied,
      markerNotes_entries]
  · intro small
    have processed := processFrame_of_detect scan (shows.detect_small placed small state.l1)
    have noneNoted : (resetNotes state.l1).l1.toList.filter QrCode.o = [] :=
      (resetNotes_wellFormed state.l1).filter_occupied
    constructor
    · rw [processed.1]
      exact noneNoted
    · rw [processed.2, selectBest, foldl_better_occupied, noneNoted]
      rfl

/-- A frame that is white on a rectangle and black elsewhere. -/
def rectangleFrame (a b w h : Int) : Frame :=
  Vector.ofFn fun index =>
    if (a ≤ (index % 240 : Nat) ∧ ((index % 240 : Nat) : Int) < a + w) ∧
        b ≤ (index / 240 : Nat) ∧ ((index / 240 : Nat) : Int) < b + h then
      65535
    else
      0

theorem rectangleFrame_bright (a b w h : Int) :
    BrightOn (rectangleFrame a b w h) a b w h := by
  intro row column rowIn columnIn
  have columnEq : (row * 240 + column) % 240 = column := by omega
  have rowEq : (row * 240 + column) / 240 = row := by omega
  simp only [rectangleFrame, Vector.getElem_ofFn, columnEq, rowEq]
  split
  next inside => exact ⟨fun _ => inside, fun _ => by decide⟩
  next outside =>
    constructor
    · intro bright
      exact absurd bright (by decide)
    · intro inside
      exact absurd inside outside

/-- The pixels of a frame with a white rectangle. -/
theorem pixel_rectangleFrame {settings : Settings} {a b w h : Int}
    (placed : Placed settings a b w h) (row column : Int) :
    pixel (rectangleFrame a b w h) row column = true ↔
      (a ≤ column ∧ column < a + w) ∧ b ≤ row ∧ row < b + h := by
  have left := placed.a_nonneg
  have right := placed.right_le
  by_cases inRow : 0 ≤ column ∧ column < 240
  · rw [← white_eq_pixel _ inRow.1 inRow.2]
    exact (rectangleFrame_bright a b w h).shows placed row column inRow.1 inRow.2
  · have outside : pixel (rectangleFrame a b w h) row column = false :=
      dif_neg fun inFrame => inRow inFrame.2
    rw [outside]
    constructor
    · intro contradiction
      cases contradiction
    · intro inside
      omega

/-- A marker of 30 by 40 pixels with the settings of `app_main`. -/
theorem single_marker_report_large :
    (processFrame (fun _ => none) appMainSettings zeroTask
      (rectangleFrame 100 50 30 40)).2.position = "#115;30" :=
  ((single_marker_report (fun _ => none)
    (show Placed appMainSettings 100 50 30 40 from by constructor <;> decide) zeroTask
    (rectangleFrame_bright 100 50 30 40)).1 (by decide)).2

end ECam.QrPosing
