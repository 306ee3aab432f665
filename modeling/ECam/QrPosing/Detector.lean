import ECam.Library.Text
import ECam.QrPosing.Frame

/-!
# The marker detector

`task_process_handler` looks for white frames of QR codes in the converted picture.
Two passes, one from left to right and one from right to left, visit every pixel
outside the areas already noted.  Where a pixel looks like a top edge, the top line
and then the side line below its end are traced, and a frame whose lines are long
enough is noted.  At the end the widest note is reported.

Pixels are read by linear index.  Integers of the source are unbounded here.  Its `int`s do
not overflow as long as `TopMargin` and `Stepback` lie between -8000000 and 8000000 and `MinL`
is not the smallest `int`: rows, columns and lengths stay within a few hundred.
-/

namespace ECam.QrPosing

open ECam.Library

/-- The static settings of the detector with their initial values. -/
structure Settings where
  sTopMargin : Int := 3
  sStepback : Int := 5
  sMinL : Int := 20

/-- `register_lcd`: the settings it stores. -/
def registerLcd (topMargin minL stepback : Int) : Settings where
  sTopMargin := topMargin
  sStepback := stepback
  sMinL := minL

/-- The settings that `app_main` registers. -/
def appMainSettings : Settings := registerLcd 5 20 5

/-- `qr_code`: a noted frame with its corner coordinates. -/
structure QrCode where
  o : Bool
  f : Bool
  x0 : Int
  y0 : Int
  x1 : Int
  y1 : Int
  x2 : Int
  y2 : Int
  x3 : Int
  y3 : Int
  dx : Int
  deriving DecidableEq

/-- The buffer of noted frames and the number of entries in use. -/
structure Notes where
  l1 : Vector QrCode 5
  k : Nat

/-- The entry `l1[k]` is filled, as long as there is room. -/
def Notes.note (notes : Notes) (code : QrCode) : Notes :=
  if room : notes.k < 5 then
    { l1 := notes.l1.set notes.k code, k := notes.k + 1 }
  else
    notes

/-- `inz` of the pass from left to right: inside an area already noted.  The test
does not look at the direction in which the area was noted. -/
def Notes.insideLeftToRight (notes : Notes) (x y : Int) : Bool :=
  notes.l1.toList.any fun code =>
    code.o && decide (code.x0 ≤ x ∧ x ≤ code.x1 ∧ code.y0 ≤ y ∧ y ≤ code.y3)

/-- `inz` of the pass from right to left. -/
def Notes.insideRightToLeft (notes : Notes) (x y : Int) : Bool :=
  notes.l1.toList.any fun code =>
    code.o &&
      if code.f then
        decide (code.x0 ≥ x ∧ x ≥ code.x1 ∧ code.y0 ≤ y ∧ y ≤ code.y3)
      else
        decide (code.x0 ≤ x ∧ x ≤ code.x1 ∧ code.y0 ≤ y ∧ y ≤ code.y3)

section Traces

variable (settings : Settings) (image : Int → UInt16)

/-- `PureBOrW[row * 240 + column] != 0`. -/
def white (row column : Int) : Bool :=
  image (row * 240 + column) != 0

/-- A white pixel with a black one `sTopMargin` rows above it. -/
def topPixel (row column : Int) : Bool :=
  white image row column && !white image (row - settings.sTopMargin) column

/-! ## The top line -/

/-- The variables of a top line trace. -/
structure TopLine where
  i : Int
  j : Int
  dx : Int
  found : Bool
  deriving DecidableEq

/-- The body of the top line loops: go on in the same row or one row further down.
`e` is the direction and `long` the test on the length. -/
def TopLine.extend (e : Int) (long : Int → Bool) (x y : Int) (line : TopLine) :
    Option TopLine :=
  if topPixel settings image (y + line.j) (x + line.i) then
    some {
      i := line.i + e
      j := line.j
      dx := line.dx + e
      found := line.found || long (line.dx + e) }
  else if topPixel settings image (line.j + y + 1) (x + line.i) then
    some {
      i := line.i + e
      j := line.j + 1
      dx := line.dx + e
      found := line.found || long (line.dx + e) }
  else
    none

variable {settings image} in
/-- One extension moves one column on and at most one row down. -/
theorem TopLine.extend_some {e : Int} {long : Int → Bool} {x y : Int} {line next : TopLine}
    (extended : line.extend settings image e long x y = some next) :
    next.i = line.i + e ∧ next.dx = line.dx + e ∧
      next.found = (line.found || long (line.dx + e)) ∧
      (next.j = line.j ∨ next.j = line.j + 1) ∧
      topPixel settings image (y + next.j) (x + line.i) = true := by
  unfold TopLine.extend at extended
  split at extended
  next same =>
    cases extended
    exact ⟨rfl, rfl, rfl, Or.inl rfl, same⟩
  next =>
    split at extended
    next below =>
      cases extended
      refine ⟨rfl, rfl, rfl, Or.inr rfl, ?_⟩
      rw [show y + (line.j + 1) = line.j + y + 1 by ring]
      exact below
    next => cases extended

/-- The top line loop of the pass from left to right. -/
def topLineLeftToRight (x y : Int) : Loop TopLine where
  body := fun line =>
    if line.i < 240 - x then
      line.extend settings image 1 (fun dx => dx > settings.sMinL) x y
    else
      none
  measure := fun line => (240 - x - line.i).toNat
  decreases := by
    intro line next continued
    split at continued
    next inRow =>
      have moved := (TopLine.extend_some continued).1
      omega
    next => cases continued

/-- The top line loop of the pass from right to left. -/
def topLineRightToLeft (x y : Int) : Loop TopLine where
  body := fun line =>
    if line.i > 0 - x then
      line.extend settings image (-1) (fun dx => dx < -settings.sMinL) x y
    else
      none
  measure := fun line => (x + line.i).toNat
  decreases := by
    intro line next continued
    split at continued
    next inRow =>
      have moved := (TopLine.extend_some continued).1
      omega
    next => cases continued

/-! ## The side line -/

/-- The variables of a side line trace. -/
structure SideLine where
  i : Int
  dy : Int
  found : Bool
  deriving DecidableEq

/-- The side line loop, in the given column. -/
def sideLine (column y j : Int) : Loop SideLine where
  body := fun line =>
    if line.i < 240 - y + j then
      if white image (y + j + line.i) column then
        some {
          i := line.i + 1
          dy := line.dy + 1
          found := line.found || decide (line.dy + 1 > settings.sMinL) }
      else
        none
    else
      none
  measure := fun line => (240 - y + j - line.i).toNat
  decreases := by
    intro line next continued
    split at continued
    next inRange =>
      split at continued
      next =>
        cases continued
        simp only
        omega
      next => cases continued
    next => cases continued

/-! ## One pixel -/

/-- The entry made for a top line and a side line. -/
def corners (f : Bool) (x y : Int) (top : TopLine) (dy width : Int) : QrCode where
  o := true
  f := f
  x0 := x
  y0 := y
  x1 := x + top.dx
  y1 := y + top.j
  x2 := x + top.dx
  y2 := y + top.j + dy
  x3 := x
  y3 := y + 2 * top.j + dy
  dx := width

/-- Where a pass stands in its row, and what it has noted. -/
structure Cursor where
  x : Int
  notes : Notes

/-- The top line from a pixel, for the pass from left to right. -/
def tracedTopLeftToRight (x y : Int) : TopLine :=
  (topLineLeftToRight settings image x y).run { i := 1, j := 0, dx := 1, found := false }

/-- The side line below the end of a top line, for the pass from left to right. -/
def tracedSideLeftToRight (x y : Int) (top : TopLine) : SideLine :=
  (sideLine settings image (x + top.dx - settings.sStepback) y top.j).run
    { i := 1, dy := 1, found := false }

/-- A pixel that starts a top line, from left to right.  The variable `i` of the
trace that ran last moves the scan on. -/
def traceLeftToRight (y : Int) (cursor : Cursor) : Cursor :=
  let top := tracedTopLeftToRight settings image cursor.x y
  if top.found then
    let side := tracedSideLeftToRight settings image cursor.x y top
    { x := cursor.x + side.i
      notes :=
        if side.found then
          cursor.notes.note (corners false cursor.x y top side.dy top.dx)
        else
          cursor.notes }
  else
    { x := cursor.x + top.i
      notes := cursor.notes }

/-- One iteration over the pixels of a row, from left to right. -/
def visitLeftToRight (y : Int) (cursor : Cursor) : Cursor :=
  let traced :=
    if !cursor.notes.insideLeftToRight cursor.x y && topPixel settings image y cursor.x then
      traceLeftToRight settings image y cursor
    else
      cursor
  { traced with x := traced.x + 1 }

/-- The top line from a pixel, for the pass from right to left. -/
def tracedTopRightToLeft (x y : Int) : TopLine :=
  (topLineRightToLeft settings image x y).run { i := -1, j := 0, dx := -1, found := false }

/-- The side line below the end of a top line, for the pass from right to left. -/
def tracedSideRightToLeft (x y : Int) (top : TopLine) : SideLine :=
  (sideLine settings image (x + top.dx + settings.sStepback) y top.j).run
    { i := 1, dy := 1, found := false }

/-- A pixel that starts a top line, from right to left.  The length of the top line
moves the scan on. -/
def traceRightToLeft (y : Int) (cursor : Cursor) : Cursor :=
  let top := tracedTopRightToLeft settings image cursor.x y
  { x := cursor.x + top.dx
    notes :=
      if top.found then
        let side := tracedSideRightToLeft settings image cursor.x y top
        if side.found then
          cursor.notes.note (corners true cursor.x y top side.dy (-top.dx))
        else
          cursor.notes
      else
        cursor.notes }

/-- One iteration over the pixels of a row, from right to left. -/
def visitRightToLeft (y : Int) (cursor : Cursor) : Cursor :=
  let traced :=
    if !cursor.notes.insideRightToLeft cursor.x y && topPixel settings image y cursor.x then
      traceRightToLeft settings image y cursor
    else
      cursor
  { traced with x := traced.x - 1 }

/-! ## The passes -/

theorem one_le_tracedTopLeftToRight_i (x y : Int) :
    1 ≤ (tracedTopLeftToRight settings image x y).i := by
  have kept : ∀ line next : TopLine, 1 ≤ line.i →
      (topLineLeftToRight settings image x y).body line = some next → 1 ≤ next.i := by
    intro line next positive continued
    simp only [topLineLeftToRight] at continued
    split at continued
    next =>
      have moved := (TopLine.extend_some continued).1
      omega
    next => cases continued
  exact Loop.run_invariant kept (le_refl 1)

theorem one_le_sideLine_i (column y j : Int) :
    1 ≤ ((sideLine settings image column y j).run { i := 1, dy := 1, found := false }).i := by
  have kept : ∀ line next : SideLine, 1 ≤ line.i →
      (sideLine settings image column y j).body line = some next → 1 ≤ next.i := by
    intro line next positive continued
    simp only [sideLine] at continued
    split at continued
    next =>
      split at continued
      next =>
        cases continued
        simp only
        omega
      next => cases continued
    next => cases continued
  exact Loop.run_invariant kept (le_refl 1)

theorem tracedTopRightToLeft_dx_neg (x y : Int) :
    (tracedTopRightToLeft settings image x y).dx < 0 := by
  have kept : ∀ line next : TopLine, line.dx < 0 →
      (topLineRightToLeft settings image x y).body line = some next → next.dx < 0 := by
    intro line next negative continued
    simp only [topLineRightToLeft] at continued
    split at continued
    next =>
      have moved := (TopLine.extend_some continued).2.1
      omega
    next => cases continued
  exact Loop.run_invariant kept (by decide)

theorem lt_traceLeftToRight_x (y : Int) (cursor : Cursor) :
    cursor.x < (traceLeftToRight settings image y cursor).x := by
  have top := one_le_tracedTopLeftToRight_i settings image cursor.x y
  have side := one_le_sideLine_i settings image
    (cursor.x + (tracedTopLeftToRight settings image cursor.x y).dx - settings.sStepback)
    y (tracedTopLeftToRight settings image cursor.x y).j
  simp only [traceLeftToRight, tracedSideLeftToRight]
  split <;> simp only <;> omega

/-- The scan from left to right always moves on. -/
theorem lt_visitLeftToRight_x (y : Int) (cursor : Cursor) :
    cursor.x < (visitLeftToRight settings image y cursor).x := by
  have traced := lt_traceLeftToRight_x settings image y cursor
  simp only [visitLeftToRight]
  split <;> omega

/-- The scan from right to left always moves on. -/
theorem visitRightToLeft_x_lt (y : Int) (cursor : Cursor) :
    (visitRightToLeft settings image y cursor).x < cursor.x := by
  have top := tracedTopRightToLeft_dx_neg settings image cursor.x y
  simp only [visitRightToLeft, traceRightToLeft]
  split
  next =>
    simp only
    omega
  next => omega

/-- The loop over one row, from left to right. -/
def rowLeftToRight (y : Int) : Loop Cursor where
  body := fun cursor =>
    if cursor.x < 240 then
      some (visitLeftToRight settings image y cursor)
    else
      none
  measure := fun cursor => (240 - cursor.x).toNat
  decreases := by
    intro cursor next continued
    split at continued
    next inRow =>
      cases continued
      have moved := lt_visitLeftToRight_x settings image y cursor
      omega
    next => cases continued

/-- The loop over one row, from right to left. -/
def rowRightToLeft (y : Int) : Loop Cursor where
  body := fun cursor =>
    if cursor.x ≥ 0 then
      some (visitRightToLeft settings image y cursor)
    else
      none
  measure := fun cursor => (cursor.x + 1).toNat
  decreases := by
    intro cursor next continued
    split at continued
    next inRow =>
      cases continued
      have moved := visitRightToLeft_x_lt settings image y cursor
      omega
    next => cases continued

/-- The row a pass stands in, and what it has noted. -/
structure RowCursor where
  y : Int
  notes : Notes

/-- The loop over the rows, given what is done in one of them. -/
def rows (row : Int → Notes → Notes) : Loop RowCursor where
  body := fun cursor =>
    if cursor.y < 240 then
      some { y := cursor.y + 1, notes := row cursor.y cursor.notes }
    else
      none
  measure := fun cursor => (240 - cursor.y).toNat
  decreases := by
    intro cursor next continued
    split at continued
    next inRange =>
      cases continued
      simp only
      omega
    next => cases continued

/-- What the pass from left to right notes in one row. -/
def scanRowLeftToRight (y : Int) (notes : Notes) : Notes :=
  ((rowLeftToRight settings image y).run { x := 0, notes := notes }).notes

/-- What the pass from right to left notes in one row. -/
def scanRowRightToLeft (y : Int) (notes : Notes) : Notes :=
  ((rowRightToLeft settings image y).run { x := 239, notes := notes }).notes

/-- The pass from left to right, which starts in row `1`. -/
def passLeftToRight (notes : Notes) : Notes :=
  ((rows (scanRowLeftToRight settings image)).run { y := 1, notes := notes }).notes

/-- The pass from right to left. -/
def passRightToLeft (notes : Notes) : Notes :=
  ((rows (scanRowRightToLeft settings image)).run { y := 1, notes := notes }).notes

end Traces

/-! ## The report -/

/-- The width of a noted frame. -/
def QrCode.width (code : QrCode) : Int :=
  if code.f then code.x0 - code.x1 else code.x1 - code.x0

/-- One round of the selection: a wider frame becomes the best one. -/
def QrCode.better (best code : QrCode) : QrCode :=
  if code.o && decide (code.dx > best.dx) then code else best

/-- `best` after the selection; its coordinates are not reset. -/
def selectBest (best : QrCode) (l1 : Vector QrCode 5) : QrCode :=
  l1.toList.foldl QrCode.better { best with o := false, dx := 0, f := false }

/-- The log line `#%d;%d`. -/
def positionLine (position width : Int) : String :=
  String.ofList ('#' :: (decimal position ++ ';' :: decimal width))

/-- The reported position: the centre of the best frame, or `500` if there is none. -/
def reportLine (best : QrCode) : String :=
  if !best.o then
    positionLine 500 5
  else
    positionLine ((best.x1 + best.x0).tdiv 2) best.width

/-! ## The task -/

/-- What the task keeps between two frames. -/
structure TaskState where
  pureBOrW : Frame
  l1 : Vector QrCode 5
  best : QrCode

/-- What the task logs for one frame: the decoded symbols and the position. -/
structure FrameLog where
  symbols : List String
  position : String

/-- All entries are marked as free. -/
def resetNotes (l1 : Vector QrCode 5) : Notes where
  l1 := l1.map fun code => { code with o := false }
  k := 0

/-- Both passes over a converted picture, from a buffer that is marked as free. -/
def detect (settings : Settings) (image : Int → UInt16) (l1 : Vector QrCode 5) : Notes :=
  passRightToLeft settings image (passLeftToRight settings image (resetNotes l1))

/-- `~%s` for every large frame if the code scanner, which reads the whole picture,
decodes a symbol. -/
def symbolLines (scan : Frame → Option String) (pureBOrW : Frame) (l1 : Vector QrCode 5) :
    List String :=
  (l1.toList.filter fun code => code.o && decide (code.width > 130)).filterMap fun _ =>
    (scan pureBOrW).map fun data => "~" ++ data

/-- The selection and the log of one frame, after both passes. -/
def concludeFrame (scan : Frame → Option String) (best : QrCode) (pureBOrW : Frame)
    (notes : Notes) : TaskState × FrameLog :=
  let best := selectBest best notes.l1
  ({ pureBOrW := pureBOrW, l1 := notes.l1, best := best },
    { symbols := symbolLines scan pureBOrW notes.l1, position := reportLine best })

/-- One iteration of `task_process_handler`. -/
def processFrame (scan : Frame → Option String) (settings : Settings) (state : TaskState)
    (frame : Frame) : TaskState × FrameLog :=
  let pureBOrW := convertFrame frame state.pureBOrW
  concludeFrame scan state.best pureBOrW (detect settings (readWord pureBOrW) state.l1)

/-- `task_process_handler` on a sequence of frames: the log of each. -/
def taskProcessHandler (scan : Frame → Option String) (settings : Settings) :
    TaskState → List Frame → List FrameLog
  | _, [] => []
  | state, frame :: frames =>
      let processed := processFrame scan settings state frame
      processed.2 :: taskProcessHandler scan settings processed.1 frames

/-- What is kept and logged for a frame, given what both passes note in it. -/
theorem processFrame_of_detect (scan : Frame → Option String) {settings : Settings}
    {state : TaskState} {frame : Frame} {notes : Notes}
    (detected : detect settings (readWord (frame.map pureWord)) state.l1 = notes) :
    (processFrame scan settings state frame).1.l1 = notes.l1 ∧
      (processFrame scan settings state frame).2.position =
        reportLine (selectBest state.best notes.l1) := by
  have concluded : processFrame scan settings state frame =
      concludeFrame scan state.best (frame.map pureWord) notes := by
    rw [processFrame, convertFrame_eq, detected]
  rw [concluded]
  exact ⟨rfl, rfl⟩

end ECam.QrPosing
