import ECam.QrPosing.SingleMarker
import ECam.QrPosing.Mirror.Rows

/-!
# The two passes and the mirrored picture

As long as neither of the differences between the two passes matters, the pass from
right to left notes the mirror images of what the other pass notes.  At the border it
does not: a marker in the last columns is found, and its mirror image is not.
-/

namespace ECam.QrPosing

open ECam.Library

/-! ## The passes -/

/-- In every state of the pass from left to right, a top line that is found is aligned. -/
def PassAligned (settings : Settings) (image : Int → UInt16) (notes : Notes) : Prop :=
  ∀ row ∈ (rows (scanRowLeftToRight settings image)).states ⟨1, notes⟩, row.y < 240 →
    RowAligned settings image row.y row.notes

theorem MirrorImage.pass_mirrored {settings : Settings} {picture mirrored : Int → Int → Bool}
    {image other : Int → UInt16} {notes others : Notes}
    (mirror : MirrorImage picture mirrored) (shows : Shows image picture)
    (otherShows : Shows other mirrored) (valid : settings.Valid)
    (aligned : PassAligned settings image notes) (related : notes.Mirrored others) :
    (passLeftToRight settings image notes).Mirrored
      (passRightToLeft settings other others) := by
  have together : ∀ cursor later : RowCursor,
      (later.y = cursor.y ∧ cursor.notes.Mirrored later.notes ∧
        cursor ∈ (rows (scanRowLeftToRight settings image)).states ⟨1, notes⟩) →
      ((rows (scanRowLeftToRight settings image)).body cursor = none ∧
        (rows (scanRowRightToLeft settings other)).body later = none) ∨
      ∃ next otherNext, (rows (scanRowLeftToRight settings image)).body cursor = some next ∧
        (rows (scanRowRightToLeft settings other)).body later = some otherNext ∧
        otherNext.y = next.y ∧ next.notes.Mirrored otherNext.notes ∧
        next ∈ (rows (scanRowLeftToRight settings image)).states ⟨1, notes⟩ := by
    rintro ⟨y, current⟩ ⟨otherY, otherCurrent⟩ ⟨y_eq, kept, member⟩
    simp only at y_eq kept
    subst y_eq
    by_cases inRange : otherY < 240
    · have continued : (rows (scanRowLeftToRight settings image)).body ⟨otherY, current⟩ =
          some ⟨otherY + 1, scanRowLeftToRight settings image otherY current⟩ :=
        if_pos inRange
      have scanned := mirror.scanRow_mirrored shows otherShows valid
        (aligned _ member inRange) kept
      exact Or.inr ⟨_, _, continued, if_pos inRange, rfl, scanned,
        Loop.mem_states_step member continued⟩
    · exact Or.inl ⟨if_neg inRange, if_neg inRange⟩
  have initially : (⟨1, others⟩ : RowCursor).y = (⟨1, notes⟩ : RowCursor).y ∧
      (⟨1, notes⟩ : RowCursor).notes.Mirrored (⟨1, others⟩ : RowCursor).notes ∧
      (⟨1, notes⟩ : RowCursor) ∈
        (rows (scanRowLeftToRight settings image)).states ⟨1, notes⟩ :=
    ⟨rfl, related, Loop.mem_states_self _ _⟩
  have ended := Loop.run_related together initially
  rw [passLeftToRight, passRightToLeft]
  exact ended.2.1

/-! ## The border -/

section Border

variable {settings : Settings} {image : Int → UInt16}

/-- A top line from right to left never includes column `0` unless it starts there. -/
theorem tracedTopRightToLeft_stops (x y : Int) :
    -x ≤ (tracedTopRightToLeft settings image x y).dx ∨
      (tracedTopRightToLeft settings image x y).dx = -1 := by
  have kept : ∀ line next : TopLine, (line.i = line.dx ∧ (-x ≤ line.dx ∨ line.dx = -1)) →
      (topLineRightToLeft settings image x y).body line = some next →
      next.i = next.dx ∧ (-x ≤ next.dx ∨ next.dx = -1) := by
    rintro line next ⟨length, _⟩ continued
    simp only [topLineRightToLeft] at continued
    split at continued
    next going =>
      have step := TopLine.extend_some continued
      omega
    next => cases continued
  have initially : (⟨-1, 0, -1, false⟩ : TopLine).i = (⟨-1, 0, -1, false⟩ : TopLine).dx ∧
      (-x ≤ (⟨-1, 0, -1, false⟩ : TopLine).dx ∨ (⟨-1, 0, -1, false⟩ : TopLine).dx = -1) :=
    ⟨rfl, Or.inr rfl⟩
  exact (Loop.run_invariant kept initially).2

theorem tracedRightToLeft_x1 (valid : settings.Valid) {x y : Int} (nonneg : 0 ≤ x)
    (start : topPixel settings image y x = true) {code : QrCode}
    (found : tracedRightToLeft settings image x y = some code) : 0 ≤ code.x1 := by
  have minL := valid.minL_pos
  have stops := @tracedTopRightToLeft_stops settings image x y
  rcases tracedTopRightToLeft_traced minL nonneg start with ⟨row, columns, traced, _⟩
  have dx_eq := traced.dx_eq
  simp only [tracedRightToLeft] at found
  split at found
  next both =>
    rw [Bool.and_eq_true] at both
    cases found
    have wide := traced.wide both.1
    simp only [corners]
    omega
  next => cases found

/-- The entries of the pass from right to left end in the picture. -/
theorem passRightToLeft_x1 (valid : settings.Valid) (l1 : Vector QrCode 5) :
    ∀ code ∈ (passRightToLeft settings image (resetNotes l1)).l1.toList.filter QrCode.o,
      0 ≤ code.x1 := by
  have kept : ∀ x y notes, 0 ≤ x → x < 240 → 1 ≤ y → y < 240 →
      (notes.WellFormed ∧ ∀ code ∈ notes.entries, 0 ≤ code.x1) →
      (visitRightToLeft settings image y ⟨x, notes⟩).notes.WellFormed ∧
        ∀ code ∈ (visitRightToLeft settings image y ⟨x, notes⟩).notes.entries,
          0 ≤ code.x1 := by
    rintro x y notes nonneg _ _ _ ⟨wellFormed, inside⟩
    rcases visitRightToLeft_cases settings image y ⟨x, notes⟩ with
      unchanged | ⟨new, _, start, traced, noted⟩
    · rw [unchanged]
      exact ⟨wellFormed, inside⟩
    · rw [noted]
      refine ⟨wellFormed.note (tracedRightToLeft_noted traced).occupied, ?_⟩
      intro code member
      rcases wellFormed.mem_note member with old | same
      · exact inside code old
      · rw [same]
        exact tracedRightToLeft_x1 valid nonneg start traced
  have initially : (resetNotes l1).WellFormed ∧ ∀ code ∈ (resetNotes l1).entries, 0 ≤ code.x1 :=
    ⟨resetNotes_wellFormed l1, fun code member => by cases member⟩
  have final := passRightToLeft_invariant settings image
    (fun notes => notes.WellFormed ∧ ∀ code ∈ notes.entries, 0 ≤ code.x1) kept initially
  rw [final.1.filter_occupied]
  exact final.2

end Border

/-- The two scan directions are mirror images of each other as long as every top line that
is found from left to right is aligned.  They are not if an entry from left to right
reaches the last column. -/
theorem mirrored_records {settings : Settings} (valid : settings.Valid)
    {frame mirrored : Frame} (mirror : MirrorImage (pixel frame) (pixel mirrored))
    (l1 otherL1 : Vector QrCode 5) :
    (PassAligned settings (readWord (frame.map pureWord)) (resetNotes l1) →
      (passRightToLeft settings (readWord (mirrored.map pureWord))
          (resetNotes otherL1)).l1.toList.filter QrCode.o =
        ((passLeftToRight settings (readWord (frame.map pureWord))
          (resetNotes l1)).l1.toList.filter QrCode.o).map QrCode.mirror) ∧
    ((passRightToLeft settings (readWord (mirrored.map pureWord))
          (resetNotes otherL1)).l1.toList.filter QrCode.o =
        ((passLeftToRight settings (readWord (frame.map pureWord))
          (resetNotes l1)).l1.toList.filter QrCode.o).map QrCode.mirror →
      ∀ code ∈ (passLeftToRight settings (readWord (frame.map pureWord))
        (resetNotes l1)).l1.toList.filter QrCode.o, code.x1 < 240) := by
  constructor
  · intro aligned
    have initially : (resetNotes l1).Mirrored (resetNotes otherL1) :=
      ⟨resetNotes_wellFormed l1, resetNotes_wellFormed otherL1, rfl⟩
    apply Notes.Mirrored.filter_occupied
    exact mirror.pass_mirrored (shows_pixel frame) (shows_pixel mirrored) valid aligned
      initially
  · intro same code member
    have image := List.mem_map_of_mem (f := QrCode.mirror) member
    rw [← same] at image
    have ends := passRightToLeft_x1 valid otherL1 code.mirror image
    simp only [QrCode.mirror] at ends
    omega

/-- The mirror image of a rectangle. -/
theorem rectangleFrame_mirror {settings : Settings} {a b w h c : Int}
    (placed : Placed settings a b w h) (otherPlaced : Placed settings c b w h)
    (opposite : c = 240 - a - w) :
    MirrorImage (pixel (rectangleFrame a b w h)) (pixel (rectangleFrame c b w h)) := by
  intro row column
  rw [Bool.eq_iff_iff, pixel_rectangleFrame placed, pixel_rectangleFrame otherPlaced]
  omega

/-- A marker of two by two pixels in the last columns is noted from left to right.  In the
mirrored picture it lies in the first columns, and nothing is noted from right to left. -/
theorem records_not_mirrored :
    MirrorImage (pixel (rectangleFrame 238 1 2 2)) (pixel (rectangleFrame 0 1 2 2)) ∧
      (passRightToLeft leastSettings (readWord ((rectangleFrame 0 1 2 2).map pureWord))
          (resetNotes zeroTask.l1)).l1.toList.filter QrCode.o ≠
        ((passLeftToRight leastSettings (readWord ((rectangleFrame 238 1 2 2).map pureWord))
          (resetNotes zeroTask.l1)).l1.toList.filter QrCode.o).map QrCode.mirror := by
  have placed : Placed leastSettings 238 1 2 2 := by constructor <;> decide
  have otherPlaced : Placed leastSettings 0 1 2 2 := by constructor <;> decide
  have shows := (rectangleFrame_bright 238 1 2 2).shows placed
  have otherShows := (rectangleFrame_bright 0 1 2 2).shows otherPlaced
  refine ⟨rectangleFrame_mirror placed otherPlaced (by decide), ?_⟩
  -- a top line that starts in the first two columns has no second column
  have quiet : passRightToLeft leastSettings (readWord ((rectangleFrame 0 1 2 2).map pureWord))
      (resetNotes zeroTask.l1) = resetNotes zeroTask.l1 := by
    apply rows_quiet
    intro y _ _
    apply rowRightToLeft_quiet
    intro x nonneg inRow
    rcases visitRightToLeft_cases leastSettings
        (readWord ((rectangleFrame 0 1 2 2).map pureWord)) y ⟨x, resetNotes zeroTask.l1⟩ with
      unchanged | ⟨code, _, start, traced, _⟩
    · exact unchanged
    · have left : x < 2 := by
        by_contra right
        have black : topPixel leastSettings (readWord ((rectangleFrame 0 1 2 2).map pureWord))
            y x = false := otherShows.topPixel_outside nonneg (by omega) (by omega)
        rw [black] at start
        cases start
      have stopped : tracedTopRightToLeft leastSettings
          (readWord ((rectangleFrame 0 1 2 2).map pureWord)) x y = ⟨-1, 0, -1, false⟩ :=
        Loop.run_of_none (if_neg (show ¬(-1 : Int) > 0 - x by omega))
      simp [tracedRightToLeft, stopped] at traced
  rw [quiet, shows.pass_large placed (by decide) (by decide),
    (markerNotes_wellFormed zeroTask.l1 238 1 2 2).filter_occupied, markerNotes_entries,
    (resetNotes_wellFormed zeroTask.l1).filter_occupied, resetNotes_entries]
  simp

section Marker

variable {settings : Settings} {image : Int → UInt16} {a b w h : Int}

/-- Once the marker is noted, no top line is found. -/
theorem ShowsRectangle.rowAligned_noted (shows : ShowsRectangle image a b w h)
    (l1 : Vector QrCode 5) (y : Int) :
    RowAligned settings image y (markerNotes l1 a b w h) := by
  have kept : ∀ cursor next : Cursor,
      (0 ≤ cursor.x ∧ cursor.notes = markerNotes l1 a b w h) →
      (rowLeftToRight settings image y).body cursor = some next →
      0 ≤ next.x ∧ next.notes = markerNotes l1 a b w h := by
    rintro ⟨x, current⟩ next ⟨nonneg, same⟩ continued
    simp only at nonneg same
    subst same
    simp only [rowLeftToRight] at continued
    split at continued
    next inRow =>
      cases continued
      have further := lt_visitLeftToRight_x settings image y ⟨x, markerNotes l1 a b w h⟩
      simp only at further
      exact ⟨by omega, (shows.visit_noted l1 nonneg inRow).1⟩
    next => cases continued
  rintro ⟨x, current⟩ member inRow finds
  rcases Loop.states_invariant kept ⟨le_refl 0, rfl⟩ _ member with ⟨nonneg, same⟩
  simp only at nonneg same inRow
  subst same
  have start : topPixel settings image y x = true := finds.start
  have outside : (markerNotes l1 a b w h).insideLeftToRight x y = false := finds.outside
  by_cases inside : (a ≤ x ∧ x < a + w) ∧ b ≤ y ∧ y < b + h
  · rw [(markerNotes_inside l1 inside).1] at outside
    cases outside
  · rw [shows.topPixel_outside nonneg inRow inside] at start
    cases start

/-- Up to its first row, the top line of the marker is the only one that is found. -/
theorem ShowsRectangle.rowAligned_first (shows : ShowsRectangle image a b w h)
    (placed : Placed settings a b w h) (wide : w > settings.sMinL) (high : h > settings.sMinL)
    (ends : a + w < 240) (l1 : Vector QrCode 5) {y : Int} (above : y ≤ b) :
    RowAligned settings image y (resetNotes l1) := by
  have left := placed.a_nonneg
  have kept : ∀ cursor next : Cursor,
      (0 ≤ cursor.x ∧ ((cursor.notes = resetNotes l1 ∧ (y = b → cursor.x ≤ a)) ∨
        cursor.notes = markerNotes l1 a b w h)) →
      (rowLeftToRight settings image y).body cursor = some next →
      0 ≤ next.x ∧ ((next.notes = resetNotes l1 ∧ (y = b → next.x ≤ a)) ∨
        next.notes = markerNotes l1 a b w h) := by
    rintro ⟨x, current⟩ next ⟨nonneg, before⟩ continued
    simp only at nonneg before
    simp only [rowLeftToRight] at continued
    split at continued
    next inRow =>
      cases continued
      have further := lt_visitLeftToRight_x settings image y ⟨x, current⟩
      simp only at further inRow
      refine ⟨by omega, ?_⟩
      rcases before with ⟨rfl, position⟩ | rfl
      · by_cases corner : y = b ∧ x = a
        · rw [corner.1, corner.2, shows.visit_corner placed wide high]
          exact Or.inr rfl
        · have noTop : topPixel settings image y x = false :=
            shows.topPixel_outside nonneg inRow (by omega)
          rw [visitLeftToRight_skip (Or.inr noTop)]
          refine Or.inl ⟨rfl, fun first => ?_⟩
          have bound := position first
          simp only
          omega
      · exact Or.inr (shows.visit_noted l1 nonneg inRow).1
    next => cases continued
  have initially : 0 ≤ (⟨0, resetNotes l1⟩ : Cursor).x ∧
      (((⟨0, resetNotes l1⟩ : Cursor).notes = resetNotes l1 ∧
        (y = b → (⟨0, resetNotes l1⟩ : Cursor).x ≤ a)) ∨
        (⟨0, resetNotes l1⟩ : Cursor).notes = markerNotes l1 a b w h) :=
    ⟨le_refl 0, Or.inl ⟨rfl, fun _ => left⟩⟩
  rintro ⟨x, current⟩ member inRow finds
  rcases Loop.states_invariant kept initially _ member with ⟨nonneg, before⟩
  have start : topPixel settings image y x = true := finds.start
  have inside : (a ≤ x ∧ x < a + w) ∧ b ≤ y ∧ y < b + h := by
    by_contra outside
    rw [shows.topPixel_outside nonneg inRow outside] at start
    cases start
  simp only at nonneg before inRow
  rcases before with ⟨rfl, position⟩ | rfl
  · have first : y = b := by omega
    have bound := position first
    have corner : x = a := by omega
    subst first corner
    simp only [shows.tracedTop placed wide, shows.tracedSide placed wide high]
    refine ⟨ends, ?_, fun rejected => by cases rejected⟩
    intro _ _ column behind _ inPicture
    simp only at behind
    exact Or.inr (Or.inl (shows.topPixel_outside (by omega) inPicture (by omega)))
  · have outside : (markerNotes l1 a b w h).insideLeftToRight x y = false := finds.outside
    rw [(markerNotes_inside l1 inside).1] at outside
    cases outside

/-- The picture of one large marker that ends before the last column. -/
theorem ShowsRectangle.passAligned (shows : ShowsRectangle image a b w h)
    (placed : Placed settings a b w h) (wide : w > settings.sMinL) (high : h > settings.sMinL)
    (ends : a + w < 240) (l1 : Vector QrCode 5) :
    PassAligned settings image (resetNotes l1) := by
  have bPos := placed.b_pos
  have kept : ∀ row next : RowCursor,
      ((row.notes = resetNotes l1 ∧ row.y ≤ b) ∨ row.notes = markerNotes l1 a b w h) →
      (rows (scanRowLeftToRight settings image)).body row = some next →
      (next.notes = resetNotes l1 ∧ next.y ≤ b) ∨ next.notes = markerNotes l1 a b w h := by
    rintro ⟨y, current⟩ next before continued
    simp only [rows] at continued before
    split at continued
    next inRange =>
      cases continued
      simp only
      rcases before with ⟨rfl, above⟩ | rfl
      · by_cases first : y = b
        · right
          rw [first, shows.scanRow_first placed wide high]
        · left
          exact ⟨shows.scanRow_above (by omega) _, by omega⟩
      · right
        apply rowLeftToRight_quiet
        intro x start inRow
        exact (shows.visit_noted l1 start inRow).1
    next => cases continued
  have initially : ((⟨1, resetNotes l1⟩ : RowCursor).notes = resetNotes l1 ∧
      (⟨1, resetNotes l1⟩ : RowCursor).y ≤ b) ∨
      (⟨1, resetNotes l1⟩ : RowCursor).notes = markerNotes l1 a b w h :=
    Or.inl ⟨rfl, bPos⟩
  rintro ⟨y, current⟩ member inRange
  rcases Loop.states_invariant kept initially _ member with ⟨rfl, above⟩ | same
  · exact shows.rowAligned_first placed wide high ends l1 above
  · simp only at same
    subst same
    exact shows.rowAligned_noted l1 y

end Marker

/-- A marker of 30 by 40 pixels and its mirror image. -/
theorem mirrored_records_marker :
    (passRightToLeft appMainSettings (readWord ((rectangleFrame 110 50 30 40).map pureWord))
        (resetNotes zeroTask.l1)).l1.toList.filter QrCode.o =
      [(markerNote 100 50 30 40).mirror] := by
  have placed : Placed appMainSettings 100 50 30 40 := by constructor <;> decide
  have otherPlaced : Placed appMainSettings 110 50 30 40 := by constructor <;> decide
  have valid : appMainSettings.Valid := by constructor <;> decide
  have shows := (rectangleFrame_bright 100 50 30 40).shows placed
  have mirror := rectangleFrame_mirror placed otherPlaced (by decide)
  have aligned := shows.passAligned placed (by decide) (by decide) (by decide) zeroTask.l1
  rw [(mirrored_records valid mirror zeroTask.l1 zeroTask.l1).1 aligned,
    shows.pass_large placed (by decide) (by decide),
    (markerNotes_wellFormed zeroTask.l1 100 50 30 40).filter_occupied, markerNotes_entries]
  rfl

end ECam.QrPosing
