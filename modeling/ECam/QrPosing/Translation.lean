import ECam.QrPosing.SingleMarker
import ECam.QrPosing.Translation.Traces

/-!
# Shifting the picture

The detector works on absolute coordinates: its loops are bounded by the borders of the
picture, and its jumps may lead past them.  If all white pixels stay away from the first
row and the first column, the borders do not matter, and a shifted picture leads to the
shifted notes and the shifted report.
-/

namespace ECam.QrPosing

open ECam.Library

section Traces

variable {settings : Settings} {picture shifted : Int → Int → Bool} {dc dr : Int}
  {image other : Int → UInt16}

/-! ## Notes -/

/-- An entry of the shifted picture. -/
def QrCode.shift (dc dr : Int) (code : QrCode) : QrCode where
  o := code.o
  f := code.f
  x0 := code.x0 + dc
  y0 := code.y0 + dr
  x1 := code.x1 + dc
  y1 := code.y1 + dr
  x2 := code.x2 + dc
  y2 := code.y2 + dr
  x3 := code.x3 + dc
  y3 := code.y3 + dr
  dx := code.dx

theorem corners_shift (f : Bool) (x y : Int) (top : TopLine) (dy width : Int) :
    corners f (x + dc) (y + dr) top dy width = (corners f x y top dy width).shift dc dr := by
  simp only [corners, QrCode.shift]
  congr 1 <;> ring

/-- The entries in use of one buffer are those of the other one, shifted. -/
structure Notes.Shifted (dc dr : Int) (notes others : Notes) : Prop where
  wellFormed : notes.WellFormed
  otherWellFormed : others.WellFormed
  entries : others.entries = notes.entries.map (QrCode.shift dc dr)

namespace Notes.Shifted

variable {notes others : Notes}

theorem note (related : notes.Shifted dc dr others) {code : QrCode} (occupied : code.o = true) :
    (notes.note code).Shifted dc dr (others.note (code.shift dc dr)) where
  wellFormed := related.wellFormed.note occupied
  otherWellFormed := related.otherWellFormed.note occupied
  entries := by
    rw [related.wellFormed.entries_note, related.otherWellFormed.entries_note, related.entries,
      List.map_take, List.map_append, List.map_singleton]

theorem insideLeftToRight (related : notes.Shifted dc dr others) (x y : Int) :
    others.insideLeftToRight (x + dc) (y + dr) = notes.insideLeftToRight x y := by
  rw [Notes.insideLeftToRight, Notes.insideLeftToRight, related.wellFormed.any_occupied,
    related.otherWellFormed.any_occupied, related.entries, List.any_map]
  congr 1
  funext code
  simp only [Function.comp_apply, QrCode.shift, add_le_add_iff_right]

theorem insideRightToLeft (related : notes.Shifted dc dr others) (x y : Int) :
    others.insideRightToLeft (x + dc) (y + dr) = notes.insideRightToLeft x y := by
  rw [Notes.insideRightToLeft, Notes.insideRightToLeft, related.wellFormed.any_occupied,
    related.otherWellFormed.any_occupied, related.entries, List.any_map]
  congr 1
  funext code
  simp only [Function.comp_apply, QrCode.shift, ge_iff_le, add_le_add_iff_right]

end Notes.Shifted

/-! ## Visits -/

/-- The cursor in the shifted picture stands in the shifted column. -/
structure Cursor.Shifted (dc dr : Int) (cursor others : Cursor) : Prop where
  x_eq : others.x = cursor.x + dc
  notes : cursor.notes.Shifted dc dr others.notes

theorem Moved.traceLeftToRight_shifted (moved : Moved picture shifted dc dr)
    (shows : Shows image picture) (otherShows : Shows other shifted)
    (valid : settings.Valid) {x y : Int} (nonneg : 0 ≤ x) (inRow : x < 240)
    {notes others : Notes} (related : notes.Shifted dc dr others)
    (start : topPixel settings image y x = true) :
    (traceLeftToRight settings image y ⟨x, notes⟩).Shifted dc dr
      (traceLeftToRight settings other (y + dr) ⟨x + dc, others⟩) := by
  have startIn := (moved.of_topPixel shows ⟨nonneg, inRow⟩ start).2.2
  simp only [traceLeftToRight,
    moved.tracedTopLeftToRight_eq shows otherShows nonneg (by omega)]
  split
  next found =>
    rw [moved.tracedSideLeftToRight_eq shows otherShows valid nonneg inRow start found]
    refine ⟨?_, ?_⟩
    · simp only
      ring
    · simp only
      split
      next =>
        rw [corners_shift]
        exact related.note rfl
      next => exact related
  next =>
    refine ⟨?_, related⟩
    simp only
    ring

theorem Moved.traceRightToLeft_shifted (moved : Moved picture shifted dc dr)
    (shows : Shows image picture) (otherShows : Shows other shifted)
    (valid : settings.Valid) {x y : Int} (nonneg : 0 ≤ x) (inRow : x < 240)
    {notes others : Notes} (related : notes.Shifted dc dr others)
    (start : topPixel settings image y x = true) :
    (traceRightToLeft settings image y ⟨x, notes⟩).Shifted dc dr
      (traceRightToLeft settings other (y + dr) ⟨x + dc, others⟩) := by
  have startIn := (moved.of_topPixel shows ⟨nonneg, inRow⟩ start).2.2
  simp only [traceRightToLeft,
    moved.tracedTopRightToLeft_eq shows otherShows inRow (show x + dc < 240 by omega)]
  refine ⟨?_, ?_⟩
  · simp only
    ring
  · simp only
    split
    next found =>
      rw [moved.tracedSideRightToLeft_eq shows otherShows valid nonneg inRow start found]
      split
      next =>
        rw [corners_shift]
        exact related.note rfl
      next => exact related
    next => exact related

theorem Moved.visitLeftToRight_shifted (moved : Moved picture shifted dc dr)
    (shows : Shows image picture) (otherShows : Shows other shifted)
    (valid : settings.Valid) {x y : Int} (inRow : 0 ≤ x ∧ x < 240)
    (shiftedIn : 0 ≤ x + dc ∧ x + dc < 240) {notes others : Notes}
    (related : notes.Shifted dc dr others) :
    (visitLeftToRight settings image y ⟨x, notes⟩).Shifted dc dr
      (visitLeftToRight settings other (y + dr) ⟨x + dc, others⟩) := by
  simp only [visitLeftToRight, related.insideLeftToRight,
    moved.topPixel_eq shows otherShows inRow shiftedIn]
  split
  next starts =>
    rw [Bool.and_eq_true] at starts
    have traced := moved.traceLeftToRight_shifted shows otherShows valid inRow.1 inRow.2
      related starts.2
    refine ⟨?_, traced.notes⟩
    simp only [traced.x_eq]
    ring
  next =>
    refine ⟨?_, related⟩
    simp only
    ring

theorem Moved.visitRightToLeft_shifted (moved : Moved picture shifted dc dr)
    (shows : Shows image picture) (otherShows : Shows other shifted)
    (valid : settings.Valid) {x y : Int} (inRow : 0 ≤ x ∧ x < 240)
    (shiftedIn : 0 ≤ x + dc ∧ x + dc < 240) {notes others : Notes}
    (related : notes.Shifted dc dr others) :
    (visitRightToLeft settings image y ⟨x, notes⟩).Shifted dc dr
      (visitRightToLeft settings other (y + dr) ⟨x + dc, others⟩) := by
  simp only [visitRightToLeft, related.insideRightToLeft,
    moved.topPixel_eq shows otherShows inRow shiftedIn]
  split
  next starts =>
    rw [Bool.and_eq_true] at starts
    have traced := moved.traceRightToLeft_shifted shows otherShows valid inRow.1 inRow.2
      related starts.2
    refine ⟨?_, traced.notes⟩
    simp only [traced.x_eq]
    ring
  next =>
    refine ⟨?_, related⟩
    simp only
    ring

/-! ## Rows and passes -/

/-- The scans of a row and of the shifted row.  They start and end in different columns
of the picture, but what only one of them visits is black. -/
theorem Moved.scanRowLeftToRight_shifted (moved : Moved picture shifted dc dr)
    (shows : Shows image picture) (otherShows : Shows other shifted)
    (valid : settings.Valid) (y : Int) {notes others : Notes}
    (related : notes.Shifted dc dr others) :
    (scanRowLeftToRight settings image y notes).Shifted dc dr
      (scanRowLeftToRight settings other (y + dr) others) := by
  have skipped : ((rowLeftToRight settings image y).run ⟨0, notes⟩).notes =
      ((rowLeftToRight settings image y).run ⟨max 0 (-dc), notes⟩).notes :=
    rowLeftToRight_skip (by omega) fun x _ _ _ =>
      Or.inr (moved.topPixel_lost shows (by omega) (by omega))
  have otherSkipped : ((rowLeftToRight settings other (y + dr)).run ⟨0, others⟩).notes =
      ((rowLeftToRight settings other (y + dr)).run ⟨max 0 dc, others⟩).notes :=
    rowLeftToRight_skip (by omega) fun x _ _ _ =>
      Or.inr (moved.symm.topPixel_lost otherShows (by omega) (by omega))
  have initially : (⟨max 0 (-dc), notes⟩ : Cursor).Shifted dc dr ⟨max 0 dc, others⟩ ∧
      0 ≤ max 0 (-dc) ∧ 0 ≤ max 0 dc :=
    ⟨⟨show max 0 dc = max 0 (-dc) + dc by omega, related⟩, by omega, by omega⟩
  rw [scanRowLeftToRight, scanRowLeftToRight, skipped, otherSkipped]
  refine Loop.run_stepwise
    (fun cursor others : Cursor =>
      cursor.Shifted dc dr others ∧ 0 ≤ cursor.x ∧ 0 ≤ others.x)
    (fun cursor others : Cursor => cursor.notes.Shifted dc dr others.notes) ?_ initially
  rintro ⟨x, current⟩ ⟨otherX, otherCurrent⟩ ⟨⟨x_eq, kept⟩, nonneg, otherNonneg⟩
  simp only at x_eq kept nonneg otherNonneg
  subst x_eq
  by_cases both : x < 240 ∧ x + dc < 240
  · -- both scans visit a pixel
    have continued : (rowLeftToRight settings image y).body ⟨x, current⟩ =
        some (visitLeftToRight settings image y ⟨x, current⟩) := if_pos both.1
    have otherContinued : (rowLeftToRight settings other (y + dr)).body ⟨x + dc, otherCurrent⟩ =
        some (visitLeftToRight settings other (y + dr) ⟨x + dc, otherCurrent⟩) :=
      if_pos both.2
    have further := lt_visitLeftToRight_x settings image y ⟨x, current⟩
    have otherFurther := lt_visitLeftToRight_x settings other (y + dr) ⟨x + dc, otherCurrent⟩
    have visited := moved.visitLeftToRight_shifted shows otherShows valid (y := y)
      ⟨nonneg, both.1⟩ ⟨otherNonneg, both.2⟩ kept
    simp only at further otherFurther
    exact Or.inr ⟨_, _, continued, otherContinued, visited, by omega, by omega⟩
  · -- one of them is over, and the other one meets black pixels only
    left
    have rest : ((rowLeftToRight settings image y).run ⟨x, current⟩).notes = current :=
      rowLeftToRight_quiet fun column above inRow => by
        rw [visitLeftToRight_skip (Or.inr (moved.topPixel_lost shows (by omega) (by omega)))]
    have otherRest : ((rowLeftToRight settings other (y + dr)).run
        ⟨x + dc, otherCurrent⟩).notes = otherCurrent :=
      rowLeftToRight_quiet fun column above inRow => by
        rw [visitLeftToRight_skip
          (Or.inr (moved.symm.topPixel_lost otherShows (by omega) (by omega)))]
    rw [rest, otherRest]
    exact kept

theorem Moved.scanRowRightToLeft_shifted (moved : Moved picture shifted dc dr)
    (shows : Shows image picture) (otherShows : Shows other shifted)
    (valid : settings.Valid) (y : Int) {notes others : Notes}
    (related : notes.Shifted dc dr others) :
    (scanRowRightToLeft settings image y notes).Shifted dc dr
      (scanRowRightToLeft settings other (y + dr) others) := by
  have skipped : ((rowRightToLeft settings image y).run ⟨239, notes⟩).notes =
      ((rowRightToLeft settings image y).run ⟨min 239 (239 - dc), notes⟩).notes :=
    rowRightToLeft_skip (by omega) fun x _ _ _ =>
      Or.inr (moved.topPixel_lost shows (by omega) (by omega))
  have otherSkipped : ((rowRightToLeft settings other (y + dr)).run ⟨239, others⟩).notes =
      ((rowRightToLeft settings other (y + dr)).run ⟨min 239 (239 + dc), others⟩).notes :=
    rowRightToLeft_skip (by omega) fun x _ _ _ =>
      Or.inr (moved.symm.topPixel_lost otherShows (by omega) (by omega))
  have initially : (⟨min 239 (239 - dc), notes⟩ : Cursor).Shifted dc dr
      ⟨min 239 (239 + dc), others⟩ ∧ min 239 (239 - dc) < 240 ∧ min 239 (239 + dc) < 240 :=
    ⟨⟨show min 239 (239 + dc) = min 239 (239 - dc) + dc by omega, related⟩, by omega,
      by omega⟩
  rw [scanRowRightToLeft, scanRowRightToLeft, skipped, otherSkipped]
  refine Loop.run_stepwise
    (fun cursor others : Cursor =>
      cursor.Shifted dc dr others ∧ cursor.x < 240 ∧ others.x < 240)
    (fun cursor others : Cursor => cursor.notes.Shifted dc dr others.notes) ?_ initially
  rintro ⟨x, current⟩ ⟨otherX, otherCurrent⟩ ⟨⟨x_eq, kept⟩, inRow, otherInRow⟩
  simp only at x_eq kept inRow otherInRow
  subst x_eq
  by_cases both : x ≥ 0 ∧ x + dc ≥ 0
  · have continued : (rowRightToLeft settings image y).body ⟨x, current⟩ =
        some (visitRightToLeft settings image y ⟨x, current⟩) := if_pos both.1
    have otherContinued : (rowRightToLeft settings other (y + dr)).body ⟨x + dc, otherCurrent⟩ =
        some (visitRightToLeft settings other (y + dr) ⟨x + dc, otherCurrent⟩) :=
      if_pos both.2
    have further := visitRightToLeft_x_lt settings image y ⟨x, current⟩
    have otherFurther := visitRightToLeft_x_lt settings other (y + dr) ⟨x + dc, otherCurrent⟩
    have visited := moved.visitRightToLeft_shifted shows otherShows valid (y := y)
      ⟨both.1, inRow⟩ ⟨both.2, otherInRow⟩ kept
    simp only at further otherFurther
    exact Or.inr ⟨_, _, continued, otherContinued, visited, by omega, by omega⟩
  · left
    have rest : ((rowRightToLeft settings image y).run ⟨x, current⟩).notes = current :=
      rowRightToLeft_quiet fun column nonneg below => by
        rw [visitRightToLeft_skip (Or.inr (moved.topPixel_lost shows (by omega) (by omega)))]
    have otherRest : ((rowRightToLeft settings other (y + dr)).run
        ⟨x + dc, otherCurrent⟩).notes = otherCurrent :=
      rowRightToLeft_quiet fun column nonneg below => by
        rw [visitRightToLeft_skip
          (Or.inr (moved.symm.topPixel_lost otherShows (by omega) (by omega)))]
    rw [rest, otherRest]
    exact kept

/-- The scans of all rows, given that rows which leave the picture are passed over. -/
theorem rows_shifted {row otherRow : Int → Notes → Notes}
    (scanned : ∀ y notes others, notes.Shifted dc dr others →
      (row y notes).Shifted dc dr (otherRow (y + dr) others))
    (quiet : ∀ y notes, ¬(1 ≤ y + dr ∧ y + dr ≤ 239) → row y notes = notes)
    (otherQuiet : ∀ y notes, ¬(1 ≤ y - dr ∧ y - dr ≤ 239) → otherRow y notes = notes)
    {notes others : Notes} (related : notes.Shifted dc dr others) :
    ((rows row).run ⟨1, notes⟩).notes.Shifted dc dr ((rows otherRow).run ⟨1, others⟩).notes := by
  have skipped : ((rows row).run ⟨1, notes⟩).notes =
      ((rows row).run ⟨max 1 (1 - dr), notes⟩).notes :=
    rows_skip (by omega) fun y _ _ _ => quiet y notes (by omega)
  have otherSkipped : ((rows otherRow).run ⟨1, others⟩).notes =
      ((rows otherRow).run ⟨max 1 (1 + dr), others⟩).notes :=
    rows_skip (by omega) fun y _ _ _ => otherQuiet y others (by omega)
  have initially : max 1 (1 + dr) = max 1 (1 - dr) + dr ∧ notes.Shifted dc dr others :=
    ⟨by omega, related⟩
  rw [skipped, otherSkipped]
  refine Loop.run_stepwise
    (fun cursor others : RowCursor =>
      others.y = cursor.y + dr ∧ cursor.notes.Shifted dc dr others.notes)
    (fun cursor others : RowCursor => cursor.notes.Shifted dc dr others.notes) ?_ initially
  rintro ⟨y, current⟩ ⟨otherY, otherCurrent⟩ ⟨y_eq, kept⟩
  simp only at y_eq kept
  subst y_eq
  by_cases both : y < 240 ∧ y + dr < 240
  · have continued : (rows row).body ⟨y, current⟩ = some ⟨y + 1, row y current⟩ :=
      if_pos both.1
    have otherContinued : (rows otherRow).body ⟨y + dr, otherCurrent⟩ =
        some ⟨y + dr + 1, otherRow (y + dr) otherCurrent⟩ := if_pos both.2
    have further : y + dr + 1 = y + 1 + dr := by ring
    exact Or.inr ⟨_, _, continued, otherContinued, further,
      scanned y current otherCurrent kept⟩
  · left
    rw [rows_quiet fun line above inRange => quiet line current (by omega),
      rows_quiet fun line above inRange => otherQuiet line otherCurrent (by omega)]
    exact kept

theorem Moved.scanRowLeftToRight_lost (moved : Moved picture shifted dc dr)
    (shows : Shows image picture) {y : Int} (lost : ¬(1 ≤ y + dr ∧ y + dr ≤ 239))
    (notes : Notes) : scanRowLeftToRight settings image y notes = notes := by
  apply rowLeftToRight_quiet
  intro x nonneg inRow
  rw [visitLeftToRight_skip]
  right
  rw [← Bool.not_eq_true]
  intro top
  exact lost (moved.of_topPixel shows ⟨nonneg, inRow⟩ top).2.1

theorem Moved.scanRowRightToLeft_lost (moved : Moved picture shifted dc dr)
    (shows : Shows image picture) {y : Int} (lost : ¬(1 ≤ y + dr ∧ y + dr ≤ 239))
    (notes : Notes) : scanRowRightToLeft settings image y notes = notes := by
  apply rowRightToLeft_quiet
  intro x nonneg inRow
  rw [visitRightToLeft_skip]
  right
  rw [← Bool.not_eq_true]
  intro top
  exact lost (moved.of_topPixel shows ⟨nonneg, by omega⟩ top).2.1

/-- Both passes note the shifted entries, whatever the buffers held before. -/
theorem Moved.detect_shifted (moved : Moved picture shifted dc dr)
    (shows : Shows image picture) (otherShows : Shows other shifted)
    (valid : settings.Valid) (l1 otherL1 : Vector QrCode 5) :
    (detect settings image l1).Shifted dc dr (detect settings other otherL1) := by
  have initially : (resetNotes l1).Shifted dc dr (resetNotes otherL1) :=
    ⟨resetNotes_wellFormed l1, resetNotes_wellFormed otherL1, rfl⟩
  have leftToRight : (passLeftToRight settings image (resetNotes l1)).Shifted dc dr
      (passLeftToRight settings other (resetNotes otherL1)) := by
    rw [passLeftToRight, passLeftToRight]
    exact rows_shifted
      (fun y _ _ => moved.scanRowLeftToRight_shifted shows otherShows valid y)
      (fun y notes lost => moved.scanRowLeftToRight_lost shows lost notes)
      (fun y notes lost => moved.symm.scanRowLeftToRight_lost otherShows lost notes) initially
  rw [detect, detect, passRightToLeft, passRightToLeft]
  exact rows_shifted
    (fun y _ _ => moved.scanRowRightToLeft_shifted shows otherShows valid y)
    (fun y notes lost => moved.scanRowRightToLeft_lost shows lost notes)
    (fun y notes lost => moved.symm.scanRowRightToLeft_lost otherShows lost notes) leftToRight

end Traces

/-! ## The report -/

section Report

variable {settings : Settings} {dc dr : Int}

theorem foldl_better_shift (codes : List QrCode) (best : QrCode) :
    (codes.map (QrCode.shift dc dr)).foldl QrCode.better (best.shift dc dr) =
      (codes.foldl QrCode.better best).shift dc dr := by
  induction codes generalizing best with
  | nil => rfl
  | cons code codes ih =>
      have chosen : (best.shift dc dr).better (code.shift dc dr) =
          (best.better code).shift dc dr := by
        unfold QrCode.better
        split <;> split <;> first | rfl | contradiction
      rw [List.map_cons, List.foldl_cons, List.foldl_cons, chosen, ih]

/-- The best entries correspond, unless there are none. -/
theorem Notes.Shifted.best {notes others : Notes} (related : notes.Shifted dc dr others)
    (noted : ∀ code ∈ notes.entries, code.Noted) (best otherBest : QrCode) :
    (notes.entries = [] ∧ others.entries = []) ∨
      (notes.best best ∈ notes.entries ∧
        others.best otherBest = (notes.best best).shift dc dr) := by
  have otherEntries := related.entries
  cases entries : notes.entries with
  | nil =>
      rw [entries] at otherEntries
      exact Or.inl ⟨rfl, otherEntries⟩
  | cons code codes =>
      have member : code ∈ notes.entries := by
        rw [entries]
        exact List.mem_cons_self
      have first := noted code member
      have positive := first.dx_pos
      have occupied := first.occupied
      -- the first entry replaces whatever the selection starts with
      have replaced : ∀ start : QrCode, start.dx = 0 → start.better code = code ∧
          start.better (code.shift dc dr) = code.shift dc dr := by
        intro start zero
        simp only [QrCode.better, QrCode.shift, occupied, zero, Bool.true_and,
          decide_eq_true_eq]
        exact ⟨if_pos positive, if_pos positive⟩
      right
      constructor
      · rw [← entries]
        exact (Notes.best_width noted best member).1
      · rw [Notes.best, Notes.best, otherEntries, entries, List.map_cons, List.foldl_cons,
          List.foldl_cons, (replaced _ rfl).1, (replaced _ rfl).2, foldl_better_shift]

/-- An entry lies in the picture. -/
theorem QrCode.Sound.columns {picture : Int → Int → Bool} {code : QrCode}
    (sound : code.Sound settings picture) (valid : settings.Valid)
    (inside : ∀ row column, picture row column = true → 1 ≤ column ∧ column ≤ 239) :
    0 ≤ code.x1 + code.x0 ∧ code.x1 + code.x0 < 480 := by
  have minL := valid.minL_pos
  have wide := sound.wide
  have x1_eq := sound.x1_eq
  rcases sound.top with ⟨row, _, _, _, white⟩
  have first := inside _ _ (white 0 (le_refl 0) (by omega)).1
  have last := inside _ _ (white (code.dx - 1) (by omega) (by omega)).1
  rw [QrCode.direction] at x1_eq first last
  cases flipped : code.f <;>
    simp only [flipped, Bool.false_eq_true, if_false, if_true] at x1_eq first last <;> omega

/-- What is reported for an entry in the picture. -/
theorem report_eq {code : QrCode} (occupied : code.o = true)
    (nonneg : 0 ≤ code.x1 + code.x0) :
    report code = ((code.x1 + code.x0) / 2, code.width) := by
  simp only [report, occupied, Bool.not_true, Bool.false_eq_true, if_false,
    Int.tdiv_eq_ediv_of_nonneg nonneg]

/-- Either nothing is noted in both pictures, or what is reported is shifted. -/
theorem Notes.Shifted.report {picture shifted : Int → Int → Bool} {notes others : Notes}
    (related : notes.Shifted dc dr others) (moved : Moved picture shifted dc dr)
    (valid : settings.Valid) (noted : ∀ code ∈ notes.entries, code.Noted)
    (sound : notes.Sound settings picture) (otherSound : others.Sound settings shifted)
    (best otherBest : QrCode) :
    (report (notes.best best) = (500, 5) ∧ report (others.best otherBest) = (500, 5)) ∨
      ((report (notes.best best)).1 < 240 ∧ (report (others.best otherBest)).1 < 240 ∧
        report (others.best otherBest) =
          ((report (notes.best best)).1 + dc, (report (notes.best best)).2)) := by
  rcases related.best noted best otherBest with ⟨empty, otherEmpty⟩ | ⟨member, best_eq⟩
  · left
    rw [Notes.best, Notes.best, empty, otherEmpty]
    exact ⟨rfl, rfl⟩
  · right
    have otherMember := List.mem_map_of_mem (f := QrCode.shift dc dr) member
    rw [← related.entries] at otherMember
    have occupied := (noted _ member).occupied
    have otherOccupied : ((notes.best best).shift dc dr).o = true := occupied
    have bounds := (sound.sound _ member).columns valid
      fun row column white => (moved.inside row column white).2
    have otherBounds := (otherSound.sound _ otherMember).columns valid
      fun row column white => (moved.shiftedInside row column white).2
    rw [best_eq, report_eq occupied bounds.1, report_eq otherOccupied otherBounds.1]
    simp only [QrCode.width, QrCode.shift, add_sub_add_right_eq_sub, Prod.mk.injEq,
      and_true] at otherBounds ⊢
    omega

/-- What is reported for a frame and for the shifted frame. -/
theorem Moved.reported {frame shifted : Frame} (moved : Moved (pixel frame) (pixel shifted) dc dr)
    (valid : settings.Valid) (state other : TaskState) :
    (reported settings state frame = (500, 5) ∧ reported settings other shifted = (500, 5)) ∨
      ((reported settings state frame).1 < 240 ∧ (reported settings other shifted).1 < 240 ∧
        reported settings other shifted =
          ((reported settings state frame).1 + dc, (reported settings state frame).2)) := by
  have shows := shows_pixel frame
  have otherShows := shows_pixel shifted
  rw [ECam.QrPosing.reported, ECam.QrPosing.reported]
  exact (moved.detect_shifted shows otherShows valid state.l1 other.l1).report moved valid
    (fun _ => detect_noted) (detect_sound shows valid state.l1)
    (detect_sound otherShows valid other.l1) state.best other.best

/-- The log lines for what is reported; no position in a picture is `500`. -/
theorem positionLine_translated {first second : Int × Int}
    (corresponding : (first = (500, 5) ∧ second = (500, 5)) ∨
      (first.1 < 240 ∧ second.1 < 240 ∧ second = (first.1 + dc, first.2))) :
    (positionLine second.1 second.2 = positionLine 500 5 ↔
      positionLine first.1 first.2 = positionLine 500 5) ∧
    (positionLine first.1 first.2 ≠ positionLine 500 5 →
      ∃ position width, positionLine first.1 first.2 = positionLine position width ∧
        positionLine second.1 second.2 = positionLine (position + dc) width) := by
  rcases corresponding with ⟨empty, otherEmpty⟩ | ⟨inside, otherInside, same⟩
  · rw [empty, otherEmpty]
    exact ⟨Iff.rfl, fun found => absurd rfl found⟩
  · refine ⟨⟨?_, ?_⟩, fun _ => ⟨first.1, first.2, rfl, by rw [same]⟩⟩
    · intro lost
      have position := (positionLine_injective lost).1
      omega
    · intro lost
      have position := (positionLine_injective lost).1
      omega

end Report

/-- The report moves with the picture.  If all white pixels of a frame and of the shifted
frame lie in rows and columns `1` to `239`, then nothing is found in one of them only if
nothing is found in the other, and otherwise the position is shifted and the width is
the same. -/
theorem report_translated (scan : Frame → Option String) {settings : Settings}
    (valid : settings.Valid) {frame shifted : Frame} {dc dr : Int}
    (moved : Moved (pixel frame) (pixel shifted) dc dr) (state other : TaskState) :
    ((processFrame scan settings other shifted).2.position = positionLine 500 5 ↔
      (processFrame scan settings state frame).2.position = positionLine 500 5) ∧
    ((processFrame scan settings state frame).2.position ≠ positionLine 500 5 →
      ∃ position width,
        (processFrame scan settings state frame).2.position = positionLine position width ∧
        (processFrame scan settings other shifted).2.position =
          positionLine (position + dc) width) := by
  rw [processFrame_reported, processFrame_reported]
  exact positionLine_translated (moved.reported valid state other)

/-- A marker of 30 by 40 pixels that moves by three columns and four rows. -/
theorem report_translated_marker :
    ∃ position width,
      (processFrame (fun _ => none) appMainSettings zeroTask
        (rectangleFrame 100 50 30 40)).2.position = positionLine position width ∧
      (processFrame (fun _ => none) appMainSettings zeroTask
        (rectangleFrame 103 54 30 40)).2.position = positionLine (position + 3) width := by
  have placed : Placed appMainSettings 100 50 30 40 := by constructor <;> decide
  have otherPlaced : Placed appMainSettings 103 54 30 40 := by constructor <;> decide
  have moved : Moved (pixel (rectangleFrame 100 50 30 40))
      (pixel (rectangleFrame 103 54 30 40)) 3 4 := by
    constructor
    · intro row column
      rw [Bool.eq_iff_iff, pixel_rectangleFrame placed, pixel_rectangleFrame otherPlaced]
      omega
    · intro row column white
      rw [pixel_rectangleFrame placed] at white
      omega
    · intro row column white
      rw [pixel_rectangleFrame otherPlaced] at white
      omega
  have valid : appMainSettings.Valid := by constructor <;> decide
  apply (report_translated (fun _ => none) valid moved zeroTask zeroTask).2
  rw [(rectangleFrame_bright 100 50 30 40).position_large (fun _ => none) placed zeroTask
    (by decide) (by decide)]
  decide

end ECam.QrPosing
