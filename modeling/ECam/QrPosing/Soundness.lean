import ECam.QrPosing.Candidates

/-!
# Every entry describes a frame in the picture

The entries of the buffer are put together from variables of three loops.  Each entry
is nevertheless what it looks like: a staircase of top pixels that is long enough, with a
column of white pixels below its end, and it starts outside the areas of the entries
before it.
-/

namespace ECam.QrPosing

open ECam.Library

/-- The direction in which an entry was traced. -/
def QrCode.direction (code : QrCode) : Int :=
  if code.f then -1 else 1

/-- An entry describes a frame in the picture.  Its top line drops by `y1 - y0` rows over
`dx` columns, and its side line is `y2 - y1` rows long. -/
structure QrCode.Sound (settings : Settings) (picture : Int → Int → Bool) (code : QrCode) :
    Prop where
  wide : settings.sMinL < code.dx
  x1_eq : code.x1 = code.x0 + code.direction * code.dx
  x2_eq : code.x2 = code.x1
  x3_eq : code.x3 = code.x0
  y0_le_y1 : code.y0 ≤ code.y1
  high : settings.sMinL < code.y2 - code.y1
  y3_eq : code.y3 = code.y2 + (code.y1 - code.y0)
  top : ∃ row : Int → Int, row 0 = code.y0 ∧ row (code.dx - 1) = code.y1 ∧
    (∀ column, 0 ≤ column → column + 1 < code.dx →
      row (column + 1) = row column ∨ row (column + 1) = row column + 1) ∧
    ∀ column, 0 ≤ column → column < code.dx →
      picture (row column) (code.x0 + code.direction * column) = true ∧
      picture (row column - settings.sTopMargin) (code.x0 + code.direction * column) = false
  side : ∀ row, 0 < row → row < code.y2 - code.y1 →
    picture (code.y1 + row) (code.x1 - code.direction * settings.sStepback) = true

/-- A point lies in the area of an entry. -/
def QrCode.Covers (code : QrCode) (x y : Int) : Prop :=
  (min code.x0 code.x1 ≤ x ∧ x ≤ max code.x0 code.x1) ∧ code.y0 ≤ y ∧ y ≤ code.y3

section Picture

variable {settings : Settings} {image : Int → UInt16} {picture : Int → Int → Bool}

/-- The buffer shows the picture, as far as its columns go. -/
def Shows (image : Int → UInt16) (picture : Int → Int → Bool) : Prop :=
  ∀ row column, 0 ≤ column → column < 240 → white image row column = picture row column

/-- The entry for a top line and a side line that are both long enough. -/
theorem corners_sound (shows : Shows image picture) {e x y sideColumn width : Int} {f : Bool}
    {row : Nat → Int} {columns count : Nat} {top : TopLine} {side : SideLine}
    (direction : e = if f then -1 else 1)
    (traced : top.Traced settings image e x y row columns)
    (below : side.Traced settings image sideColumn y top.j count)
    (topFound : top.found = true) (sideFound : side.found = true)
    (sideColumn_eq : sideColumn = x + top.dx - e * settings.sStepback)
    (width_eq : width = e * top.dx)
    (columnsIn : ∀ column : Nat, column < columns →
      0 ≤ x + e * column ∧ x + e * column < 240)
    (sideIn : 0 ≤ sideColumn ∧ sideColumn < 240) :
    (corners f x y top side.dy width).Sound settings picture := by
  have pos := traced.columns_pos
  have square : e * e = 1 := by
    rw [direction]
    cases f <;> decide
  have length : width = columns := by
    rw [width_eq, traced.dx_eq, ← mul_assoc, square, one_mul]
  have signed : top.dx = e * width := by
    rw [width_eq, ← mul_assoc, square, one_mul]
  have wide := traced.wide topFound
  have high := below.high sideFound
  have dropped := traced.drop_nonneg
  have heading : (corners f x y top side.dy width).direction = e := direction.symm
  constructor
  · simp only [corners]
    omega
  · rw [heading]
    simp only [corners]
    rw [← signed]
  · rfl
  · rfl
  · simp only [corners]
    omega
  · simp only [corners, below.dy_eq]
    omega
  · simp only [corners]
    ring
  · -- the rows of the staircase, by columns counted from the start
    refine ⟨fun column => row column.toNat, traced.start, ?_, ?_, ?_⟩
    · simp only [corners, length]
      have last : ((columns : Int) - 1).toNat = columns - 1 := by omega
      rw [last]
      exact traced.last
    · intro column nonneg inside
      simp only [corners, length] at inside
      have next : (column + 1).toNat = column.toNat + 1 := by omega
      simp only [next]
      exact traced.steps column.toNat (by omega)
    · intro column nonneg inside
      simp only [corners, length] at inside
      have position : ((column.toNat : Nat) : Int) = column := Int.toNat_of_nonneg nonneg
      have topAt := traced.top column.toNat (by omega)
      have inRow := columnsIn column.toNat (by omega)
      rw [position] at topAt inRow
      rw [topPixel, Bool.and_eq_true, Bool.not_eq_true', shows _ _ inRow.1 inRow.2,
        shows _ _ inRow.1 inRow.2] at topAt
      rw [heading]
      exact topAt
  · intro offset positive inside
    rw [heading]
    simp only [corners, below.dy_eq] at inside ⊢
    have position : ((offset.toNat : Nat) : Int) = offset := Int.toNat_of_nonneg (by omega)
    have whiteAt := below.side offset.toNat (by omega) (by omega)
    rw [shows _ _ sideIn.1 sideIn.2, position, sideColumn_eq] at whiteAt
    exact whiteAt

/-- What a trace from left to right finds is sound. -/
theorem tracedLeftToRight_sound (shows : Shows image picture) (valid : settings.Valid)
    {x y : Int} {code : QrCode} (nonneg : 0 ≤ x) (inRow : x < 240)
    (start : topPixel settings image y x = true)
    (found : tracedLeftToRight settings image x y = some code) :
    code.Sound settings picture ∧ code.f = false ∧ code.x0 = x ∧ code.y0 = y := by
  have minL := valid.minL_pos
  have stepback := valid.stepback_pos
  have stepbackLe := valid.stepback_le
  rcases tracedTopLeftToRight_traced minL inRow start with ⟨row, columns, traced, bound⟩
  rcases @sideLine_traced settings image
    (x + (tracedTopLeftToRight settings image x y).dx - settings.sStepback) y
    (tracedTopLeftToRight settings image x y).j minL with ⟨count, below⟩
  have dx_eq := traced.dx_eq
  simp only [tracedLeftToRight] at found
  split at found
  next both =>
    rw [Bool.and_eq_true] at both
    cases found
    have wide := traced.wide both.1
    exact ⟨corners_sound shows (show (1 : Int) = if false then -1 else 1 from rfl) traced
      below both.1 both.2 (by ring) (by ring) (fun column inside => by omega) (by omega),
      rfl, rfl, rfl⟩
  next => cases found

/-- What a trace from right to left finds is sound. -/
theorem tracedRightToLeft_sound (shows : Shows image picture) (valid : settings.Valid)
    {x y : Int} {code : QrCode} (nonneg : 0 ≤ x) (inRow : x < 240)
    (start : topPixel settings image y x = true)
    (found : tracedRightToLeft settings image x y = some code) :
    code.Sound settings picture ∧ code.f = true ∧ code.x0 = x ∧ code.y0 = y := by
  have minL := valid.minL_pos
  have stepback := valid.stepback_pos
  have stepbackLe := valid.stepback_le
  rcases tracedTopRightToLeft_traced minL nonneg start with ⟨row, columns, traced, bound⟩
  rcases @sideLine_traced settings image
    (x + (tracedTopRightToLeft settings image x y).dx + settings.sStepback) y
    (tracedTopRightToLeft settings image x y).j minL with ⟨count, below⟩
  have dx_eq := traced.dx_eq
  simp only [tracedRightToLeft] at found
  split at found
  next both =>
    rw [Bool.and_eq_true] at both
    cases found
    have wide := traced.wide both.1
    exact ⟨corners_sound shows (show (-1 : Int) = if true then -1 else 1 from rfl) traced
      below both.1 both.2 (by ring) (by ring) (fun column inside => by omega) (by omega),
      rfl, rfl, rfl⟩
  next => cases found

/-! ## The buffer -/

/-- The entries are sound, and each starts outside the areas of the earlier ones. -/
structure Notes.Sound (settings : Settings) (picture : Int → Int → Bool) (notes : Notes) :
    Prop where
  wellFormed : notes.WellFormed
  sound : ∀ code ∈ notes.entries, code.Sound settings picture
  apart : notes.entries.Pairwise fun earlier later => ¬earlier.Covers later.x0 later.y0

theorem resetNotes_sound (settings : Settings) (picture : Int → Int → Bool)
    (l1 : Vector QrCode 5) : (resetNotes l1).Sound settings picture where
  wellFormed := resetNotes_wellFormed l1
  sound := fun code member => by cases member
  apart := List.Pairwise.nil

theorem Notes.Sound.note {notes : Notes} (sound : notes.Sound settings picture)
    {code : QrCode} (occupied : code.o = true) (codeSound : code.Sound settings picture)
    (outside : ∀ earlier ∈ notes.entries, ¬earlier.Covers code.x0 code.y0) :
    (notes.note code).Sound settings picture where
  wellFormed := sound.wellFormed.note occupied
  sound := by
    intro other member
    rcases sound.wellFormed.mem_note member with old | new
    · exact sound.sound other old
    · rw [new]
      exact codeSound
  apart := by
    rw [sound.wellFormed.entries_note]
    apply List.Pairwise.sublist (List.take_sublist 5 _)
    apply List.pairwise_append.mpr
    refine ⟨sound.apart, List.pairwise_singleton _ _, ?_⟩
    intro earlier member later new
    rw [List.mem_singleton.mp new]
    exact outside earlier member

/-- The test of the pass from left to right, on entries of that pass. -/
theorem Notes.Sound.outside_leftToRight {notes : Notes} (valid : settings.Valid)
    (sound : notes.Sound settings picture) (ownPass : ∀ code ∈ notes.entries, code.f = false)
    {x y : Int} (outside : notes.insideLeftToRight x y = false) :
    ∀ code ∈ notes.entries, ¬code.Covers x y := by
  intro code member covers
  have minL := valid.minL_pos
  have wide := (sound.sound code member).wide
  have x1_eq := (sound.sound code member).x1_eq
  rw [QrCode.direction, ownPass code member] at x1_eq
  simp only [Bool.false_eq_true, if_false, one_mul] at x1_eq
  rw [Notes.insideLeftToRight, sound.wellFormed.any_occupied, List.any_eq_false] at outside
  apply outside code member
  rw [decide_eq_true_eq]
  have area := covers
  rw [QrCode.Covers, min_eq_left (by omega), max_eq_right (by omega)] at area
  exact ⟨area.1.1, area.1.2, area.2.1, area.2.2⟩

/-- The test of the pass from right to left. -/
theorem Notes.Sound.outside_rightToLeft {notes : Notes} (valid : settings.Valid)
    (sound : notes.Sound settings picture) {x y : Int}
    (outside : notes.insideRightToLeft x y = false) :
    ∀ code ∈ notes.entries, ¬code.Covers x y := by
  intro code member covers
  have minL := valid.minL_pos
  have wide := (sound.sound code member).wide
  have x1_eq := (sound.sound code member).x1_eq
  rw [Notes.insideRightToLeft, sound.wellFormed.any_occupied, List.any_eq_false] at outside
  apply outside code member
  have area := covers
  rw [QrCode.direction] at x1_eq
  cases flipped : code.f with
  | false =>
      simp only [flipped, Bool.false_eq_true, if_false, one_mul] at x1_eq
      rw [QrCode.Covers, min_eq_left (by omega), max_eq_right (by omega)] at area
      simp only [Bool.false_eq_true, if_false, decide_eq_true_eq]
      exact ⟨area.1.1, area.1.2, area.2.1, area.2.2⟩
  | true =>
      simp only [flipped, if_true, neg_one_mul] at x1_eq
      rw [QrCode.Covers, min_eq_right (by omega), max_eq_left (by omega)] at area
      simp only [if_true, decide_eq_true_eq]
      exact ⟨area.1.2, area.1.1, area.2.1, area.2.2⟩

theorem visitLeftToRight_sound (shows : Shows image picture) (valid : settings.Valid)
    {x y : Int} (nonneg : 0 ≤ x) (inRow : x < 240) {notes : Notes}
    (sound : notes.Sound settings picture) (ownPass : ∀ code ∈ notes.entries, code.f = false) :
    (visitLeftToRight settings image y ⟨x, notes⟩).notes.Sound settings picture ∧
      ∀ code ∈ (visitLeftToRight settings image y ⟨x, notes⟩).notes.entries,
        code.f = false := by
  rcases visitLeftToRight_cases settings image y ⟨x, notes⟩ with
    unchanged | ⟨code, outside, start, traced, noted⟩
  · rw [unchanged]
    exact ⟨sound, ownPass⟩
  · rcases tracedLeftToRight_sound shows valid nonneg inRow start traced with
      ⟨codeSound, forward, x0_eq, y0_eq⟩
    have apart := sound.outside_leftToRight valid ownPass outside
    rw [← x0_eq, ← y0_eq] at apart
    rw [noted]
    refine ⟨sound.note (tracedLeftToRight_noted traced).occupied codeSound apart, ?_⟩
    intro other member
    rcases sound.wellFormed.mem_note member with old | new
    · exact ownPass other old
    · rw [new]
      exact forward

theorem visitRightToLeft_sound (shows : Shows image picture) (valid : settings.Valid)
    {x y : Int} (nonneg : 0 ≤ x) (inRow : x < 240) {notes : Notes}
    (sound : notes.Sound settings picture) :
    (visitRightToLeft settings image y ⟨x, notes⟩).notes.Sound settings picture := by
  rcases visitRightToLeft_cases settings image y ⟨x, notes⟩ with
    unchanged | ⟨code, outside, start, traced, noted⟩
  · rw [unchanged]
    exact sound
  · rcases tracedRightToLeft_sound shows valid nonneg inRow start traced with
      ⟨codeSound, _, x0_eq, y0_eq⟩
    have apart := sound.outside_rightToLeft valid outside
    rw [← x0_eq, ← y0_eq] at apart
    rw [noted]
    exact sound.note (tracedRightToLeft_noted traced).occupied codeSound apart

theorem passLeftToRight_sound (shows : Shows image picture) (valid : settings.Valid)
    (l1 : Vector QrCode 5) :
    (passLeftToRight settings image (resetNotes l1)).Sound settings picture ∧
      ∀ code ∈ (passLeftToRight settings image (resetNotes l1)).entries, code.f = false := by
  have kept : ∀ x y notes, 0 ≤ x → x < 240 → 1 ≤ y → y < 240 →
      (notes.Sound settings picture ∧ ∀ code ∈ notes.entries, code.f = false) →
      (visitLeftToRight settings image y ⟨x, notes⟩).notes.Sound settings picture ∧
        ∀ code ∈ (visitLeftToRight settings image y ⟨x, notes⟩).notes.entries,
          code.f = false :=
    fun x y notes nonneg inRow _ _ holds =>
      visitLeftToRight_sound shows valid nonneg inRow holds.1 holds.2
  have initially : (resetNotes l1).Sound settings picture ∧
      ∀ code ∈ (resetNotes l1).entries, code.f = false :=
    ⟨resetNotes_sound settings picture l1, fun code member => by cases member⟩
  exact passLeftToRight_invariant settings image
    (fun notes => notes.Sound settings picture ∧ ∀ code ∈ notes.entries, code.f = false)
    kept initially

theorem detect_sound (shows : Shows image picture) (valid : settings.Valid)
    (l1 : Vector QrCode 5) : (detect settings image l1).Sound settings picture := by
  have kept : ∀ x y notes, 0 ≤ x → x < 240 → 1 ≤ y → y < 240 →
      notes.Sound settings picture →
      (visitRightToLeft settings image y ⟨x, notes⟩).notes.Sound settings picture :=
    fun _ _ _ nonneg inRow _ _ => visitRightToLeft_sound shows valid nonneg inRow
  rw [detect]
  exact passRightToLeft_invariant settings image (Notes.Sound settings picture) kept
    (passLeftToRight_sound shows valid l1).1

/-- The entries in use, by index. -/
theorem Notes.Sound.entry {notes : Notes} (sound : notes.Sound settings picture) {index : Nat}
    (inBounds : index < 5) (used : index < notes.k) :
    notes.l1[index].Sound settings picture ∧
      ∀ (earlier : Nat) (before : earlier < index),
        ¬notes.l1[earlier].Covers notes.l1[index].x0 notes.l1[index].y0 := by
  have length := sound.wellFormed.length_entries
  have selected : ∀ (index : Nat) (inBounds : index < 5) (used : index < notes.entries.length),
      notes.entries[index] = notes.l1[index] := by
    intro index inBounds used
    simp [Notes.entries]
  have inEntries : index < notes.entries.length := by omega
  constructor
  · rw [← selected index inBounds inEntries]
    exact sound.sound _ (List.getElem_mem inEntries)
  · intro earlier before
    have earlierIn : earlier < notes.entries.length := by omega
    rw [← selected index inBounds inEntries, ← selected earlier (by omega) earlierIn]
    exact List.pairwise_iff_getElem.mp sound.apart earlier index earlierIn inEntries before

end Picture

theorem shows_pixel (frame : Frame) :
    Shows (readWord (frame.map pureWord)) (pixel frame) :=
  fun _ _ nonneg inRow => white_eq_pixel frame nonneg inRow

/-- Soundness of the entries.  After both passes the occupied entries are the first `k`,
each describes a frame in the picture, and each starts outside the areas of the entries
before it. -/
theorem recorded_entries_sound (scan : Frame → Option String) {settings : Settings}
    (valid : settings.Valid) (state : TaskState) (frame : Frame) :
    ∃ k ≤ 5, ∀ (index : Nat) (inBounds : index < 5),
      (processFrame scan settings state frame).1.l1[index].o = decide (index < k) ∧
      (index < k →
        (processFrame scan settings state frame).1.l1[index].Sound settings (pixel frame) ∧
        ∀ (earlier : Nat) (before : earlier < index),
          ¬(processFrame scan settings state frame).1.l1[earlier].Covers
            (processFrame scan settings state frame).1.l1[index].x0
            (processFrame scan settings state frame).1.l1[index].y0) := by
  have sound := detect_sound (shows_pixel frame) valid state.l1
  have buffer := (@processFrame_of_detect scan settings state frame _ rfl).1
  simp only [buffer]
  exact ⟨_, sound.wellFormed.k_le, fun index inBounds =>
    ⟨sound.wellFormed.occupied index inBounds, sound.entry inBounds⟩⟩

theorem leastSettings_valid : leastSettings.Valid := by
  constructor <;> decide

/-- Five of the six markers are noted. -/
theorem clutter_noted : (detect leastSettings (pictureWord clutter) zeroTask.l1).k = 5 := by
  rcases clutter_candidates with ⟨rest, met⟩
  rcases @detect_entries leastSettings (pictureWord clutter) zeroTask.l1 with
    ⟨wellFormed, entries⟩
  rw [← wellFormed.length_entries, entries, met]
  rfl

/-- The entries for the picture of six markers; all five are occupied. -/
theorem recorded_entries_sound_clutter :
    ∃ k ≤ 5, (processFrame (fun _ => none) leastSettings zeroTask
        (pictureFrame clutter)).1.l1[4].o = true ∧
      ∀ (index : Nat) (inBounds : index < 5),
        (processFrame (fun _ => none) leastSettings zeroTask
          (pictureFrame clutter)).1.l1[index].o = decide (index < k) ∧
        (index < k → (processFrame (fun _ => none) leastSettings zeroTask
          (pictureFrame clutter)).1.l1[index].Sound leastSettings
            (pixel (pictureFrame clutter))) := by
  rcases recorded_entries_sound (fun _ => none) leastSettings_valid zeroTask
    (pictureFrame clutter) with ⟨k, bound, entries⟩
  refine ⟨k, bound, ?_, fun index inBounds =>
    ⟨(entries index inBounds).1, fun used => ((entries index inBounds).2 used).1⟩⟩
  have detected : detect leastSettings (readWord ((pictureFrame clutter).map pureWord))
      zeroTask.l1 = detect leastSettings (pictureWord clutter) zeroTask.l1 := by
    rw [readWord_pictureFrame]
  have wellFormed := (@detect_entries leastSettings (pictureWord clutter) zeroTask.l1).1
  simp only [(processFrame_of_detect (fun _ => none) detected).1]
  rw [wellFormed.occupied 4 (by decide), clutter_noted]
  rfl

end ECam.QrPosing
