import ECam.QrPosing.TwoMarkers.Entries

/-!
# A picture of two markers

With the settings of `app_main`, the converted picture is white exactly on two
rectangles of different widths.  Every entry lies on one of them, so the wider one is
reported as soon as the pass from left to right notes it in full width.  This pass
visits its upper left corner unless it jumps over it from the other marker, which it
does by the height of that marker; in the next row there is a second chance, but then
the side line is one row shorter.
-/

namespace ECam.QrPosing

open ECam.Library

section Picture

variable {picture : Int → Int → Bool} {image : Int → UInt16} {wide narrow : Marker}

/-! ## Entries stay -/

theorem visitLeftToRight_keeps {settings : Settings} {y : Int} {cursor : Cursor} {code : QrCode}
    (wellFormed : cursor.notes.WellFormed) (member : code ∈ cursor.notes.entries) :
    (visitLeftToRight settings image y cursor).notes.WellFormed ∧
      code ∈ (visitLeftToRight settings image y cursor).notes.entries := by
  rcases visitLeftToRight_cases settings image y cursor with
    unchanged | ⟨new, _, _, traced, noted⟩
  · rw [unchanged]
    exact ⟨wellFormed, member⟩
  · rw [noted]
    refine ⟨wellFormed.note (tracedLeftToRight_noted traced).occupied, ?_⟩
    rcases wellFormed.entries_note_cases new with appended | dropped
    · rw [appended]
      exact List.mem_append_left _ member
    · rw [dropped]
      exact member

theorem rowLeftToRight_keeps {settings : Settings} {y : Int} {cursor : Cursor} {code : QrCode}
    (wellFormed : cursor.notes.WellFormed) (member : code ∈ cursor.notes.entries) :
    ((rowLeftToRight settings image y).run cursor).notes.WellFormed ∧
      code ∈ ((rowLeftToRight settings image y).run cursor).notes.entries := by
  have kept : ∀ cursor next : Cursor,
      (cursor.notes.WellFormed ∧ code ∈ cursor.notes.entries) →
      (rowLeftToRight settings image y).body cursor = some next →
      next.notes.WellFormed ∧ code ∈ next.notes.entries := by
    rintro cursor next ⟨wellFormed, member⟩ continued
    simp only [rowLeftToRight] at continued
    split at continued
    next =>
      cases continued
      exact visitLeftToRight_keeps wellFormed member
    next => cases continued
  exact Loop.run_invariant kept ⟨wellFormed, member⟩

theorem rowsLeftToRight_keeps {settings : Settings} {cursor : RowCursor} {code : QrCode}
    (wellFormed : cursor.notes.WellFormed) (member : code ∈ cursor.notes.entries) :
    code ∈ ((rows (scanRowLeftToRight settings image)).run cursor).notes.entries := by
  have kept : ∀ cursor next : RowCursor,
      (cursor.notes.WellFormed ∧ code ∈ cursor.notes.entries) →
      (rows (scanRowLeftToRight settings image)).body cursor = some next →
      next.notes.WellFormed ∧ code ∈ next.notes.entries := by
    rintro ⟨y, notes⟩ next ⟨wellFormed, member⟩ continued
    simp only [rows] at continued
    split at continued
    next =>
      cases continued
      exact @rowLeftToRight_keeps image settings y ⟨0, notes⟩ code wellFormed member
    next => cases continued
  exact (Loop.run_invariant kept ⟨wellFormed, member⟩).2

/-- A pass that comes by the first column of a marker notes it in full width, if it is
still high enough there and there is room. -/
theorem Isolated.noted_at {marker : Marker} (isolated : Isolated image marker)
    (large : marker.Large) {y : Int} {initial notes current : Notes}
    (rowsBefore : ((rows (scanRowLeftToRight appMainSettings image)).run ⟨1, initial⟩).notes =
      ((rows (scanRowLeftToRight appMainSettings image)).run ⟨y, notes⟩).notes)
    (columnsBefore : ((rowLeftToRight appMainSettings image y).run ⟨0, notes⟩).notes =
      ((rowLeftToRight appMainSettings image y).run ⟨marker.a, current⟩).notes)
    (first : marker.b ≤ y ∧ y < marker.b + 5) (high : 20 < marker.b + marker.h - y)
    (wellFormed : current.WellFormed) (room : current.k < 5)
    (outside : current.insideLeftToRight marker.a y = false) :
    ∃ code ∈ (passLeftToRight appMainSettings image initial).entries, code.dx = marker.w := by
  have wide := large.wide
  have right := large.right_le
  have bottom := large.bottom_le
  have length := wellFormed.length_entries
  obtain ⟨code, code_eq⟩ : ∃ code, code = markerNote marker.a y
      (marker.a + marker.w - marker.a) (marker.b + marker.h - y) := ⟨_, rfl⟩
  have visit := isolated.visit_noted large (x := marker.a) (by omega) first (by omega) high
    outside
  rw [← code_eq] at visit
  have noted : code ∈ (current.note code).entries := by
    rw [wellFormed.entries_note, List.take_of_length_le]
    · exact List.mem_append_right _ (List.mem_singleton_self code)
    · rw [List.length_append, List.length_singleton]
      omega
  have notedWellFormed : (current.note code).WellFormed := by
    apply wellFormed.note
    rw [code_eq]
    rfl
  have rowContinued : (rowLeftToRight appMainSettings image y).body ⟨marker.a, current⟩ =
      some (visitLeftToRight appMainSettings image y ⟨marker.a, current⟩) :=
    if_pos (show marker.a < 240 by omega)
  have afterRow := @rowLeftToRight_keeps image appMainSettings y
    ⟨marker.a + (marker.b + marker.h - y) + 1, current.note code⟩ code notedWellFormed noted
  rw [← visit, ← Loop.run_of_some rowContinued, ← columnsBefore] at afterRow
  have continued : (rows (scanRowLeftToRight appMainSettings image)).body ⟨y, notes⟩ =
      some ⟨y + 1, scanRowLeftToRight appMainSettings image y notes⟩ :=
    if_pos (show y < 240 by omega)
  refine ⟨code, ?_, ?_⟩
  · rw [passLeftToRight, rowsBefore, Loop.run_of_some continued]
    exact @rowsLeftToRight_keeps image appMainSettings
      ⟨y + 1, scanRowLeftToRight appMainSettings image y notes⟩ code afterRow.1 afterRow.2
  · rw [code_eq]
    simp only [markerNote]
    ring

/-! ## The way to the wider marker -/

/-- Columns that are black or in a noted area are passed over. -/
theorem TwoMarkers.skip_columns (markers : TwoMarkers picture wide narrow)
    (shows : Shows image picture) {y start stop : Int} {notes : Notes} (nonneg : 0 ≤ start)
    (ordered : start ≤ stop)
    (passed : ∀ x, start ≤ x → x < stop →
      notes.insideLeftToRight x y = true ∨ (¬wide.Contains y x ∧ ¬narrow.Contains y x)) :
    ((rowLeftToRight appMainSettings image y).run ⟨start, notes⟩).notes =
      ((rowLeftToRight appMainSettings image y).run ⟨stop, notes⟩).notes := by
  apply rowLeftToRight_skip ordered
  intro x lower upper inRow
  rcases passed x lower upper with inside | ⟨notWide, notNarrow⟩
  · exact Or.inl inside
  · exact Or.inr (markers.topPixel_outside shows (by omega) inRow notWide notNarrow)

/-- A row whose pixels are all black or in a noted area changes nothing. -/
theorem TwoMarkers.row_quiet (markers : TwoMarkers picture wide narrow)
    (shows : Shows image picture) {y start : Int} {notes : Notes} (nonneg : 0 ≤ start)
    (passed : ∀ x, start ≤ x → x < 240 →
      notes.insideLeftToRight x y = true ∨ (¬wide.Contains y x ∧ ¬narrow.Contains y x)) :
    ((rowLeftToRight appMainSettings image y).run ⟨start, notes⟩).notes = notes := by
  apply rowLeftToRight_quiet
  intro x lower inRow
  rw [visitLeftToRight_skip]
  rcases passed x lower inRow with inside | ⟨notWide, notNarrow⟩
  · exact Or.inl inside
  · exact Or.inr (markers.topPixel_outside shows (by omega) inRow notWide notNarrow)

/-- Above both markers nothing happens. -/
theorem TwoMarkers.skip_rows (markers : TwoMarkers picture wide narrow)
    (shows : Shows image picture) {y : Int} (positive : 1 ≤ y) (aboveWide : y ≤ wide.b)
    (aboveNarrow : y ≤ narrow.b) (notes : Notes) :
    ((rows (scanRowLeftToRight appMainSettings image)).run ⟨1, notes⟩).notes =
      ((rows (scanRowLeftToRight appMainSettings image)).run ⟨y, notes⟩).notes := by
  apply rows_skip positive
  intro row _ above _
  apply markers.row_quiet shows (le_refl 0)
  intro x _ _
  right
  unfold Marker.Contains
  omega

/-- The narrower marker is noted at its corner if the wider one starts below it or to the
right of it, and then the scan jumps by the height of the marker. -/
theorem TwoMarkers.narrow_first (markers : TwoMarkers picture wide narrow)
    (shows : Shows image picture)
    (before : narrow.b < wide.b ∨ narrow.b = wide.b ∧ narrow.a + narrow.w < wide.a)
    (l1 : Vector QrCode 5) :
    ((rowLeftToRight appMainSettings image narrow.b).run ⟨0, resetNotes l1⟩).notes =
      ((rowLeftToRight appMainSettings image narrow.b).run
        ⟨narrow.a + narrow.h + 1,
          markerNotes l1 narrow.a narrow.b narrow.w narrow.h⟩).notes := by
  have large := markers.narrowLarge
  have left := large.a_nonneg
  have right := large.right_le
  have width := large.wide
  have height := large.high
  have skipped : ((rowLeftToRight appMainSettings image narrow.b).run
      ⟨0, resetNotes l1⟩).notes =
        ((rowLeftToRight appMainSettings image narrow.b).run ⟨narrow.a, resetNotes l1⟩).notes :=
    markers.skip_columns shows (le_refl 0) left
      fun x _ upper => Or.inr (by unfold Marker.Contains; omega)
  have visit := (markers.isolated_narrow shows).visit_noted large (x := narrow.a)
    (y := narrow.b) (by omega) (by omega) (by omega) (by omega)
    (resetNotes_outside l1 narrow.a narrow.b)
  rw [add_sub_cancel_left, add_sub_cancel_left] at visit
  have continued : (rowLeftToRight appMainSettings image narrow.b).body
      ⟨narrow.a, resetNotes l1⟩ = some (visitLeftToRight appMainSettings image narrow.b
        ⟨narrow.a, resetNotes l1⟩) := if_pos (show narrow.a < 240 by omega)
  rw [skipped, Loop.run_of_some continued, visit, markerNotes]

/-- Once the narrower marker is noted, every pixel outside the wider one is passed over. -/
theorem passed_noted (l1 : Vector QrCode 5) {x y : Int}
    (notWide : ¬wide.Contains y x) :
    (markerNotes l1 narrow.a narrow.b narrow.w narrow.h).insideLeftToRight x y = true ∨
      (¬wide.Contains y x ∧ ¬narrow.Contains y x) := by
  by_cases inside : narrow.Contains y x
  · exact Or.inl (markerNotes_inside l1 inside).1
  · exact Or.inr ⟨notWide, inside⟩

theorem markerNotes_outside (l1 : Vector QrCode 5) {a b w h x y : Int}
    (outside : ¬((a ≤ x ∧ x ≤ a + w) ∧ b ≤ y ∧ y ≤ b + h)) :
    (markerNotes l1 a b w h).insideLeftToRight x y = false := by
  rw [Notes.insideLeftToRight, (markerNotes_wellFormed l1 a b w h).any_occupied,
    markerNotes_entries]
  simp only [List.any_cons, List.any_nil, Bool.or_false, markerNote, decide_eq_false_iff_not]
  omega

/-- The wider marker is met first. -/
theorem TwoMarkers.noted_first (markers : TwoMarkers picture wide narrow)
    (shows : Shows image picture)
    (before : wide.b < narrow.b ∨ wide.b = narrow.b ∧ wide.a + wide.w < narrow.a)
    (l1 : Vector QrCode 5) :
    ∃ code ∈ (passLeftToRight appMainSettings image (resetNotes l1)).entries,
      code.dx = wide.w := by
  have large := markers.wideLarge
  have left := large.a_nonneg
  have height := large.high
  have width := large.wide
  have rowsBefore := markers.skip_rows shows large.b_pos (le_refl wide.b) (by omega)
    (resetNotes l1)
  have columnsBefore : ((rowLeftToRight appMainSettings image wide.b).run
      ⟨0, resetNotes l1⟩).notes =
        ((rowLeftToRight appMainSettings image wide.b).run ⟨wide.a, resetNotes l1⟩).notes :=
    markers.skip_columns shows (le_refl 0) left
      fun x _ upper => Or.inr (by unfold Marker.Contains; omega)
  exact (markers.isolated_wide shows).noted_at large rowsBefore columnsBefore (by omega)
    (by omega) (resetNotes_wellFormed l1) (show (0 : Nat) < 5 by decide)
    (resetNotes_outside l1 _ _)

/-- The narrower marker is met in a row above the wider one. -/
theorem TwoMarkers.noted_below (markers : TwoMarkers picture wide narrow)
    (shows : Shows image picture) (below : narrow.b < wide.b) (l1 : Vector QrCode 5) :
    ∃ code ∈ (passLeftToRight appMainSettings image (resetNotes l1)).entries,
      code.dx = wide.w := by
  have large := markers.wideLarge
  have left := large.a_nonneg
  have width := large.wide
  have height := large.high
  have bottom := large.bottom_le
  have narrowLeft := markers.narrowLarge.a_nonneg
  have narrowHeight := markers.narrowLarge.high
  have apart := markers.apart
  unfold Marker.Apart at apart
  -- the row in which the narrower marker is noted
  have firstRow : scanRowLeftToRight appMainSettings image narrow.b (resetNotes l1) =
      markerNotes l1 narrow.a narrow.b narrow.w narrow.h := by
    rw [scanRowLeftToRight, markers.narrow_first shows (Or.inl below)]
    apply markers.row_quiet shows (by omega)
    intro x _ _
    exact passed_noted l1 (by unfold Marker.Contains; omega)
  have continued : (rows (scanRowLeftToRight appMainSettings image)).body
      ⟨narrow.b, resetNotes l1⟩ = some ⟨narrow.b + 1,
        scanRowLeftToRight appMainSettings image narrow.b (resetNotes l1)⟩ :=
    if_pos (show narrow.b < 240 by omega)
  -- the rows between the first rows of the markers
  have between : ((rows (scanRowLeftToRight appMainSettings image)).run ⟨narrow.b + 1,
      markerNotes l1 narrow.a narrow.b narrow.w narrow.h⟩).notes =
        ((rows (scanRowLeftToRight appMainSettings image)).run ⟨wide.b,
          markerNotes l1 narrow.a narrow.b narrow.w narrow.h⟩).notes := by
    apply rows_skip (by omega)
    intro y _ above _
    apply markers.row_quiet shows (le_refl 0)
    intro x _ _
    exact passed_noted l1 (by unfold Marker.Contains; omega)
  have rowsBefore : ((rows (scanRowLeftToRight appMainSettings image)).run
      ⟨1, resetNotes l1⟩).notes =
        ((rows (scanRowLeftToRight appMainSettings image)).run ⟨wide.b,
          markerNotes l1 narrow.a narrow.b narrow.w narrow.h⟩).notes := by
    rw [markers.skip_rows shows markers.narrowLarge.b_pos (by omega) (le_refl narrow.b),
      Loop.run_of_some continued, firstRow, between]
  have columnsBefore : ((rowLeftToRight appMainSettings image wide.b).run ⟨0,
      markerNotes l1 narrow.a narrow.b narrow.w narrow.h⟩).notes =
        ((rowLeftToRight appMainSettings image wide.b).run ⟨wide.a,
          markerNotes l1 narrow.a narrow.b narrow.w narrow.h⟩).notes :=
    markers.skip_columns shows (le_refl 0) left
      fun x _ upper => passed_noted l1 (by unfold Marker.Contains; omega)
  have room : (markerNotes l1 narrow.a narrow.b narrow.w narrow.h).k < 5 := by
    change 1 < 5
    decide
  exact (markers.isolated_wide shows).noted_at large rowsBefore columnsBefore (by omega)
    (by omega) (markerNotes_wellFormed l1 _ _ _ _) room (markerNotes_outside l1 (by omega))

/-- Next to the narrower marker, which is met first, the scan comes by the corner of the
wider one. -/
theorem TwoMarkers.noted_beside (markers : TwoMarkers picture wide narrow)
    (shows : Shows image picture) (sameRow : narrow.b = wide.b)
    (beside : narrow.a + narrow.w < wide.a) (reached : narrow.a + narrow.h < wide.a)
    (l1 : Vector QrCode 5) :
    ∃ code ∈ (passLeftToRight appMainSettings image (resetNotes l1)).entries,
      code.dx = wide.w := by
  have large := markers.wideLarge
  have height := large.high
  have narrowLeft := markers.narrowLarge.a_nonneg
  have narrowHeight := markers.narrowLarge.high
  have rowsBefore := markers.skip_rows shows large.b_pos (le_refl wide.b) (by omega)
    (resetNotes l1)
  have columnsBefore := markers.narrow_first shows (Or.inr ⟨sameRow, beside⟩) l1
  rw [sameRow] at columnsBefore
  rw [markers.skip_columns shows (by omega) (show narrow.a + narrow.h + 1 ≤ wide.a by omega)
    fun x _ upper => by
      rw [← sameRow]
      exact passed_noted l1 (by unfold Marker.Contains; omega)] at columnsBefore
  have room : (markerNotes l1 narrow.a wide.b narrow.w narrow.h).k < 5 := by
    change 1 < 5
    decide
  exact (markers.isolated_wide shows).noted_at large rowsBefore columnsBefore (by omega)
    (by omega) (markerNotes_wellFormed l1 _ _ _ _) room (markerNotes_outside l1 (by omega))

/-- The first row of both markers, if the scan jumps over the corner of the wider one: at
most one part of it is noted, and no area covers its first column. -/
theorem TwoMarkers.jumped_over (markers : TwoMarkers picture wide narrow)
    (shows : Shows image picture) (sameRow : narrow.b = wide.b)
    (beside : narrow.a + narrow.w < wide.a) (jumped : wide.a ≤ narrow.a + narrow.h)
    (l1 : Vector QrCode 5) :
    ∃ notes, scanRowLeftToRight appMainSettings image wide.b (resetNotes l1) = notes ∧
      notes.WellFormed ∧ notes.k ≤ 2 ∧
      (∀ x y, ¬wide.Contains y x →
        notes.insideLeftToRight x y = true ∨ (¬wide.Contains y x ∧ ¬narrow.Contains y x)) ∧
      ∀ y, notes.insideLeftToRight wide.a y = false := by
  have large := markers.wideLarge
  have height := large.high
  have right := large.right_le
  have narrowLeft := markers.narrowLarge.a_nonneg
  have narrowWidth := markers.narrowLarge.wide
  have wellFormed := markerNotes_wellFormed l1 narrow.a narrow.b narrow.w narrow.h
  have room : (markerNotes l1 narrow.a narrow.b narrow.w narrow.h).k < 5 := by
    change 1 < 5
    decide
  have firstRow := markers.narrow_first shows (Or.inr ⟨sameRow, beside⟩) l1
  rw [sameRow] at firstRow
  rw [scanRowLeftToRight, firstRow, ← sameRow]
  have onlyNarrow : (∀ x y, ¬wide.Contains y x →
      (markerNotes l1 narrow.a narrow.b narrow.w narrow.h).insideLeftToRight x y = true ∨
        (¬wide.Contains y x ∧ ¬narrow.Contains y x)) ∧
      ∀ y, (markerNotes l1 narrow.a narrow.b narrow.w narrow.h).insideLeftToRight wide.a y =
        false :=
    ⟨fun x y => passed_noted l1, fun y => markerNotes_outside l1 (by omega)⟩
  by_cases behind : wide.a + wide.w ≤ narrow.a + narrow.h + 1
  · -- the jump leads behind the wider marker
    refine ⟨_, markers.row_quiet shows (by omega) ?_, wellFormed, ?_, onlyNarrow⟩
    · intro x lower _
      exact passed_noted l1 (by unfold Marker.Contains; omega)
    · change 1 ≤ 2
      decide
  · have isolated := markers.isolated_wide shows
    have outside : (markerNotes l1 narrow.a narrow.b narrow.w narrow.h).insideLeftToRight
        (narrow.a + narrow.h + 1) narrow.b = false := markerNotes_outside l1 (by omega)
    have continued : (rowLeftToRight appMainSettings image narrow.b).body
        ⟨narrow.a + narrow.h + 1, markerNotes l1 narrow.a narrow.b narrow.w narrow.h⟩ =
          some (visitLeftToRight appMainSettings image narrow.b ⟨narrow.a + narrow.h + 1,
            markerNotes l1 narrow.a narrow.b narrow.w narrow.h⟩) :=
      if_pos (show narrow.a + narrow.h + 1 < 240 by omega)
    rw [Loop.run_of_some continued]
    by_cases part : 20 < wide.a + wide.w - (narrow.a + narrow.h + 1)
    · -- the right part of the wider marker is noted
      obtain ⟨code, code_eq⟩ : ∃ code, code = markerNote (narrow.a + narrow.h + 1) narrow.b
          (wide.a + wide.w - (narrow.a + narrow.h + 1)) (wide.b + wide.h - narrow.b) := ⟨_, rfl⟩
      have occupied : code.o = true := by
        rw [code_eq]
        rfl
      have inside := wellFormed.inside_note room occupied
      have passed : ∀ x y, ¬wide.Contains y x →
          ((markerNotes l1 narrow.a narrow.b narrow.w narrow.h).note code).insideLeftToRight
            x y = true ∨ (¬wide.Contains y x ∧ ¬narrow.Contains y x) := by
        intro x y notWide
        rcases onlyNarrow.1 x y notWide with covered | black
        · left
          rw [inside, covered, Bool.true_or]
        · exact Or.inr black
      rw [isolated.visit_noted large (by omega) (by omega) part (by omega) outside, ← code_eq]
      refine ⟨_, markers.row_quiet shows (by omega) ?_, wellFormed.note occupied, ?_, passed, ?_⟩
      · intro x lower _
        by_cases inWide : wide.Contains narrow.b x
        · left
          rw [inside, Bool.or_eq_true]
          right
          unfold Marker.Contains at inWide
          simp only [code_eq, markerNote]
          apply decide_eq_true
          omega
        · exact passed x narrow.b inWide
      · simp only [Notes.note, dif_pos room]
        change 1 + 1 ≤ 2
        decide
      · intro y
        rw [inside, onlyNarrow.2, Bool.false_or]
        simp only [code_eq, markerNote]
        apply decide_eq_false
        omega
    · -- the right part is too short
      rw [isolated.visit_short large (by omega) (by omega) part outside]
      refine ⟨_, markers.row_quiet shows (by omega) ?_, wellFormed, ?_, onlyNarrow⟩
      · intro x lower _
        exact passed_noted l1 (by unfold Marker.Contains; omega)
      · change 1 ≤ 2
        decide

/-- If the scan has jumped over the corner of the wider marker, it comes by its first
column in the second row. -/
theorem TwoMarkers.noted_second (markers : TwoMarkers picture wide narrow)
    (shows : Shows image picture) (sameRow : narrow.b = wide.b)
    (beside : narrow.a + narrow.w < wide.a) (jumped : wide.a ≤ narrow.a + narrow.h)
    (high : 21 < wide.h) (l1 : Vector QrCode 5) :
    ∃ code ∈ (passLeftToRight appMainSettings image (resetNotes l1)).entries,
      code.dx = wide.w := by
  have large := markers.wideLarge
  have left := large.a_nonneg
  have bottom := large.bottom_le
  rcases markers.jumped_over shows sameRow beside jumped l1 with
    ⟨notes, firstRow, wellFormed, few, passed, outside⟩
  have continued : (rows (scanRowLeftToRight appMainSettings image)).body
      ⟨wide.b, resetNotes l1⟩ = some ⟨wide.b + 1,
        scanRowLeftToRight appMainSettings image wide.b (resetNotes l1)⟩ :=
    if_pos (show wide.b < 240 by omega)
  have rowsBefore := markers.skip_rows shows large.b_pos (le_refl wide.b) (by omega)
    (resetNotes l1)
  rw [Loop.run_of_some continued, firstRow] at rowsBefore
  have columnsBefore : ((rowLeftToRight appMainSettings image (wide.b + 1)).run
      ⟨0, notes⟩).notes =
        ((rowLeftToRight appMainSettings image (wide.b + 1)).run ⟨wide.a, notes⟩).notes :=
    markers.skip_columns shows (le_refl 0) left
      fun x _ upper => passed x (wide.b + 1) (by unfold Marker.Contains; omega)
  exact (markers.isolated_wide shows).noted_at large rowsBefore columnsBefore (by omega)
    (by omega) wellFormed (by omega) (outside (wide.b + 1))

/-! ## The corner is missed -/

theorem tracedLeftToRight_start {settings : Settings} {x y : Int} {code : QrCode}
    (traced : tracedLeftToRight settings image x y = some code) :
    code.x0 = x ∧ code.y0 = y := by
  simp only [tracedLeftToRight] at traced
  split at traced
  next =>
    cases traced
    exact ⟨rfl, rfl⟩
  next => cases traced

/-- No entry starts at a given pixel. -/
def Notes.Misses (x y : Int) (notes : Notes) : Prop :=
  notes.WellFormed ∧ ∀ code ∈ notes.entries, ¬(code.x0 = x ∧ code.y0 = y)

theorem Notes.Misses.visit {settings : Settings} {x y column row : Int} {notes : Notes}
    (misses : notes.Misses x y) (elsewhere : ¬(column = x ∧ row = y)) :
    (visitLeftToRight settings image row ⟨column, notes⟩).notes.Misses x y := by
  rcases visitLeftToRight_cases settings image row ⟨column, notes⟩ with
    unchanged | ⟨new, _, _, traced, noted⟩
  · rw [unchanged]
    exact misses
  · have start := tracedLeftToRight_start traced
    rw [noted]
    refine ⟨misses.1.note (tracedLeftToRight_noted traced).occupied, ?_⟩
    intro code member
    rcases misses.1.mem_note member with old | same
    · exact misses.2 code old
    · rw [same, start.1, start.2]
      exact elsewhere

/-- If the scan jumps over the corner of the wider marker, no entry starts there. -/
theorem TwoMarkers.corner_missed (markers : TwoMarkers picture wide narrow)
    (shows : Shows image picture) (sameRow : narrow.b = wide.b)
    (beside : narrow.a + narrow.w < wide.a) (jumped : wide.a ≤ narrow.a + narrow.h)
    (l1 : Vector QrCode 5) :
    (passLeftToRight appMainSettings image (resetNotes l1)).Misses wide.a wide.b := by
  have large := markers.wideLarge
  have bottom := large.bottom_le
  have height := large.high
  have narrowWidth := markers.narrowLarge.wide
  have initially : (markerNotes l1 narrow.a narrow.b narrow.w narrow.h).Misses wide.a wide.b := by
    refine ⟨markerNotes_wellFormed l1 _ _ _ _, ?_⟩
    intro code member
    rw [markerNotes_entries, List.mem_singleton] at member
    rw [member]
    simp only [markerNote]
    omega
  -- the rest of the first row lies to the right of the corner
  have firstRow : (scanRowLeftToRight appMainSettings image wide.b (resetNotes l1)).Misses
      wide.a wide.b := by
    have kept : ∀ cursor next : Cursor,
        (wide.a < cursor.x ∧ cursor.notes.Misses wide.a wide.b) →
        (rowLeftToRight appMainSettings image wide.b).body cursor = some next →
        wide.a < next.x ∧ next.notes.Misses wide.a wide.b := by
      rintro ⟨x, notes⟩ next ⟨behind, misses⟩ continued
      simp only [rowLeftToRight] at continued
      split at continued
      next =>
        cases continued
        have further := lt_visitLeftToRight_x appMainSettings image wide.b ⟨x, notes⟩
        simp only at behind further misses
        exact ⟨by omega, misses.visit (by omega)⟩
      next => cases continued
    have skipped := markers.narrow_first shows (Or.inr ⟨sameRow, beside⟩) l1
    rw [sameRow] at skipped initially
    rw [scanRowLeftToRight, skipped]
    have start : wide.a < (⟨narrow.a + narrow.h + 1,
        markerNotes l1 narrow.a wide.b narrow.w narrow.h⟩ : Cursor).x ∧
        (⟨narrow.a + narrow.h + 1,
          markerNotes l1 narrow.a wide.b narrow.w narrow.h⟩ : Cursor).notes.Misses
            wide.a wide.b :=
      ⟨show wide.a < narrow.a + narrow.h + 1 by omega, initially⟩
    exact (Loop.run_invariant kept start).2
  -- and the other rows lie below it
  have kept : ∀ cursor next : RowCursor,
      (wide.b < cursor.y ∧ cursor.notes.Misses wide.a wide.b) →
      (rows (scanRowLeftToRight appMainSettings image)).body cursor = some next →
      wide.b < next.y ∧ next.notes.Misses wide.a wide.b := by
    rintro ⟨y, notes⟩ next ⟨below, misses⟩ continued
    simp only [rows] at continued
    split at continued
    next =>
      cases continued
      simp only at below misses ⊢
      refine ⟨by omega, ?_⟩
      exact scanRowLeftToRight_invariant appMainSettings image (Notes.Misses wide.a wide.b)
        (fun _ _ _ _ holds => holds.visit (by omega)) misses
    next => cases continued
  have continued : (rows (scanRowLeftToRight appMainSettings image)).body
      ⟨wide.b, resetNotes l1⟩ = some ⟨wide.b + 1,
        scanRowLeftToRight appMainSettings image wide.b (resetNotes l1)⟩ :=
    if_pos (show wide.b < 240 by omega)
  have start : wide.b < (⟨wide.b + 1, scanRowLeftToRight appMainSettings image wide.b
      (resetNotes l1)⟩ : RowCursor).y ∧ (⟨wide.b + 1, scanRowLeftToRight appMainSettings image
        wide.b (resetNotes l1)⟩ : RowCursor).notes.Misses wide.a wide.b :=
    ⟨show wide.b < wide.b + 1 by omega, firstRow⟩
  rw [passLeftToRight, markers.skip_rows shows large.b_pos (le_refl wide.b) (by omega),
    Loop.run_of_some continued]
  exact (Loop.run_invariant kept start).2

/-- An entry of full width on a marker of 21 rows starts at its corner. -/
theorem TwoMarkers.entry_corner (markers : TwoMarkers picture wide narrow) {code : QrCode}
    (sound : code.Sound appMainSettings picture) (forward : code.f = false)
    (beside : narrow.a + narrow.w < wide.a) (low : wide.h = 21) (full : code.dx = wide.w) :
    code.x0 = wide.a ∧ code.y0 = wide.b := by
  have place := (markers.entry sound).2 full
  have x1_eq := sound.x1_eq
  have dropped := sound.y0_le_y1
  have high : 20 < code.y2 - code.y1 := sound.high
  have width := markers.wideLarge.wide
  rw [forward] at place
  simp only [Bool.false_eq_true, if_false] at place
  -- the last pixel of the side line lies on the wider marker
  have lowest := sound.side (code.y2 - code.y1 - 1) (by omega) (by omega)
  rw [markers.pixels, x1_eq, QrCode.direction, forward] at lowest
  simp only [Bool.false_eq_true, if_false, one_mul, Marker.Contains] at lowest
  have stepback : appMainSettings.sStepback = 5 := rfl
  omega

/-- When the pass from left to right notes the wider marker in full width. -/
theorem TwoMarkers.noted_iff (markers : TwoMarkers picture wide narrow)
    (shows : Shows image picture) (l1 : Vector QrCode 5) :
    (∃ code ∈ (passLeftToRight appMainSettings image (resetNotes l1)).entries,
      code.dx = wide.w) ↔
      ¬(narrow.b = wide.b ∧ narrow.a + narrow.w < wide.a ∧ wide.a ≤ narrow.a + narrow.h ∧
        wide.h = 21) := by
  have height := markers.wideLarge.high
  have narrowHeight := markers.narrowLarge.high
  constructor
  · rintro ⟨code, member, full⟩ ⟨sameRow, beside, jumped, low⟩
    have sound := passLeftToRight_sound shows appMainSettings_valid l1
    have missed := markers.corner_missed shows sameRow beside jumped l1
    exact missed.2 code member
      (markers.entry_corner (sound.1.sound code member) (sound.2 code member) beside low full)
  · intro kept
    have apart := markers.apart
    unfold Marker.Apart at apart
    rcases lt_trichotomy narrow.b wide.b with below | sameRow | above
    · exact markers.noted_below shows below l1
    · by_cases beside : narrow.a + narrow.w < wide.a
      · by_cases jumped : wide.a ≤ narrow.a + narrow.h
        · have high : 21 < wide.h := by
            by_contra low
            exact kept ⟨sameRow, beside, jumped, by omega⟩
          exact markers.noted_second shows sameRow beside jumped high l1
        · exact markers.noted_beside shows sameRow beside (by omega) l1
      · exact markers.noted_first shows (Or.inr ⟨sameRow.symm, by omega⟩) l1
    · exact markers.noted_first shows (Or.inl above) l1

end Picture

/-- The report on two markers, in terms of what the first pass notes. -/
theorem TwoMarkers.position_iff {frame : Frame} {wide narrow : Marker}
    (markers : TwoMarkers (pixel frame) wide narrow) (scan : Frame → Option String)
    (state : TaskState) :
    (processFrame scan appMainSettings state frame).2.position =
        positionLine ((2 * wide.a + wide.w) / 2) wide.w ↔
      ∃ code ∈ (passLeftToRight appMainSettings (readWord (frame.map pureWord))
        (resetNotes state.l1)).entries, code.dx = wide.w := by
  have shows := shows_pixel frame
  have first := passLeftToRight_sound shows appMainSettings_valid state.l1
  have last := detect_sound shows appMainSettings_valid state.l1
  rcases @passRightToLeft_appends (readWord (frame.map pureWord)) appMainSettings _
    first.1.wellFormed with ⟨rest, appended, backward⟩
  rw [← detect] at appended
  rw [← markers.report_iff appended first.2 backward last.sound (fun _ => detect_noted)
    state.best, processFrame_reported, reported]
  constructor
  · intro same
    have numbers := positionLine_injective same
    exact Prod.ext numbers.1 numbers.2
  · intro same
    rw [same]

/-- Two markers.  With the settings of `app_main`, the centre and the full width of the
wider one of two separated markers are reported, unless it starts in the same row as
the narrower one, to the right of it and not farther away than the narrower one is
high, and has only 21 rows. -/
theorem two_markers_report (scan : Frame → Option String) {frame : Frame}
    {wide narrow : Marker} (markers : TwoMarkers (pixel frame) wide narrow)
    (state : TaskState) :
    (processFrame scan appMainSettings state frame).2.position =
        positionLine ((2 * wide.a + wide.w) / 2) wide.w ↔
      ¬(narrow.b = wide.b ∧ narrow.a + narrow.w < wide.a ∧ wide.a ≤ narrow.a + narrow.h ∧
        wide.h = 21) := by
  rw [markers.position_iff, markers.noted_iff (shows_pixel frame)]

instance (marker : Marker) (row column : Int) : Decidable (marker.Contains row column) :=
  inferInstanceAs (Decidable (_ ∧ _))

/-- A frame that shows two markers. -/
def markersFrame (wide narrow : Marker) : Frame :=
  pictureFrame fun row column =>
    decide (wide.Contains row column ∨ narrow.Contains row column)

theorem markersFrame_markers {wide narrow : Marker} (wideLarge : wide.Large)
    (narrowLarge : narrow.Large) (wider : narrow.w < wide.w) (apart : wide.Apart narrow) :
    TwoMarkers (pixel (markersFrame wide narrow)) wide narrow where
  pixels := by
    intro row column
    have inFrame : wide.Contains row column ∨ narrow.Contains row column →
        (0 ≤ row ∧ row < 240) ∧ 0 ≤ column ∧ column < 240 := by
      have left := wideLarge.a_nonneg
      have top := wideLarge.b_pos
      have right := wideLarge.right_le
      have bottom := wideLarge.bottom_le
      have narrowLeft := narrowLarge.a_nonneg
      have narrowTop := narrowLarge.b_pos
      have narrowRight := narrowLarge.right_le
      have narrowBottom := narrowLarge.bottom_le
      unfold Marker.Contains
      omega
    by_cases inRow : 0 ≤ column ∧ column < 240
    · rw [← white_eq_pixel _ inRow.1 inRow.2, markersFrame, readWord_pictureFrame,
        white_pictureWord _ inRow.1 inRow.2, Bool.and_eq_true, decide_eq_true_eq,
        decide_eq_true_eq]
      exact ⟨fun shown => shown.2, fun inside => ⟨(inFrame inside).1, inside⟩⟩
    · have outside : pixel (markersFrame wide narrow) row column = false :=
        dif_neg fun inside => inRow inside.2
      rw [outside]
      constructor
      · intro contradiction
        cases contradiction
      · intro inside
        exact absurd (inFrame inside).2 inRow
  wideLarge := wideLarge
  narrowLarge := narrowLarge
  wider := wider
  apart := apart

/-- A marker of 100 by 22 pixels next to one of 21 by 60 pixels. -/
theorem two_markers_report_beside :
    (processFrame (fun _ => none) appMainSettings zeroTask
      (markersFrame ⟨22, 1, 100, 22⟩ ⟨0, 1, 21, 60⟩)).2.position = "#72;100" :=
  (two_markers_report (fun _ => none)
    (markersFrame_markers (by constructor <;> decide) (by constructor <;> decide) (by decide)
      (Or.inl (Or.inr (by decide)))) zeroTask).mpr (by decide)

/-- A marker of 100 by 21 pixels next to one of 21 by 60 pixels is not reported as such. -/
theorem wider_marker_not_reported :
    TwoMarkers (pixel (markersFrame ⟨22, 1, 100, 21⟩ ⟨0, 1, 21, 60⟩)) ⟨22, 1, 100, 21⟩
        ⟨0, 1, 21, 60⟩ ∧
      (processFrame (fun _ => none) appMainSettings zeroTask
        (markersFrame ⟨22, 1, 100, 21⟩ ⟨0, 1, 21, 60⟩)).2.position ≠ "#72;100" := by
  have markers : TwoMarkers (pixel (markersFrame ⟨22, 1, 100, 21⟩ ⟨0, 1, 21, 60⟩))
      ⟨22, 1, 100, 21⟩ ⟨0, 1, 21, 60⟩ :=
    markersFrame_markers (by constructor <;> decide) (by constructor <;> decide) (by decide)
      (Or.inl (Or.inr (by decide)))
  refine ⟨markers, fun reported => ?_⟩
  have noted := (markers.position_iff (fun _ => none) zeroTask).mp reported
  rw [markers.noted_iff (shows_pixel _)] at noted
  exact noted (by decide)

end ECam.QrPosing
