import ECam.QrPosing.SingleMarker
import ECam.QrPosing.Soundness

/-!
# Entries in a picture of two markers

The converted picture is white exactly on two separated rectangles of different widths.
Every entry lies on one of them, and the wider one is reported if and only if the pass
from left to right has noted it in full width.
-/

namespace ECam.QrPosing

open ECam.Library

/-- A rectangle: its upper left corner and its size. -/
structure Marker where
  a : Int
  b : Int
  w : Int
  h : Int

/-- The pixels of a marker. -/
def Marker.Contains (marker : Marker) (row column : Int) : Prop :=
  (marker.a ≤ column ∧ column < marker.a + marker.w) ∧
    marker.b ≤ row ∧ row < marker.b + marker.h

/-- The marker lies in rows `1` to `239` and columns `0` to `239`, and it is wider and
higher than 20 pixels. -/
structure Marker.Large (marker : Marker) : Prop where
  a_nonneg : 0 ≤ marker.a
  b_pos : 1 ≤ marker.b
  right_le : marker.a + marker.w ≤ 240
  bottom_le : marker.b + marker.h ≤ 240
  wide : 20 < marker.w
  high : 20 < marker.h

/-- Between the markers there is a black column, or there are five black rows. -/
def Marker.Apart (marker other : Marker) : Prop :=
  (marker.a + marker.w < other.a ∨ other.a + other.w < marker.a) ∨
    marker.b + marker.h + 5 ≤ other.b ∨ other.b + other.h + 5 ≤ marker.b

/-- The picture is white exactly on two large markers of different widths. -/
structure TwoMarkers (picture : Int → Int → Bool) (wide narrow : Marker) : Prop where
  pixels : ∀ row column,
    picture row column = true ↔ wide.Contains row column ∨ narrow.Contains row column
  wideLarge : wide.Large
  narrowLarge : narrow.Large
  wider : narrow.w < wide.w
  apart : wide.Apart narrow

theorem appMainSettings_valid : appMainSettings.Valid := by
  constructor <;> decide

/-! ## One of the markers -/

section Isolated

variable {image : Int → UInt16} {marker : Marker}

/-- The marker is white, and the pixels at its borders that the traces look at are
black. -/
structure Isolated (image : Int → UInt16) (marker : Marker) : Prop where
  inside : ∀ row column, marker.Contains row column → white image row column = true
  around : ∀ row column, 0 ≤ column → column < 240 → ¬marker.Contains row column →
    marker.a ≤ column ∧ column ≤ marker.a + marker.w →
    marker.b - 5 ≤ row ∧ row ≤ marker.b + marker.h → white image row column = false

/-- The first five rows of a marker are top pixels. -/
theorem Isolated.topPixel_first (isolated : Isolated image marker) (large : marker.Large)
    {row column : Int} (inRow : marker.a ≤ column ∧ column < marker.a + marker.w)
    (first : marker.b ≤ row ∧ row < marker.b + 5) :
    topPixel appMainSettings image row column = true := by
  have nonneg := large.a_nonneg
  have right := large.right_le
  have high := large.high
  have whiteAt : white image row column = true :=
    isolated.inside row column ⟨inRow, first.1, by omega⟩
  have above : white image (row - 5) column = false :=
    isolated.around (row - 5) column (by omega) (by omega)
      (fun contained => by have bound := contained.2.1; omega) (by omega) (by omega)
  change (white image row column && !white image (row - 5) column) = true
  rw [whiteAt, above]
  rfl

/-- The traces from a pixel in the first rows of a marker run along its right part. -/
theorem Isolated.tracedTop (isolated : Isolated image marker) (large : marker.Large) {x y : Int}
    (inRow : marker.a ≤ x ∧ x < marker.a + marker.w)
    (first : marker.b ≤ y ∧ y < marker.b + 5) :
    tracedTopLeftToRight appMainSettings image x y =
      ⟨marker.a + marker.w - x, 0, marker.a + marker.w - x,
        decide (20 < marker.a + marker.w - x)⟩ := by
  have nonneg := large.a_nonneg
  have right := large.right_le
  have high := large.high
  have behind : ∀ row, marker.b ≤ row → row ≤ marker.b + 5 →
      x + (marker.a + marker.w - x) < 240 →
      topPixel appMainSettings image row (x + (marker.a + marker.w - x)) = false := by
    intro row lower upper inPicture
    have black : white image row (x + (marker.a + marker.w - x)) = false :=
      isolated.around row _ (by omega) inPicture
        (fun contained => by have bound := contained.1.2; omega) (by omega) (by omega)
    rw [topPixel, black, Bool.false_and]
  exact tracedTopLeftToRight_row (by decide) (by omega) (by omega)
    (fun column left inside => isolated.topPixel_first large (by omega) first)
    (behind y (by omega) (by omega)) (behind (y + 1) (by omega) (by omega))

theorem Isolated.tracedSide (isolated : Isolated image marker) (large : marker.Large) {x y : Int}
    (inRow : marker.a ≤ x ∧ x < marker.a + marker.w)
    (first : marker.b ≤ y ∧ y < marker.b + 5) (wide : 20 < marker.a + marker.w - x)
    (found : Bool) :
    tracedSideLeftToRight appMainSettings image x y
        ⟨marker.a + marker.w - x, 0, marker.a + marker.w - x, found⟩ =
      ⟨marker.b + marker.h - y, marker.b + marker.h - y,
        decide (20 < marker.b + marker.h - y)⟩ := by
  have nonneg := large.a_nonneg
  have right := large.right_le
  have bottom := large.bottom_le
  have high := large.high
  change (sideLine appMainSettings image (x + (marker.a + marker.w - x) - 5) y 0).run
    ⟨1, 1, false⟩ = _
  exact sideLine_column (by decide) (by omega) (by omega)
    (fun row below inside => isolated.inside _ _ ⟨by omega, by omega⟩)
    (isolated.around _ _ (by omega) (by omega)
      (fun contained => by have bound := contained.2.2; omega) (by omega) (by omega))

/-- A visit of a pixel far enough from the right and the lower border is noted. -/
theorem Isolated.visit_noted (isolated : Isolated image marker) (large : marker.Large)
    {x y : Int} {notes : Notes} (inRow : marker.a ≤ x ∧ x < marker.a + marker.w)
    (first : marker.b ≤ y ∧ y < marker.b + 5) (wide : 20 < marker.a + marker.w - x)
    (high : 20 < marker.b + marker.h - y) (outside : notes.insideLeftToRight x y = false) :
    visitLeftToRight appMainSettings image y ⟨x, notes⟩ =
      ⟨x + (marker.b + marker.h - y) + 1,
        notes.note (markerNote x y (marker.a + marker.w - x) (marker.b + marker.h - y))⟩ := by
  have start := isolated.topPixel_first large inRow first
  have top := isolated.tracedTop large inRow first
  have side := isolated.tracedSide large inRow first wide
  have found : (tracedTopLeftToRight appMainSettings image x y).found = true := by
    rw [top]
    exact decide_eq_true wide
  have noted : tracedLeftToRight appMainSettings image x y =
      some (markerNote x y (marker.a + marker.w - x) (marker.b + marker.h - y)) := by
    simp only [tracedLeftToRight, top, side, decide_eq_true wide, decide_eq_true high,
      Bool.and_self, if_true, corners, markerNote, mul_zero, add_zero]
  rw [visitLeftToRight_start outside start, traceLeftToRight_found found, noted, top, side]
  rfl

/-- A visit of a pixel too close to the right border leads behind the marker. -/
theorem Isolated.visit_short (isolated : Isolated image marker) (large : marker.Large)
    {x y : Int} {notes : Notes} (inRow : marker.a ≤ x ∧ x < marker.a + marker.w)
    (first : marker.b ≤ y ∧ y < marker.b + 5) (short : ¬20 < marker.a + marker.w - x)
    (outside : notes.insideLeftToRight x y = false) :
    visitLeftToRight appMainSettings image y ⟨x, notes⟩ =
      ⟨marker.a + marker.w + 1, notes⟩ := by
  have start := isolated.topPixel_first large inRow first
  have top := isolated.tracedTop large inRow first
  have notFound : (tracedTopLeftToRight appMainSettings image x y).found = false := by
    rw [top]
    exact decide_eq_false short
  have none : tracedLeftToRight appMainSettings image x y = none := by
    simp only [tracedLeftToRight, notFound, Bool.false_and, Bool.false_eq_true, if_false]
  have behind : x + (marker.a + marker.w - x) = marker.a + marker.w := by ring
  rw [visitLeftToRight_start outside start, traceLeftToRight_short notFound, none, top]
  simp only [behind]
  rfl

end Isolated

/-! ## Both markers -/

theorem Marker.Apart.symm {marker other : Marker} (apart : marker.Apart other) :
    other.Apart marker := by
  unfold Marker.Apart at apart ⊢
  omega

/-- A staircase does not lead from one marker to the other. -/
theorem Marker.Apart.not_adjacent {marker other : Marker} (apart : marker.Apart other)
    {row column nextRow nextColumn : Int} (inside : marker.Contains row column)
    (nextInside : other.Contains nextRow nextColumn)
    (beside : nextColumn = column + 1 ∨ nextColumn = column - 1)
    (down : nextRow = row ∨ nextRow = row + 1) : False := by
  unfold Marker.Apart at apart
  unfold Marker.Contains at inside nextInside
  omega

section Picture

variable {picture : Int → Int → Bool} {image : Int → UInt16} {wide narrow : Marker}

theorem TwoMarkers.white_iff (markers : TwoMarkers picture wide narrow)
    (shows : Shows image picture) {row column : Int} (nonneg : 0 ≤ column)
    (inRow : column < 240) :
    white image row column = true ↔ wide.Contains row column ∨ narrow.Contains row column := by
  rw [shows row column nonneg inRow, markers.pixels]

theorem TwoMarkers.topPixel_outside (markers : TwoMarkers picture wide narrow)
    (shows : Shows image picture) {row column : Int} (nonneg : 0 ≤ column)
    (inRow : column < 240) (notWide : ¬wide.Contains row column)
    (notNarrow : ¬narrow.Contains row column) :
    topPixel appMainSettings image row column = false := by
  have black : white image row column = false := by
    rw [← Bool.not_eq_true, markers.white_iff shows nonneg inRow]
    exact not_or.mpr ⟨notWide, notNarrow⟩
  rw [topPixel, black, Bool.false_and]

/-- A marker that is apart from the rest of the picture. -/
theorem isolated_of_apart {marker other : Marker} (large : marker.Large)
    (apart : marker.Apart other)
    (pixels : ∀ row column, 0 ≤ column → column < 240 →
      (white image row column = true ↔
        marker.Contains row column ∨ other.Contains row column)) :
    Isolated image marker where
  inside := by
    intro row column contained
    have nonneg := large.a_nonneg
    have right := large.right_le
    have inRow := contained.1
    exact (pixels row column (by omega) (by omega)).mpr (Or.inl contained)
  around := by
    intro row column nonneg inRow notInside columns rows
    rw [← Bool.not_eq_true, pixels row column nonneg inRow]
    rintro (inside | inOther)
    · exact notInside inside
    · unfold Marker.Apart at apart
      unfold Marker.Contains at inOther
      omega

theorem TwoMarkers.isolated_wide (markers : TwoMarkers picture wide narrow)
    (shows : Shows image picture) : Isolated image wide :=
  isolated_of_apart markers.wideLarge markers.apart fun _ _ nonneg inRow =>
    markers.white_iff shows nonneg inRow

theorem TwoMarkers.isolated_narrow (markers : TwoMarkers picture wide narrow)
    (shows : Shows image picture) : Isolated image narrow :=
  isolated_of_apart markers.narrowLarge markers.apart.symm fun _ _ nonneg inRow => by
    rw [markers.white_iff shows nonneg inRow, or_comm]

/-! ## Entries -/

/-- The top line of an entry lies on one of the markers. -/
theorem TwoMarkers.entry_contained (markers : TwoMarkers picture wide narrow) {code : QrCode}
    (sound : code.Sound appMainSettings picture) :
    ∃ marker, (marker = wide ∨ marker = narrow) ∧
      ∃ row : Int → Int, row 0 = code.y0 ∧ ∀ column : Nat, (column : Int) < code.dx →
        marker.Contains (row column) (code.x0 + code.direction * column) := by
  have wideEnough : 20 < code.dx := sound.wide
  rcases sound.top with ⟨row, start, _, steps, white⟩
  have sign : code.direction = 1 ∨ code.direction = -1 := by
    unfold QrCode.direction
    split
    next => exact Or.inr rfl
    next => exact Or.inl rfl
  have contained : ∀ column : Nat, (column : Int) < code.dx →
      wide.Contains (row column) (code.x0 + code.direction * column) ∨
        narrow.Contains (row column) (code.x0 + code.direction * column) := by
    intro column inside
    exact (markers.pixels _ _).mp (white column (by omega) inside).1
  -- along the line the marker does not change
  have stays : ∀ marker other : Marker, marker.Apart other →
      (∀ column : Nat, (column : Int) < code.dx →
        marker.Contains (row column) (code.x0 + code.direction * column) ∨
          other.Contains (row column) (code.x0 + code.direction * column)) →
      marker.Contains (row 0) (code.x0 + code.direction * 0) →
      ∀ column : Nat, (column : Int) < code.dx →
        marker.Contains (row column) (code.x0 + code.direction * column) := by
    intro marker other apart either first column
    induction column with
    | zero => exact fun _ => first
    | succ column ih =>
        intro inside
        have before := ih (by omega)
        rcases either (column + 1) inside with same | changed
        · exact same
        · exfalso
          have down := steps column (by omega) (by omega)
          refine apart.not_adjacent before changed ?_ down
          push_cast
          rcases sign with forward | backward
          · rw [forward]
            omega
          · rw [backward]
            omega
  rcases contained 0 (by simp only [Nat.cast_zero]; omega) with inWide | inNarrow
  · exact ⟨wide, Or.inl rfl, row, start, stays wide narrow markers.apart contained inWide⟩
  · exact ⟨narrow, Or.inr rfl, row, start, stays narrow wide markers.apart.symm
      (fun column inside => (contained column inside).symm) inNarrow⟩

/-- An entry is at most as wide as the wider marker, and an entry of its full width
starts in its first or its last column. -/
theorem TwoMarkers.entry (markers : TwoMarkers picture wide narrow) {code : QrCode}
    (sound : code.Sound appMainSettings picture) :
    code.dx ≤ wide.w ∧ (code.dx = wide.w →
      wide.b ≤ code.y0 ∧ code.x0 = if code.f then wide.a + wide.w - 1 else wide.a) := by
  have wideEnough : 20 < code.dx := sound.wide
  have wider := markers.wider
  rcases markers.entry_contained sound with ⟨marker, which, row, start, contained⟩
  have first := contained 0 (by simp only [Nat.cast_zero]; omega)
  have last := contained (code.dx - 1).toNat (by omega)
  have position : (((code.dx - 1).toNat : Nat) : Int) = code.dx - 1 :=
    Int.toNat_of_nonneg (by omega)
  rw [position, QrCode.direction] at last
  rw [Nat.cast_zero, mul_zero, add_zero, start] at first
  unfold Marker.Contains at first last
  rcases which with rfl | rfl
  · cases flipped : code.f with
    | false =>
        simp only [flipped, Bool.false_eq_true, if_false] at last ⊢
        omega
    | true =>
        simp only [flipped, if_true] at last ⊢
        omega
  · cases flipped : code.f with
    | false =>
        simp only [flipped, Bool.false_eq_true, if_false] at last
        exact ⟨by omega, fun full => by omega⟩
    | true =>
        simp only [flipped, if_true] at last
        exact ⟨by omega, fun full => by omega⟩

/-! ## The report -/

theorem tracedRightToLeft_f {settings : Settings} {x y : Int} {code : QrCode}
    (traced : tracedRightToLeft settings image x y = some code) : code.f = true := by
  simp only [tracedRightToLeft] at traced
  split at traced
  next =>
    cases traced
    rfl
  next => cases traced

/-- The pass from right to left appends entries of its own direction. -/
theorem passRightToLeft_appends {settings : Settings} {notes : Notes}
    (wellFormed : notes.WellFormed) :
    ∃ rest, (passRightToLeft settings image notes).entries = notes.entries ++ rest ∧
      ∀ code ∈ rest, code.f = true := by
  have kept : ∀ x y current, 0 ≤ x → x < 240 → 1 ≤ y → y < 240 →
      (current.WellFormed ∧ ∃ rest, current.entries = notes.entries ++ rest ∧
        ∀ code ∈ rest, code.f = true) →
      (visitRightToLeft settings image y ⟨x, current⟩).notes.WellFormed ∧
        ∃ rest, (visitRightToLeft settings image y ⟨x, current⟩).notes.entries =
          notes.entries ++ rest ∧ ∀ code ∈ rest, code.f = true := by
    rintro x y current _ _ _ _ ⟨currentWellFormed, rest, entries, backward⟩
    rcases visitRightToLeft_cases settings image y ⟨x, current⟩ with
      unchanged | ⟨code, _, _, traced, noted⟩
    · rw [unchanged]
      exact ⟨currentWellFormed, rest, entries, backward⟩
    · rw [noted]
      refine ⟨currentWellFormed.note (tracedRightToLeft_noted traced).occupied, ?_⟩
      rcases currentWellFormed.entries_note_cases code with appended | dropped
      · refine ⟨rest ++ [code], ?_, ?_⟩
        · rw [appended, entries, List.append_assoc]
        · intro other member
          rcases List.mem_append.mp member with old | new
          · exact backward other old
          · rw [List.mem_singleton.mp new]
            exact tracedRightToLeft_f traced
      · refine ⟨rest, ?_, backward⟩
        rw [dropped, entries]
  have initially : notes.WellFormed ∧ ∃ rest, notes.entries = notes.entries ++ rest ∧
      ∀ code ∈ rest, code.f = true :=
    ⟨wellFormed, [], (List.append_nil _).symm, fun code member => by cases member⟩
  exact (passRightToLeft_invariant settings image
    (fun current => current.WellFormed ∧ ∃ rest, current.entries = notes.entries ++ rest ∧
      ∀ code ∈ rest, code.f = true) kept initially).2

/-- The centre and the width of the wider marker are reported if and only if the first
pass has noted it in full width. -/
theorem TwoMarkers.report_iff (markers : TwoMarkers picture wide narrow) {first last : Notes}
    {rest : List QrCode} (appended : last.entries = first.entries ++ rest)
    (forward : ∀ code ∈ first.entries, code.f = false) (backward : ∀ code ∈ rest, code.f = true)
    (sound : ∀ code ∈ last.entries, code.Sound appMainSettings picture)
    (noted : ∀ code ∈ last.entries, code.Noted) (best : QrCode) :
    report (last.best best) = ((2 * wide.a + wide.w) / 2, wide.w) ↔
      ∃ code ∈ first.entries, code.dx = wide.w := by
  have left := markers.wideLarge.a_nonneg
  have large := markers.wideLarge.wide
  constructor
  · intro reported
    -- a report of full width comes from an entry, and not from one of the second pass
    have member : last.best best ∈ last.entries := by
      rcases (foldl_better_spec (fun code inLast => (noted code inLast).occupied)
        { best with o := false, dx := 0, f := false }).1 with start | entry
      · rw [Notes.best, start] at reported
        have width := congrArg Prod.snd reported
        change (5 : Int) = wide.w at width
        omega
      · exact entry
    have bestSound := sound _ member
    have bestNoted := noted _ member
    have x1_eq := bestSound.x1_eq
    rw [report, bestNoted.occupied] at reported
    simp only [Bool.not_true, Bool.false_eq_true, if_false, bestNoted.width_eq,
      Prod.mk.injEq] at reported
    have place := ((markers.entry bestSound).2 reported.2).2
    have origin := member
    rw [appended] at origin
    rcases List.mem_append.mp origin with inFirst | inRest
    · exact ⟨_, inFirst, reported.2⟩
    · exfalso
      have flipped := backward _ inRest
      rw [QrCode.direction, flipped] at x1_eq
      simp only [flipped, if_true] at x1_eq place
      rw [Int.tdiv_eq_ediv_of_nonneg (by omega)] at reported
      omega
  · rintro ⟨code, member, full⟩
    -- the first entry of full width is selected in the first pass and then kept
    have inLast : ∀ other ∈ first.entries, other ∈ last.entries := by
      intro other inFirst
      rw [appended]
      exact List.mem_append_left rest inFirst
    obtain ⟨chosen, chosen_eq⟩ : ∃ chosen, chosen = first.entries.foldl QrCode.better
        { best with o := false, dx := 0, f := false } := ⟨_, rfl⟩
    rcases foldl_better_spec (fun other inFirst => (noted other (inLast other inFirst)).occupied)
      { best with o := false, dx := 0, f := false } with ⟨origin, _, widest⟩
    have wideEnough := widest code member
    rw [← chosen_eq] at origin wideEnough
    have chosenMember : chosen ∈ first.entries := by
      rcases origin with start | entry
      · rw [start] at wideEnough
        simp only at wideEnough
        omega
      · exact entry
    have chosenSound := sound chosen (inLast chosen chosenMember)
    have chosenNoted := noted chosen (inLast chosen chosenMember)
    have bound := (markers.entry chosenSound).1
    have chosenFull : chosen.dx = wide.w := by omega
    have place := ((markers.entry chosenSound).2 chosenFull).2
    have x1_eq := chosenSound.x1_eq
    rw [QrCode.direction, forward chosen chosenMember] at x1_eq
    simp only [forward chosen chosenMember, Bool.false_eq_true, if_false] at place x1_eq
    have selected : last.best best = chosen := by
      rw [Notes.best, appended, List.foldl_append, ← chosen_eq]
      apply foldl_better_keep
      intro other inRest
      have otherBound := (markers.entry (sound other (by
        rw [appended]
        exact List.mem_append_right _ inRest))).1
      omega
    rw [selected, report, chosenNoted.occupied]
    simp only [Bool.not_true, Bool.false_eq_true, if_false, chosenNoted.width_eq, Prod.mk.injEq]
    rw [Int.tdiv_eq_ediv_of_nonneg (by omega)]
    omega

end Picture

end ECam.QrPosing
