import ECam.QrPosing.Mirror.Traces

/-!
# A row and its mirror image

The pass from right to left goes on behind a top line, whereas the pass from left to
right goes on at a distance that the side line trace has left behind.  This module says
when the difference does not matter, and that the scans of a row then note mirror
images.
-/

namespace ECam.QrPosing

open ECam.Library

/-! ## Where the passes agree -/

section Alignment

variable (settings : Settings) (image : Int → UInt16)

/-- A visit from left to right finds a top line that is long enough, and there is still a
free entry. -/
structure FindsEdge (y : Int) (cursor : Cursor) : Prop where
  room : cursor.notes.k < 5
  outside : cursor.notes.insideLeftToRight cursor.x y = false
  start : topPixel settings image y cursor.x = true
  found : (tracedTopLeftToRight settings image cursor.x y).found = true

/-- The differences between the two passes do not matter for a top line that is found and
the side line below it.  The top line ends before the last column.  If it is noted,
nothing would be noted in the columns behind it that the scan jumps over.  If it is
rejected, nothing is noted in the columns of it that the scan visits again.  In both
cases the pixels between the two places where the scans go on lead at most to the
farther one. -/
structure Aligned (y : Int) (cursor : Cursor) (top : TopLine) (side : SideLine) : Prop where
  ends : cursor.x + top.dx < 240
  noted : side.found = true → cursor.notes.k < 4 →
    ∀ column, cursor.x + top.dx < column → column ≤ cursor.x + side.i → column < 240 →
      cursor.notes.insideLeftToRight column y = true ∨
      topPixel settings image y column = false ∨
      (tracedLeftToRight settings image column y = none ∧
        column + (tracedTopLeftToRight settings image column y).dx < 240 ∧
        column + (tracedTopLeftToRight settings image column y).dx ≤ cursor.x + side.i)
  rejected : side.found = false →
    ∀ column, cursor.x + side.i < column → column ≤ cursor.x + top.dx →
      cursor.notes.insideLeftToRight column y = true ∨
      topPixel settings image y column = false ∨
      (tracedLeftToRight settings image column y = none ∧
        (traceLeftToRight settings image y ⟨column, cursor.notes⟩).x ≤ cursor.x + top.dx)

/-- In every state of the row, a top line that is found is aligned. -/
def RowAligned (y : Int) (notes : Notes) : Prop :=
  ∀ cursor ∈ (rowLeftToRight settings image y).states ⟨0, notes⟩, cursor.x < 240 →
    FindsEdge settings image y cursor →
    Aligned settings image y cursor (tracedTopLeftToRight settings image cursor.x y)
      (tracedSideLeftToRight settings image cursor.x y
        (tracedTopLeftToRight settings image cursor.x y))

end Alignment

/-! ## One row -/

section Rows

variable {settings : Settings} {picture mirrored : Int → Int → Bool}
  {image other : Int → UInt16} {x y : Int} {initial notes others : Notes}

/-- Corresponding states of the scans of a row: the state from left to right is one of
the scan that started with the initial notes. -/
structure RowMirrored (settings : Settings) (image : Int → UInt16) (y : Int) (initial : Notes)
    (cursor others : Cursor) : Prop where
  nonneg : 0 ≤ cursor.x
  x_eq : others.x = 239 - cursor.x
  notes : cursor.notes.Mirrored others.notes
  member : cursor ∈ (rowLeftToRight settings image y).states ⟨0, initial⟩

/-- From corresponding states both scans get to corresponding states further on. -/
def RowProgress (settings : Settings) (image other : Int → UInt16) (y : Int) (initial : Notes)
    (cursor others : Cursor) : Prop :=
  ∃ next later, RowMirrored settings image y initial next later ∧ cursor.x < next.x ∧
    ((rowRightToLeft settings other y).run others).notes =
      ((rowRightToLeft settings other y).run later).notes

theorem mem_visitLeftToRight {cursor start : Cursor}
    (member : cursor ∈ (rowLeftToRight settings image y).states start)
    (inRow : cursor.x < 240) :
    visitLeftToRight settings image y cursor ∈ (rowLeftToRight settings image y).states start :=
  Loop.mem_states_step member (if_pos inRow)

theorem rowRightToLeft_visit {cursor : Cursor} (inRow : cursor.x ≥ 0) :
    (rowRightToLeft settings image y).run cursor =
      (rowRightToLeft settings image y).run (visitRightToLeft settings image y cursor) :=
  Loop.run_of_some (if_pos inRow)

/-- Neither scan stops at a pixel that is passed over. -/
theorem MirrorImage.progress_skip (mirror : MirrorImage picture mirrored)
    (shows : Shows image picture) (otherShows : Shows other mirrored)
    (related : notes.Mirrored others) (nonneg : 0 ≤ x) (inRow : x < 240)
    (member : ⟨x, notes⟩ ∈ (rowLeftToRight settings image y).states ⟨0, initial⟩)
    (skipped : notes.insideLeftToRight x y = true ∨ topPixel settings image y x = false) :
    RowProgress settings image other y initial ⟨x, notes⟩ ⟨239 - x, others⟩ := by
  have visited := mem_visitLeftToRight member inRow
  rw [visitLeftToRight_skip skipped] at visited
  have otherSkipped : others.insideRightToLeft (239 - x) y = true ∨
      topPixel settings other y (239 - x) = false := by
    rw [related.inside_eq, mirror.topPixel_eq shows otherShows ⟨nonneg, inRow⟩]
    exact skipped
  refine ⟨⟨x + 1, notes⟩, ⟨239 - x - 1, others⟩, ⟨?_, ?_, related, visited⟩, ?_, ?_⟩
  · simp only
    omega
  · simp only
    ring
  · simp only
    omega
  · rw [rowRightToLeft_visit (show (239 - x : Int) ≥ 0 by omega),
      visitRightToLeft_skip otherSkipped]

/-- A top line that is too short is passed over by both scans. -/
theorem MirrorImage.progress_short (mirror : MirrorImage picture mirrored)
    (shows : Shows image picture) (otherShows : Shows other mirrored) (valid : settings.Valid)
    (related : notes.Mirrored others) (nonneg : 0 ≤ x) (inRow : x < 240)
    (member : ⟨x, notes⟩ ∈ (rowLeftToRight settings image y).states ⟨0, initial⟩)
    (outside : notes.insideLeftToRight x y = false)
    (start : topPixel settings image y x = true)
    (short : (tracedTopLeftToRight settings image x y).found = false) :
    RowProgress settings image other y initial ⟨x, notes⟩ ⟨239 - x, others⟩ := by
  have traced := edgeTraced valid inRow start
  have length := traced.i_eq
  have positive := traced.dx_pos
  have none : tracedLeftToRight settings image x y = none := by
    simp only [tracedLeftToRight, short, Bool.false_and, Bool.false_eq_true, if_false]
  have visited := mem_visitLeftToRight member inRow
  rw [visitLeftToRight_start outside start, traceLeftToRight_short short, none] at visited
  have otherOutside := outside
  rw [← related.inside_eq] at otherOutside
  have otherStart := start
  rw [← mirror.topPixel_eq shows otherShows ⟨nonneg, inRow⟩] at otherStart
  have mirrors : (tracedTopLeftToRight settings image x y).Mirrors x
      (tracedTopRightToLeft settings other (239 - x) y) :=
    mirror.tracedTop_mirrors shows otherShows nonneg inRow
  have otherShort : (tracedTopRightToLeft settings other (239 - x) y).found = false := by
    rcases mirrors with same | ⟨_, _, found⟩
    · rw [same]
      exact short
    · rw [← Bool.not_eq_true]
      intro otherFound
      rw [found otherFound] at short
      cases short
  have otherNone : tracedRightToLeft settings other (239 - x) y = Option.none := by
    simp only [tracedRightToLeft, otherShort, Bool.false_and, Bool.false_eq_true, if_false]
  refine ⟨_, ⟨239 - (x + (tracedTopLeftToRight settings image x y).i + 1), others⟩,
    ⟨?_, rfl, related, visited⟩, ?_, ?_⟩
  · simp only
    omega
  · simp only
    omega
  · rw [rowRightToLeft_visit (show (239 - x : Int) ≥ 0 by omega),
      visitRightToLeft_start otherOutside otherStart, otherNone, Option.toList_none,
      List.foldl_nil]
    rcases mirrors with same | ⟨reached, otherLength, _⟩
    · have position : 239 - x + (tracedTopRightToLeft settings other (239 - x) y).dx - 1 =
          239 - (x + (tracedTopLeftToRight settings image x y).i + 1) := by
        rw [same, length]
        simp only [TopLine.mirror]
        ring
      rw [position]
    · -- the line ends in the last column, and both scans are over
      rw [rowRightToLeft_ended (by omega), rowRightToLeft_ended (by omega)]

/-- A visit that notes nothing and leads at most behind a given column. -/
theorem visitLeftToRight_within {last : Int} (below : x ≤ last)
    (within : notes.insideLeftToRight x y = true ∨ topPixel settings image y x = false ∨
      (tracedLeftToRight settings image x y = none ∧
        (traceLeftToRight settings image y ⟨x, notes⟩).x ≤ last)) :
    ∃ next, visitLeftToRight settings image y ⟨x, notes⟩ = ⟨next, notes⟩ ∧
      x < next ∧ next ≤ last + 1 := by
  by_cases skipped : notes.insideLeftToRight x y = true ∨ topPixel settings image y x = false
  · exact ⟨x + 1, visitLeftToRight_skip skipped, by omega, by omega⟩
  · rw [not_or, Bool.not_eq_true, Bool.not_eq_false] at skipped
    rcases within with inside | noTop | ⟨none, bound⟩
    · rw [skipped.1] at inside
      cases inside
    · rw [skipped.2] at noTop
      cases noTop
    · have further := lt_traceLeftToRight_x settings image y ⟨x, notes⟩
      have visited := visitLeftToRight_start skipped.1 skipped.2
      rw [none] at visited
      simp only at further
      exact ⟨_, visited, by omega, by omega⟩

/-- A scan from left to right that notes nothing up to a column comes by the next one. -/
theorem rowLeftToRight_reaches {last : Int} {start : Cursor} (inPicture : last < 240)
    (within : ∀ column, x ≤ column → column ≤ last →
      notes.insideLeftToRight column y = true ∨ topPixel settings image y column = false ∨
      (tracedLeftToRight settings image column y = none ∧
        (traceLeftToRight settings image y ⟨column, notes⟩).x ≤ last))
    (below : x ≤ last + 1)
    (member : ⟨x, notes⟩ ∈ (rowLeftToRight settings image y).states start) :
    ⟨last + 1, notes⟩ ∈ (rowLeftToRight settings image y).states start := by
  induction size : (last + 1 - x).toNat using Nat.strong_induction_on generalizing x with
  | _ size ih =>
      by_cases reached : x = last + 1
      · rw [← reached]
        exact member
      · have inside : x ≤ last := by omega
        rcases visitLeftToRight_within inside (within x (le_refl x) inside) with
          ⟨next, visited, further, bound⟩
        have nextMember := mem_visitLeftToRight member (show x < 240 by omega)
        rw [visited] at nextMember
        exact ih _ (by omega) (fun column above => within column (by omega)) bound nextMember
          rfl

/-- The visit of the mirror image of a pixel whose top line ends before the last
column. -/
theorem MirrorImage.visit_start (mirror : MirrorImage picture mirrored)
    (shows : Shows image picture) (otherShows : Shows other mirrored) (valid : settings.Valid)
    (related : notes.Mirrored others) (nonneg : 0 ≤ x) (inRow : x < 240)
    (outside : notes.insideLeftToRight x y = false)
    (start : topPixel settings image y x = true)
    (ends : x + (tracedTopLeftToRight settings image x y).dx < 240) :
    visitRightToLeft settings other y ⟨239 - x, others⟩ =
      ⟨239 - (x + (tracedTopLeftToRight settings image x y).dx + 1),
        ((tracedLeftToRight settings image x y).map QrCode.mirror).toList.foldl Notes.note
          others⟩ := by
  have traced := edgeTraced valid inRow start
  have top := (mirror.tracedTop_mirrors shows otherShows nonneg inRow).eq_mirror traced.i_eq
    ends
  have noted := mirror.traced_eq shows otherShows valid nonneg inRow traced ends
  rw [← related.inside_eq] at outside
  rw [← mirror.topPixel_eq shows otherShows ⟨nonneg, inRow⟩] at start
  have position : 239 - x + (tracedTopRightToLeft settings other (239 - x) y).dx - 1 =
      239 - (x + (tracedTopLeftToRight settings image x y).dx + 1) := by
    rw [top]
    simp only [TopLine.mirror]
    ring
  rw [visitRightToLeft_start outside start, position, noted]

/-- A scan from right to left that notes nothing up to the mirror image of a column may
start behind it. -/
theorem MirrorImage.rowRightToLeft_reaches (mirror : MirrorImage picture mirrored)
    (shows : Shows image picture) (otherShows : Shows other mirrored) (valid : settings.Valid)
    (related : notes.Mirrored others) {last : Int} (nonneg : 0 ≤ x) (below : x ≤ last + 1)
    (within : ∀ column, x ≤ column → column ≤ last → column < 240 →
      notes.insideLeftToRight column y = true ∨ topPixel settings image y column = false ∨
      (tracedLeftToRight settings image column y = none ∧
        column + (tracedTopLeftToRight settings image column y).dx < 240 ∧
        column + (tracedTopLeftToRight settings image column y).dx ≤ last)) :
    ((rowRightToLeft settings other y).run ⟨239 - x, others⟩).notes =
      ((rowRightToLeft settings other y).run ⟨239 - (last + 1), others⟩).notes := by
  induction size : (last + 1 - x).toNat using Nat.strong_induction_on generalizing x with
  | _ size ih =>
      by_cases reached : x = last + 1
      · rw [reached]
      by_cases inRow : x < 240
      · have continued := @rowRightToLeft_visit settings other y ⟨239 - x, others⟩
          (show (239 - x : Int) ≥ 0 by omega)
        by_cases skipped : notes.insideLeftToRight x y = true ∨
            topPixel settings image y x = false
        · rw [← related.inside_eq, ← mirror.topPixel_eq shows otherShows ⟨nonneg, inRow⟩]
            at skipped
          have next : 239 - x - 1 = 239 - (x + 1) := by ring
          rw [continued, visitRightToLeft_skip skipped, next]
          exact ih _ (by omega) (by omega) (by omega)
            (fun column above => within column (by omega)) rfl
        · rw [not_or, Bool.not_eq_true, Bool.not_eq_false] at skipped
          rcases within x (le_refl x) (by omega) inRow with inside | noTop | ⟨none, ends, bound⟩
          · rw [skipped.1] at inside
            cases inside
          · rw [skipped.2] at noTop
            cases noTop
          · have positive := (edgeTraced valid inRow skipped.2).dx_pos
            rw [continued, mirror.visit_start shows otherShows valid related nonneg inRow
              skipped.1 skipped.2 ends, none, Option.map_none, Option.toList_none,
              List.foldl_nil]
            exact ih _ (by omega) (by omega) (by omega)
              (fun column above => within column (by omega)) rfl
      · rw [rowRightToLeft_ended (by omega), rowRightToLeft_ended (by omega)]

/-- A top line that is rejected. -/
theorem MirrorImage.progress_rejected (mirror : MirrorImage picture mirrored)
    (shows : Shows image picture) (otherShows : Shows other mirrored) (valid : settings.Valid)
    (related : notes.Mirrored others) (nonneg : 0 ≤ x) (inRow : x < 240)
    (member : ⟨x, notes⟩ ∈ (rowLeftToRight settings image y).states ⟨0, initial⟩)
    (finds : FindsEdge settings image y ⟨x, notes⟩)
    (aligned : Aligned settings image y ⟨x, notes⟩ (tracedTopLeftToRight settings image x y)
      (tracedSideLeftToRight settings image x y (tracedTopLeftToRight settings image x y)))
    (tooShort : (tracedSideLeftToRight settings image x y
      (tracedTopLeftToRight settings image x y)).found = false) :
    RowProgress settings image other y initial ⟨x, notes⟩ ⟨239 - x, others⟩ := by
  have outside : notes.insideLeftToRight x y = false := finds.outside
  have start : topPixel settings image y x = true := finds.start
  have found : (tracedTopLeftToRight settings image x y).found = true := finds.found
  have traced := edgeTraced valid inRow start
  have positive := traced.dx_pos
  have ends := aligned.ends
  have rejected := aligned.rejected tooShort
  have none : tracedLeftToRight settings image x y = none := by
    simp only [tracedLeftToRight, tooShort, Bool.and_false, Bool.false_eq_true, if_false]
  -- the side line is shorter than the top line
  have wide : settings.sMinL < (tracedTopLeftToRight settings image x y).dx := by
    simpa [traced.found_eq] using found
  have low : ¬settings.sMinL < (tracedSideLeftToRight settings image x y
      (tracedTopLeftToRight settings image x y)).i := by
    simpa [traced.side_found] using tooShort
  have visited := mem_visitLeftToRight member inRow
  rw [visitLeftToRight_start outside start, traceLeftToRight_found found, none]
    at visited
  simp only at ends rejected
  have behind := rowLeftToRight_reaches ends
    (fun column above => rejected column (by omega)) (by omega) visited
  refine ⟨_, ⟨239 - (x + (tracedTopLeftToRight settings image x y).dx + 1), others⟩,
    ⟨?_, rfl, related, behind⟩, ?_, ?_⟩
  · simp only
    omega
  · simp only
    omega
  · rw [rowRightToLeft_visit (show (239 - x : Int) ≥ 0 by omega),
      mirror.visit_start shows otherShows valid related nonneg inRow outside start ends,
      none, Option.map_none, Option.toList_none, List.foldl_nil]

/-- A top line that is noted. -/
theorem MirrorImage.progress_noted (mirror : MirrorImage picture mirrored)
    (shows : Shows image picture) (otherShows : Shows other mirrored) (valid : settings.Valid)
    (related : notes.Mirrored others) (nonneg : 0 ≤ x) (inRow : x < 240)
    (member : ⟨x, notes⟩ ∈ (rowLeftToRight settings image y).states ⟨0, initial⟩)
    (finds : FindsEdge settings image y ⟨x, notes⟩)
    (aligned : Aligned settings image y ⟨x, notes⟩ (tracedTopLeftToRight settings image x y)
      (tracedSideLeftToRight settings image x y (tracedTopLeftToRight settings image x y)))
    (longEnough : (tracedSideLeftToRight settings image x y
      (tracedTopLeftToRight settings image x y)).found = true) :
    ((rowLeftToRight settings image y).run ⟨x, notes⟩).notes.Mirrored
        ((rowRightToLeft settings other y).run ⟨239 - x, others⟩).notes ∨
      RowProgress settings image other y initial ⟨x, notes⟩ ⟨239 - x, others⟩ := by
  have outside : notes.insideLeftToRight x y = false := finds.outside
  have start : topPixel settings image y x = true := finds.start
  have found : (tracedTopLeftToRight settings image x y).found = true := finds.found
  have traced := edgeTraced valid inRow start
  have positive := traced.dx_pos
  have sidePositive := traced.side_pos
  have dropped := traced.j_nonneg
  have dy_eq := traced.dy_eq
  have ends := aligned.ends
  have room := finds.room
  simp only at ends room
  obtain ⟨code, code_eq⟩ : ∃ code, code = corners false x y
      (tracedTopLeftToRight settings image x y)
      (tracedSideLeftToRight settings image x y (tracedTopLeftToRight settings image x y)).dy
      (tracedTopLeftToRight settings image x y).dx := ⟨_, rfl⟩
  have noted : tracedLeftToRight settings image x y = some code := by
    simp only [tracedLeftToRight, found, longEnough, Bool.and_self, if_true, code_eq]
  have occupied : code.o = true := by rw [code_eq]; rfl
  have afterwards := related.note occupied
  have visit := visitLeftToRight_start outside start
  rw [traceLeftToRight_found found, noted, Option.toList_some, List.foldl_cons,
    List.foldl_nil] at visit
  have visited := mem_visitLeftToRight member inRow
  rw [visit] at visited
  have otherVisit := mirror.visit_start shows otherShows valid related nonneg inRow
    outside start ends
  rw [noted, Option.map_some, Option.toList_some, List.foldl_cons, List.foldl_nil] at otherVisit
  have continued := @rowRightToLeft_visit settings other y ⟨239 - x, others⟩
    (show (239 - x : Int) ≥ 0 by omega)
  rw [otherVisit] at continued
  by_cases full : ¬(notes.note code).k < 5
  · left
    have otherFull : ¬(others.note code.mirror).k < 5 := by
      rw [afterwards.k_eq]
      exact full
    rw [Loop.run_of_mem_states member, ← Loop.run_of_mem_states visited,
      rowLeftToRight_full full, continued, rowRightToLeft_full otherFull]
    exact afterwards
  · right
    rw [not_not] at full
    have roomLeft : notes.k < 4 := by
      simp only [Notes.note, dif_pos room] at full
      omega
    have inside := related.wellFormed.inside_note room occupied
    by_cases early : (tracedSideLeftToRight settings image x y
        (tracedTopLeftToRight settings image x y)).i ≤
        (tracedTopLeftToRight settings image x y).dx
    · -- the scan from left to right goes on inside the new area
      have behind := rowLeftToRight_reaches ends
        (fun column above below => Or.inl (by
          rw [inside, Bool.or_eq_true]
          right
          simp only [code_eq, corners]
          apply decide_eq_true
          omega)) (by omega) visited
      refine ⟨_, ⟨239 - (x + (tracedTopLeftToRight settings image x y).dx + 1),
        others.note code.mirror⟩, ⟨?_, rfl, afterwards, behind⟩, ?_, by rw [continued]⟩
      · simp only
        omega
      · simp only
        omega
    · -- it jumps over columns behind the new area
      refine ⟨_, ⟨239 - (x + (tracedSideLeftToRight settings image x y
        (tracedTopLeftToRight settings image x y)).i + 1), others.note code.mirror⟩,
        ⟨?_, rfl, afterwards, visited⟩, ?_, ?_⟩
      · simp only
        omega
      · simp only
        omega
      · rw [continued]
        apply mirror.rowRightToLeft_reaches shows otherShows valid afterwards (by omega)
          (by omega)
        intro column above below inPicture
        rcases aligned.noted longEnough roomLeft column (by simp only; omega)
          (by simp only; omega) inPicture with covered | rest
        · left
          rw [inside, Bool.or_eq_true]
          exact Or.inl covered
        · exact Or.inr rest

/-- From corresponding states, the scans end with mirror images or get to corresponding
states further on. -/
theorem MirrorImage.progress (mirror : MirrorImage picture mirrored)
    (shows : Shows image picture) (otherShows : Shows other mirrored) (valid : settings.Valid)
    (aligned : RowAligned settings image y initial) (related : notes.Mirrored others)
    (nonneg : 0 ≤ x)
    (member : ⟨x, notes⟩ ∈ (rowLeftToRight settings image y).states ⟨0, initial⟩) :
    ((rowLeftToRight settings image y).run ⟨x, notes⟩).notes.Mirrored
        ((rowRightToLeft settings other y).run ⟨239 - x, others⟩).notes ∨
      RowProgress settings image other y initial ⟨x, notes⟩ ⟨239 - x, others⟩ := by
  by_cases inRow : x < 240
  · by_cases skipped : notes.insideLeftToRight x y = true ∨ topPixel settings image y x = false
    · exact Or.inr (mirror.progress_skip shows otherShows related nonneg inRow member skipped)
    · rw [not_or, Bool.not_eq_true, Bool.not_eq_false] at skipped
      cases found : (tracedTopLeftToRight settings image x y).found with
      | false =>
          exact Or.inr (mirror.progress_short shows otherShows valid related nonneg inRow member
            skipped.1 skipped.2 found)
      | true =>
          by_cases room : notes.k < 5
          · have finds : FindsEdge settings image y ⟨x, notes⟩ :=
              ⟨room, skipped.1, skipped.2, found⟩
            have edge := aligned ⟨x, notes⟩ member inRow finds
            cases long : (tracedSideLeftToRight settings image x y
                (tracedTopLeftToRight settings image x y)).found with
            | false =>
                exact Or.inr (mirror.progress_rejected shows otherShows valid related nonneg
                  inRow member finds edge long)
            | true =>
                exact mirror.progress_noted shows otherShows valid related nonneg inRow member
                  finds edge long
          · left
            have otherFull : ¬others.k < 5 := by
              rw [related.k_eq]
              exact room
            rw [rowLeftToRight_full room, rowRightToLeft_full otherFull]
            exact related
  · left
    have ended : (rowLeftToRight settings image y).body ⟨x, notes⟩ = none := if_neg inRow
    rw [Loop.run_of_none ended, rowRightToLeft_ended (by omega)]
    exact related

theorem MirrorImage.scanRow_mirrored (mirror : MirrorImage picture mirrored)
    (shows : Shows image picture) (otherShows : Shows other mirrored) (valid : settings.Valid)
    (aligned : RowAligned settings image y notes) (related : notes.Mirrored others) :
    (scanRowLeftToRight settings image y notes).Mirrored
      (scanRowRightToLeft settings other y others) := by
  have initially : RowMirrored settings image y notes ⟨0, notes⟩ ⟨239, others⟩ :=
    ⟨le_refl 0, rfl, related, Loop.mem_states_self _ _⟩
  rw [scanRowLeftToRight, scanRowRightToLeft]
  refine Loop.run_simulated (RowMirrored settings image y notes)
    (fun cursor others : Cursor => cursor.notes.Mirrored others.notes) ?_ initially
  rintro ⟨x, current⟩ ⟨otherX, otherCurrent⟩ ⟨nonneg, x_eq, kept, member⟩
  simp only at nonneg x_eq kept
  subst x_eq
  rcases mirror.progress shows otherShows valid aligned kept nonneg member with
    finished | ⟨next, later, corresponding, further, same⟩
  · exact Or.inl finished
  by_cases inRow : x < 240
  · refine Or.inr ⟨next, later, corresponding, ?_, ?_⟩
    · simp only [rowLeftToRight]
      simp only at further
      omega
    · rw [Loop.run_of_mem_states member, Loop.run_of_mem_states corresponding.member, same]
      exact id
  · left
    have ended : (rowLeftToRight settings image y).body ⟨x, current⟩ = none := if_neg inRow
    rw [Loop.run_of_none ended, rowRightToLeft_ended (by omega)]
    exact kept

end Rows

end ECam.QrPosing
