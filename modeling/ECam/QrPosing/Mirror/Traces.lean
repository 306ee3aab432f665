import ECam.QrPosing.Soundness

/-!
# Traces in the mirrored picture

The traces of the pass from right to left are mirror images of those of the pass from
left to right, except that its top line loop never looks at the last column of its way.
-/

namespace ECam.QrPosing

open ECam.Library

/-- One picture is the mirror image of the other one. -/
def MirrorImage (picture mirrored : Int → Int → Bool) : Prop :=
  ∀ row column, mirrored row (239 - column) = picture row column

section Traces

variable {settings : Settings} {picture mirrored : Int → Int → Bool}
  {image other : Int → UInt16}

/-! ## Pixels -/

theorem MirrorImage.white_eq (mirror : MirrorImage picture mirrored)
    (shows : Shows image picture) (otherShows : Shows other mirrored) {row column : Int}
    (inRow : 0 ≤ column ∧ column < 240) :
    white other row (239 - column) = white image row column := by
  rw [shows row column inRow.1 inRow.2, otherShows row _ (by omega) (by omega), mirror]

theorem MirrorImage.topPixel_eq (mirror : MirrorImage picture mirrored)
    (shows : Shows image picture) (otherShows : Shows other mirrored) {row column : Int}
    (inRow : 0 ≤ column ∧ column < 240) :
    topPixel settings other row (239 - column) = topPixel settings image row column := by
  rw [topPixel, topPixel, mirror.white_eq shows otherShows inRow,
    mirror.white_eq shows otherShows inRow]

/-! ## Top lines -/

/-- The top line in the mirrored picture. -/
def TopLine.mirror (line : TopLine) : TopLine where
  i := -line.i
  j := line.j
  dx := -line.dx
  found := line.found

theorem MirrorImage.extend_eq (mirror : MirrorImage picture mirrored)
    (shows : Shows image picture) (otherShows : Shows other mirrored) {x y : Int}
    {line : TopLine} (inRow : 0 ≤ x + line.i ∧ x + line.i < 240) :
    line.mirror.extend settings other (-1) (fun dx => dx < -settings.sMinL) (239 - x) y =
      (line.extend settings image 1 (fun dx => dx > settings.sMinL) x y).map
        TopLine.mirror := by
  have column : 239 - x + -line.i = 239 - (x + line.i) := by ring
  have longer : -line.dx + -1 = -(line.dx + 1) := by ring
  have further : -line.i + -1 = -(line.i + 1) := by ring
  simp only [TopLine.extend, TopLine.mirror, column, longer, further, neg_lt_neg_iff, gt_iff_lt,
    mirror.topPixel_eq shows otherShows inRow]
  split
  next => rfl
  next =>
    split
    next => rfl
    next => rfl

/-- The two traces of a top line.  They agree unless the line reaches the last column of
the picture, where the trace in the mirrored picture is one column short. -/
def TopLine.Mirrors (x : Int) (line others : TopLine) : Prop :=
  others = line.mirror ∨
    (line.i = 240 - x ∧ others.dx = -(239 - x) ∧ (others.found = true → line.found = true))

theorem MirrorImage.tracedTop_mirrors (mirror : MirrorImage picture mirrored)
    (shows : Shows image picture) (otherShows : Shows other mirrored) {x y : Int}
    (nonneg : 0 ≤ x) (inRow : x < 240) :
    (tracedTopLeftToRight settings image x y).Mirrors x
      (tracedTopRightToLeft settings other (239 - x) y) := by
  have initially : (⟨-1, 0, -1, false⟩ : TopLine) =
      (⟨1, 0, 1, false⟩ : TopLine).mirror ∧ (1 : Int) = 1 ∧ (1 : Int) ≤ 1 := by
    exact ⟨rfl, rfl, le_refl 1⟩
  refine Loop.run_stepwise
    (fun line others : TopLine => others = line.mirror ∧ line.i = line.dx ∧ 1 ≤ line.i)
    (TopLine.Mirrors x) ?_ initially
  rintro line others ⟨rfl, length, positive⟩
  by_cases before : line.i < 239 - x
  · -- neither loop has reached its bound
    have extended : line.mirror.extend settings other (-1) (fun dx => dx < -settings.sMinL)
        (239 - x) y = (line.extend settings image 1 (fun dx => dx > settings.sMinL) x y).map
          TopLine.mirror :=
      mirror.extend_eq shows otherShows (by omega)
    have body : (topLineLeftToRight settings image x y).body line =
        line.extend settings image 1 (fun dx => dx > settings.sMinL) x y :=
      if_pos (by omega)
    have otherBody : (topLineRightToLeft settings other (239 - x) y).body line.mirror =
        line.mirror.extend settings other (-1) (fun dx => dx < -settings.sMinL) (239 - x) y :=
      if_pos (show -line.i > 0 - (239 - x) by omega)
    rw [extended] at otherBody
    cases result : line.extend settings image 1 (fun dx => dx > settings.sMinL) x y with
    | none =>
        rw [result] at body otherBody
        rw [Loop.run_of_none body, Loop.run_of_none otherBody]
        exact Or.inl (Or.inl rfl)
    | some next =>
        rw [result] at body otherBody
        have step := TopLine.extend_some result
        exact Or.inr ⟨next, next.mirror, body, otherBody, rfl, by omega, by omega⟩
  · -- the mirrored loop is left here
    have otherBody : (topLineRightToLeft settings other (239 - x) y).body line.mirror = none :=
      if_neg (show ¬-line.i > 0 - (239 - x) by omega)
    left
    rw [Loop.run_of_none otherBody]
    cases result : (topLineLeftToRight settings image x y).body line with
    | none =>
        rw [Loop.run_of_none result]
        exact Or.inl rfl
    | some next =>
        have continued := result
        simp only [topLineLeftToRight] at continued
        split at continued
        next below =>
          have step := TopLine.extend_some continued
          have ended : (topLineLeftToRight settings image x y).body next = none :=
            if_neg (by omega)
          rw [Loop.run_of_some result, Loop.run_of_none ended]
          refine Or.inr ⟨by omega, ?_, ?_⟩
          · simp only [TopLine.mirror]
            omega
          · intro found
            rw [step.2.2.1, Bool.or_eq_true]
            exact Or.inl found
        next => cases continued

/-- A top line that ends before the last column is traced alike. -/
theorem TopLine.Mirrors.eq_mirror {x : Int} {line others : TopLine}
    (mirrors : line.Mirrors x others) (length : line.i = line.dx) (ends : x + line.dx < 240) :
    others = line.mirror := by
  rcases mirrors with same | ⟨reached, _⟩
  · exact same
  · omega

/-! ## Side lines -/

theorem MirrorImage.sideLine_eq (mirror : MirrorImage picture mirrored)
    (shows : Shows image picture) (otherShows : Shows other mirrored) {column : Int}
    (inRow : 0 ≤ column ∧ column < 240) (y j : Int) (start : SideLine) :
    (sideLine settings other (239 - column) y j).run start =
      (sideLine settings image column y j).run start := by
  have together : ∀ left right : SideLine, left = right →
      ((sideLine settings other (239 - column) y j).body left = none ∧
        (sideLine settings image column y j).body right = none) ∨
      ∃ next later, (sideLine settings other (239 - column) y j).body left = some next ∧
        (sideLine settings image column y j).body right = some later ∧ next = later := by
    rintro line _ rfl
    have sameBody : (sideLine settings other (239 - column) y j).body line =
        (sideLine settings image column y j).body line := by
      simp only [sideLine, mirror.white_eq shows otherShows inRow]
    rw [sameBody]
    cases continued : (sideLine settings image column y j).body line with
    | none => exact Or.inl ⟨rfl, rfl⟩
    | some next => exact Or.inr ⟨next, next, rfl, rfl, rfl⟩
  exact Loop.run_related together rfl

/-! ## Traces -/

/-- The lengths and flags of a top line and of the side line below it. -/
structure EdgeTraced (settings : Settings) (x : Int) (top : TopLine) (side : SideLine) :
    Prop where
  i_eq : top.i = top.dx
  dx_pos : 1 ≤ top.dx
  dx_le : x + top.dx ≤ 240
  j_nonneg : 0 ≤ top.j
  found_eq : top.found = decide (settings.sMinL < top.dx)
  side_pos : 1 ≤ side.i
  dy_eq : side.dy = side.i
  side_found : side.found = decide (settings.sMinL < side.i)

theorem edgeTraced (valid : settings.Valid) {x y : Int} (inRow : x < 240)
    (start : topPixel settings image y x = true) :
    EdgeTraced settings x (tracedTopLeftToRight settings image x y)
      (tracedSideLeftToRight settings image x y (tracedTopLeftToRight settings image x y)) := by
  rcases tracedTopLeftToRight_traced valid.minL_pos inRow start with
    ⟨row, columns, traced, bound⟩
  rcases @sideLine_traced settings image
    (x + (tracedTopLeftToRight settings image x y).dx - settings.sStepback) y
    (tracedTopLeftToRight settings image x y).j valid.minL_pos with ⟨count, below⟩
  have pos := traced.columns_pos
  have i_eq := traced.i_eq
  have dx_eq := traced.dx_eq
  have dropped := traced.drop_nonneg
  have countPos := below.count_pos
  have side_i := below.i_eq
  rw [one_mul] at i_eq dx_eq
  constructor
  · rw [i_eq, dx_eq]
  · omega
  · omega
  · omega
  · rw [traced.found_eq, dx_eq]
  · rw [tracedSideLeftToRight]
    omega
  · rw [tracedSideLeftToRight, below.dy_eq, side_i]
  · rw [tracedSideLeftToRight, below.found_eq, side_i]

/-- An entry of the mirrored picture. -/
def QrCode.mirror (code : QrCode) : QrCode where
  o := code.o
  f := true
  x0 := 239 - code.x0
  y0 := code.y0
  x1 := 239 - code.x1
  y1 := code.y1
  x2 := 239 - code.x2
  y2 := code.y2
  x3 := 239 - code.x3
  y3 := code.y3
  dx := code.dx

theorem corners_mirror (x y : Int) (top : TopLine) (dy : Int) :
    corners true (239 - x) y top.mirror dy (-top.mirror.dx) =
      (corners false x y top dy top.dx).mirror := by
  simp only [corners, QrCode.mirror, TopLine.mirror, neg_neg]
  congr 1 <;> ring

/-- Below a top line that ends before the last column, the side lines are the same. -/
theorem MirrorImage.tracedSide_eq (mirror : MirrorImage picture mirrored)
    (shows : Shows image picture) (otherShows : Shows other mirrored) (valid : settings.Valid)
    {x y : Int} {side : SideLine} (nonneg : 0 ≤ x)
    (traced : EdgeTraced settings x (tracedTopLeftToRight settings image x y) side)
    (found : (tracedTopLeftToRight settings image x y).found = true) :
    tracedSideRightToLeft settings other (239 - x) y
        (tracedTopLeftToRight settings image x y).mirror =
      tracedSideLeftToRight settings image x y (tracedTopLeftToRight settings image x y) := by
  have stepback := valid.stepback_pos
  have stepbackLe := valid.stepback_le
  have bound := traced.dx_le
  have wide : settings.sMinL < (tracedTopLeftToRight settings image x y).dx := by
    simpa [traced.found_eq] using found
  have column : 239 - x + (tracedTopLeftToRight settings image x y).mirror.dx +
      settings.sStepback =
      239 - (x + (tracedTopLeftToRight settings image x y).dx - settings.sStepback) := by
    simp only [TopLine.mirror]
    ring
  rw [tracedSideRightToLeft, tracedSideLeftToRight, column]
  exact mirror.sideLine_eq shows otherShows (by omega) y _ _

/-- The mirror image of an edge that ends before the last column is noted alike. -/
theorem MirrorImage.traced_eq (mirror : MirrorImage picture mirrored)
    (shows : Shows image picture) (otherShows : Shows other mirrored) (valid : settings.Valid)
    {x y : Int} {side : SideLine} (nonneg : 0 ≤ x) (inRow : x < 240)
    (traced : EdgeTraced settings x (tracedTopLeftToRight settings image x y) side)
    (ends : x + (tracedTopLeftToRight settings image x y).dx < 240) :
    tracedRightToLeft settings other (239 - x) y =
      (tracedLeftToRight settings image x y).map QrCode.mirror := by
  have top := (mirror.tracedTop_mirrors shows otherShows nonneg inRow).eq_mirror traced.i_eq
    ends
  simp only [tracedRightToLeft, tracedLeftToRight, top]
  cases found : (tracedTopLeftToRight settings image x y).found with
  | false => simp [TopLine.mirror, found]
  | true =>
      have sameFound : (tracedTopLeftToRight settings image x y).mirror.found = true := found
      rw [mirror.tracedSide_eq shows otherShows valid nonneg traced found, sameFound,
        Bool.true_and]
      split
      next => rw [Option.map_some, corners_mirror]
      next => rfl

/-! ## Notes -/

/-- The entries in use of one buffer are the mirror images of those of the other one. -/
structure Notes.Mirrored (notes others : Notes) : Prop where
  wellFormed : notes.WellFormed
  otherWellFormed : others.WellFormed
  entries : others.entries = notes.entries.map QrCode.mirror

namespace Notes.Mirrored

variable {notes others : Notes}

theorem k_eq (related : notes.Mirrored others) : others.k = notes.k := by
  rw [← related.wellFormed.length_entries, ← related.otherWellFormed.length_entries,
    related.entries, List.length_map]

theorem filter_occupied (related : notes.Mirrored others) :
    others.l1.toList.filter QrCode.o = (notes.l1.toList.filter QrCode.o).map QrCode.mirror := by
  rw [related.wellFormed.filter_occupied, related.otherWellFormed.filter_occupied,
    related.entries]

theorem note (related : notes.Mirrored others) {code : QrCode} (occupied : code.o = true) :
    (notes.note code).Mirrored (others.note code.mirror) where
  wellFormed := related.wellFormed.note occupied
  otherWellFormed := related.otherWellFormed.note occupied
  entries := by
    rw [related.wellFormed.entries_note, related.otherWellFormed.entries_note, related.entries,
      List.map_take, List.map_append, List.map_singleton]

/-- The tests of the two passes for noted areas are mirror images. -/
theorem inside_eq (related : notes.Mirrored others) (x y : Int) :
    others.insideRightToLeft (239 - x) y = notes.insideLeftToRight x y := by
  rw [Notes.insideLeftToRight, Notes.insideRightToLeft, related.wellFormed.any_occupied,
    related.otherWellFormed.any_occupied, related.entries, List.any_map]
  congr 1
  funext code
  simp only [Function.comp_apply, QrCode.mirror, if_true, ge_iff_le, sub_le_sub_iff_left]

end Notes.Mirrored

/-! ## Visits -/

theorem rowRightToLeft_ended {y x : Int} {notes : Notes} (ended : x < 0) :
    ((rowRightToLeft settings image y).run ⟨x, notes⟩).notes = notes := by
  apply rowRightToLeft_quiet
  intro column _ _
  omega

end Traces

end ECam.QrPosing
