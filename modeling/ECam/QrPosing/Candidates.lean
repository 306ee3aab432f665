import ECam.QrPosing.Trace
import ECam.QrPosing.Buffer

/-!
# Candidates and the buffer of notes

A visited pixel whose top line and side line are both long enough is a candidate.  A
pass is described by the pixels it visits and the candidates among them: the buffer
holds the first five candidates of both passes, in order, and the widest of these is
reported.
-/

namespace ECam.QrPosing

open ECam.Library

/-! ## Candidates -/

section Candidates

variable (settings : Settings) (image : Int → UInt16)

/-- The entry for a pixel whose top line and side line from left to right are both
long enough. -/
def tracedLeftToRight (x y : Int) : Option QrCode :=
  let top := tracedTopLeftToRight settings image x y
  let side := tracedSideLeftToRight settings image x y top
  if top.found && side.found then some (corners false x y top side.dy top.dx) else none

/-- The entry for a pixel whose top line and side line from right to left are both
long enough. -/
def tracedRightToLeft (x y : Int) : Option QrCode :=
  let top := tracedTopRightToLeft settings image x y
  let side := tracedSideRightToLeft settings image x y top
  if top.found && side.found then some (corners true x y top side.dy (-top.dx)) else none

/-- What a visit from left to right notes if there is room. -/
def candidateLeftToRight (y : Int) (cursor : Cursor) : Option QrCode :=
  if !cursor.notes.insideLeftToRight cursor.x y && topPixel settings image y cursor.x then
    tracedLeftToRight settings image cursor.x y
  else
    none

/-- What a visit from right to left notes if there is room. -/
def candidateRightToLeft (y : Int) (cursor : Cursor) : Option QrCode :=
  if !cursor.notes.insideRightToLeft cursor.x y && topPixel settings image y cursor.x then
    tracedRightToLeft settings image cursor.x y
  else
    none

theorem visitLeftToRight_notes (y : Int) (cursor : Cursor) :
    (visitLeftToRight settings image y cursor).notes =
      (candidateLeftToRight settings image y cursor).toList.foldl Notes.note cursor.notes := by
  simp only [visitLeftToRight, candidateLeftToRight]
  split
  next =>
    simp only [traceLeftToRight, tracedLeftToRight]
    split
    next topFound =>
      simp only [topFound, Bool.true_and]
      split <;> rfl
    next topShort =>
      rw [Bool.not_eq_true] at topShort
      simp [topShort]
  next => rfl

theorem visitRightToLeft_notes (y : Int) (cursor : Cursor) :
    (visitRightToLeft settings image y cursor).notes =
      (candidateRightToLeft settings image y cursor).toList.foldl Notes.note cursor.notes := by
  simp only [visitRightToLeft, candidateRightToLeft]
  split
  next =>
    simp only [traceRightToLeft, tracedRightToLeft]
    split
    next topFound =>
      simp only [topFound, Bool.true_and]
      split <;> rfl
    next topShort =>
      rw [Bool.not_eq_true] at topShort
      simp [topShort]
  next => rfl

/-- The candidates among the pixels that the scan of a row visits, from left to right. -/
def rowCandidatesLeftToRight (y : Int) (cursor : Cursor) : List QrCode :=
  ((rowLeftToRight settings image y).states cursor).flatMap fun visited =>
    if visited.x < 240 then (candidateLeftToRight settings image y visited).toList else []

/-- The candidates among the pixels that the scan of a row visits, from right to left. -/
def rowCandidatesRightToLeft (y : Int) (cursor : Cursor) : List QrCode :=
  ((rowRightToLeft settings image y).states cursor).flatMap fun visited =>
    if visited.x ≥ 0 then (candidateRightToLeft settings image y visited).toList else []

theorem rowLeftToRight_notes (y : Int) (cursor : Cursor) :
    ((rowLeftToRight settings image y).run cursor).notes =
      (rowCandidatesLeftToRight settings image y cursor).foldl Notes.note cursor.notes := by
  apply Loop.run_emitted
  · intro visited next continued
    simp only [rowLeftToRight] at continued
    split at continued
    next inRow =>
      cases continued
      rw [if_pos inRow]
      exact visitLeftToRight_notes settings image y visited
    next => cases continued
  · intro visited left
    simp only [rowLeftToRight] at left
    split at left
    next => cases left
    next outside => rw [if_neg outside]

theorem rowRightToLeft_notes (y : Int) (cursor : Cursor) :
    ((rowRightToLeft settings image y).run cursor).notes =
      (rowCandidatesRightToLeft settings image y cursor).foldl Notes.note cursor.notes := by
  apply Loop.run_emitted
  · intro visited next continued
    simp only [rowRightToLeft] at continued
    split at continued
    next inRow =>
      cases continued
      rw [if_pos inRow]
      exact visitRightToLeft_notes settings image y visited
    next => cases continued
  · intro visited left
    simp only [rowRightToLeft] at left
    split at left
    next => cases left
    next outside => rw [if_neg outside]

/-- The candidates of the rows of a pass, given those of a row. -/
def rowsCandidates (row : Int → Notes → Notes) (rowCandidates : Int → Notes → List QrCode)
    (cursor : RowCursor) : List QrCode :=
  ((rows row).states cursor).flatMap fun visited =>
    if visited.y < 240 then rowCandidates visited.y visited.notes else []

theorem rows_notes {row : Int → Notes → Notes} {rowCandidates : Int → Notes → List QrCode}
    (rowNotes : ∀ y notes, row y notes = (rowCandidates y notes).foldl Notes.note notes)
    (cursor : RowCursor) :
    ((rows row).run cursor).notes =
      (rowsCandidates row rowCandidates cursor).foldl Notes.note cursor.notes := by
  apply Loop.run_emitted
  · intro visited next continued
    simp only [rows] at continued
    split at continued
    next inRange =>
      cases continued
      rw [if_pos inRange]
      exact rowNotes visited.y visited.notes
    next => cases continued
  · intro visited left
    simp only [rows] at left
    split at left
    next => cases left
    next outside => rw [if_neg outside]

/-- The candidates of the pass from left to right, in order. -/
def candidatesLeftToRight (notes : Notes) : List QrCode :=
  rowsCandidates (scanRowLeftToRight settings image)
    (fun y notes => rowCandidatesLeftToRight settings image y ⟨0, notes⟩) ⟨1, notes⟩

/-- The candidates of the pass from right to left, in order. -/
def candidatesRightToLeft (notes : Notes) : List QrCode :=
  rowsCandidates (scanRowRightToLeft settings image)
    (fun y notes => rowCandidatesRightToLeft settings image y ⟨239, notes⟩) ⟨1, notes⟩

theorem passLeftToRight_notes (notes : Notes) :
    passLeftToRight settings image notes =
      (candidatesLeftToRight settings image notes).foldl Notes.note notes := by
  rw [passLeftToRight, candidatesLeftToRight]
  apply rows_notes
  intro y notes
  rw [scanRowLeftToRight, rowLeftToRight_notes]

theorem passRightToLeft_notes (notes : Notes) :
    passRightToLeft settings image notes =
      (candidatesRightToLeft settings image notes).foldl Notes.note notes := by
  rw [passRightToLeft, candidatesRightToLeft]
  apply rows_notes
  intro y notes
  rw [scanRowRightToLeft, rowRightToLeft_notes]

/-! ## What every visit keeps -/

theorem scanRowLeftToRight_invariant (property : Notes → Prop) {y : Int}
    (kept : ∀ x notes, 0 ≤ x → x < 240 → property notes →
      property (visitLeftToRight settings image y ⟨x, notes⟩).notes)
    {notes : Notes} (initially : property notes) :
    property (scanRowLeftToRight settings image y notes) := by
  have step : ∀ cursor next : Cursor, 0 ≤ cursor.x ∧ property cursor.notes →
      (rowLeftToRight settings image y).body cursor = some next →
      0 ≤ next.x ∧ property next.notes := by
    rintro ⟨x, current⟩ next ⟨nonneg, holds⟩ continued
    simp only [rowLeftToRight] at continued
    split at continued
    next inRow =>
      cases continued
      have moved := lt_visitLeftToRight_x settings image y ⟨x, current⟩
      refine ⟨?_, kept x current nonneg inRow holds⟩
      simp only at nonneg moved
      omega
    next => cases continued
  have start : 0 ≤ (⟨0, notes⟩ : Cursor).x ∧ property (⟨0, notes⟩ : Cursor).notes :=
    ⟨le_refl 0, initially⟩
  exact (Loop.run_invariant step start).2

theorem scanRowRightToLeft_invariant (property : Notes → Prop) {y : Int}
    (kept : ∀ x notes, 0 ≤ x → x < 240 → property notes →
      property (visitRightToLeft settings image y ⟨x, notes⟩).notes)
    {notes : Notes} (initially : property notes) :
    property (scanRowRightToLeft settings image y notes) := by
  have step : ∀ cursor next : Cursor, cursor.x < 240 ∧ property cursor.notes →
      (rowRightToLeft settings image y).body cursor = some next →
      next.x < 240 ∧ property next.notes := by
    rintro ⟨x, current⟩ next ⟨below, holds⟩ continued
    simp only [rowRightToLeft] at continued
    split at continued
    next inRow =>
      cases continued
      have moved := visitRightToLeft_x_lt settings image y ⟨x, current⟩
      refine ⟨?_, kept x current inRow below holds⟩
      simp only at below moved
      omega
    next => cases continued
  have start : (⟨239, notes⟩ : Cursor).x < 240 ∧ property (⟨239, notes⟩ : Cursor).notes :=
    ⟨show (239 : Int) < 240 by decide, initially⟩
  exact (Loop.run_invariant step start).2

theorem rows_invariant (property : Notes → Prop) {row : Int → Notes → Notes}
    (kept : ∀ y notes, 1 ≤ y → y < 240 → property notes → property (row y notes))
    {notes : Notes} (initially : property notes) :
    property ((rows row).run ⟨1, notes⟩).notes := by
  have step : ∀ cursor next : RowCursor, 1 ≤ cursor.y ∧ property cursor.notes →
      (rows row).body cursor = some next → 1 ≤ next.y ∧ property next.notes := by
    rintro ⟨y, current⟩ next ⟨positive, holds⟩ continued
    simp only [rows] at continued
    split at continued
    next inRange =>
      cases continued
      refine ⟨?_, kept y current positive inRange holds⟩
      simp only at positive ⊢
      omega
    next => cases continued
  have start : 1 ≤ (⟨1, notes⟩ : RowCursor).y ∧ property (⟨1, notes⟩ : RowCursor).notes :=
    ⟨le_refl 1, initially⟩
  exact (Loop.run_invariant step start).2

/-- What the visits of a pass keep holds after it. -/
theorem passLeftToRight_invariant (property : Notes → Prop)
    (kept : ∀ x y notes, 0 ≤ x → x < 240 → 1 ≤ y → y < 240 → property notes →
      property (visitLeftToRight settings image y ⟨x, notes⟩).notes)
    {notes : Notes} (initially : property notes) :
    property (passLeftToRight settings image notes) :=
  rows_invariant property (fun y _ positive inRange holds =>
    scanRowLeftToRight_invariant settings image property
      (fun x current nonneg inRow => kept x y current nonneg inRow positive inRange) holds)
    initially

theorem passRightToLeft_invariant (property : Notes → Prop)
    (kept : ∀ x y notes, 0 ≤ x → x < 240 → 1 ≤ y → y < 240 → property notes →
      property (visitRightToLeft settings image y ⟨x, notes⟩).notes)
    {notes : Notes} (initially : property notes) :
    property (passRightToLeft settings image notes) :=
  rows_invariant property (fun y _ positive inRange holds =>
    scanRowRightToLeft_invariant settings image property
      (fun x current nonneg inRow => kept x y current nonneg inRow positive inRange) holds)
    initially

/-- The candidates that both passes meet in a picture, in order. -/
def candidates (l1 : Vector QrCode 5) : List QrCode :=
  candidatesLeftToRight settings image (resetNotes l1) ++
    candidatesRightToLeft settings image (passLeftToRight settings image (resetNotes l1))

theorem detect_notes (l1 : Vector QrCode 5) :
    detect settings image l1 =
      (candidates settings image l1).foldl Notes.note (resetNotes l1) := by
  rw [detect, passRightToLeft_notes, candidates, List.foldl_append, ← passLeftToRight_notes]

/-! ## Every candidate is a proper entry -/

/-- An occupied entry whose width is its `dx`. -/
structure QrCode.Noted (code : QrCode) : Prop where
  occupied : code.o = true
  dx_pos : 0 < code.dx
  width_eq : code.width = code.dx

theorem tracedTopLeftToRight_dx_pos (x y : Int) :
    0 < (tracedTopLeftToRight settings image x y).dx := by
  have kept : ∀ line next : TopLine, 0 < line.dx →
      (topLineLeftToRight settings image x y).body line = some next → 0 < next.dx := by
    intro line next positive continued
    simp only [topLineLeftToRight] at continued
    split at continued
    next =>
      have moved := (TopLine.extend_some continued).2.1
      omega
    next => cases continued
  exact Loop.run_invariant kept (by decide)

variable {settings image} {code : QrCode}

theorem tracedLeftToRight_noted {x y : Int}
    (traced : tracedLeftToRight settings image x y = some code) : code.Noted := by
  have positive := tracedTopLeftToRight_dx_pos settings image x y
  simp only [tracedLeftToRight] at traced
  split at traced
  next =>
    cases traced
    exact ⟨rfl, positive, by simp [QrCode.width, corners]⟩
  next => cases traced

theorem tracedRightToLeft_noted {x y : Int}
    (traced : tracedRightToLeft settings image x y = some code) : code.Noted := by
  have negative := tracedTopRightToLeft_dx_neg settings image x y
  simp only [tracedRightToLeft] at traced
  split at traced
  next =>
    cases traced
    refine ⟨rfl, ?_, by simp [QrCode.width, corners]⟩
    simp only [corners]
    omega
  next => cases traced

theorem candidateLeftToRight_some {y : Int} {cursor : Cursor}
    (noted : candidateLeftToRight settings image y cursor = some code) :
    cursor.notes.insideLeftToRight cursor.x y = false ∧
      topPixel settings image y cursor.x = true ∧
      tracedLeftToRight settings image cursor.x y = some code := by
  unfold candidateLeftToRight at noted
  split at noted
  next start =>
    rw [Bool.and_eq_true, Bool.not_eq_true'] at start
    exact ⟨start.1, start.2, noted⟩
  next => cases noted

theorem candidateRightToLeft_some {y : Int} {cursor : Cursor}
    (noted : candidateRightToLeft settings image y cursor = some code) :
    cursor.notes.insideRightToLeft cursor.x y = false ∧
      topPixel settings image y cursor.x = true ∧
      tracedRightToLeft settings image cursor.x y = some code := by
  unfold candidateRightToLeft at noted
  split at noted
  next start =>
    rw [Bool.and_eq_true, Bool.not_eq_true'] at start
    exact ⟨start.1, start.2, noted⟩
  next => cases noted

variable (settings image)

/-- A visit from left to right leaves the notes as they are, or it starts outside every
entry on a top pixel and notes what is traced from there. -/
theorem visitLeftToRight_cases (y : Int) (cursor : Cursor) :
    (visitLeftToRight settings image y cursor).notes = cursor.notes ∨
      ∃ code, cursor.notes.insideLeftToRight cursor.x y = false ∧
        topPixel settings image y cursor.x = true ∧
        tracedLeftToRight settings image cursor.x y = some code ∧
        (visitLeftToRight settings image y cursor).notes = cursor.notes.note code := by
  rw [visitLeftToRight_notes]
  cases met : candidateLeftToRight settings image y cursor with
  | none => exact Or.inl rfl
  | some code =>
      rcases candidateLeftToRight_some met with ⟨outside, start, traced⟩
      exact Or.inr ⟨code, outside, start, traced, rfl⟩

theorem visitRightToLeft_cases (y : Int) (cursor : Cursor) :
    (visitRightToLeft settings image y cursor).notes = cursor.notes ∨
      ∃ code, cursor.notes.insideRightToLeft cursor.x y = false ∧
        topPixel settings image y cursor.x = true ∧
        tracedRightToLeft settings image cursor.x y = some code ∧
        (visitRightToLeft settings image y cursor).notes = cursor.notes.note code := by
  rw [visitRightToLeft_notes]
  cases met : candidateRightToLeft settings image y cursor with
  | none => exact Or.inl rfl
  | some code =>
      rcases candidateRightToLeft_some met with ⟨outside, start, traced⟩
      exact Or.inr ⟨code, outside, start, traced, rfl⟩

variable {settings image}

theorem rowCandidatesLeftToRight_noted {y : Int} {cursor : Cursor}
    (member : code ∈ rowCandidatesLeftToRight settings image y cursor) : code.Noted := by
  rcases List.mem_flatMap.mp member with ⟨visited, _, emitted⟩
  split at emitted
  next =>
    rw [Option.mem_toList] at emitted
    exact tracedLeftToRight_noted (candidateLeftToRight_some emitted).2.2
  next => cases emitted

theorem rowCandidatesRightToLeft_noted {y : Int} {cursor : Cursor}
    (member : code ∈ rowCandidatesRightToLeft settings image y cursor) : code.Noted := by
  rcases List.mem_flatMap.mp member with ⟨visited, _, emitted⟩
  split at emitted
  next =>
    rw [Option.mem_toList] at emitted
    exact tracedRightToLeft_noted (candidateRightToLeft_some emitted).2.2
  next => cases emitted

theorem rowsCandidates_noted {row : Int → Notes → Notes}
    {rowCandidates : Int → Notes → List QrCode}
    (rowNoted : ∀ y notes, ∀ code ∈ rowCandidates y notes, code.Noted) {cursor : RowCursor}
    (member : code ∈ rowsCandidates row rowCandidates cursor) : code.Noted := by
  rcases List.mem_flatMap.mp member with ⟨visited, _, emitted⟩
  split at emitted
  next => exact rowNoted visited.y visited.notes code emitted
  next => cases emitted

theorem candidates_noted {l1 : Vector QrCode 5} (member : code ∈ candidates settings image l1) :
    code.Noted := by
  rcases List.mem_append.mp member with first | second
  · rw [candidatesLeftToRight] at first
    exact rowsCandidates_noted (fun _ _ _ => rowCandidatesLeftToRight_noted) first
  · rw [candidatesRightToLeft] at second
    exact rowsCandidates_noted (fun _ _ _ => rowCandidatesRightToLeft_noted) second

/-- The buffer holds the first five candidates. -/
theorem detect_entries (l1 : Vector QrCode 5) :
    (detect settings image l1).WellFormed ∧
      (detect settings image l1).entries = (candidates settings image l1).take 5 := by
  have occupied : ∀ code ∈ candidates settings image l1, code.o = true :=
    fun code member => (candidates_noted member).occupied
  rcases (resetNotes_wellFormed l1).foldl_note occupied with ⟨wellFormed, entries⟩
  rw [resetNotes_entries, List.nil_append] at entries
  rw [detect_notes]
  exact ⟨wellFormed, entries⟩

end Candidates

/-! ## Visits that start a top line -/

section Visits

variable {settings : Settings} {image : Int → UInt16}

/-- A visit from left to right that starts a top line. -/
theorem visitLeftToRight_start {x y : Int} {notes : Notes}
    (outside : notes.insideLeftToRight x y = false)
    (start : topPixel settings image y x = true) :
    visitLeftToRight settings image y ⟨x, notes⟩ =
      ⟨(traceLeftToRight settings image y ⟨x, notes⟩).x + 1,
        (tracedLeftToRight settings image x y).toList.foldl Notes.note notes⟩ := by
  have met : candidateLeftToRight settings image y ⟨x, notes⟩ =
      tracedLeftToRight settings image x y := by
    simp only [candidateLeftToRight, outside, start, Bool.not_false, Bool.true_and, if_true]
  have noted := visitLeftToRight_notes settings image y ⟨x, notes⟩
  rw [met] at noted
  have position : (visitLeftToRight settings image y ⟨x, notes⟩).x =
      (traceLeftToRight settings image y ⟨x, notes⟩).x + 1 := by
    simp only [visitLeftToRight, outside, start, Bool.not_false, Bool.true_and, if_true]
  calc visitLeftToRight settings image y ⟨x, notes⟩
    _ = ⟨(visitLeftToRight settings image y ⟨x, notes⟩).x,
          (visitLeftToRight settings image y ⟨x, notes⟩).notes⟩ := rfl
    _ = _ := by rw [position, noted]

/-- After a top line that is long enough, the side line moves the scan on. -/
theorem traceLeftToRight_found {x y : Int} {notes : Notes}
    (found : (tracedTopLeftToRight settings image x y).found = true) :
    (traceLeftToRight settings image y ⟨x, notes⟩).x =
      x + (tracedSideLeftToRight settings image x y
        (tracedTopLeftToRight settings image x y)).i := by
  simp only [traceLeftToRight, found, if_true]

theorem traceLeftToRight_short {x y : Int} {notes : Notes}
    (short : (tracedTopLeftToRight settings image x y).found = false) :
    (traceLeftToRight settings image y ⟨x, notes⟩).x =
      x + (tracedTopLeftToRight settings image x y).i := by
  simp only [traceLeftToRight, short, Bool.false_eq_true, if_false]

/-- A visit from right to left that starts a top line. -/
theorem visitRightToLeft_start {x y : Int} {notes : Notes}
    (outside : notes.insideRightToLeft x y = false)
    (start : topPixel settings image y x = true) :
    visitRightToLeft settings image y ⟨x, notes⟩ =
      ⟨x + (tracedTopRightToLeft settings image x y).dx - 1,
        (tracedRightToLeft settings image x y).toList.foldl Notes.note notes⟩ := by
  have met : candidateRightToLeft settings image y ⟨x, notes⟩ =
      tracedRightToLeft settings image x y := by
    simp only [candidateRightToLeft, outside, start, Bool.not_false, Bool.true_and, if_true]
  have noted := visitRightToLeft_notes settings image y ⟨x, notes⟩
  rw [met] at noted
  have position : (visitRightToLeft settings image y ⟨x, notes⟩).x =
      x + (tracedTopRightToLeft settings image x y).dx - 1 := by
    simp only [visitRightToLeft, outside, start, Bool.not_false, Bool.true_and, if_true,
      traceRightToLeft]
  calc visitRightToLeft settings image y ⟨x, notes⟩
    _ = ⟨(visitRightToLeft settings image y ⟨x, notes⟩).x,
          (visitRightToLeft settings image y ⟨x, notes⟩).notes⟩ := rfl
    _ = _ := by rw [position, noted]

theorem rowLeftToRight_full {y start : Int} {notes : Notes} (full : ¬notes.k < 5) :
    ((rowLeftToRight settings image y).run ⟨start, notes⟩).notes = notes := by
  apply rowLeftToRight_quiet
  intro x _ _
  rw [visitLeftToRight_notes, Notes.foldl_note_full full]

theorem rowRightToLeft_full {y start : Int} {notes : Notes} (full : ¬notes.k < 5) :
    ((rowRightToLeft settings image y).run ⟨start, notes⟩).notes = notes := by
  apply rowRightToLeft_quiet
  intro x _ _
  rw [visitRightToLeft_notes, Notes.foldl_note_full full]

end Visits

/-! ## The reported width -/

/-- The position and the width that are logged for the best entry. -/
def report (best : QrCode) : Int × Int :=
  if !best.o then (500, 5) else ((best.x1 + best.x0).tdiv 2, best.width)

theorem reportLine_eq (best : QrCode) :
    reportLine best = positionLine (report best).1 (report best).2 := by
  unfold reportLine report
  split <;> rfl

/-- The numbers can be read back from the log line. -/
theorem positionLine_injective {position width otherPosition otherWidth : Int}
    (same : positionLine position width = positionLine otherPosition otherWidth) :
    position = otherPosition ∧ width = otherWidth := by
  have separator := not_mem_decimal (show ';' ≠ '-' by decide) (by decide)
  have texts := (List.cons.inj (String.ofList_injective same)).2
  rw [List.append_cons_inj_of_notMem (separator position) (separator width)] at texts
  exact ⟨decimal_injective texts.1, decimal_injective texts.2.2⟩

/-- The entry that is reported is as wide as each of the entries. -/
theorem Notes.best_width {notes : Notes} (noted : ∀ code ∈ notes.entries, code.Noted)
    (best : QrCode) {code : QrCode} (member : code ∈ notes.entries) :
    notes.best best ∈ notes.entries ∧ code.dx ≤ (report (notes.best best)).2 := by
  rcases foldl_better_spec (fun other inNotes => (noted other inNotes).occupied)
    { best with o := false, dx := 0, f := false } with ⟨origin, _, widest⟩
  have wide := widest code member
  have positive := (noted code member).dx_pos
  have chosen : notes.best best ∈ notes.entries := by
    rcases origin with start | entry
    · rw [start] at wide
      simp only at wide
      omega
    · exact entry
  refine ⟨chosen, ?_⟩
  have bestNoted := noted _ chosen
  simp only [report, bestNoted.occupied, Bool.not_true, Bool.false_eq_true, if_false,
    bestNoted.width_eq]
  exact wide

/-- The position and the width reported for a frame. -/
def reported (settings : Settings) (state : TaskState) (frame : Frame) : Int × Int :=
  report ((detect settings (readWord (frame.map pureWord)) state.l1).best state.best)

theorem processFrame_reported (scan : Frame → Option String) (settings : Settings)
    (state : TaskState) (frame : Frame) :
    (processFrame scan settings state frame).2.position =
      positionLine (reported settings state frame).1 (reported settings state frame).2 := by
  rw [(processFrame_of_detect scan rfl).2, (detect_entries state.l1).1.selectBest,
    reportLine_eq, reported]

theorem detect_noted {settings : Settings} {image : Int → UInt16} {l1 : Vector QrCode 5}
    {code : QrCode} (member : code ∈ (detect settings image l1).entries) : code.Noted := by
  rw [(detect_entries l1).2] at member
  exact candidates_noted (List.mem_of_mem_take member)

/-- The buffer holds five entries.  The reported width is at least that of each of the
first five candidates that the passes meet, and these are the entries that are occupied
after the frame: the later ones are not noted. -/
theorem first_candidates_reported (scan : Frame → Option String) (settings : Settings)
    (state : TaskState) (frame : Frame) :
    (∃ position width,
      (processFrame scan settings state frame).2.position = positionLine position width ∧
      ∀ code ∈ (candidates settings (readWord (frame.map pureWord)) state.l1).take 5,
        code.dx ≤ width) ∧
    (processFrame scan settings state frame).1.l1.toList.filter QrCode.o =
      (candidates settings (readWord (frame.map pureWord)) state.l1).take 5 := by
  constructor
  · refine ⟨(reported settings state frame).1, (reported settings state frame).2,
      processFrame_reported scan settings state frame, ?_⟩
    intro code member
    rw [← (detect_entries state.l1).2] at member
    exact (Notes.best_width (fun _ => detect_noted) state.best member).2
  · rcases @detect_entries settings (readWord (frame.map pureWord)) state.l1 with
      ⟨wellFormed, entries⟩
    rw [(processFrame_of_detect scan rfl).1, wellFormed.filter_occupied, entries]

/-- A task whose buffers hold zeros. -/
def zeroTask : TaskState where
  pureBOrW := Vector.replicate 57600 0
  l1 := Vector.replicate 5 ⟨false, false, 0, 0, 0, 0, 0, 0, 0, 0, 0⟩
  best := ⟨false, false, 0, 0, 0, 0, 0, 0, 0, 0, 0⟩

/-- The least settings. -/
def leastSettings : Settings := registerLcd 1 1 1

/-- Five markers two pixels wide in the upper left corner, and one three pixels wide to
the right of them. -/
def clutter (row column : Int) : Bool :=
  decide (row ∈ [1, 2]) && decide (column ∈ [0, 1, 3, 4, 6, 7, 9, 10, 12, 13, 15, 16, 17])

/-- The note for a marker two pixels high at the top of the picture. -/
def clutterNote (x width : Int) : QrCode :=
  corners false x 1 ⟨width, 0, width, true⟩ 2 width

/-- All six markers are candidates in their first row. -/
theorem clutter_candidates :
    ∃ rest, candidates leastSettings (pictureWord clutter) zeroTask.l1 =
      [clutterNote 0 2, clutterNote 3 2, clutterNote 6 2, clutterNote 9 2, clutterNote 12 2,
        clutterNote 15 3] ++ rest := by
  have firstRow : rowCandidatesLeftToRight leastSettings (pictureWord clutter) 1
      ⟨0, resetNotes zeroTask.l1⟩ =
        [clutterNote 0 2, clutterNote 3 2, clutterNote 6 2, clutterNote 9 2, clutterNote 12 2,
          clutterNote 15 3] := by decide +kernel
  have continued : (rows (scanRowLeftToRight leastSettings (pictureWord clutter))).body
      ⟨1, resetNotes zeroTask.l1⟩ = some ⟨2, scanRowLeftToRight leastSettings
        (pictureWord clutter) 1 (resetNotes zeroTask.l1)⟩ := by
    simp only [rows]
    rw [if_pos (by decide)]
    rfl
  rw [candidates, candidatesLeftToRight, rowsCandidates, Loop.states_of_some continued,
    List.flatMap_cons, if_pos (by decide), firstRow, List.append_assoc]
  exact ⟨_, rfl⟩

/-- The sixth candidate is the widest, and the width of the first one is reported. -/
theorem wider_candidate_dropped :
    (processFrame (fun _ => none) leastSettings zeroTask (pictureFrame clutter)).2.position =
        "#1;2" ∧
      ¬∃ position width,
        (processFrame (fun _ => none) leastSettings zeroTask (pictureFrame clutter)).2.position =
          positionLine position width ∧
        ∀ code ∈ candidates leastSettings
            (readWord ((pictureFrame clutter).map pureWord)) zeroTask.l1,
          code.dx ≤ width := by
  rcases clutter_candidates with ⟨rest, met⟩
  have line : (processFrame (fun _ => none) leastSettings zeroTask
      (pictureFrame clutter)).2.position = positionLine 1 2 := by
    rw [processFrame_reported, reported, readWord_pictureFrame, Notes.best,
      (detect_entries zeroTask.l1).2, met]
    rfl
  refine ⟨by rw [line]; decide, ?_⟩
  rintro ⟨position, width, reportedLine, widest⟩
  rw [line] at reportedLine
  have two := (positionLine_injective reportedLine).2
  rw [readWord_pictureFrame, met] at widest
  have three := widest (clutterNote 15 3) (by simp)
  simp only [clutterNote, corners] at three
  omega

end ECam.QrPosing
