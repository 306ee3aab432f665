import ECam.QrPosing.Detector

/-!
# The report does not depend on earlier frames

The task keeps the converted picture, the buffer of notes and the best note from one
frame to the next, and resets only the occupied flags and three fields of the best
note.  The rest stays stale, and holds anything before the first frame.  Two buffers
that agree on their occupied entries are kept in agreement by both passes and lead
to the same report, so the stale data is never seen.
-/

namespace ECam.QrPosing

open ECam.Library

/-- Entries that are both free, or both occupied and equal. -/
def QrCode.Agree (left right : QrCode) : Prop :=
  left.o = right.o ∧ (left.o = true → left = right)

theorem QrCode.agree_refl (code : QrCode) : code.Agree code :=
  ⟨rfl, fun _ => rfl⟩

/-- A test that is guarded by the occupied flag has the same outcome. -/
theorem QrCode.Agree.guarded {left right : QrCode} (agree : left.Agree right)
    (test : QrCode → Bool) : (left.o && test left) = (right.o && test right) := by
  cases occupied : left.o with
  | false => rw [← agree.1, occupied, Bool.false_and, Bool.false_and]
  | true =>
      rw [← agree.2 occupied, occupied]

/-- Buffers with the same number of entries in use that agree entry by entry. -/
structure Notes.Agree (left right : Notes) : Prop where
  k_eq : left.k = right.k
  entries : ∀ (index : Nat) (inBounds : index < 5), left.l1[index].Agree right.l1[index]

namespace Notes.Agree

variable {left right : Notes}

theorem forall₂ (agree : left.Agree right) :
    List.Forall₂ QrCode.Agree left.l1.toList right.l1.toList := by
  apply List.forall₂_iff_get.mpr
  refine ⟨by simp, ?_⟩
  intro index leftBound rightBound
  have inBounds : index < 5 := by simpa using leftBound
  simpa using agree.entries index inBounds

/-- A new entry is written as a whole. -/
theorem note (agree : left.Agree right) (code : QrCode) :
    (left.note code).Agree (right.note code) := by
  unfold Notes.note
  have sameCount := agree.k_eq
  by_cases room : left.k < 5
  · have otherRoom : right.k < 5 := by omega
    rw [dif_pos room, dif_pos otherRoom]
    refine ⟨by simp [sameCount], ?_⟩
    intro index inBounds
    simp only [Vector.getElem_set, sameCount]
    split
    next => exact code.agree_refl
    next => exact agree.entries index inBounds
  · have otherFull : ¬right.k < 5 := by omega
    rw [dif_neg room, dif_neg otherFull]
    exact agree

/-- A search for an occupied entry has the same outcome in both buffers. -/
theorem any_guarded (agree : left.Agree right) (test : QrCode → Bool) :
    (left.l1.toList.any fun code => code.o && test code) =
      right.l1.toList.any fun code => code.o && test code := by
  have pointwise := agree.forall₂
  generalize left.l1.toList = leftCodes, right.l1.toList = rightCodes at pointwise ⊢
  induction pointwise with
  | nil => rfl
  | cons head tail ih => rw [List.any_cons, List.any_cons, head.guarded test, ih]

theorem insideLeftToRight (agree : left.Agree right) (x y : Int) :
    left.insideLeftToRight x y = right.insideLeftToRight x y :=
  agree.any_guarded _

theorem insideRightToLeft (agree : left.Agree right) (x y : Int) :
    left.insideRightToLeft x y = right.insideRightToLeft x y :=
  agree.any_guarded _

end Notes.Agree

/-- Marking all entries as free makes any two buffers agree. -/
theorem resetNotes_agree (left right : Vector QrCode 5) :
    (resetNotes left).Agree (resetNotes right) := by
  refine ⟨rfl, ?_⟩
  intro index inBounds
  simp [resetNotes, QrCode.Agree]

/-! ## The passes keep the agreement -/

section Passes

variable (settings : Settings) (image : Int → UInt16)

/-- Cursors at the same pixel whose notes agree. -/
def Cursor.Agree (left right : Cursor) : Prop :=
  left.x = right.x ∧ left.notes.Agree right.notes

theorem traceLeftToRight_agree (y : Int) {left right : Cursor} (agree : left.Agree right) :
    (traceLeftToRight settings image y left).Agree (traceLeftToRight settings image y right) := by
  simp only [traceLeftToRight, agree.1]
  split
  next =>
    refine ⟨rfl, ?_⟩
    split
    next => exact agree.2.note _
    next => exact agree.2
  next => exact ⟨rfl, agree.2⟩

theorem traceRightToLeft_agree (y : Int) {left right : Cursor} (agree : left.Agree right) :
    (traceRightToLeft settings image y left).Agree (traceRightToLeft settings image y right) := by
  simp only [traceRightToLeft, agree.1]
  refine ⟨rfl, ?_⟩
  split
  next =>
    split
    next => exact agree.2.note _
    next => exact agree.2
  next => exact agree.2

theorem visitLeftToRight_agree (y : Int) {left right : Cursor} (agree : left.Agree right) :
    (visitLeftToRight settings image y left).Agree (visitLeftToRight settings image y right) := by
  simp only [visitLeftToRight, agree.1, agree.2.insideLeftToRight]
  split
  next =>
    have traced := traceLeftToRight_agree settings image y agree
    exact ⟨by rw [traced.1], traced.2⟩
  next => exact ⟨by rw [agree.1], agree.2⟩

theorem visitRightToLeft_agree (y : Int) {left right : Cursor} (agree : left.Agree right) :
    (visitRightToLeft settings image y left).Agree (visitRightToLeft settings image y right) := by
  simp only [visitRightToLeft, agree.1, agree.2.insideRightToLeft]
  split
  next =>
    have traced := traceRightToLeft_agree settings image y agree
    exact ⟨by rw [traced.1], traced.2⟩
  next => exact ⟨by rw [agree.1], agree.2⟩

/-- A loop over the pixels of a row keeps the agreement if each visit does. -/
theorem row_agree {row : Loop Cursor} {visit : Cursor → Cursor} {inRow : Int → Prop}
    [DecidablePred inRow]
    (body : ∀ cursor, row.body cursor = if inRow cursor.x then some (visit cursor) else none)
    (visitAgree : ∀ left right : Cursor, left.Agree right → (visit left).Agree (visit right))
    {left right : Cursor} (agree : left.Agree right) :
    (row.run left).Agree (row.run right) := by
  refine Loop.run_related ?_ agree
  intro left right cursors
  rw [body, body, cursors.1]
  split
  next => exact Or.inr ⟨_, _, rfl, rfl, visitAgree left right cursors⟩
  next => exact Or.inl ⟨rfl, rfl⟩

theorem scanRowLeftToRight_agree (y : Int) {left right : Notes} (agree : left.Agree right) :
    (scanRowLeftToRight settings image y left).Agree
      (scanRowLeftToRight settings image y right) := by
  have start : Cursor.Agree ⟨0, left⟩ ⟨0, right⟩ := ⟨rfl, agree⟩
  have ended : ((rowLeftToRight settings image y).run ⟨0, left⟩).Agree
      ((rowLeftToRight settings image y).run ⟨0, right⟩) :=
    @row_agree _ _ (fun x => x < 240) _ (fun _ => rfl)
      (fun _ _ => visitLeftToRight_agree settings image y) _ _ start
  exact ended.2

theorem scanRowRightToLeft_agree (y : Int) {left right : Notes} (agree : left.Agree right) :
    (scanRowRightToLeft settings image y left).Agree
      (scanRowRightToLeft settings image y right) := by
  have start : Cursor.Agree ⟨239, left⟩ ⟨239, right⟩ := ⟨rfl, agree⟩
  have ended : ((rowRightToLeft settings image y).run ⟨239, left⟩).Agree
      ((rowRightToLeft settings image y).run ⟨239, right⟩) :=
    @row_agree _ _ (fun x => x ≥ 0) _ (fun _ => rfl)
      (fun _ _ => visitRightToLeft_agree settings image y) _ _ start
  exact ended.2

/-- A pass keeps the agreement if each of its rows does. -/
theorem rows_agree {row : Int → Notes → Notes}
    (rowAgree : ∀ (y : Int) (left right : Notes), left.Agree right →
      (row y left).Agree (row y right))
    {left right : Notes} (agree : left.Agree right) :
    ((rows row).run ⟨1, left⟩).notes.Agree ((rows row).run ⟨1, right⟩).notes := by
  have together : ∀ left right : RowCursor, left.y = right.y ∧ left.notes.Agree right.notes →
      ((rows row).body left = none ∧ (rows row).body right = none) ∨
      ∃ next later, (rows row).body left = some next ∧ (rows row).body right = some later ∧
        next.y = later.y ∧ next.notes.Agree later.notes := by
    intro left right cursors
    simp only [rows, cursors.1]
    split
    next => exact Or.inr ⟨_, _, rfl, rfl, rfl, rowAgree _ _ _ cursors.2⟩
    next => exact Or.inl ⟨rfl, rfl⟩
  have start : (⟨1, left⟩ : RowCursor).y = (⟨1, right⟩ : RowCursor).y ∧
      (⟨1, left⟩ : RowCursor).notes.Agree (⟨1, right⟩ : RowCursor).notes := ⟨rfl, agree⟩
  exact (Loop.run_related together start).2

/-- What both passes note does not depend on stale entries. -/
theorem detect_agree (left right : Vector QrCode 5) :
    (detect settings image left).Agree (detect settings image right) := by
  have first : (passLeftToRight settings image (resetNotes left)).Agree
      (passLeftToRight settings image (resetNotes right)) :=
    rows_agree (fun y _ _ => scanRowLeftToRight_agree settings image y)
      (resetNotes_agree left right)
  exact rows_agree (fun y _ _ => scanRowRightToLeft_agree settings image y) first

end Passes

/-! ## The report -/

/-- Best notes that have the same width so far and agree. -/
def QrCode.BestAgree (left right : QrCode) : Prop :=
  left.dx = right.dx ∧ left.Agree right

theorem QrCode.BestAgree.better {left right leftCode rightCode : QrCode}
    (best : left.BestAgree right) (agree : leftCode.Agree rightCode) :
    (left.better leftCode).BestAgree (right.better rightCode) := by
  have sameTest := agree.guarded fun code => decide (code.dx > left.dx)
  simp only [QrCode.better, ← best.1, ← sameTest]
  split
  next chosen =>
    have occupied : leftCode.o = true := by
      rw [Bool.and_eq_true] at chosen
      exact chosen.1
    rw [agree.2 occupied]
    exact ⟨rfl, QrCode.agree_refl _⟩
  next => exact best

theorem selectBest_agree {left right : Notes} (agree : left.Agree right)
    (leftBest rightBest : QrCode) :
    (selectBest leftBest left.l1).BestAgree (selectBest rightBest right.l1) := by
  have start : QrCode.BestAgree { leftBest with o := false, dx := 0, f := false }
      { rightBest with o := false, dx := 0, f := false } := by
    simp [QrCode.BestAgree, QrCode.Agree]
  unfold selectBest
  generalize ({ leftBest with o := false, dx := 0, f := false } : QrCode) = leftBest at start
  generalize ({ rightBest with o := false, dx := 0, f := false } : QrCode) = rightBest at start
  have pointwise := agree.forall₂
  generalize left.l1.toList = leftCodes, right.l1.toList = rightCodes at pointwise ⊢
  induction pointwise generalizing leftBest rightBest with
  | nil => exact start
  | cons head tail ih => exact ih _ _ (start.better head)

theorem reportLine_agree {left right : QrCode} (agree : left.Agree right) :
    reportLine left = reportLine right := by
  simp only [reportLine, ← agree.1]
  cases occupied : left.o with
  | false => rfl
  | true => rw [agree.2 occupied]

/-- The position logged for a frame is the same from every state of the task. -/
theorem processFrame_position (scan : Frame → Option String) (settings : Settings)
    (left right : TaskState) (frame : Frame) :
    (processFrame scan settings left frame).2.position =
      (processFrame scan settings right frame).2.position := by
  have notes := detect_agree settings (readWord (frame.map pureWord)) left.l1 right.l1
  rw [(processFrame_of_detect scan rfl).2, (processFrame_of_detect scan rfl).2]
  exact reportLine_agree (selectBest_agree notes left.best right.best).2

/-- Frame independence.  Whatever the task holds at its start, the position line it
logs for the frame with a given number is the line that a fresh task, holding anything
else, logs when it receives that frame first. -/
theorem position_frame_independent (scan : Frame → Option String) (settings : Settings)
    (start fresh : TaskState) (frames : List Frame) (number : Nat) :
    (taskProcessHandler scan settings start frames)[number]?.map FrameLog.position =
      frames[number]?.map fun frame =>
        (processFrame scan settings fresh frame).2.position := by
  induction frames generalizing start number with
  | nil => rfl
  | cons frame frames ih =>
      cases number with
      | zero =>
          simp only [taskProcessHandler, List.getElem?_cons_zero, Option.map_some]
          rw [processFrame_position scan settings start fresh frame]
      | succ number =>
          simp only [taskProcessHandler, List.getElem?_cons_succ]
          exact ih _ number

end ECam.QrPosing
